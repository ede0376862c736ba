import ByteMachine.Assembly.Token
import ByteMachine.Fault
/- Argument signatures of instructions, and how the arguments of a line
   are matched against them.

   A signature lists one argument description per argument. A description
   asks for a module name or for a constant, either plainly or as a memory
   index `[...]`. A module argument must be exactly the named module; a
   constant argument may be any constant, and the matched description then
   records the constant's text (without brackets for a memory index).

   A line matches an instruction when its first token is the instruction's
   name. Its arguments must then fit exactly one signature; a bare name with
   no signatures at all also matches. An argument that fits two kinds of
   description at once is refused, but none can: the kinds exclude each
   other (`ArgSpec.fillings_eq`), so matching takes the arguments as
   `acceptArgs` does (`filterMapM_parseArgs`). The main statement,
   `matchLine_ok`, says what a successful match returns. -/
namespace ByteMachine.Assembly

/-- What an argument description asks for. -/
inductive ArgKind where
  | module
  | constant
  /-- A description of any other kind, which no argument fits. -/
  | other (tag : String)
  deriving Repr, DecidableEq

/-- The kind named by `t`. -/
def ArgKind.ofTag (t : String) : ArgKind :=
  if t = "module_name" then .module else if t = "constant" then .constant else .other t

/-- The name of a kind. -/
def ArgKind.tag : ArgKind → String
  | .module => "module_name"
  | .constant => "constant"
  | .other t => t

/-- A description of one argument. -/
structure ArgSpec where
  kind : ArgKind := .other ""
  /-- Whether the argument is written as a memory index. -/
  memory : Bool := false
  /-- The module name asked for, or the constant matched. -/
  value : String := ""
  deriving Repr, DecidableEq

/-- A list of argument descriptions. -/
abbrev Signature := List ArgSpec

/-- A plain module argument. -/
def ArgSpec.moduleArg (name : String) : ArgSpec := { kind := .module, value := name }

/-- A module argument written as a memory index. -/
def ArgSpec.moduleAt (name : String) : ArgSpec := { kind := .module, memory := true, value := name }

/-- A plain constant argument. -/
def ArgSpec.constantArg : ArgSpec := { kind := .constant }

/-- A constant argument written as a memory index. -/
def ArgSpec.constantAt : ArgSpec := { kind := .constant, memory := true }

/-- The description that `arg` fills in for `spec`, if it fits. -/
def ArgSpec.accept (spec : ArgSpec) (arg : String) : Option ArgSpec :=
  match spec.kind, spec.memory with
  | .module, false =>
    if !isMemoryIndex arg && arg == spec.value then some spec else none
  | .module, true =>
    if isMemoryIndex arg && memoryPosition arg == spec.value then some spec else none
  | .constant, false =>
    if !isMemoryIndex arg && isConstant arg then some { spec with value := arg } else none
  | .constant, true =>
    if isMemoryIndex arg && isConstant (memoryPosition arg) then
      some { spec with value := memoryPosition arg }
    else none
  | .other _, _ => none

/-- The descriptions that the arguments fill in, if they fit the signature. -/
def acceptArgs (sig : Signature) (args : List String) : Option (List ArgSpec) :=
  if sig.length = args.length then (sig.zip args).mapM fun p => p.1.accept p.2 else none

/-- The descriptions that `arg` fills in for `spec`, one for each kind of argument that it fits:
a module named plainly, a module as a memory index, a constant written plainly, and a constant
as a memory index. -/
def ArgSpec.fillings (spec : ArgSpec) (arg : String) : List ArgSpec :=
  (if spec.kind = .module ∧ !spec.memory ∧ !isMemoryIndex arg ∧ arg = spec.value then [spec]
    else []) ++
  (if spec.kind = .module ∧ spec.memory ∧ isMemoryIndex arg ∧ memoryPosition arg = spec.value
    then [spec] else []) ++
  (if spec.kind = .constant ∧ !spec.memory ∧ !isMemoryIndex arg ∧ isConstant arg
    then [{ spec with value := arg }] else []) ++
  (if spec.kind = .constant ∧ spec.memory ∧ isMemoryIndex arg ∧
      isConstant (memoryPosition arg) then [{ spec with value := memoryPosition arg }] else [])

/-- The descriptions that the arguments fill in, argument after argument: none from the first
argument that fits no kind on, and the fault that refuses an argument that fits two kinds. -/
def fillArgs : List (ArgSpec × String) → Except Fault (Option (List ArgSpec))
  | [] => .ok (some [])
  | (spec, arg) :: rest =>
    match spec.fillings arg with
    | [] => .ok none
    | [filled] => do
      let more ← fillArgs rest
      pure (more.map (filled :: ·))
    | _ => .error (.args (.argumentOfManyKinds arg))

/-- The descriptions that the arguments fill in if they fit the signature, or the fault that
refuses one of them. -/
def parseArgs (sig : Signature) (args : List String) : Except Fault (Option (List ArgSpec)) :=
  if sig.length = args.length then fillArgs (sig.zip args) else .ok none

/-- How a description is shown among the possible arguments. -/
def ArgSpec.choice (spec : ArgSpec) : String :=
  let text := match spec.kind with
    | .module => spec.value
    | .constant => "<constant>"
    | .other _ => ""
  if spec.memory then asMemoryIndex text else text

/-- Every signature shown as its list of possible arguments. -/
def choices (sigs : List Signature) : List (List String) :=
  sigs.map fun sig => sig.map ArgSpec.choice

/-- Match a line against the instruction `opcode` with signatures `sigs`:
`(false, [])` if the line is not that instruction, `(true, args)` with the
filled-in descriptions if its arguments fit exactly one signature, and the
fault that refuses the arguments otherwise. -/
def matchLine (line opcode : String) (sigs : List Signature) :
    Except Fault (Bool × List ArgSpec) :=
  match tokens line with
  | [] => .ok (false, [])
  | op :: args =>
    if op ≠ opcode then .ok (false, [])
    else if args.isEmpty ∧ sigs.isEmpty then .ok (true, [])
    else do
      match ← sigs.filterMapM (parseArgs · args) with
      | [parsed] => .ok (true, parsed)
      | [] => .error (.args (.unmatched opcode args (choices sigs)))
      | _ => .error (.args .ambiguous)

/-- An argument fits one kind of description at most, the one that `accept` fills in: the four
kinds exclude each other. -/
theorem ArgSpec.fillings_eq (spec : ArgSpec) (arg : String) :
    spec.fillings arg = (spec.accept arg).toList := by
  obtain ⟨kind, memory, value⟩ := spec
  -- the kind and the memory flag leave one of the four tests standing
  cases kind <;> cases memory <;> simp [fillings, accept] <;> split <;> simp_all

theorem fillArgs_eq (ps : List (ArgSpec × String)) :
    fillArgs ps = .ok (ps.mapM fun p => p.1.accept p.2) := by
  induction ps with
  | nil => rfl
  | cons p rest ih =>
    obtain ⟨spec, arg⟩ := p
    rw [fillArgs, ArgSpec.fillings_eq, List.mapM_cons]
    cases spec.accept arg with
    | none => rfl
    | some filled =>
      rw [ih]
      cases rest.mapM fun p => p.1.accept p.2 <;> rfl

/-- Taking the arguments for a signature never meets an argument of two kinds. -/
theorem parseArgs_eq (sig : Signature) (args : List String) :
    parseArgs sig args = .ok (acceptArgs sig args) := by
  unfold parseArgs acceptArgs
  split
  · exact fillArgs_eq _
  · rfl

theorem filterMapM_parseArgs (sigs : List Signature) (args : List String) :
    sigs.filterMapM (parseArgs · args) = .ok (sigs.filterMap (acceptArgs · args)) := by
  induction sigs with
  | nil => rfl
  | cons sig rest ih =>
    rw [List.filterMapM_cons, parseArgs_eq, List.filterMap_cons]
    cases acceptArgs sig args with
    | none => exact ih
    | some parsed =>
      show (do let more ← rest.filterMapM (parseArgs · args); pure (parsed :: more)) = _
      rw [ih]
      rfl

/-- A successful match is the line's instruction with its arguments fitting one signature. -/
theorem matchLine_ok {line opcode : String} {sigs : List Signature} {parsed : List ArgSpec}
    (h : matchLine line opcode sigs = .ok (true, parsed)) :
    ∃ args, tokens line = opcode :: args ∧
      ((args = [] ∧ sigs = [] ∧ parsed = []) ∨
        sigs.filterMap (acceptArgs · args) = [parsed]) := by
  unfold matchLine at h
  split at h
  · simp at h
  · next op args hl =>
    refine ⟨args, ?_⟩
    split at h
    · simp at h
    · next hop =>
      have hop' : op = opcode := by simpa using hop
      subst hop'
      refine ⟨hl, ?_⟩
      split at h
      · next hc =>
        simp only [Except.ok.injEq, Prod.mk.injEq] at h
        left
        simp_all
      · -- the arguments of every signature are taken without a fault
        rw [filterMapM_parseArgs] at h
        simp only [bind, Except.bind] at h
        split at h
        · next p hp =>
          simp only [Except.ok.injEq, Prod.mk.injEq] at h
          right; rw [hp, h.2]
        · simp at h
        · simp at h

end ByteMachine.Assembly
