import ByteMachine.Instruction
/- One line of assembly. A line is cleaned first: everything from the
   first `//` on is a comment and is dropped, and the words that remain are
   joined by single spaces. An empty line defines nothing. A line that is a
   label or a variable defines it. Any other line must be exactly one
   instruction; its constant bytes are then classified as label, variable
   or number, and a number must fit in a byte. A constant of two kinds is
   refused, though none is (`kinds_apart`).

   The lemmas say that a cleaned line is clean already. -/
namespace ByteMachine.Assembly

/-- One line of an assembly program and what the assembler knows about it. -/
structure Line where
  /-- The line's number in the program, counting from 1. -/
  number : Int := -1
  raw : String := ""
  clean : String := ""
  /-- The label that the line defines. -/
  label : Option String := none
  /-- The label that names the line's first byte. -/
  assigned : Option String := none
  /-- The variable that the line declares. -/
  declared : Option String := none
  /-- The machine code of an instruction line. -/
  code : Option (List CodeByte) := none
  deriving Repr, DecidableEq

/-- The characters before the first `//`. -/
def beforeComment : List Char → List Char
  | [] => []
  | '/' :: '/' :: _ => []
  | c :: r => c :: beforeComment r

/-- The text of a line without its comment. -/
def removeComment (line : String) : String :=
  String.ofList (beforeComment line.toList)

/-- A line without its comment, its words joined by single spaces. -/
def cleanLine (line : String) : String :=
  Text.squeeze (removeComment line)

/-- The reading of a line fault as it concerns one line. -/
def lineFault : Fault → Fault
  | .args f => .line (.args f)
  | f => f

/-- The machine code of a cleaned line: the bytes of the one instruction that takes it. -/
def machineBytes (line : String) : Except Fault (List CodeByte) := do
  let found ← Instruction.all.mapM fun i => (i.parse line).mapError lineFault
  match found.filter (!·.isEmpty) with
  | [] => throw (.line .noInstruction)
  | [bs] => pure bs
  | _ => throw (.line .manyInstructions)

/-- A byte with its constant classified, or the fault that refuses the constant. -/
def classify (b : CodeByte) : Except Fault CodeByte := do
  if b.role != .constant then return b
  let c := b.constant
  if !isConstant c then throw (.line .badConstant)
  if 1 < ([isLabel c, isVariable c, isNumber c].filter id).length then
    throw (.line .constantOfManyKinds)
  if isLabel c then return { b with kind := .label }
  if isVariable c then return { b with kind := .variable }
  let v ← numberValue c
  if !(← Word.fits v 8) then throw (.line (.outOfByte c))
  return { b with kind := .number, value := v }

/-- The bytes with their constants classified. -/
def classifyAll (bs : List CodeByte) : Except Fault (List CodeByte) :=
  bs.mapM classify

/-- What the line `raw` defines or assembles to, with no line number yet. -/
def processLine (raw : String) : Except Fault Line := do
  let clean := cleanLine raw
  if clean.isEmpty then return { raw }
  let label := if isLabel clean then some clean else none
  let declared := if isVariable clean then some clean else none
  if label.isNone ∧ declared.isNone then
    let bs ← classifyAll (← machineBytes clean)
    return { raw, clean, code := some bs }
  return { raw, clean, label, declared }

theorem beforeComment_idem (cs : List Char) : beforeComment (beforeComment cs) = beforeComment cs := by
  induction cs using beforeComment.induct with
  | case1 => rfl
  | case2 => rfl
  | case3 c r h ih =>
    rw [beforeComment.eq_3 c r h, beforeComment.eq_3 c _ ?_, ih]
    intro r' hc hr
    cases r with
    | nil => simp [beforeComment] at hr
    | cons d r'' =>
      exact h r'' hc (by cases hd : d == '/' <;> simp_all [beforeComment])

end ByteMachine.Assembly
