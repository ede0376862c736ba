import ByteMachine.Assembly.Line
/- Structure checks on a program, run in this order before it is
   assembled: no label is defined twice; no label is defined while another
   still waits for an instruction to name; every label used is defined;
   no variable is declared twice; the variables fit in data memory; and the
   machine code has at most 255 bytes. Each check names the line it
   refuses.

   Data memory holds 255 variables from the start offset on. Its check
   counts distinct variables, declared or used, in order. It stops at the
   first declaration that overflows memory, and within a line at the first
   byte after which memory is full. It names the last declared variable it
   saw and the line where it stopped. A program that overflows without
   declaring any variable has no variable to name. -/
namespace ByteMachine.Assembly

/-- The fault of the check that refuses `l` for `p`. -/
def refuse (l : Line) (p : Problem) : Fault := .assembly l.number l.raw p

/-- No label is defined twice; `seen` holds the labels met so far with their lines. -/
def checkLabelDefs (seen : List (String × Int)) : List Line → Except Fault Unit
  | [] => .ok ()
  | l :: rest =>
    match l.label with
    | some lab =>
      match seen.lookup lab with
      | some firstLine => .error (refuse l (.labelRedefined lab firstLine))
      | none => checkLabelDefs ((lab, l.number) :: seen) rest
    | none => checkLabelDefs seen rest

/-- No label is defined while `queued` still waits for an instruction. -/
def checkLabelQueue (queued : Option String) : List Line → Except Fault Unit
  | [] => .ok ()
  | l :: rest =>
    match queued, l.label with
    | some q, some _ => .error (refuse l (.labelQueued q))
    | _, _ =>
      let q := if l.label.isSome then l.label else queued
      checkLabelQueue (if l.code.isSome then none else q) rest

/-- Every label used by an instruction is defined on some line. -/
def checkLabelRefs (lines : List Line) : Except Fault Unit :=
  let defined := lines.filterMap (·.label)
  lines.forM fun l =>
    (l.code.getD []).forM fun b =>
      if b.holds .label && !defined.contains b.constant then
        .error (refuse l (.labelUndefined b.constant))
      else .ok ()

/-- No variable is declared twice; `seen` holds the variables met so far with their lines. -/
def checkVariableDefs (seen : List (String × Int)) : List Line → Except Fault Unit
  | [] => .ok ()
  | l :: rest =>
    match l.declared with
    | some v =>
      match seen.lookup v with
      | some firstLine => .error (refuse l (.variableRedefined v firstLine))
      | none => checkVariableDefs ((v, l.number) :: seen) rest
    | none => checkVariableDefs seen rest

/-- Whether `count` variables from `offset` on overflow data memory. -/
def overflows (offset : Int) (count : Nat) : Bool := decide (255 < (count : Int) + offset)

/-- The variables used by bytes, added to `vars` in order, stopping after the
first byte at which memory is full. -/
def usedVariables (offset : Int) (vars : List String) : List CodeByte → List String
  | [] => vars
  | b :: rest =>
    let vars := if b.holds .variable && !vars.contains b.constant then vars ++ [b.constant] else vars
    if overflows offset vars.length then vars else usedVariables offset vars rest

/-- The state of the data memory scan: the variables met, the last declared
variable seen, and the last line scanned. -/
structure VarScan where
  vars : List String := []
  declared : Option String := none
  current : Option Line := none

/-- Scan the lines for variables, stopping at a declaration that overflows memory. -/
def scanVariables (offset : Int) (s : VarScan) : List Line → VarScan
  | [] => s
  | l :: rest =>
    let s := { s with current := some l }
    match l.declared with
    | some v =>
      if s.vars.contains v then
        scanVariables offset (usesOf { s with declared := some v } l) rest
      else
        let vars := s.vars ++ [v]
        if overflows offset vars.length then { s with vars, declared := some v }
        else scanVariables offset (usesOf { s with vars, declared := some v } l) rest
    | none => scanVariables offset (usesOf s l) rest
where
  /-- The scan state after the variables that `l`'s bytes use. -/
  usesOf (s : VarScan) (l : Line) : VarScan :=
    match l.code with
    | some bs => { s with vars := usedVariables offset s.vars bs }
    | none => s

/-- The variables fit in data memory from `offset` on. -/
def checkDataSpace (offset : Int) (lines : List Line) : Except Fault Unit :=
  let s := scanVariables offset {} lines
  if overflows offset s.vars.length then
    match s.declared, s.current with
    | some v, some l => .error (refuse l (.dataFull v offset))
    | some _, none => .error (.unassigned "asm_line_info")
    | none, _ => .error (.unassigned "variable")
  else .ok ()

/-- Count the bytes of instruction lines, remembering the first line, of a
number not below zero, on which the count went past 255. -/
def countBytes (count : Nat) (bad : Int) : List Line → Nat × Int
  | [] => (count, bad)
  | l :: rest =>
    let (count, bad) := (l.code.getD []).foldl
      (fun (acc : Nat × Int) _ =>
        let c := acc.1 + 1
        (c, if 255 < c ∧ acc.2 < 0 then l.number else acc.2))
      (count, bad)
    countBytes count bad rest

/-- The program has at most 255 bytes of machine code. -/
def checkProgramSize (lines : List Line) : Except Fault Unit :=
  let (count, bad) := countBytes 0 (-1) lines
  if 255 < count then
    .error (.assembly bad ((lines.getLast?.map (·.raw)).getD "") (.programFull count))
  else .ok ()

/-- All structure checks, in order. -/
def checkStructure (lines : List Line) (offset : Int) : Except Fault Unit := do
  checkLabelDefs [] lines
  checkLabelQueue none lines
  checkLabelRefs lines
  checkVariableDefs [] lines
  checkDataSpace offset lines
  checkProgramSize lines

end ByteMachine.Assembly
