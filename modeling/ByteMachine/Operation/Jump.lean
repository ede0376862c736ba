import ByteMachine.Assembly.CodeByte
import ByteMachine.Assembly.Signature
import ByteMachine.Microcode.Template
/- The jump instruction loads the program counter. The target is a module
   (ACC, A, B, C or SP), a constant that follows the instruction byte, or
   either of them as a memory index (then also PC), in which case the
   target is read from data memory at that address. As an instruction byte
   a jump is a copy or a load into the program counter. -/
namespace ByteMachine.Operation

open Assembly Machine Microcode Signal

/-- The argument signatures of the jump instruction. -/
def jumpSignatures : List Signature :=
  (["ACC", "A", "B", "C", "SP"].map fun m => [.moduleArg m]) ++
  (["ACC", "A", "B", "C", "PC", "SP"].map fun m => [.moduleAt m]) ++
  [[.constantArg], [.constantAt]]

/-- The instruction-byte patterns of a jump. -/
def jumpEncoding (sig : Signature) : Except Fault (List Bitdef) := do
  let a ← nth sig 0
  let group := if a.memory then Group.load else Group.copy
  match a.kind with
  | .constant => pure [Register.pc.dest, group.bitdef, Register.const.source]
  | .module => pure [Register.pc.dest, group.bitdef, (← Register.lookup a.value).source]
  | .other _ => pure [Register.pc.dest, group.bitdef]

/-- The control steps of a jump. -/
def jumpSteps (sig : Signature) : Except Fault (List (List Bitdef)) := do
  let a ← nth sig 0
  let first ← match a.kind with
    | .constant => pure pcOut.bitdef
    | .module => control a.value "OUT"
    | .other _ => throw (.unassigned "control_steps")
  if a.memory then
    pure [[first, marIn.bitdef], [(ramSelectData false).bitdef, ramOut.bitdef, marIn.bitdef],
      [(ramSelectData true).bitdef, ramOut.bitdef, pcIn.bitdef]]
  else if a.kind == .constant then
    pure [[first, marIn.bitdef], [(ramSelectData false).bitdef, ramOut.bitdef, pcIn.bitdef]]
  else
    pure [[first, pcIn.bitdef]]

/-- The microcode of one jump. -/
def jumpTemplates (sig : Signature) : Except Fault (List Template) := do
  let i ← jumpEncoding sig
  let s ← jumpSteps sig
  assemble i [anyFlags] s

/-- The microcode of all jumps. -/
def jumpMicrocode : Except Fault (List Template) := do
  let ts ← jumpSignatures.mapM jumpTemplates
  pure ts.flatten

/-- The machine code of a line, if it is a jump. -/
def jumpParse (line : String) : Except Fault (List CodeByte) := do
  let (ok, sig) ← matchLine line "JUMP" jumpSignatures
  if !ok then return []
  let ib ← Bitdef.instructionByte (← jumpEncoding sig)
  let a ← nth sig 0
  let head := CodeByte.instruction ib.toString
  if a.kind == .constant then return [head, CodeByte.ofConstant a.value] else return [head]

end ByteMachine.Operation
