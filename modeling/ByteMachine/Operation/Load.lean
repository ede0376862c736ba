import ByteMachine.Assembly.CodeByte
import ByteMachine.Assembly.Signature
import ByteMachine.Microcode.Template
/- The load instruction reads data memory into ACC, A, B or C. The address
   comes from a module (ACC, A, B, C, PC or SP, written as a memory index)
   or from a constant memory index that follows the instruction byte; the
   constant is first read from program memory into the memory address
   register. -/
namespace ByteMachine.Operation

open Assembly Machine Microcode Signal

/-- The argument signatures of the load instruction: address, then destination. -/
def loadSignatures : List Signature :=
  let dests := ["ACC", "A", "B", "C"]
  (["ACC", "A", "B", "C", "PC", "SP"].flatMap fun s =>
    dests.map fun d => [.moduleAt s, .moduleArg d]) ++
  dests.map fun d => [.constantAt, .moduleArg d]

/-- The instruction-byte patterns of a load. -/
def loadEncoding (sig : Signature) : Except Fault (List Bitdef) := do
  let a ← nth sig 0
  match a.kind with
  | .constant =>
    let dst ← Register.lookup (← nth sig 1).value
    pure [Group.load.bitdef, Register.const.source, dst.dest]
  | .module =>
    let src ← Register.lookup a.value
    let dst ← Register.lookup (← nth sig 1).value
    pure [Group.load.bitdef, src.source, dst.dest]
  | .other _ => throw (.unassigned "instruction_byte_bitdefs")

/-- The control steps of a load. -/
def loadSteps (sig : Signature) : Except Fault (List (List Bitdef)) := do
  let a ← nth sig 0
  match a.kind with
  | .module =>
    let out ← control a.value "OUT"
    let into ← control (← nth sig 1).value "IN"
    pure [[out, marIn.bitdef], [(ramSelectData true).bitdef, ramOut.bitdef, into]]
  | .constant =>
    let into ← control (← nth sig 1).value "IN"
    pure [[pcOut.bitdef, marIn.bitdef],
      [(ramSelectData false).bitdef, ramOut.bitdef, marIn.bitdef, pcCount.bitdef],
      [(ramSelectData true).bitdef, ramOut.bitdef, into]]
  | .other _ => throw (.unassigned "control_steps")

/-- The microcode of one load. -/
def loadTemplates (sig : Signature) : Except Fault (List Template) := do
  let i ← loadEncoding sig
  let s ← loadSteps sig
  assemble i [anyFlags] s

/-- The microcode of all loads. -/
def loadMicrocode : Except Fault (List Template) := do
  let ts ← loadSignatures.mapM loadTemplates
  pure ts.flatten

/-- The machine code of a line, if it is a load. -/
def loadParse (line : String) : Except Fault (List CodeByte) := do
  let (ok, sig) ← matchLine line "LOAD" loadSignatures
  if !ok then return []
  let ib ← Bitdef.instructionByte (← loadEncoding sig)
  let a ← nth sig 0
  let head := CodeByte.instruction ib.toString
  if a.kind == .constant then return [head, CodeByte.ofConstant a.value] else return [head]

end ByteMachine.Operation
