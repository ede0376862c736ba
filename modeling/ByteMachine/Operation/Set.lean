import ByteMachine.Assembly.CodeByte
import ByteMachine.Assembly.Signature
import ByteMachine.Microcode.Template
/- The set instruction puts a constant into ACC, A, B, C or SP. It is a
   copy from the constant source: the constant follows the instruction byte
   and is read from program memory. -/
namespace ByteMachine.Operation

open Assembly Machine Microcode Signal

/-- The argument signatures of the set instruction: destination, then constant. -/
def setSignatures : List Signature :=
  ["ACC", "A", "B", "C", "SP"].map fun d => [.moduleArg d, .constantArg]

/-- The instruction-byte patterns of a set. -/
def setEncoding (sig : Signature) : Except Fault (List Bitdef) := do
  let dst ← Register.lookup (← nth sig 0).value
  pure [Group.copy.bitdef, Register.const.source, dst.dest]

/-- The control steps of a set. -/
def setSteps (sig : Signature) : Except Fault (List (List Bitdef)) := do
  let into ← control (← nth sig 0).value "IN"
  pure [[pcOut.bitdef, marIn.bitdef],
    [ramOut.bitdef, (ramSelectData false).bitdef, into, pcCount.bitdef]]

/-- The microcode of one set. -/
def setTemplates (sig : Signature) : Except Fault (List Template) := do
  let i ← setEncoding sig
  let s ← setSteps sig
  assemble i [anyFlags] s

/-- The microcode of all sets. -/
def setMicrocode : Except Fault (List Template) := do
  let ts ← setSignatures.mapM setTemplates
  pure ts.flatten

/-- The machine code of a line, if it is a set. -/
def setParse (line : String) : Except Fault (List CodeByte) := do
  let (ok, sig) ← matchLine line "SET" setSignatures
  if !ok then return []
  let ib ← Bitdef.instructionByte (← setEncoding sig)
  let c ← nth sig 1
  return [CodeByte.instruction ib.toString, CodeByte.ofConstant c.value]

end ByteMachine.Operation
