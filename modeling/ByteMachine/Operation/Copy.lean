import ByteMachine.Assembly.CodeByte
import ByteMachine.Assembly.Signature
import ByteMachine.Microcode.Template
/- The copy instruction moves a value from one module to another in one
   step: the source drives the bus and the destination latches it. Any of
   ACC, A, B, C, PC and SP may be copied into any other of ACC, A, B, C and
   SP. -/
namespace ByteMachine.Operation

open Assembly Machine Microcode Signal

/-- The argument signatures of the copy instruction: source, then destination. -/
def copySignatures : List Signature :=
  ["ACC", "A", "B", "C", "PC", "SP"].flatMap fun s =>
    (["ACC", "A", "B", "C", "SP"].filter (· ≠ s)).map fun d => [.moduleArg s, .moduleArg d]

/-- The instruction-byte patterns of a copy. -/
def copyEncoding (sig : Signature) : Except Fault (List Bitdef) := do
  let src ← Register.lookup (← nth sig 0).value
  let dst ← Register.lookup (← nth sig 1).value
  pure [Group.copy.bitdef, src.source, dst.dest]

/-- The control steps of a copy. -/
def copySteps (sig : Signature) : Except Fault (List (List Bitdef)) := do
  let out ← control (← nth sig 0).value "OUT"
  let into ← control (← nth sig 1).value "IN"
  pure [[out, into]]

/-- The microcode of one copy. -/
def copyTemplates (sig : Signature) : Except Fault (List Template) := do
  let i ← copyEncoding sig
  let s ← copySteps sig
  assemble i [anyFlags] s

/-- The microcode of all copies. -/
def copyMicrocode : Except Fault (List Template) := do
  let ts ← copySignatures.mapM copyTemplates
  pure ts.flatten

/-- The machine code of a line, if it is a copy. -/
def copyParse (line : String) : Except Fault (List CodeByte) := do
  let (ok, sig) ← matchLine line "COPY" copySignatures
  if !ok then return []
  let ib ← Bitdef.instructionByte (← copyEncoding sig)
  return [CodeByte.instruction ib.toString]

end ByteMachine.Operation
