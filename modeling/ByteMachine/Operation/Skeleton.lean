import ByteMachine.Assembly.CodeByte
import ByteMachine.Assembly.Signature
import ByteMachine.Microcode.Template
/- The skeleton from which a new instruction is written, named
   `OP_TEMPLATE`. It has a name but as yet no signature list, no encoding
   and no control steps. A line with its name and arguments is refused
   because no signature fits them; its bare name matches, and then asking
   for its encoding fails, as does asking for its microcode. -/
namespace ByteMachine.Operation

open Assembly Microcode

/-- The name of the skeleton instruction. -/
def skeletonName : String := "OP_TEMPLATE"

/-- The microcode of the skeleton: it has no signatures to generate it from. -/
def skeletonMicrocode : Except Fault (List Template) := .error .noSignatureList

/-- The microcode of one form of the skeleton: it has no control steps. -/
def skeletonTemplates (_sig : Signature) : Except Fault (List Template) := .error .noStepList

/-- The machine code of a line, if it is the skeleton instruction. -/
def skeletonParse (line : String) : Except Fault (List CodeByte) := do
  let (ok, _) ← matchLine line skeletonName []
  if !ok then return []
  throw .noEncoding

end ByteMachine.Operation
