import ByteMachine.Assembly.Listing
import ByteMachine.Export.Logisim
/- The assembler's whole answer for a program: its assembled lines, their
   listing, the machine code as bit strings, and the machine code as a
   Logisim memory image. -/
namespace ByteMachine

open Assembly

/-- An assembled program and its outputs. -/
structure Assembled where
  lines : List Line
  listing : String
  code : List String
  image : String

/-- Assemble the program `lines` with variables placed from `offset` on. -/
def assembleProgram (lines : List String) (offset : Int) : Except Fault Assembled := do
  let ls ← assembleLines lines offset
  let text ← listing ls
  let code := machineCode ls
  let image ← Export.logisim code
  pure { lines := ls, listing := text, code, image }

end ByteMachine
