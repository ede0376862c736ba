import ByteMachine.Microcode.Template
/- The fetch cycle, steps 0 and 1 of every instruction whatever its byte
   and flags: the program counter addresses memory, then the instruction
   byte is read into the instruction register while the counter steps on. -/
namespace ByteMachine.Operation

open Machine Microcode Signal

/-- The microcode of the fetch cycle. -/
def fetchMicrocode : Except Fault (List Template) := do
  let a0 ← Bitdef.merge [emptyAddress, step 0]
  let c0 ← Bitdef.merge [pcOut.bitdef, marIn.bitdef]
  let a1 ← Bitdef.merge [emptyAddress, step 1]
  let c1 ← Bitdef.merge
    [pcCount.bitdef, (ramSelectData false).bitdef, ramOut.bitdef, irIn.bitdef]
  pure [⟨a0, c0.fill "0"⟩, ⟨a1, c1.fill "0"⟩]

end ByteMachine.Operation
