import ByteMachine.Assembly.CodeByte
import ByteMachine.Assembly.Signature
import ByteMachine.Microcode.Template
/- Conditional jumps. A conditional jump is followed by a constant target.
   When its flag condition holds, the target is read from program memory
   into the program counter; otherwise the program counter steps over the
   constant. Its instruction byte is a copy of a register onto itself,
   which does nothing as a copy and so is free to mean the jump. -/
namespace ByteMachine.Operation

open Assembly Machine Microcode Signal

/-- The argument signatures of a conditional jump. -/
def branchSignatures : List Signature := [[.constantArg]]

/-- The instruction-byte patterns of a conditional jump coded as a copy of `r` onto itself. -/
def branchEncoding (r : Register) : List Bitdef :=
  [Group.copy.bitdef, r.source, r.dest]

/-- The control steps of a conditional jump: the jump when its condition holds, the step
over the constant when it does not. -/
def branchSteps (taken : Bool) : List (List Bitdef) :=
  if taken then
    [[pcOut.bitdef, marIn.bitdef], [(ramSelectData false).bitdef, ramOut.bitdef, pcIn.bitdef]]
  else [[pcCount.bitdef]]

/-- The microcode of a conditional jump: the jump under flags `taken`, the step over under `skipped`. -/
def branchMicrocode (r : Register) (taken skipped : Bitdef) : Except Fault (List Template) := do
  let jump ← assemble (branchEncoding r) [taken] (branchSteps true)
  let skip ← assemble (branchEncoding r) [skipped] (branchSteps false)
  pure (jump ++ skip)

/-- The machine code of a line, if it is the conditional jump `name`. -/
def branchParse (name : String) (r : Register) (line : String) : Except Fault (List CodeByte) := do
  let (ok, sig) ← matchLine line name branchSignatures
  if !ok then return []
  let ib ← Bitdef.instructionByte (branchEncoding r)
  let c ← nth sig 0
  return [CodeByte.instruction ib.toString, CodeByte.ofConstant c.value]

end ByteMachine.Operation
