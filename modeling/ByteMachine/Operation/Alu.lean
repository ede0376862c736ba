import ByteMachine.Assembly.CodeByte
import ByteMachine.Assembly.Signature
import ByteMachine.Microcode.Template
/- Arithmetic instructions. An arithmetic instruction combines the
   accumulator with a second operand, the register A, B or C or a constant
   that follows the instruction byte, and puts the result back in the
   accumulator. It is given by its operation code and by the control
   signals that choose the function of the arithmetic unit.

   With a register operand the instruction takes two steps: the register
   drives the bus while the unit stores its result and flags, then the
   result moves to the accumulator. With a constant the program counter
   first addresses the constant, which is then read from program memory. -/
namespace ByteMachine.Operation

open Assembly Machine Microcode Signal

/-- The argument signatures of an arithmetic instruction. -/
def aluSignatures : List Signature :=
  [[.moduleArg "A"], [.moduleArg "B"], [.moduleArg "C"], [.constantArg]]

/-- The instruction-byte patterns for operation `op` and the given arguments. -/
def aluEncoding (op : Bitdef) (sig : Signature) : Except Fault (List Bitdef) := do
  let a ← nth sig 0
  match a.kind with
  | .module => return [Group.alu.bitdef, op, (← Operand.lookup a.value).bitdef]
  | .constant => return [Group.alu.bitdef, op, Operand.accOrConst.bitdef]
  | .other _ => throw (.unassigned "bitdefs")

/-- The control steps for the given arguments, with `fn` choosing the function. -/
def aluSteps (sig : Signature) (fn : List Bitdef) : Except Fault (List (List Bitdef)) := do
  let a ← nth sig 0
  match a.kind with
  | .module =>
    return [[← control a.value "OUT", aluStoreResult.bitdef, aluStoreFlags.bitdef] ++ fn,
      [aluOut.bitdef, accIn.bitdef]]
  | .constant =>
    return [[pcOut.bitdef, marIn.bitdef],
      [(ramSelectData false).bitdef, ramOut.bitdef, aluStoreResult.bitdef, aluStoreFlags.bitdef,
        pcCount.bitdef] ++ fn,
      [aluOut.bitdef, accIn.bitdef]]
  | .other _ => throw (.unassigned "control_steps")

/-- The microcode of one arithmetic instruction form. -/
def aluTemplates (sig : Signature) (op : Bitdef) (fn : List Bitdef) :
    Except Fault (List Template) := do
  let i ← aluEncoding op sig
  let s ← aluSteps sig fn
  assemble i [anyFlags] s

/-- The microcode of all forms of an arithmetic instruction. -/
def aluMicrocode (op : Bitdef) (fn : List Bitdef) : Except Fault (List Template) := do
  let ts ← aluSignatures.mapM fun sig => aluTemplates sig op fn
  pure ts.flatten

/-- The machine code of a line, if it is the arithmetic instruction `name`. -/
def aluParse (name : String) (op : Bitdef) (line : String) : Except Fault (List CodeByte) := do
  let (ok, sig) ← matchLine line name aluSignatures
  if !ok then return []
  let ib ← Bitdef.instructionByte (← aluEncoding op sig)
  let a ← nth sig 0
  let head := CodeByte.instruction ib.toString
  if a.kind == .constant then return [head, CodeByte.ofConstant a.value] else return [head]

end ByteMachine.Operation
