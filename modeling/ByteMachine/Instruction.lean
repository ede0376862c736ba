import ByteMachine.Operation.Alu
import ByteMachine.Operation.Branch
import ByteMachine.Operation.Copy
import ByteMachine.Operation.Fetch
import ByteMachine.Operation.Jump
import ByteMachine.Operation.Load
import ByteMachine.Operation.Set
import ByteMachine.Operation.Skeleton
/- The instructions of the assembly language, and the operations that
   microcode is generated for: the six instructions, the fetch cycle and
   the skeleton instruction.

   Each instruction has a name, argument signatures, a reading of assembly
   lines into machine code and its microcode. The microcode of the whole
   language is that of every instruction in the order of `Instruction.all`,
   then the fetch cycle. -/
namespace ByteMachine

open Assembly Machine Microcode Operation

/-- The instructions of the assembly language. -/
inductive Instruction where
  | add | copy | load | set | jump | jumpIfOverflow
  deriving Repr, DecidableEq

namespace Instruction

/-- Every instruction, in the order in which lines are tried. -/
def all : List Instruction := [.add, .copy, .load, .set, .jump, .jumpIfOverflow]

/-- The name that opens a line of the instruction. -/
def name : Instruction → String
  | .add => "ADD"
  | .copy => "COPY"
  | .load => "LOAD"
  | .set => "SET"
  | .jump => "JUMP"
  | .jumpIfOverflow => "JUMP_IF_OVERFLOW_FLAG"

/-- The argument signatures of the instruction. -/
def signatures : Instruction → List Signature
  | .add => aluSignatures
  | .copy => copySignatures
  | .load => loadSignatures
  | .set => setSignatures
  | .jump => jumpSignatures
  | .jumpIfOverflow => branchSignatures

/-- The machine code of `line` if it is this instruction, `[]` if it is not. -/
def parse : Instruction → String → Except Fault (List CodeByte)
  | .add => aluParse "ADD" AluOp.add.bitdef
  | .copy => copyParse
  | .load => loadParse
  | .set => setParse
  | .jump => jumpParse
  | .jumpIfOverflow => branchParse "JUMP_IF_OVERFLOW_FLAG" .sp

/-- The microcode of the instruction. -/
def microcode : Instruction → Except Fault (List Template)
  | .add => aluMicrocode AluOp.add.bitdef (addFunction.map Signal.bitdef)
  | .copy => copyMicrocode
  | .load => loadMicrocode
  | .set => setMicrocode
  | .jump => jumpMicrocode
  | .jumpIfOverflow =>
    branchMicrocode .sp (Flag.carryBorrow.when true) (Flag.carryBorrow.when false)

end Instruction

/-- The operations that microcode is generated for. -/
inductive Operation where
  | instruction (i : Instruction)
  | fetch
  | skeleton
  deriving Repr, DecidableEq

namespace Operation

/-- The operation called `s`. -/
def ofName? (s : String) : Option Operation :=
  if s = "FETCH" then some .fetch
  else if s = skeletonName then some .skeleton
  else (Instruction.all.find? (·.name == s)).map .instruction

/-- The microcode of the operation. -/
def microcode : Operation → Except Fault (List Template)
  | .instruction i => i.microcode
  | .fetch => fetchMicrocode
  | .skeleton => skeletonMicrocode

/-- The name under which the operation's definitions are published. -/
def source : Operation → String
  | .instruction .add => "eight_bit_computer.operations.add"
  | .instruction .copy => "eight_bit_computer.operations.copy_op"
  | .instruction .load => "eight_bit_computer.operations.load"
  | .instruction .set => "eight_bit_computer.operations.set_op"
  | .instruction .jump => "eight_bit_computer.operations.jump"
  | .instruction .jumpIfOverflow => "eight_bit_computer.operations.jump_if_overflow_flag"
  | .fetch => "eight_bit_computer.operations.fetch"
  | .skeleton => "eight_bit_computer.operations.operation_template"

/-- The argument signatures that the operation publishes; the skeleton has
none yet. The ALU and conditional-jump instructions share theirs with their
families and publish none of their own, and the fetch cycle takes no line. -/
def signatures? (o : Operation) : Except Fault (Option (List Signature)) :=
  match o with
  | .instruction .add | .instruction .jumpIfOverflow | .fetch =>
    .error (.unpublished o.source "generate_signatures")
  | .instruction i => .ok (some i.signatures)
  | .skeleton => .ok none

/-- The machine code of `line` if it is this operation, `[]` if it is not;
the fetch cycle reads no lines. -/
def parse (o : Operation) : String → Except Fault (List CodeByte) :=
  match o with
  | .instruction i => i.parse
  | .fetch => fun _ => .error (.unpublished o.source "parse_line")
  | .skeleton => skeletonParse

end Operation

/-- The microcode of the whole language: every instruction, then the fetch cycle. -/
def languageTemplates : Except Fault (List Template) := do
  let ts ← Instruction.all.mapM Instruction.microcode
  let f ← fetchMicrocode
  pure (ts.flatten ++ f)

end ByteMachine
