import ByteMachine.Bitdef
import ByteMachine.Word
/- The fields of a microcode address. An address has 15 positions: the
   instruction byte (positions 0 to 7 from the left), the four flags
   (8 to 11) and the step counter (12 to 14).

   The instruction byte starts with a two-bit group (copy, load, store,
   arithmetic). Copies and loads then name a source register in positions
   2 to 4 and a destination register in 5 to 7; arithmetic instructions
   name an operation in positions 2 to 5 and an operand in 6 and 7. Each
   table entry below is the address pattern that fixes one such field and
   leaves every other position open. -/
namespace ByteMachine.Machine

/-- The number of positions of a microcode address. -/
def addressWidth : Nat := 15

/-- The pattern that fixes `bits` from position `start` of an address. -/
def addressField (start : Nat) (bits : String) : Bitdef :=
  Bitdef.field addressWidth start bits

/-- The instruction groups. -/
inductive Group where
  | copy | load | store | alu
  deriving Repr, DecidableEq

/-- The name and two-bit code of each group. -/
def Group.entry : Group → String × String
  | .copy => ("COPY", "00")
  | .load => ("LOAD", "01")
  | .store => ("STORE", "10")
  | .alu => ("ALU", "11")

/-- Every group, in table order. -/
def Group.all : List Group := [.copy, .load, .store, .alu]

/-- The address pattern of a group. -/
def Group.bitdef (g : Group) : Bitdef := addressField 0 g.entry.2

/-- The registers that an instruction can read or write. -/
inductive Register where
  | acc | a | b | c | sp | pc | spStep | const
  deriving Repr, DecidableEq

/-- The name and three-bit code of each register. -/
def Register.entry : Register → String × String
  | .acc => ("ACC", "000")
  | .a => ("A", "001")
  | .b => ("B", "010")
  | .c => ("C", "011")
  | .sp => ("SP", "100")
  | .pc => ("PC", "101")
  | .spStep => ("SP+/-", "110")
  | .const => ("CONST", "111")

/-- Every register, in table order. -/
def Register.all : List Register := [.acc, .a, .b, .c, .sp, .pc, .spStep, .const]

/-- The register called `name`, or the fault that names it. -/
def Register.lookup (name : String) : Except Fault Register :=
  match Register.all.find? fun r => r.entry.1 == name with
  | some r => .ok r
  | none => .error (.missingKey name)

/-- The address pattern of a register as source. -/
def Register.source (r : Register) : Bitdef := addressField 2 r.entry.2

/-- The address pattern of a register as destination. -/
def Register.dest (r : Register) : Bitdef := addressField 5 r.entry.2

/-- The operations of the arithmetic unit. -/
inductive AluOp where
  | zero | incr | decr | add | addc | sub | subb | and
  | nand | or | nor | xor | nxor | not | lshift | lshiftc
  deriving Repr, DecidableEq

/-- The name and four-bit code of each arithmetic operation. -/
def AluOp.entry : AluOp → String × String
  | .zero => ("ZERO", "0000")
  | .incr => ("INCR", "0001")
  | .decr => ("DECR", "0010")
  | .add => ("ADD", "0011")
  | .addc => ("ADDC", "0100")
  | .sub => ("SUB", "0101")
  | .subb => ("SUBB", "0110")
  | .and => ("AND", "0111")
  | .nand => ("NAND", "1000")
  | .or => ("OR", "1001")
  | .nor => ("NOR", "1010")
  | .xor => ("XOR", "1011")
  | .nxor => ("NXOR", "1100")
  | .not => ("NOT", "1101")
  | .lshift => ("LSHIFT", "1110")
  | .lshiftc => ("LSHIFTC", "1111")

/-- Every arithmetic operation, in table order. -/
def AluOp.all : List AluOp :=
  [.zero, .incr, .decr, .add, .addc, .sub, .subb, .and,
   .nand, .or, .nor, .xor, .nxor, .not, .lshift, .lshiftc]

/-- The address pattern of an arithmetic operation. -/
def AluOp.bitdef (o : AluOp) : Bitdef := addressField 2 o.entry.2

/-- The second operands of the arithmetic unit. -/
inductive Operand where
  | accOrConst | a | b | c
  deriving Repr, DecidableEq

/-- The name and two-bit code of each operand. -/
def Operand.entry : Operand → String × String
  | .accOrConst => ("ACC/CONST", "00")
  | .a => ("A", "01")
  | .b => ("B", "10")
  | .c => ("C", "11")

/-- Every operand, in table order. -/
def Operand.all : List Operand := [.accOrConst, .a, .b, .c]

/-- The operand called `name`, or the fault that names it. -/
def Operand.lookup (name : String) : Except Fault Operand :=
  match Operand.all.find? fun o => o.entry.1 == name with
  | some o => .ok o
  | none => .error (.missingKey name)

/-- The address pattern of an operand. -/
def Operand.bitdef (o : Operand) : Bitdef := addressField 6 o.entry.2

/-- The flags that the arithmetic unit sets. -/
inductive Flag where
  | zero | negative | carryBorrow | equal
  deriving Repr, DecidableEq

/-- The name and the address position of each flag. -/
def Flag.entry : Flag → String × Nat
  | .zero => ("ZERO", 8)
  | .negative => ("NEGATIVE", 9)
  | .carryBorrow => ("CARRY_BORROW", 10)
  | .equal => ("EQUAL", 11)

/-- Every flag, in table order. -/
def Flag.all : List Flag := [.zero, .negative, .carryBorrow, .equal]

/-- The address pattern of a flag that is high (`true`) or low. -/
def Flag.when (f : Flag) (high : Bool) : Bitdef :=
  addressField f.entry.2 (if high then "1" else "0")

/-- The address pattern that admits every flag value. -/
def anyFlags : Bitdef := Bitdef.dots addressWidth

/-- The address pattern that admits every address. -/
def emptyAddress : Bitdef := Bitdef.dots addressWidth

/-- The address pattern of step `i` of an instruction, for `i` below 8. -/
def step (i : Nat) : Bitdef := addressField 12 (Word.binary i 3)

theorem length_addressField (start : Nat) (bits : String) (h : start + bits.length ≤ addressWidth) :
    (addressField start bits).length = addressWidth := by
  simp [addressField, Bitdef.field, Bitdef.length, String.length_toList]
  omega

end ByteMachine.Machine
