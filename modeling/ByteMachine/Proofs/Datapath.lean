import ByteMachine.Proofs.Decoding
/- The datapath that the microcode drives, and what its instructions are documented to do.

   A control word is read through the module table: a module asserts one of its signals when
   the signal's line stands at the signal's level. The word asks the datapath for one
   `Transfer`: the modules whose OUT signal is asserted drive the bus, and those whose IN
   signal is asserted latch it. Memory answers at the address register, from data memory when
   the select line has its data value and from program memory otherwise; the arithmetic unit
   drives its stored result, and stores the function that its select lines choose of the
   accumulator (or the bus) and the bus, with its flags. The program counter counts after the
   transfer, and the step counter counts on unless the word resets it.

   The machine reads its word at the address made of the instruction register, the flags and
   the step counter, and `execute` runs words from step 0 until one resets the counter.

   `Instruction.effect` says what an instruction does to what a program can see: its
   registers, flags and memories. -/
namespace ByteMachine

open Assembly Microcode

namespace Machine

/-- The module called `n`, as `control` finds it. -/
def Module.named (n : String) : Option Module := Module.all.find? fun m => m.name == n

/-- Whether the control lines assert the module's signal `name`: its line stands at the
signal's level. -/
def Module.raises (lines : Nat → Bool) (m : Module) (name : String) : Bool :=
  match m.signals.lookup name with
  | some s => lines s.position == s.level
  | none => false

-- the registers that an instruction can name
def Module.registers : List Module := [.acc, .a, .b, .c, .sp, .pc]

theorem Module.ne_of_mem_registers {m : Module} (hm : m ∈ Module.registers) :
    m ≠ .mar ∧ m ≠ .ir ∧ m ≠ .alu ∧ m ≠ .ram := by
  simp only [Module.registers, List.mem_cons, List.not_mem_nil, or_false] at hm
  rcases hm with rfl | rfl | rfl | rfl | rfl | rfl <;> decide

/-- What one control word asks of the datapath. -/
structure Transfer where
  drivers : List Module
  latches : List Module
  /-- Memory answers from data memory, not program memory. -/
  selectData : Bool
  /-- The arithmetic unit takes its first operand from the bus, not the accumulator. -/
  aIsBus : Bool
  storeResult : Bool
  storeFlags : Bool
  /-- The select lines S0 to S3, the mode line and the carry line of the arithmetic unit. -/
  select : List Bool
  count : Bool
  reset : Bool
  deriving DecidableEq, Repr

/-- The transfer that the control lines ask for. -/
def Transfer.ofLines (lines : Nat → Bool) : Transfer where
  drivers := Module.all.filter (·.raises lines "OUT")
  latches := Module.all.filter (·.raises lines "IN")
  selectData := Module.ram.raises lines "SEL_DATA_MEM"
  aIsBus := Module.alu.raises lines "A_IS_BUS"
  storeResult := Module.alu.raises lines "STORE_RESULT"
  storeFlags := Module.alu.raises lines "STORE_FLAGS"
  select := ["S0_HIGH", "S1_HIGH", "S2_HIGH", "S3_HIGH", "M_HIGH", "WITH_CARRY"].map
    (Module.alu.raises lines)
  count := Module.pc.raises lines "COUNT"
  reset := Module.cu.raises lines "STEP_RESET"

/-- An arithmetic unit: for the levels of its select lines and its two operands, the result and
the four flags. -/
abbrev Alu := List Bool → BitVec 8 → BitVec 8 → BitVec 8 × BitVec 4

/-- The state of the datapath. -/
@[ext]
structure State where
  /-- The byte each module holds: the registers ACC, A, B, C, SP and PC, the memory address
  register MAR, the instruction register IR, and for ALU its stored result. -/
  regs : Module → BitVec 8
  flags : BitVec 4
  step : Nat
  prog : BitVec 8 → BitVec 8
  data : BitVec 8 → BitVec 8

namespace State

/-- What module `m` puts on the bus: memory answers at the address register. -/
def output (s : State) (selectData : Bool) (m : Module) : BitVec 8 :=
  if m = .ram then (if selectData then s.data else s.prog) (s.regs .mar) else s.regs m

def setReg (s : State) (m : Module) (v : BitVec 8) : State :=
  { s with regs := Function.update s.regs m v }

variable (s : State) (m m' : Module) (v : BitVec 8)

@[simp] theorem setReg_regs : (s.setReg m v).regs m' = if m' = m then v else s.regs m' := by
  simp [setReg, Function.update_apply]
@[simp] theorem setReg_flags : (s.setReg m v).flags = s.flags := rfl
@[simp] theorem setReg_step : (s.setReg m v).step = s.step := rfl
@[simp] theorem setReg_prog : (s.setReg m v).prog = s.prog := rfl
@[simp] theorem setReg_data : (s.setReg m v).data = s.data := rfl

@[simp] theorem output_prog : s.output false .ram = s.prog (s.regs .mar) := rfl
@[simp] theorem output_data : s.output true .ram = s.data (s.regs .mar) := rfl
theorem output_of_ne_ram (sel : Bool) {m : Module} (hm : m ≠ .ram) : s.output sel m = s.regs m :=
  if_neg hm

end State

/-- What the bus holds under `T`: the output of its one driver. A bus that no module or several
modules drive holds nothing. -/
def Transfer.bus (T : Transfer) (s : State) : Option (BitVec 8) :=
  match T.drivers with
  | [m] => some (s.output T.selectData m)
  | _ => none

/-- One step of the datapath under `T`. A module latching a bus that holds nothing keeps its
byte, and the arithmetic unit and memory read 0 from it. -/
def Transfer.apply (alu : Alu) (T : Transfer) (s : State) : State :=
  let x := (T.bus s).getD 0
  let r := alu T.select (if T.aIsBus then x else s.regs .acc) x
  let write (mem : BitVec 8 → BitVec 8) (toData : Bool) :=
    if .ram ∈ T.latches ∧ T.selectData = toData then Function.update mem (s.regs .mar) x else mem
  { regs := fun m =>
      let held := if m = .alu ∧ T.storeResult = true then r.1
        else if m ∈ T.latches then (T.bus s).getD (s.regs m) else s.regs m
      if m = .pc ∧ T.count = true then held + 1 else held
    flags := if T.storeFlags then r.2 else s.flags
    step := if T.reset then 0 else (s.step + 1) % 8
    prog := write s.prog false
    data := write s.data true }

def byteBits (v : BitVec 8) : String := Word.binary v.toNat 8

def flagBits (f : BitVec 4) : String := Word.binary f.toNat 4

/-- Whether a control word drives line `p` high. -/
def lines (w : String) (p : Nat) : Bool := w.toList[p]? == some '1'

namespace State

def address (s : State) : String := stepAddress (byteBits (s.regs .ir)) (flagBits s.flags) s.step

/-- The control word that the memory `rom` holds for the state. -/
def word (rom : Array RomEntry) (s : State) : String := (wordAt rom s.address).getD controlsDefault

def next (rom : Array RomEntry) (alu : Alu) (s : State) : State :=
  (Transfer.ofLines (lines (s.word rom))).apply alu s

end State

theorem Transfer.apply_step (alu : Alu) (T : Transfer) (s : State) :
    (T.apply alu s).step = if T.reset then 0 else (s.step + 1) % 8 := rfl

/-- Microsteps, at most `n` of them, until the step counter is reset. -/
def run (rom : Array RomEntry) (alu : Alu) : Nat → State → State
  | 0, s => s
  | n + 1, s =>
    let t := s.next rom alu
    if t.step = 0 then t else run rom alu n t

/-- One instruction: microsteps from the state until the step counter is reset, at most the eight
that the counter counts. -/
def execute (rom : Array RomEntry) (alu : Alu) (s : State) : State := run rom alu 8 s

/-! ## The documented effect of the instructions -/

/-- The select-line levels that make the arithmetic unit add. -/
def addSelect : List Bool := addFunction.map Signal.level

namespace State

def advance (s : State) : State := s.setReg .pc (s.regs .pc + 1)

variable (s : State) (m : Module)

@[simp] theorem advance_regs : s.advance.regs m = if m = .pc then s.regs .pc + 1 else s.regs m := by
  simp [advance]
@[simp] theorem advance_flags : s.advance.flags = s.flags := rfl
@[simp] theorem advance_step : s.advance.step = s.step := rfl
@[simp] theorem advance_prog : s.advance.prog = s.prog := rfl
@[simp] theorem advance_data : s.advance.data = s.data := rfl

/-- Two states agree on what a program can see: the registers it names, the flags and both
memories. -/
structure Agrees (s t : State) : Prop where
  regs : ∀ m ∈ Module.registers, s.regs m = t.regs m
  flags : s.flags = t.flags
  prog : s.prog = t.prog
  data : s.data = t.data

end State

end Machine

open Machine

namespace Assembly

/-- The byte an argument stands for in a state whose program counter addresses the byte after
the instruction byte: a module's register, or the constant that the counter addresses; written
as a memory index, the byte of data memory there. -/
def ArgSpec.read (a : ArgSpec) (s : State) : Option (BitVec 8) := do
  let v ← match a.kind with
    | .module => s.regs <$> Module.named a.value
    | .constant => some (s.prog (s.regs .pc))
    | .other _ => none
  pure (if a.memory then s.data v else v)

end Assembly

/-- What the instruction with arguments `sig`, its byte at the program counter of `s`, does:
the counter steps past the instruction and its constant, and then
* ADD stores the sum of the accumulator and its argument, with the flags;
* COPY, LOAD and SET store the value of their source argument in their destination;
* JUMP and a taken JUMP_IF_OVERFLOW_FLAG store the value of their argument in the counter.
A jump to a module written as a memory index is the exception: where LOAD reads data memory at
the module's value, the jump reads it at the byte that program memory holds there. -/
def Instruction.effect (alu : Alu) (i : Instruction) (sig : Signature) (s : State) :
    Option State :=
  -- `t` reads the arguments; `u` has also stepped past the constant, if there is one
  let t := s.advance
  let u := if sig.any (·.kind == .constant) then t.advance else t
  match i, sig with
  | .add, [x] => do
    let v ← x.read t
    let r := alu addSelect (s.regs .acc) v
    pure { u.setReg .acc r.1 with flags := r.2 }
  | .copy, [x, y] | .load, [x, y] | .set, [y, x] => do
    let v ← x.read t
    let d ← Module.named y.value
    pure (u.setReg d v)
  | .jump, [x] =>
    if x.kind = .module ∧ x.memory = true then do
      let m ← Module.named x.value
      pure (t.setReg .pc (s.data (s.prog (t.regs m))))
    else do
      pure (u.setReg .pc (← x.read t))
  | .jumpIfOverflow, [x] =>
    if Flag.carryBorrow.isSet (flagBits s.flags) then do
      pure (u.setReg .pc (← x.read t))
    else pure u
  | _, _ => none

end ByteMachine
