import ByteMachine.Bitdef
/- The control word. Each of the 32 positions of a microcode word drives
   one control line; a signal is a position together with the bit it puts
   there. Most signals set their line to 1; the arithmetic unit's function
   selects, its mode and carry lines, and the memory select line are
   written both ways, as the two signals that set 1 and 0.

   Signals are grouped by the module they belong to and are looked up by
   the module's name and the signal's name. `aluFunctions` lists the
   signal sets that choose an arithmetic function; of them only the sum
   `A_PLUS_B` is filled in. -/
namespace ByteMachine.Machine

/-- The number of positions of a control word. -/
def controlWidth : Nat := 32

/-- A control signal: a position of the control word and the bit it sets there. -/
structure Signal where
  position : Nat
  level : Bool
  deriving Repr, DecidableEq

/-- The control pattern that sets the signal's line and leaves all others open. -/
def Signal.bitdef (s : Signal) : Bitdef :=
  Bitdef.field controlWidth s.position (if s.level then "1" else "0")

namespace Signal

def accIn : Signal := ⟨0, true⟩
def accOut : Signal := ⟨1, true⟩
def aIn : Signal := ⟨2, true⟩
def aOut : Signal := ⟨3, true⟩
def bIn : Signal := ⟨4, true⟩
def bOut : Signal := ⟨5, true⟩
def cIn : Signal := ⟨6, true⟩
def cOut : Signal := ⟨7, true⟩
def aluStoreResult : Signal := ⟨8, true⟩
def aluStoreFlags : Signal := ⟨9, true⟩
def aluOut : Signal := ⟨10, true⟩
def aluAIsBus : Signal := ⟨11, true⟩
/-- Function select line `i` (0 to 3) of the arithmetic unit, high or low. -/
def aluSelect (i : Nat) (high : Bool) : Signal := ⟨12 + i, high⟩
/-- The arithmetic unit's mode line, high or low. -/
def aluMode (high : Bool) : Signal := ⟨16, high⟩
/-- The arithmetic unit's carry line: with carry, or without. -/
def aluCarry (withCarry : Bool) : Signal := ⟨17, withCarry⟩
def marIn : Signal := ⟨18, true⟩
def ramIn : Signal := ⟨19, true⟩
def ramOut : Signal := ⟨20, true⟩
/-- The memory select line: data memory when high, program memory when low. -/
def ramSelectData (data : Bool) : Signal := ⟨21, data⟩
def spIn : Signal := ⟨22, true⟩
def spOut : Signal := ⟨23, true⟩
def pcIn : Signal := ⟨24, true⟩
def pcOut : Signal := ⟨25, true⟩
def pcCount : Signal := ⟨26, true⟩
def irIn : Signal := ⟨27, true⟩
def stepReset : Signal := ⟨28, true⟩
def clockHalt : Signal := ⟨29, true⟩

end Signal

/-- The modules that control lines drive. -/
inductive Module where
  | acc | a | b | c | alu | mar | ram | sp | pc | ir | cu | clock
  deriving Repr, DecidableEq

/-- The name of each module. -/
def Module.name : Module → String
  | .acc => "ACC"
  | .a => "A"
  | .b => "B"
  | .c => "C"
  | .alu => "ALU"
  | .mar => "MAR"
  | .ram => "RAM"
  | .sp => "SP"
  | .pc => "PC"
  | .ir => "IR"
  | .cu => "CU"
  | .clock => "CLOCK"

/-- Every module, in table order. -/
def Module.all : List Module := [.acc, .a, .b, .c, .alu, .mar, .ram, .sp, .pc, .ir, .cu, .clock]

open Signal in
/-- The signals of each module, by name. -/
def Module.signals : Module → List (String × Signal)
  | .acc => [("IN", accIn), ("OUT", accOut)]
  | .a => [("IN", aIn), ("OUT", aOut)]
  | .b => [("IN", bIn), ("OUT", bOut)]
  | .c => [("IN", cIn), ("OUT", cOut)]
  | .alu =>
    [("STORE_RESULT", aluStoreResult), ("STORE_FLAGS", aluStoreFlags), ("OUT", aluOut),
     ("A_IS_BUS", aluAIsBus),
     ("S0_HIGH", aluSelect 0 true), ("S0_LOW", aluSelect 0 false),
     ("S1_HIGH", aluSelect 1 true), ("S1_LOW", aluSelect 1 false),
     ("S2_HIGH", aluSelect 2 true), ("S2_LOW", aluSelect 2 false),
     ("S3_HIGH", aluSelect 3 true), ("S3_LOW", aluSelect 3 false),
     ("M_HIGH", aluMode true), ("M_LOW", aluMode false),
     ("WITH_CARRY", aluCarry true), ("NO_CARRY", aluCarry false)]
  | .mar => [("IN", marIn)]
  | .ram =>
    [("IN", ramIn), ("OUT", ramOut), ("SEL_PROG_MEM", ramSelectData false),
     ("SEL_DATA_MEM", ramSelectData true)]
  | .sp => [("IN", spIn), ("OUT", spOut)]
  | .pc => [("IN", pcIn), ("OUT", pcOut), ("COUNT", pcCount)]
  | .ir => [("IN", irIn)]
  | .cu => [("STEP_RESET", stepReset)]
  | .clock => [("HALT", clockHalt)]

/-- The control pattern of signal `signal` of the module called `module`. -/
def control (module signal : String) : Except Fault Bitdef := do
  let some m := Module.all.find? fun m => m.name == module
    | throw (.missingKey module)
  let some s := m.signals.lookup signal
    | throw (.missingKey signal)
  pure s.bitdef

open Signal in
/-- The signal sets that choose a function of the arithmetic unit. -/
def aluFunctions : List (String × List Signal) :=
  [("A_PLUS_1", []),
   ("A_PLUS_B",
     [aluSelect 0 true, aluSelect 1 false, aluSelect 2 false, aluSelect 3 true,
      aluMode false, aluCarry false]),
   ("A_MINUS_B", []), ("A_PLUS_B_PLUS_1", []), ("A_MINUS_B_MINS_1", []),
   ("A_AND_B", []), ("A_OR_B", []), ("A_NAND_B", []), ("A_XOR_B", []), ("NOT_A", []),
   ("A_PLUS_A", []), ("A_PLUS_A_PLUS_1", []), ("COMPARE_LTE_GT_EQ", []),
   ("COMPARE_LT_GTE", []), ("A", []), ("ZERO", [])]

/-- The signals that make the arithmetic unit add its operands. -/
def addFunction : List Signal := ((aluFunctions.lookup "A_PLUS_B").getD [])

/-- The control word with every line low. -/
def controlsDefault : String := String.ofList (List.replicate controlWidth '0')

end ByteMachine.Machine
