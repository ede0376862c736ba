import ByteMachine.Proofs.Datapath
/- The register transfers that the microcode asks for, and what they do.

   1. A small vocabulary of transfers (`move`, `fromMemory`, `adding`, `counting`, `last`), each
      with its effect on the datapath as register updates (`apply_move`, `apply_fromMemory`,
      `apply_adding`, `apply_counting`).
   2. The fetch cycle (`fetchTransfers`), which leaves the instruction byte in the instruction
      register and the program counter on the next byte (`applyAll_fetch`).
   3. The transfers of each instruction form, step by step (`Instruction.transfers`), read
      from the operations' step lists.
   4. For each family of forms, the fetch cycle and the form's transfers agree with the
      instruction's documented effect (`copy_agrees`, ..., `skip_agrees`); `transfers_agree`
      takes a form to its family. -/
namespace ByteMachine

open Assembly Microcode

namespace Machine

namespace Transfer

/-- The transfer that asks for nothing. -/
def idle : Transfer :=
  ⟨[], [], false, false, false, false, [false, false, false, false, false, false], false, false⟩

/-- Module `src` drives the bus and the modules `dsts` latch it. -/
def move (src : Module) (dsts : List Module) : Transfer :=
  { idle with drivers := [src], latches := dsts }

/-- Memory answers at the address register, from data memory if `fromData`, and the modules `dsts`
latch it. -/
def fromMemory (fromData : Bool) (dsts : List Module) : Transfer :=
  { move .ram dsts with selectData := fromData }

/-- The transfer, with the arithmetic unit storing the sum of the accumulator and the bus. -/
def adding (T : Transfer) : Transfer :=
  { T with storeResult := true, storeFlags := true, select := addSelect }

/-- The transfer, with the program counter counting. -/
def counting (T : Transfer) : Transfer := { T with count := true }

/-- The transfer, with the step counter reset. -/
def last (T : Transfer) : Transfer := { T with reset := true }

variable (alu : Alu) (s : State)

@[simp] theorem bus_move (S : Module) (ds : List Module) :
    (move S ds).bus s = some (s.output false S) := rfl
@[simp] theorem bus_fromMemory (sel : Bool) (ds : List Module) :
    (fromMemory sel ds).bus s = some (s.output sel .ram) := rfl
@[simp] theorem bus_adding (T : Transfer) : T.adding.bus s = T.bus s := rfl
@[simp] theorem bus_counting (T : Transfer) : T.counting.bus s = T.bus s := rfl

theorem apply_last (T : Transfer) : T.last.apply alu s = { T.apply alu s with step := 0 } := rfl

/-- Counting comes after the transfer. -/
theorem apply_counting (T : Transfer) (h : T.count = false) :
    T.counting.apply alu s = (T.apply alu s).advance := by
  refine State.ext (funext fun m => ?_) rfl rfl rfl rfl
  by_cases hm : m = .pc
  · subst hm
    simp [apply, h]
    rfl
  · simp [apply, hm]
    rfl

/-- A transfer of the bus into one register, and nothing else. -/
theorem apply_single (T : Transfer) {D : Module} (hl : T.latches = [D]) (hD : D ≠ .ram)
    (hs : T.storeResult = false) (hf : T.storeFlags = false) (hc : T.count = false)
    (hr : T.reset = false) :
    T.apply alu s = { s.setReg D ((T.bus s).getD (s.regs D)) with step := (s.step + 1) % 8 } := by
  refine State.ext (funext fun m => ?_) ?_ ?_ ?_ ?_
  · by_cases hm : m = D <;> simp [apply, hl, hs, hc, hm]
  all_goals simp [apply, hl, hf, hr, Ne.symm hD]

/-- The arithmetic unit storing the sum of the accumulator and the bus, nothing latched. -/
theorem apply_adding (T : Transfer) (hl : T.latches = []) (ha : T.aIsBus = false)
    (hc : T.count = false) (hr : T.reset = false) :
    T.adding.apply alu s =
      { s.setReg .alu (alu addSelect (s.regs .acc) ((T.bus s).getD 0)).1 with
        flags := (alu addSelect (s.regs .acc) ((T.bus s).getD 0)).2,
        step := (s.step + 1) % 8 } := by
  refine State.ext (funext fun m => ?_) ?_ ?_ ?_ ?_ <;>
    simp only [apply, bus_adding] <;> simp [adding, hl, ha, hc, hr]

theorem apply_idle_counting : idle.counting.last.apply alu s = { s.advance with step := 0 } := by
  rw [apply_last, apply_counting _ _ _ rfl]
  refine State.ext (funext fun m => ?_) ?_ ?_ ?_ ?_ <;> simp [apply, idle]

theorem apply_move {S D : Module} (hS : S ≠ .ram) (hD : D ≠ .ram) :
    (move S [D]).apply alu s = { s.setReg D (s.regs S) with step := (s.step + 1) % 8 } := by
  rw [apply_single alu s _ rfl hD rfl rfl rfl rfl, bus_move, Option.getD_some,
    s.output_of_ne_ram _ hS]

theorem apply_fromMemory (sel : Bool) {D : Module} (hD : D ≠ .ram) :
    (fromMemory sel [D]).apply alu s =
      { s.setReg D (s.output sel .ram) with step := (s.step + 1) % 8 } := by
  rw [apply_single alu s _ rfl hD rfl rfl rfl rfl, bus_fromMemory, Option.getD_some]

/-- The transfers applied in order. -/
def applyAll (alu : Alu) (Ts : List Transfer) (s : State) : State :=
  Ts.foldl (fun t T => T.apply alu t) s

@[simp] theorem applyAll_nil : applyAll alu [] s = s := rfl
@[simp] theorem applyAll_cons (T : Transfer) (Ts : List Transfer) :
    applyAll alu (T :: Ts) s = applyAll alu Ts (T.apply alu s) := rfl
theorem applyAll_append (Ts Us : List Transfer) :
    applyAll alu (Ts ++ Us) s = applyAll alu Us (applyAll alu Ts s) := List.foldl_append

end Transfer

open Transfer

/-- The fetch cycle: the program counter addresses memory, then program memory drives the
instruction byte into the instruction register while the counter counts. -/
def fetchTransfers : List Transfer := [move .pc [.mar], (fromMemory false [.ir]).counting]

/-- The state after the fetch cycle. -/
def State.fetched (s : State) : State :=
  { ((s.setReg .mar (s.regs .pc)).setReg .ir (s.prog (s.regs .pc))).advance with
    step := (s.step + 2) % 8 }

theorem applyAll_fetch (alu : Alu) (s : State) : applyAll alu fetchTransfers s = s.fetched := by
  simp only [fetchTransfers, applyAll_cons, applyAll_nil,
    apply_move alu s (S := .pc) (D := .mar) (by decide) (by decide)]
  rw [apply_counting _ _ _ rfl, apply_fromMemory _ _ false (by decide)]
  refine State.ext (funext fun m => ?_) rfl ?_ rfl rfl
  · by_cases hm : m = .pc <;> simp [State.fetched, hm]
  · simp [State.fetched]

end Machine

open Machine Transfer

/-- The register transfers that the steps of the instruction with arguments `sig` ask for, from
step 2 on, in carry case `carry`. -/
def Instruction.transfers : Instruction → Signature → Bool → Option (List Transfer)
  | .add, [⟨.module, false, x⟩], _ =>
    (Module.named x).map fun X => [(move X []).adding, (move .alu [.acc]).last]
  | .add, [⟨.constant, false, _⟩], _ =>
    some [move .pc [.mar], (fromMemory false []).adding.counting, (move .alu [.acc]).last]
  | .copy, [⟨.module, false, x⟩, ⟨.module, false, y⟩], _ => do
    let X ← Module.named x
    let Y ← Module.named y
    pure [(move X [Y]).last]
  | .load, [⟨.module, true, x⟩, ⟨.module, false, y⟩], _ => do
    let X ← Module.named x
    let Y ← Module.named y
    pure [move X [.mar], (fromMemory true [Y]).last]
  | .load, [⟨.constant, true, _⟩, ⟨.module, false, y⟩], _ =>
    (Module.named y).map fun Y =>
      [move .pc [.mar], (fromMemory false [.mar]).counting, (fromMemory true [Y]).last]
  | .set, [⟨.module, false, y⟩, ⟨.constant, false, _⟩], _ =>
    (Module.named y).map fun Y => [move .pc [.mar], (fromMemory false [Y]).counting.last]
  | .jump, [⟨.module, false, x⟩], _ => (Module.named x).map fun X => [(move X [.pc]).last]
  | .jump, [⟨.constant, false, _⟩], _ => some [move .pc [.mar], (fromMemory false [.pc]).last]
  | .jump, [⟨.module, true, x⟩], _ =>
    (Module.named x).map fun X =>
      [move X [.mar], fromMemory false [.mar], (fromMemory true [.pc]).last]
  | .jump, [⟨.constant, true, _⟩], _ =>
    some [move .pc [.mar], fromMemory false [.mar], (fromMemory true [.pc]).last]
  | .jumpIfOverflow, [⟨.constant, false, _⟩], true =>
    some [move .pc [.mar], (fromMemory false [.pc]).last]
  | .jumpIfOverflow, [⟨.constant, false, _⟩], false => some [idle.counting.last]
  | _, _, _ => none

namespace Machine

/-! ## The families of forms -/

section Families
variable (alu : Alu) (s : State) {S D : Module}

/-! Each family runs the fetch cycle and then its transfers, rewritten one by one into register
updates; the side conditions (no transfer latches into memory, a plain transfer neither stores,
counts nor resets) are closed by the hypotheses or by running them. What is left is a comparison
of the registers a program can see, which differ from the documented state only in MAR and IR. -/

theorem copy_agrees (hS : S ∈ Module.registers) (hD : D ∈ Module.registers) :
    (applyAll alu (fetchTransfers ++ [(move S [D]).last]) s).Agrees
      (s.advance.setReg D (s.advance.regs S)) := by
  obtain ⟨hSm, hSi, -, hSr⟩ := Module.ne_of_mem_registers hS
  obtain ⟨-, -, -, hDr⟩ := Module.ne_of_mem_registers hD
  rw [applyAll_append, applyAll_fetch]
  simp (disch := first | assumption | decide) only [applyAll_cons, applyAll_nil, apply_last,
    apply_move]
  refine ⟨fun m hm => ?_, rfl, rfl, rfl⟩
  obtain ⟨hmm, hmi, -, -⟩ := Module.ne_of_mem_registers hm
  simp [State.fetched, hmm, hmi, hSm, hSi]

theorem loadModule_agrees (hS : S ∈ Module.registers) (hD : D ∈ Module.registers) :
    (applyAll alu (fetchTransfers ++ [move S [.mar], (fromMemory true [D]).last]) s).Agrees
      (s.advance.setReg D (s.data (s.advance.regs S))) := by
  obtain ⟨hSm, hSi, -, hSr⟩ := Module.ne_of_mem_registers hS
  obtain ⟨-, -, -, hDr⟩ := Module.ne_of_mem_registers hD
  rw [applyAll_append, applyAll_fetch]
  simp (disch := first | assumption | decide) only [applyAll_cons, applyAll_nil, apply_last,
    apply_move, apply_fromMemory]
  refine ⟨fun m hm => ?_, rfl, rfl, rfl⟩
  obtain ⟨hmm, hmi, -, -⟩ := Module.ne_of_mem_registers hm
  simp [State.fetched, hmm, hmi, hSm, hSi]

theorem loadConstant_agrees (hD : D ∈ Module.registers) :
    (applyAll alu (fetchTransfers ++
        [move .pc [.mar], (fromMemory false [.mar]).counting, (fromMemory true [D]).last]) s).Agrees
      (s.advance.advance.setReg D (s.data (s.prog (s.advance.regs .pc)))) := by
  obtain ⟨-, -, -, hDr⟩ := Module.ne_of_mem_registers hD
  rw [applyAll_append, applyAll_fetch]
  simp (disch := first | assumption | decide) only [applyAll_cons, applyAll_nil, apply_last,
    apply_move, apply_counting _ _ (fromMemory false [.mar]) rfl, apply_fromMemory]
  refine ⟨fun m hm => ?_, rfl, rfl, rfl⟩
  obtain ⟨hmm, hmi, -, -⟩ := Module.ne_of_mem_registers hm
  simp [State.fetched, hmm, hmi]

theorem set_agrees (hD : D ∈ Module.registers) (hpc : D ≠ .pc) :
    (applyAll alu (fetchTransfers ++
        [move .pc [.mar], (fromMemory false [D]).counting.last]) s).Agrees
      (s.advance.advance.setReg D (s.prog (s.advance.regs .pc))) := by
  obtain ⟨-, -, -, hDr⟩ := Module.ne_of_mem_registers hD
  rw [applyAll_append, applyAll_fetch]
  -- the counting transfer sits under the reset, where the rewrite needs its instance
  simp (disch := first | assumption | decide) only [applyAll_cons, applyAll_nil, apply_last,
    apply_move, apply_counting _ _ (fromMemory false [D]) rfl, apply_fromMemory]
  refine ⟨fun m hm => ?_, rfl, rfl, rfl⟩
  obtain ⟨hmm, hmi, -, -⟩ := Module.ne_of_mem_registers hm
  -- the constant goes to the destination while the counter steps past it
  by_cases hmD : m = D
  · subst hmD
    simp [State.fetched, hpc]
  · simp [State.fetched, hmm, hmi, hmD, Ne.symm hpc]

theorem addModule_agrees (hS : S ∈ Module.registers) :
    (applyAll alu (fetchTransfers ++ [(move S []).adding, (move .alu [.acc]).last]) s).Agrees
      { s.advance.setReg .acc (alu addSelect (s.regs .acc) (s.advance.regs S)).1 with
        flags := (alu addSelect (s.regs .acc) (s.advance.regs S)).2 } := by
  obtain ⟨hSm, hSi, -, hSr⟩ := Module.ne_of_mem_registers hS
  rw [applyAll_append, applyAll_fetch]
  simp (disch := first | assumption | decide) only [applyAll_cons, applyAll_nil, apply_last,
    apply_adding alu _ (move S []) rfl rfl rfl rfl, apply_move, bus_move, Option.getD_some]
  refine ⟨fun m hm => ?_, ?_, rfl, rfl⟩
  · obtain ⟨hmm, hmi, hma, -⟩ := Module.ne_of_mem_registers hm
    simp [State.fetched, State.output_of_ne_ram _ _ hSr, hmm, hmi, hma, hSm, hSi]
  · simp [State.fetched, State.output_of_ne_ram _ _ hSr, hSm, hSi]

theorem addConstant_agrees :
    (applyAll alu (fetchTransfers ++
        [move .pc [.mar], (fromMemory false []).adding.counting, (move .alu [.acc]).last]) s).Agrees
      { s.advance.advance.setReg .acc
          (alu addSelect (s.regs .acc) (s.prog (s.advance.regs .pc))).1 with
        flags := (alu addSelect (s.regs .acc) (s.prog (s.advance.regs .pc))).2 } := by
  rw [applyAll_append, applyAll_fetch]
  simp (disch := first | assumption | decide) only [applyAll_cons, applyAll_nil, apply_last,
    apply_move, apply_counting _ _ (fromMemory false []).adding rfl,
    apply_adding alu _ (fromMemory false []) rfl rfl rfl rfl, bus_fromMemory, Option.getD_some]
  refine ⟨fun m hm => ?_, ?_, rfl, rfl⟩
  · obtain ⟨hmm, hmi, hma, -⟩ := Module.ne_of_mem_registers hm
    simp [State.fetched, hmm, hmi, hma]
  · simp [State.fetched]

theorem jumpModule_agrees (hS : S ∈ Module.registers) :
    (applyAll alu (fetchTransfers ++ [(move S [.pc]).last]) s).Agrees
      (s.advance.setReg .pc (s.advance.regs S)) :=
  copy_agrees alu s hS (by decide)

theorem jumpConstant_agrees :
    (applyAll alu (fetchTransfers ++ [move .pc [.mar], (fromMemory false [.pc]).last]) s).Agrees
      (s.advance.advance.setReg .pc (s.prog (s.advance.regs .pc))) := by
  rw [applyAll_append, applyAll_fetch]
  simp (disch := first | assumption | decide) only [applyAll_cons, applyAll_nil, apply_last,
    apply_move, apply_fromMemory]
  refine ⟨fun m hm => ?_, rfl, rfl, rfl⟩
  obtain ⟨hmm, hmi, -, -⟩ := Module.ne_of_mem_registers hm
  -- the counter, stepped past the constant by the documented effect, is then overwritten
  by_cases hmp : m = .pc <;> simp [State.fetched, hmm, hmi, hmp]

theorem jumpConstantAt_agrees :
    (applyAll alu (fetchTransfers ++
        [move .pc [.mar], fromMemory false [.mar], (fromMemory true [.pc]).last]) s).Agrees
      (s.advance.advance.setReg .pc (s.data (s.prog (s.advance.regs .pc)))) := by
  rw [applyAll_append, applyAll_fetch]
  simp (disch := first | assumption | decide) only [applyAll_cons, applyAll_nil, apply_last,
    apply_move, apply_fromMemory]
  refine ⟨fun m hm => ?_, rfl, rfl, rfl⟩
  obtain ⟨hmm, hmi, -, -⟩ := Module.ne_of_mem_registers hm
  by_cases hmp : m = .pc <;> simp [State.fetched, hmm, hmi, hmp]

theorem jumpModuleAt_agrees (hS : S ∈ Module.registers) :
    (applyAll alu (fetchTransfers ++
        [move S [.mar], fromMemory false [.mar], (fromMemory true [.pc]).last]) s).Agrees
      (s.advance.setReg .pc (s.data (s.prog (s.advance.regs S)))) := by
  obtain ⟨hSm, hSi, -, hSr⟩ := Module.ne_of_mem_registers hS
  rw [applyAll_append, applyAll_fetch]
  simp (disch := first | assumption | decide) only [applyAll_cons, applyAll_nil, apply_last,
    apply_move, apply_fromMemory]
  refine ⟨fun m hm => ?_, rfl, rfl, rfl⟩
  obtain ⟨hmm, hmi, -, -⟩ := Module.ne_of_mem_registers hm
  simp [State.fetched, hmm, hmi, hSm, hSi]

theorem skip_agrees :
    (applyAll alu (fetchTransfers ++ [idle.counting.last]) s).Agrees s.advance.advance := by
  rw [applyAll_append, applyAll_fetch]
  simp only [applyAll_cons, applyAll_nil, apply_idle_counting]
  refine ⟨fun m hm => ?_, rfl, rfl, rfl⟩
  obtain ⟨hmm, hmi, -, -⟩ := Module.ne_of_mem_registers hm
  simp [State.fetched, hmm, hmi]

end Families

/-- The fetch cycle and a form's transfers do what the instruction is documented to do, on
what a program can see, given that every module the arguments name is a register, that SET does
not name the program counter, and that a conditional jump's carry case is the flags'. -/
theorem transfers_agree (alu : Alu) (s : State) {i : Instruction} {sig : Signature} {c : Bool}
    {Ts : List Transfer} (h : i.transfers sig c = some Ts)
    (hreg : ∀ a ∈ sig, a.kind = .module →
      ∃ m ∈ Module.registers, Module.named a.value = some m)
    (hset : i = .set → ∀ a ∈ sig, Module.named a.value ≠ some .pc)
    (hc : i = .jumpIfOverflow → c = Flag.carryBorrow.isSet (flagBits s.flags)) :
    ∃ e, i.effect alu sig s = some e ∧ (applyAll alu (fetchTransfers ++ Ts) s).Agrees e := by
  -- a module that an argument names is a register
  have hr : ∀ {a : ArgSpec} {X : Module}, a ∈ sig → a.kind = .module →
      Module.named a.value = some X → X ∈ Module.registers := by
    intro a X ha hk hX
    obtain ⟨m, hm, hm'⟩ := hreg a ha hk
    rw [hX, Option.some.injEq] at hm'
    exact hm' ▸ hm
  unfold Instruction.transfers at h
  split at h
  case h_1 x =>
    obtain ⟨X, hX, rfl⟩ := Option.map_eq_some_iff.mp h
    exact ⟨_, by simp [Instruction.effect, ArgSpec.read, hX],
      addModule_agrees alu s (hr List.mem_cons_self rfl hX)⟩
  case h_2 =>
    cases h
    exact ⟨_, by simp [Instruction.effect, ArgSpec.read], addConstant_agrees alu s⟩
  case h_3 x y =>
    simp only [Option.bind_eq_bind, Option.bind_eq_some_iff, Option.pure_def,
      Option.some.injEq] at h
    obtain ⟨X, hX, Y, hY, rfl⟩ := h
    exact ⟨_, by simp [Instruction.effect, ArgSpec.read, hX, hY],
      copy_agrees alu s (hr List.mem_cons_self rfl hX)
        (hr (List.mem_cons_of_mem _ List.mem_cons_self) rfl hY)⟩
  case h_4 x y =>
    simp only [Option.bind_eq_bind, Option.bind_eq_some_iff, Option.pure_def,
      Option.some.injEq] at h
    obtain ⟨X, hX, Y, hY, rfl⟩ := h
    exact ⟨_, by simp [Instruction.effect, ArgSpec.read, hX, hY],
      loadModule_agrees alu s (hr List.mem_cons_self rfl hX)
        (hr (List.mem_cons_of_mem _ List.mem_cons_self) rfl hY)⟩
  case h_5 y =>
    obtain ⟨Y, hY, rfl⟩ := Option.map_eq_some_iff.mp h
    exact ⟨_, by simp [Instruction.effect, ArgSpec.read, hY],
      loadConstant_agrees alu s (hr (List.mem_cons_of_mem _ List.mem_cons_self) rfl hY)⟩
  case h_6 y =>
    obtain ⟨Y, hY, rfl⟩ := Option.map_eq_some_iff.mp h
    have hpc : Y ≠ .pc := fun hYp => hset rfl _ List.mem_cons_self (hYp ▸ hY)
    exact ⟨_, by simp [Instruction.effect, ArgSpec.read, hY],
      set_agrees alu s (hr List.mem_cons_self rfl hY) hpc⟩
  case h_7 x =>
    obtain ⟨X, hX, rfl⟩ := Option.map_eq_some_iff.mp h
    exact ⟨_, by simp [Instruction.effect, ArgSpec.read, hX],
      jumpModule_agrees alu s (hr List.mem_cons_self rfl hX)⟩
  case h_8 =>
    cases h
    exact ⟨_, by simp [Instruction.effect, ArgSpec.read], jumpConstant_agrees alu s⟩
  case h_9 x =>
    obtain ⟨X, hX, rfl⟩ := Option.map_eq_some_iff.mp h
    exact ⟨_, by simp [Instruction.effect, hX],
      jumpModuleAt_agrees alu s (hr List.mem_cons_self rfl hX)⟩
  case h_10 =>
    cases h
    exact ⟨_, by simp [Instruction.effect, ArgSpec.read], jumpConstantAt_agrees alu s⟩
  case h_11 =>
    cases h
    exact ⟨_, by simp [Instruction.effect, ArgSpec.read, ← hc rfl], jumpConstant_agrees alu s⟩
  case h_12 =>
    cases h
    exact ⟨_, by simp [Instruction.effect, ← hc rfl], skip_agrees alu s⟩
  case h_13 => cases h


end Machine

end ByteMachine
