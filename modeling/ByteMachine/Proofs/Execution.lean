import ByteMachine.Proofs.Microprogram
/- The microcode memory runs the instructions as documented.

   1. Reading a control word (`lines_fill`): a line of a template's word is high where its
      merged control pattern fixes a 1, so the word asks for the transfer of the pattern.
   2. The table of forms, checked by running it (`forms_faithful`): the steps of every form ask
      for its transfers (`Instruction.transfers`), none of which touches the instruction
      register or, for a conditional jump, the flags; the last alone resets the step counter.
      The fetch cycle's words ask for `fetchTransfers` (`fetch_decodes`).
   3. Running words (`run_of_meets`): words that ask for a list of transfers, the last alone
      resetting the counter, apply them in order. From step 0, with the byte of a form at the
      program counter, the machine meets the fetch cycle's words and then the form's own
      (`meets_instruction`), and so runs their transfers (`execute_form`).
   4. The main statement (`machineBytes_execute`): every line that assembles runs, on every
      datapath state and every arithmetic unit, as its instruction is documented to, and
      completes with the step counter reset. -/
namespace ByteMachine

open Assembly Microcode Operation

namespace Numeral

theorem exists_digitChar_of_mem_toDigits {b n : Nat} {c : Char} (hb : 1 < b)
    (h : c ∈ Nat.toDigits b n) : ∃ d < b, c = d.digitChar := by
  induction n using Nat.strongRecOn with
  | ind n ih =>
    rw [Nat.toDigits_eq_if hb] at h
    split at h
    · exact ⟨n, ‹_›, List.mem_singleton.mp h⟩
    · rcases List.mem_append.mp h with h | h
      · exact ih (n / b) (Nat.div_lt_self (by omega) hb) h
      · exact ⟨n % b, Nat.mod_lt _ (by omega), List.mem_singleton.mp h⟩

end Numeral

namespace Machine

/-! ## Binary digits -/

theorem digitChar_two {d : Nat} (h : d < 2) : d.digitChar = '0' ∨ d.digitChar = '1' := by
  rcases (by omega : d = 0 ∨ d = 1) with rfl | rfl <;> simp

theorem mem_toDigits_two {n : Nat} {c : Char} (h : c ∈ Nat.toDigits 2 n) :
    c = '0' ∨ c = '1' := by
  obtain ⟨d, hd, rfl⟩ := Numeral.exists_digitChar_of_mem_toDigits (by decide) h
  exact digitChar_two hd

theorem binary_bits {n w : Nat} (hw : 0 < w) (h : n < Nat.pow 2 w) :
    IsBits (Word.binary n w) w := by
  have hlen : (Nat.toDigits 2 n).length ≤ w := (Nat.length_toDigits_le_iff (by decide) hw).mpr h
  have hform : Word.binary n w =
      String.ofList (List.replicate (w - (Nat.toDigits 2 n).length) '0' ++ Nat.toDigits 2 n) := by
    have hpos : ¬((n : Int) < 0) := by omega
    simp [Word.binary, Word.padded, hpos]
  rw [hform]
  refine ⟨?_, fun x hx => ?_⟩
  · simp; omega
  · simp only [String.toList_ofList, List.mem_append, List.mem_replicate] at hx
    rcases hx with ⟨-, rfl⟩ | hx
    · exact .inl rfl
    · exact mem_toDigits_two hx

theorem byteBits_bits (v : BitVec 8) : IsBits (byteBits v) 8 := binary_bits (by decide) v.isLt

theorem flagBits_bits (f : BitVec 4) : IsBits (flagBits f) 4 := binary_bits (by decide) f.isLt

/-! ## Reading a control word -/

/-- A line of a filled pattern is high where the pattern fixes a 1. -/
theorem lines_fill (d : Bitdef) :
    lines (d.fill "0") = fun p => d.cells[p]? == some (.fixed '1') := by
  funext p
  rw [lines, Bitdef.toList_fill_zero, List.getElem?_map]
  cases d.cells[p]? with
  | none => rfl
  | some c => cases c <;> simp [Cell.zeroFill]

/-- The transfer that a control pattern asks for, its open lines low. -/
def Transfer.ofPattern (d : Bitdef) : Transfer :=
  Transfer.ofLines fun p => d.cells[p]? == some (.fixed '1')

end Machine

open Machine

/-! ## The table of forms -/

/-- What the table of forms is checked for, form by form: the merged control pattern of each
step asks for the form's transfer of that step; the transfers leave the instruction register
alone, and for a conditional jump the flags, and only the last resets the step counter; every
module an argument names is a register, and SET does not name the program counter. -/
structure Form.Faithful (φ : Form) : Prop where
  transfers : ∃ Ts ∈ φ.instruction.transfers φ.signature φ.carry,
    (∀ T ∈ Ts, Module.ir ∉ T.latches ∧
      (φ.instruction = .jumpIfOverflow → T.storeFlags = false)) ∧
    (∀ j (hj : j < Ts.length), Ts[j].reset = decide (j + 1 = Ts.length)) ∧
    Returns (φ.instruction.steps φ.signature φ.carry) fun s => s.length = Ts.length ∧
      ∀ j (hj : j < s.length), Returns (Bitdef.merge
        (if j + 1 = s.length then s[j] ++ [Signal.stepReset.bitdef] else s[j]))
        fun d => some (Transfer.ofPattern d) = Ts[j]?
  registers : ∀ a ∈ φ.signature, a.kind = .module →
    ∃ m ∈ Module.registers, Module.named a.value = some m
  set : φ.instruction = .set → ∀ a ∈ φ.signature, Module.named a.value ≠ some .pc

instance (φ : Form) : Decidable φ.Faithful :=
  decidable_of_iff (_ ∧ _ ∧ _) ⟨fun ⟨a, b, c⟩ => ⟨a, b, c⟩, fun ⟨a, b, c⟩ => ⟨a, b, c⟩⟩

theorem forms_faithful : ∀ φ ∈ Form.all, φ.Faithful := by
  decide +kernel

theorem fetch_decodes :
    Returns fetchMicrocode fun (fs : List Template) =>
      fs.map (fun t => Transfer.ofLines (lines t.data)) = fetchTransfers := by
  decide +kernel

namespace Machine

open Transfer

/-! ## Running words -/

/-- From `s` on, the memory's words ask for the transfers `Ts` in order, the last alone resetting
the step counter. -/
def Meets (rom : Array RomEntry) (alu : Alu) : State → List Transfer → Prop
  | _, [] => False
  | s, [T] => Transfer.ofLines (lines (s.word rom)) = T ∧ T.reset = true
  | s, T :: U :: Us => Transfer.ofLines (lines (s.word rom)) = T ∧ T.reset = false ∧
      Meets rom alu (T.apply alu s) (U :: Us)

/-- Running words that ask for `Ts` applies `Ts` and ends with the step counter reset, as long
as the counter can count them. -/
theorem run_of_meets {rom : Array RomEntry} {alu : Alu} :
    ∀ (Ts : List Transfer) (s : State) (n : Nat), Meets rom alu s Ts → s.step + Ts.length ≤ 8 →
      Ts.length ≤ n → run rom alu n s = applyAll alu Ts s ∧ (applyAll alu Ts s).step = 0
  | [], _, _, h, _, _ => h.elim
  | [_], _, 0, _, _, hn => absurd hn (by simp)
  | [T], s, n + 1, ⟨hT, hr⟩, _, _ => by
    have hstep : (T.apply alu s).step = 0 := by rw [Transfer.apply_step, hr, if_pos rfl]
    simp only [run, State.next, hT, hstep, if_pos, applyAll_cons, applyAll_nil, and_self]
  | _ :: _ :: _, _, 0, _, _, hn => absurd hn (by simp)
  | T :: U :: Us, s, n + 1, ⟨hT, hr, hm⟩, hs, hn => by
    simp only [List.length_cons] at hs hn
    -- the counter counts on from a step below 7, so it does not wrap to 0
    have hstep : (T.apply alu s).step = s.step + 1 := by
      rw [Transfer.apply_step, hr, if_neg Bool.false_ne_true, Nat.mod_eq_of_lt (by omega)]
    simp only [run, State.next, hT, hstep, Nat.add_one_ne_zero, if_false, applyAll_cons]
    exact run_of_meets (U :: Us) _ n hm (by simp only [List.length_cons]; omega)
      (by simp only [List.length_cons]; omega)

section Words
variable {rom : Array RomEntry} {lts : List Template} (hrom : fullRom = .ok rom)
  (hlts : languageTemplates = .ok lts) {φ : Form} (hφ : φ ∈ Form.all) {enc : List Bitdef}
  (henc : φ.instruction.encoding φ.signature = .ok enc) {ib : Bitdef}
  (hib : Bitdef.instructionByte enc = .ok ib) {Ts : List Transfer}
  (hTs : φ.instruction.transfers φ.signature φ.carry = some Ts)
include hrom hlts hφ henc hib hTs

omit hrom hlts henc hib in
/-- The table check, read at the form's transfers `Ts`. -/
theorem transfers_checked :
    (∀ T ∈ Ts, Module.ir ∉ T.latches ∧
      (φ.instruction = .jumpIfOverflow → T.storeFlags = false)) ∧
    (∀ j (hj : j < Ts.length), Ts[j].reset = decide (j + 1 = Ts.length)) ∧
    Returns (φ.instruction.steps φ.signature φ.carry) fun s => s.length = Ts.length ∧
      ∀ j (hj : j < s.length), Returns (Bitdef.merge
        (if j + 1 = s.length then s[j] ++ [Signal.stepReset.bitdef] else s[j]))
        fun d => some (Transfer.ofPattern d) = Ts[j]? := by
  obtain ⟨⟨Ts', hTs', hchecked⟩, -, -⟩ := forms_faithful φ hφ
  rw [hTs, Option.mem_def, Option.some.injEq] at hTs'
  exact hTs' ▸ hchecked

/-- At one of the form's own steps, under flags that select the form, the word of a state whose
instruction register holds the form's byte asks for the form's transfer of that step. -/
theorem word_of_form {t : State} (hir : byteBits (t.regs .ir) = ib.toString)
    (hc : φ.instruction = .jumpIfOverflow → φ.carry = Flag.carryBorrow.isSet (flagBits t.flags))
    {j : Nat} (hj : j < Ts.length) (hstep : t.step = j + 2) :
    Transfer.ofLines (lines (t.word rom)) = Ts[j] := by
  obtain ⟨ts, hts, hw⟩ := Form.words hrom hlts hφ henc hib (flagBits_bits t.flags) hc
  obtain ⟨_, s, _, -, hs, -, hlen, -, hsteps⟩ := Form.templates_eq_ok hts
  obtain ⟨s', hs', hslen, hmerge⟩ := (transfers_checked hφ hTs).2.2
  rw [hs, Except.ok.injEq] at hs'
  subst hs'
  have hjs : j < s.length := by omega
  have hjt : j < ts.length := by omega
  obtain ⟨ctl, hctl, -, d, hd, hdata⟩ := hsteps j ts[j] (List.getElem?_eq_getElem hjt)
  obtain ⟨-, hword, -⟩ := hw.steps j ts[j] (List.getElem?_eq_getElem hjt)
  obtain ⟨d', hd', hpat⟩ := hmerge j hjs
  rw [List.getElem?_eq_getElem hjs, Option.some.injEq] at hctl
  subst hctl
  rw [hd, Except.ok.injEq] at hd'
  subst hd'
  have haddr : t.address = stepAddress ib.toString (flagBits t.flags) (j + 2) := by
    rw [State.address, hir, hstep]
  rw [List.getElem?_eq_getElem hj, Option.some.injEq] at hpat
  rw [State.word, haddr, hword, Option.getD_some, hdata, lines_fill]
  exact hpat

omit hrom hlts henc hib in
/-- The form's transfers as the table check finds them: none latches the instruction register,
none of a conditional jump stores the flags, and the last alone resets the step counter; there
are one to six of them. -/
theorem transfers_spec :
    (∀ T ∈ Ts, Module.ir ∉ T.latches ∧
      (φ.instruction = .jumpIfOverflow → T.storeFlags = false)) ∧
    (∀ j (hj : j < Ts.length), Ts[j].reset = decide (j + 1 = Ts.length)) ∧
    0 < Ts.length ∧ Ts.length ≤ 6 := by
  obtain ⟨hkeep, hreset, s, hs, hslen, -⟩ := transfers_checked hφ hTs
  obtain ⟨ts, hts, -⟩ := (Form.forms_sound φ hφ).templates
  obtain ⟨_, s', _, -, hs', -, -, hsix, -⟩ := Form.templates_eq_ok hts
  obtain ⟨s'', hs'', hne, -⟩ := (Form.forms_sound φ hφ).steps
  rw [hs] at hs' hs''
  cases hs'
  cases hs''
  exact ⟨hkeep, hreset, hslen ▸ List.length_pos_iff.mpr hne, hslen ▸ hsix⟩

omit hrom hlts henc hib in
/-- What the form's transfers leave alone: the instruction register, and for a conditional jump the
flags that select it. -/
theorem transfers_keep (alu : Alu) {t : State} {T : Transfer} (hT : T ∈ Ts) :
    (T.apply alu t).regs .ir = t.regs .ir ∧
      (φ.instruction = .jumpIfOverflow → (T.apply alu t).flags = t.flags) := by
  obtain ⟨hir, hfl⟩ := (transfers_spec hφ hTs).1 T hT
  exact ⟨by simp [Transfer.apply, hir], fun hj => by simp [Transfer.apply, hfl hj]⟩

/-- From the form's step `j + 2` on, the words ask for the rest of the form's transfers. -/
theorem meets_drop (alu : Alu) (k : Nat) :
    ∀ j (t : State), j + k + 1 = Ts.length → byteBits (t.regs .ir) = ib.toString →
      (φ.instruction = .jumpIfOverflow →
        φ.carry = Flag.carryBorrow.isSet (flagBits t.flags)) →
      t.step = j + 2 → Meets rom alu t (Ts.drop j) := by
  obtain ⟨-, hreset, -, hsix⟩ := transfers_spec hφ hTs
  -- induction on the number of transfers after the one of step `j + 2`
  induction k with
  | zero =>
    intro j t hlen hir hc hstep
    have hj : j < Ts.length := by omega
    rw [List.drop_eq_getElem_cons hj, List.drop_eq_nil_of_le (by omega)]
    exact ⟨word_of_form hrom hlts hφ henc hib hTs hir hc hj hstep,
      by rw [hreset j hj]; simp; omega⟩
  | succ k ih =>
    intro j t hlen hir hc hstep
    have hj : j < Ts.length := by omega
    have hj' : j + 1 < Ts.length := by omega
    obtain ⟨hkeep, hflags⟩ := transfers_keep hφ hTs alu (t := t) (List.getElem_mem hj)
    have hlast : Ts[j].reset = false := by rw [hreset j hj]; simp; omega
    rw [List.drop_eq_getElem_cons hj, List.drop_eq_getElem_cons hj']
    refine ⟨word_of_form hrom hlts hφ henc hib hTs hir hc hj hstep, hlast, ?_⟩
    rw [← List.drop_eq_getElem_cons hj']
    refine ih (j + 1) _ (by omega) (hkeep ▸ hir) (fun hi => hflags hi ▸ hc hi) ?_
    rw [Transfer.apply_step, hlast, if_neg Bool.false_ne_true, hstep, Nat.mod_eq_of_lt (by omega)]

/-- The words met from step 0 on: the fetch cycle's, then the form's own. -/
theorem meets_instruction (alu : Alu) {s : State} (hs : s.step = 0)
    (hb : byteBits (s.prog (s.regs .pc)) = ib.toString)
    (hc : φ.instruction = .jumpIfOverflow →
      φ.carry = Flag.carryBorrow.isSet (flagBits s.flags)) :
    Meets rom alu s (fetchTransfers ++ Ts) := by
  obtain ⟨-, -, hpos, -⟩ := transfers_spec hφ hTs
  obtain ⟨f₀, f₁, hfetch, ⟨-, h₀⟩, ⟨-, h₁⟩⟩ :=
    fetch_words hrom hlts (byteBits_bits (s.regs .ir)) (flagBits_bits s.flags)
  obtain ⟨fs, hfs, hdec⟩ := fetch_decodes
  rw [hfetch, Except.ok.injEq] at hfs
  subst hfs
  simp only [List.map_cons, List.map_nil, fetchTransfers, List.cons.injEq] at hdec
  obtain ⟨hd₀, hd₁, -⟩ := hdec
  obtain ⟨U, Us, hUs⟩ := List.exists_cons_of_length_pos hpos
  -- the first fetch step leaves the instruction register and the flags alone
  have h₁' : ((move .pc [.mar]).apply alu s).word rom = f₁.data := by
    rw [State.word, State.address, apply_move alu s (by decide) (by decide)]
    simp [hs, h₁]
  have hfetched := applyAll_fetch alu s
  simp only [fetchTransfers, applyAll_cons, applyAll_nil] at hfetched
  rw [hUs]
  refine ⟨by rw [State.word, State.address, hs, h₀, Option.getD_some, hd₀], rfl,
    by rw [h₁', hd₁], rfl, ?_⟩
  rw [hfetched, ← hUs, ← List.drop_zero (l := Ts)]
  refine meets_drop hrom hlts hφ henc hib hTs alu (Ts.length - 1) 0 _ (by omega) ?_ hc ?_
  · simpa [State.fetched] using hb
  · simp [State.fetched, hs]

/-- One instruction runs its form's transfers: from step 0, with the form's byte at the program
counter and flags that select the form, the machine applies the fetch cycle's transfers and then
the form's, and ends with the step counter reset. -/
theorem execute_form (alu : Alu) {s : State} (hs : s.step = 0)
    (hb : byteBits (s.prog (s.regs .pc)) = ib.toString)
    (hc : φ.instruction = .jumpIfOverflow →
      φ.carry = Flag.carryBorrow.isSet (flagBits s.flags)) :
    execute rom alu s = applyAll alu (fetchTransfers ++ Ts) s ∧
      (applyAll alu (fetchTransfers ++ Ts) s).step = 0 := by
  obtain ⟨-, -, -, hsix⟩ := transfers_spec hφ hTs
  refine run_of_meets _ s 8 (meets_instruction hrom hlts hφ henc hib hTs alu hs hb hc) ?_ ?_ <;>
    simp [fetchTransfers, hs] <;> omega

end Words

end Machine

open Transfer

/-- A line that assembles to bytes matched an
instruction and one of its signatures, and its first byte is `b`. With `b` at the program counter
and the step counter at 0, whatever the other registers, flags and memories hold and whatever the
arithmetic unit computes, running the memory's words until the step counter is reset does to the
registers, flags and memories what `Instruction.effect` says the instruction does. -/
theorem machineBytes_execute {line : String} {bs : List CodeByte}
    (h : machineBytes line = .ok bs) :
    ∃ rom, fullRom = .ok rom ∧
      ∃ (i : Instruction) (args : List String) (sig parsed : Signature) (b : String)
        (rest : List CodeByte),
        tokens line = i.name :: args ∧ sig ∈ i.signatures ∧ acceptArgs sig args = some parsed ∧
        bs = CodeByte.instruction b :: rest ∧
        ∀ (alu : Alu) (s : State), s.step = 0 → byteBits (s.prog (s.regs .pc)) = b →
          ∃ e, i.effect alu sig s = some e ∧ (execute rom alu s).step = 0 ∧
            (execute rom alu s).Agrees e := by
  obtain ⟨rom, hrom⟩ := fullRom_ok
  obtain ⟨lts, hlts⟩ := languageTemplates_ok
  obtain ⟨i, args, sig, parsed, enc, ib, rest, htok, hsig, hacc, -, henc, hib, rfl⟩ :=
    machineBytes_signature h
  refine ⟨rom, hrom, i, args, sig, parsed, _, rest, htok, hsig, hacc, rfl, fun alu s hs hb => ?_⟩
  obtain ⟨c, hc, hφ, -⟩ := Form.exists_selected hsig (flagBits s.flags)
  obtain ⟨⟨Ts, hTs, -⟩, hreg, hset⟩ := forms_faithful _ hφ
  obtain ⟨hrun, hstep⟩ := execute_form hrom hlts hφ henc hib hTs alu hs hb hc
  obtain ⟨e, he, hagrees⟩ := transfers_agree alu s hTs hreg hset hc
  exact ⟨e, he, hrun ▸ hstep, hrun ▸ hagrees⟩

theorem machineBytes_execute_jump_at_module :
    ∃ bs, machineBytes "JUMP [A]" = .ok bs ∧
      ∃ rom, fullRom = .ok rom ∧
        ∃ (i : Instruction) (args : List String) (sig parsed : Signature) (b : String)
          (rest : List CodeByte),
          tokens "JUMP [A]" = i.name :: args ∧ sig ∈ i.signatures ∧
          acceptArgs sig args = some parsed ∧ bs = CodeByte.instruction b :: rest ∧
          ∀ (alu : Alu) (s : State), s.step = 0 → byteBits (s.prog (s.regs .pc)) = b →
            ∃ e, i.effect alu sig s = some e ∧ (execute rom alu s).step = 0 ∧
              (execute rom alu s).Agrees e := by
  obtain ⟨bs, h⟩ : ∃ bs, machineBytes "JUMP [A]" = .ok bs := ⟨_, rfl⟩
  exact ⟨bs, h, machineBytes_execute h⟩

end ByteMachine
