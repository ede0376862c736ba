import ByteMachine.Proofs.Pipeline
import ByteMachine.Proofs.Rom
/- How the microcode memory decodes an instruction. A memory address is an
   instruction byte, four flag bits and a step number. The templates of a
   form cover the addresses of its byte, its flag values and its steps from
   2 on; the fetch cycle covers steps 0 and 1 of every byte.

   1. The table of forms, checked by running it (`keys_apart`, `forms_sound`):
      the address patterns of two forms fix some position to different bits;
      every form's byte pattern fixes exactly the eight byte positions; every
      form has a step, and none of its control patterns resets the step
      counter.
   2. No two templates of the language cover a common address
      (`nodup_addresses`), so the memory is built (`fullRom_ok`).
   3. The words of an assembled instruction (`machineBytes_rom_words`): under
      every flag value, the two fetch words, then one word for each template
      of the form that the line selects, the last one resetting the step
      counter, and no other template covering any of these addresses. -/
namespace ByteMachine

open Assembly Machine Microcode Operation

/-! ## Addresses -/

namespace Machine

/-- Whether `w` is `n` binary digits. -/
def IsBits (w : String) (n : Nat) : Prop := w.length = n ∧ ∀ x ∈ w.toList, x = '0' ∨ x = '1'

-- decided through `List.all`: a quantifier over the characters of a string would otherwise be
-- decided over every character there is
instance (w : String) (n : Nat) : Decidable (IsBits w n) :=
  decidable_of_iff (w.length = n ∧ w.toList.all (fun x => x == '0' || x == '1') = true)
    (by simp [IsBits])

/-- The address of step `s` of the instruction byte `b` under the flag bits `f`. -/
def stepAddress (b f : String) (s : Nat) : String := b ++ f ++ Word.binary s 3

/-- Whether the flag is set in the four flag bits `f` of an address. -/
def Flag.isSet (flag : Flag) (f : String) : Bool := f.toList[flag.entry.2 - 8]? == some '1'

theorem binary_step : ∀ s : Nat, s < 8 → IsBits (Word.binary s 3) 3 := by
  decide +kernel

theorem step_isBinary : ∀ s : Nat, s < 8 → (step s).isBinary = true := by
  decide +kernel

theorem length_step {s : Nat} (hs : s < 8) : (step s).length = 15 :=
  length_addressField _ _ (by rw [(binary_step s hs).1]; decide)

/-- Two steps below 8 fix some position of the step counter to different bits. -/
theorem step_apart :
    ∀ s : Nat, s < 8 → ∀ s' : Nat, s' < 8 → s ≠ s' → (step s).apart (step s') = true := by
  decide +kernel

theorem fixes_step {s p : Nat} {c : Char} :
    (step s).Fixes p c ↔ 12 ≤ p ∧ (Word.binary s 3).toList[p - 12]? = some c :=
  Bitdef.fixes_field

section
variable {b f : String} {s : Nat}

theorem stepAddress_bits (hb : IsBits b 8) (hf : IsBits f 4) (hs : s < 8) :
    IsBits (stepAddress b f s) 15 := by
  obtain ⟨hsl, hsb⟩ := binary_step s hs
  refine ⟨by simp [stepAddress, String.length_append, hb.1, hf.1, hsl], fun x hx => ?_⟩
  simp only [stepAddress, String.toList_append, List.mem_append] at hx
  rcases hx with (hx | hx) | hx
  exacts [hb.2 x hx, hf.2 x hx, hsb x hx]

/-- An address reads its byte, then its flags, then its step. -/
theorem getElem?_stepAddress (hb : b.length = 8) (hf : f.length = 4) (p : Nat) :
    (stepAddress b f s).toList[p]? =
      if p < 8 then b.toList[p]? else if p < 12 then f.toList[p - 8]?
      else (Word.binary s 3).toList[p - 12]? := by
  have hb' : b.toList.length = 8 := by rw [String.length_toList, hb]
  have hf' : f.toList.length = 4 := by rw [String.length_toList, hf]
  simp only [stepAddress, String.toList_append, List.append_assoc]
  split
  · rw [List.getElem?_append_left (by omega)]
  · rw [List.getElem?_append_right (by omega), hb']
    split
    · rw [List.getElem?_append_left (by omega)]
    · rw [List.getElem?_append_right (by omega), hf', Nat.sub_sub]

theorem step_admits (hb : IsBits b 8) (hf : IsBits f 4) (hs : s < 8) :
    (step s).Admits (stepAddress b f s).toList := by
  obtain ⟨hlen, hbits⟩ := stepAddress_bits hb hf hs
  rw [Bitdef.admits_iff (step_isBinary s hs)]
  refine ⟨?_, hbits, fun p c hpc => ?_⟩
  · rw [String.length_toList, hlen, length_step hs]
  · obtain ⟨hp, hc⟩ := fixes_step.mp hpc
    rw [getElem?_stepAddress hb.1 hf.1, if_neg (by omega), if_neg (by omega), hc]

theorem emptyAddress_admits {a : String} (ha : IsBits a 15) : emptyAddress.Admits a.toList := by
  have hbin : emptyAddress.isBinary = true := by decide
  rw [Bitdef.admits_iff hbin]
  refine ⟨by rw [String.length_toList, ha.1]; rfl, ha.2, fun p c hpc => ?_⟩
  simp [emptyAddress, Bitdef.dots, Bitdef.Fixes, List.getElem?_replicate] at hpc

theorem mem_emptyAddress {a : String} (ha : IsBits a 15) : a ∈ emptyAddress.collapse :=
  Bitdef.mem_collapse.mpr (emptyAddress_admits ha)

end

end Machine

/-! ## The table of forms -/

namespace Bitdef

/-- A byte pattern fixes the first eight positions of an address to bits and leaves the other
seven open. -/
def IsByte (b : Bitdef) : Prop :=
  (b.cells.take 8).length = 8 ∧ (∀ c ∈ b.cells.take 8, c = .fixed '0' ∨ c = .fixed '1') ∧
    b.cells.drop 8 = List.replicate 7 .wild

instance : DecidablePred IsByte := fun _ => inferInstanceAs (Decidable (_ ∧ _ ∧ _))

theorem IsByte.cells_eq {i : Bitdef} (hi : i.IsByte) :
    i.cells = i.cells.take 8 ++ List.replicate 7 .wild := by
  rw [← hi.2.2, List.take_append_drop]

theorem IsByte.isBinary {i : Bitdef} (hi : i.IsByte) : i.isBinary = true := by
  rw [Bitdef.isBinary, List.all_eq_true]
  intro c hc
  rw [hi.cells_eq, List.mem_append] at hc
  rcases hc with hc | hc
  · rcases hi.2.1 c hc with rfl | rfl <;> rfl
  · rw [List.eq_of_mem_replicate hc]; rfl

/-- The eight bits that a byte pattern fixes. -/
theorem IsByte.bits {i : Bitdef} (hi : i.IsByte) :
    IsBits (⟨i.cells.take 8⟩ : Bitdef).toString 8 := by
  obtain ⟨hlen, hcells, -⟩ := hi
  refine ⟨by rw [toString, String.length_ofList, List.length_map, hlen], fun x hx => ?_⟩
  simp only [toString, String.toList_ofList, List.mem_map] at hx
  obtain ⟨c, hc, rfl⟩ := hx
  rcases hcells c hc with rfl | rfl <;> simp [Cell.toChar]

/-- A byte pattern admits every address of the byte it fixes. -/
theorem IsByte.admits {i : Bitdef} (hi : i.IsByte) {f : String} (hf : IsBits f 4) {s : Nat}
    (hs : s < 8) : i.Admits (stepAddress (⟨i.cells.take 8⟩ : Bitdef).toString f s).toList := by
  have hb := hi.bits
  obtain ⟨halen, habits⟩ := stepAddress_bits hb hf hs
  rw [admits_iff hi.isBinary]
  refine ⟨by rw [String.length_toList, halen, length, hi.cells_eq]; simp [hi.1], habits,
    fun p c hpc => ?_⟩
  -- a fixed position is one of the eight of the byte, which the address starts with
  rw [Fixes, hi.cells_eq, List.getElem?_append, hi.1] at hpc
  by_cases hp : p < 8
  · rw [if_pos hp] at hpc
    rw [getElem?_stepAddress hb.1 hf.1, if_pos hp, toString, String.toList_ofList,
      List.getElem?_map, hpc]
    rfl
  · rw [if_neg hp] at hpc
    cases List.eq_of_mem_replicate (List.mem_of_getElem? hpc)

end Bitdef

namespace Form

/-- The address pattern of a form's templates before the step is added: its instruction byte
and its flag values. -/
def key (φ : Form) : Except Fault Bitdef := do
  let i ← Bitdef.merge (← φ.instruction.encoding φ.signature)
  Bitdef.merge [i, φ.instruction.flagPattern φ.carry]

/-- What the memory relies on, form by form. -/
structure Sound (φ : Form) : Prop where
  /-- Its templates are built. -/
  templates : Returns φ.templates fun _ => True
  /-- Its instruction byte is fixed to bits, and nothing else is. -/
  byte : Returns (φ.instruction.encoding φ.signature >>= Bitdef.merge) Bitdef.IsByte
  flags : (φ.instruction.flagPattern φ.carry).isBinary = true
  /-- It has a step, and no control pattern of its steps sets the step-counter reset. -/
  steps : Returns (φ.instruction.steps φ.signature φ.carry) fun s =>
    s ≠ [] ∧ ∀ ctl ∈ s, ∀ b ∈ ctl, b.cells[Signal.stepReset.position]? = some .wild

instance (φ : Form) : Decidable φ.Sound :=
  decidable_of_iff (Returns φ.templates (fun _ => True) ∧
      Returns (φ.instruction.encoding φ.signature >>= Bitdef.merge) Bitdef.IsByte ∧
      (φ.instruction.flagPattern φ.carry).isBinary = true ∧
      Returns (φ.instruction.steps φ.signature φ.carry) fun s =>
        s ≠ [] ∧ ∀ ctl ∈ s, ∀ b ∈ ctl, b.cells[Signal.stepReset.position]? = some .wild)
    ⟨fun ⟨a, b, c, d⟩ => ⟨a, b, c, d⟩, fun ⟨a, b, c, d⟩ => ⟨a, b, c, d⟩⟩

theorem forms_sound : ∀ φ ∈ Form.all, φ.Sound := by
  decide +kernel

/-- The address patterns of two forms of the
language fix some position to different bits: distinct instruction bytes, or the carry flag for
the two cases of a conditional jump. -/
theorem keys_apart :
    Form.all.Pairwise fun φ ψ =>
      Returns φ.key fun k => Returns ψ.key fun k' => k.apart k' = true := by
  decide +kernel

/-! ## The templates of a form -/

/-- A form's templates, one per step from step 2 on: the range combines the byte, flag and step
patterns, and the data the step's control patterns. -/
theorem templates_eq_ok {φ : Form} {ts : List Template} (h : φ.templates = .ok ts) :
    ∃ enc s i, φ.instruction.encoding φ.signature = .ok enc ∧
      φ.instruction.steps φ.signature φ.carry = .ok s ∧ Bitdef.merge enc = .ok i ∧
      ts.length = s.length ∧ s.length ≤ 6 ∧
      ∀ j t, ts[j]? = some t → ∃ ctl, s[j]? = some ctl ∧
        Bitdef.merge [i, φ.instruction.flagPattern φ.carry, step (j + 2)] = .ok t.range ∧
        ∃ d, Bitdef.merge (if j + 1 = s.length then ctl ++ [Signal.stepReset.bitdef] else ctl) =
          .ok d ∧ t.data = d.fill "0" := by
  simp only [templates, Instruction.templates, bind_eq_ok] at h
  obtain ⟨enc, henc, s, hs, h⟩ := h
  obtain ⟨hlen, hsix, i, hi, hstep⟩ := assemble_templates h
  refine ⟨enc, s, i, henc, hs, hi, hlen, hsix, fun j t ht => ?_⟩
  have hj : j < s.length := hlen ▸ (List.getElem?_eq_some_iff.mp ht).1
  exact ⟨s[j], List.getElem?_eq_getElem hj, hstep j s[j] t (List.getElem?_eq_getElem hj) ht⟩

theorem range_refines_step {φ : Form} {ts : List Template} (h : φ.templates = .ok ts) {j : Nat}
    {t : Template} (ht : ts[j]? = some t) : j < 6 ∧ t.range.Refines (step (j + 2)) := by
  obtain ⟨_, s, _, -, -, -, hlen, hsix, hstep⟩ := templates_eq_ok h
  obtain ⟨-, -, hrange, -⟩ := hstep j t ht
  have hj : j < ts.length := (List.getElem?_eq_some_iff.mp ht).1
  exact ⟨by omega, Bitdef.refines_of_mem_merge hrange (by simp)⟩

theorem range_refines_key {φ : Form} {ts : List Template} (h : φ.templates = .ok ts) {k : Bitdef}
    (hk : φ.key = .ok k) {t : Template} (ht : t ∈ ts) : t.range.Refines k := by
  obtain ⟨enc, _, i, henc, -, hi, -, -, hstep⟩ := templates_eq_ok h
  obtain ⟨j, hj⟩ := List.mem_iff_getElem?.mp ht
  obtain ⟨-, -, hrange, -⟩ := hstep j t hj
  -- the key combines the byte and flag patterns of the range, without its step
  simp only [key, bind_eq_ok] at hk
  obtain ⟨enc', henc', i', hi', hk⟩ := hk
  rw [henc, Except.ok.injEq] at henc'
  subst henc'
  rw [hi, Except.ok.injEq] at hi'
  subst hi'
  exact Bitdef.refines_merge hk hrange (by simp)

/-- The steps of one form are told apart by the step counter. -/
theorem pairwise_apart_templates {φ : Form} {ts : List Template} (h : φ.templates = .ok ts) :
    ts.Pairwise fun t u => t.range.apart u.range = true := by
  rw [List.pairwise_iff_getElem]
  intro a b ha hb hab
  obtain ⟨ha6, hta⟩ := range_refines_step h (List.getElem?_eq_getElem ha)
  obtain ⟨hb6, htb⟩ := range_refines_step h (List.getElem?_eq_getElem hb)
  exact hta.apart htb (step_apart (a + 2) (by omega) (b + 2) (by omega) (by omega))

end Form

/-! ## No address twice -/

theorem fetch_ranges : ∃ f₀ f₁, fetchMicrocode = .ok [f₀, f₁] ∧
    Bitdef.merge [emptyAddress, step 0] = .ok f₀.range ∧
    Bitdef.merge [emptyAddress, step 1] = .ok f₁.range :=
  ⟨_, _, rfl, rfl, rfl⟩

/-- The language's templates: those of the forms, in order, then the fetch cycle's. -/
theorem languageTemplates_eq_ok {lts : List Template} (h : languageTemplates = .ok lts) :
    ∃ tss fs, Form.all.mapM Form.templates = .ok tss ∧ fetchMicrocode = .ok fs ∧
      lts = tss.flatten ++ fs := by
  rw [languageTemplates_eq_forms] at h
  obtain ⟨tss, htss, fs, hfs, hlts⟩ := by simpa only [bind_eq_ok, pure_eq_ok] using h
  exact ⟨tss, fs, htss, hfs, hlts.symm⟩

theorem mem_languageTemplates_of_form {lts : List Template} (h : languageTemplates = .ok lts)
    {φ : Form} (hφ : φ ∈ Form.all) {ts : List Template} (hts : φ.templates = .ok ts)
    {t : Template} (ht : t ∈ ts) : t ∈ lts := by
  obtain ⟨tss, fs, htss, -, rfl⟩ := languageTemplates_eq_ok h
  exact List.mem_append_left _ (List.mem_flatten.mpr ⟨ts, mem_of_mapM_eq_ok htss hφ hts, ht⟩)

theorem mem_languageTemplates_of_fetch {lts : List Template} (h : languageTemplates = .ok lts)
    {fs : List Template} (hfs : fetchMicrocode = .ok fs) {t : Template} (ht : t ∈ fs) :
    t ∈ lts := by
  obtain ⟨tss, fs', -, hfs', rfl⟩ := languageTemplates_eq_ok h
  rw [hfs, Except.ok.injEq] at hfs'
  subst hfs'
  exact List.mem_append_right _ ht

/-- Two forms differ in their address
patterns, two steps of a form in the step counter, and the fetch cycle holds steps 0 and 1,
which no form uses. -/
theorem pairwise_apart_languageTemplates {lts : List Template} (h : languageTemplates = .ok lts) :
    lts.Pairwise fun t u => t.range.apart u.range = true := by
  obtain ⟨tss, fs, htss, hfs, rfl⟩ := languageTemplates_eq_ok h
  obtain ⟨f₀, f₁, hfetch, h₀, h₁⟩ := fetch_ranges
  rw [hfetch, Except.ok.injEq] at hfs
  subst hfs
  -- every template of a form lies on one of its steps from 2 on
  have hform : ∀ t ∈ tss.flatten, ∃ j, j < 6 ∧ t.range.Refines (step (j + 2)) := by
    intro t ht
    obtain ⟨ts, hts, ht⟩ := List.mem_flatten.mp ht
    obtain ⟨φ, -, hφ⟩ := exists_of_mem_mapM_eq_ok htss ts hts
    obtain ⟨j, hj⟩ := List.mem_iff_getElem?.mp ht
    exact ⟨j, Form.range_refines_step hφ hj⟩
  have hfetch₀ := Bitdef.refines_of_mem_merge h₀ (b := step 0) (by simp)
  have hfetch₁ := Bitdef.refines_of_mem_merge h₁ (b := step 1) (by simp)
  rw [List.pairwise_append, List.pairwise_flatten]
  refine ⟨⟨fun ts hts => ?_, ?_⟩, ?_, ?_⟩
  · -- the steps of one form
    obtain ⟨φ, -, hφ⟩ := exists_of_mem_mapM_eq_ok htss ts hts
    exact Form.pairwise_apart_templates hφ
  · -- two forms
    refine pairwise_of_mapM_eq_ok htss Form.keys_apart fun φ ψ ts us hφ hψ hkeys t ht u hu => ?_
    obtain ⟨k, hk, k', hk', hkk⟩ := hkeys
    exact (Form.range_refines_key hφ hk ht).apart (Form.range_refines_key hψ hk' hu) hkk
  · -- the two steps of the fetch cycle
    simpa using hfetch₀.apart hfetch₁ (step_apart 0 (by omega) 1 (by omega) (by omega))
  · -- a step of a form against a step of the fetch cycle
    intro t ht u hu
    obtain ⟨j, hj, htj⟩ := hform t ht
    rcases List.mem_pair.mp hu with rfl | rfl
    · exact htj.apart hfetch₀ (step_apart (j + 2) (by omega) 0 (by omega) (by omega))
    · exact htj.apart hfetch₁ (step_apart (j + 2) (by omega) 1 (by omega) (by omega))

theorem nodup_addresses {lts : List Template} (h : languageTemplates = .ok lts) :
    (lts.flatMap fun t => t.range.collapse).Nodup := by
  rw [List.nodup_flatMap]
  refine ⟨fun t _ => Bitdef.nodup_collapse _, (pairwise_apart_languageTemplates h).imp ?_⟩
  intro t u hap a hat hau
  exact Bitdef.not_admits_of_apart hap (Bitdef.mem_collapse.mp hat) (Bitdef.mem_collapse.mp hau)

theorem languageTemplates_ok : ∃ lts, languageTemplates = .ok lts := by
  obtain ⟨tss, htss⟩ := exists_mapM_eq_ok fun φ hφ => by
    obtain ⟨ts, hts, -⟩ := (Form.forms_sound φ hφ).templates
    exact ⟨ts, hts⟩
  obtain ⟨f₀, f₁, hfetch, -, -⟩ := fetch_ranges
  exact ⟨_, by rw [languageTemplates_eq_forms, htss, hfetch]; rfl⟩

/-- The check for an address given twice never fails. -/
theorem fullRom_ok : ∃ rom, fullRom = .ok rom := by
  obtain ⟨lts, hlts⟩ := languageTemplates_ok
  have hdup : hasDuplicates (collapseTemplates lts) = false := by
    rw [hasDuplicates_eq_false_iff]
    simpa [collapseTemplates, List.map_flatMap, Function.comp_def] using nodup_addresses hlts
  -- the table of all addresses is left as it is: only the check decides the outcome
  unfold fullRom
  rw [hlts]
  generalize emptyAddress.collapse = addresses
  simp only [bind, Except.bind, hdup, Bool.false_eq_true, ↓reduceIte, pure, Except.pure]
  exact ⟨_, rfl⟩

/-! ## The words of an instruction -/

theorem Instruction.flagPattern_admits {i : Instruction} {carry : Bool} {b f : String}
    (hc : i = .jumpIfOverflow → carry = Flag.carryBorrow.isSet f) (hb : IsBits b 8)
    (hf : IsBits f 4) {s : Nat} (hs : s < 8) (hbin : (i.flagPattern carry).isBinary = true) :
    (i.flagPattern carry).Admits (stepAddress b f s).toList := by
  obtain ⟨halen, habits⟩ := stepAddress_bits hb hf hs
  rw [Bitdef.admits_iff hbin]
  refine ⟨?_, habits, fun p x hpx => ?_⟩
  · rw [String.length_toList, halen]
    cases i <;> cases carry <;> rfl
  cases i
  case jumpIfOverflow =>
    -- the one fixed position is the carry flag, the third flag bit of the address
    obtain ⟨hp, hx⟩ := Bitdef.fixes_field.mp hpx
    have hstart : Flag.carryBorrow.entry.2 = 10 := rfl
    rw [hstart] at hp hx
    have hlt := (List.getElem?_eq_some_iff.mp hx).1
    have hp10 : p = 10 := by
      have : p - 10 < 1 := by cases carry <;> simpa using hlt
      omega
    subst hp10
    have hx0 : x = if carry then '1' else '0' := by cases carry <;> simpa using hx.symm
    have hf2 : 2 < f.toList.length := by rw [String.length_toList, hf.1]; omega
    have hy : f.toList[2]? = some (f.toList.get ⟨2, hf2⟩) := List.getElem?_eq_getElem hf2
    have hbit := hf.2 _ (List.mem_of_getElem? hy)
    have hcarry := hc rfl
    rw [getElem?_stepAddress hb.1 hf.1, if_neg (by omega), if_pos (by omega), hx0]
    rw [show 10 - 8 = 2 from rfl, hy]
    cases carry
    · -- a clear carry: the bit is not 1, so it is 0
      have hne : f.toList.get ⟨2, hf2⟩ ≠ '1' := by
        simpa [Flag.isSet, Flag.entry, hy] using hcarry
      rcases hbit with h0 | h1
      · rw [h0]; rfl
      · exact absurd h1 hne
    · have h1 : f.toList.get ⟨2, hf2⟩ = '1' := by
        simpa [Flag.isSet, Flag.entry, hy] using hcarry
      rw [h1]; rfl
  all_goals simp [Instruction.flagPattern, anyFlags, Bitdef.dots, Bitdef.Fixes,
    List.getElem?_replicate] at hpx

/-- The template `t` of `lts` covers the address `a`, and no other template of `lts` does. -/
def CoveredBy (lts : List Template) (a : String) (t : Template) : Prop :=
  t ∈ lts ∧ a ∈ t.range.collapse ∧ ∀ u ∈ lts, a ∈ u.range.collapse → u = t

/-- A template of the language that admits an address is the only one covering it, and the
memory holds its data there. -/
theorem covered_word {rom : Array RomEntry} (hrom : fullRom = .ok rom) {lts : List Template}
    (hlts : languageTemplates = .ok lts) {t : Template} (ht : t ∈ lts) {a : String}
    (ha : t.range.Admits a.toList) (hbits : IsBits a 15) :
    CoveredBy lts a t ∧ wordAt rom a = some t.data := by
  have hmem : a ∈ t.range.collapse := Bitdef.mem_collapse.mpr ha
  refine ⟨⟨ht, hmem, fun u hu hau => ?_⟩,
    fullRom_word hrom hlts ht hmem (mem_emptyAddress hbits)⟩
  by_contra hne
  -- distinct templates of the language are apart, whichever comes first
  have hpw := pairwise_apart_languageTemplates hlts
  have h₂ : lts.Pairwise fun x y : Template => x ≠ y → x.range.apart y.range = true :=
    hpw.imp fun {a b} h (_ : a ≠ b) => h
  have h₃ : lts.Pairwise (flip fun x y : Template => x ≠ y → x.range.apart y.range = true) :=
    hpw.imp fun {a b} h (_ : b ≠ a) => Bitdef.apart_comm h
  have hall := List.Pairwise.forall_of_forall_of_flip (fun _ _ h => absurd rfl h) h₂ h₃
  exact Bitdef.not_admits_of_apart (hall hu ht hne) (Bitdef.mem_collapse.mp hau) ha

/-- The fetch cycle's words: steps 0 and 1 of every instruction byte, under every flag value. -/
theorem fetch_words {rom : Array RomEntry} (hrom : fullRom = .ok rom) {lts : List Template}
    (hlts : languageTemplates = .ok lts) {b f : String} (hb : IsBits b 8) (hf : IsBits f 4) :
    ∃ f₀ f₁, fetchMicrocode = .ok [f₀, f₁] ∧
      (CoveredBy lts (stepAddress b f 0) f₀ ∧
        wordAt rom (stepAddress b f 0) = some f₀.data) ∧
      (CoveredBy lts (stepAddress b f 1) f₁ ∧
        wordAt rom (stepAddress b f 1) = some f₁.data) := by
  obtain ⟨f₀, f₁, hfetch, h₀, h₁⟩ := fetch_ranges
  -- a step of the fetch cycle admits every address of that step
  have hword : ∀ s t, s < 2 → t ∈ [f₀, f₁] →
      Bitdef.merge [emptyAddress, step s] = .ok t.range →
      CoveredBy lts (stepAddress b f s) t ∧ wordAt rom (stepAddress b f s) = some t.data := by
    intro s t hs ht hrange
    have hbits := stepAddress_bits hb hf (s := s) (by omega)
    refine covered_word hrom hlts (mem_languageTemplates_of_fetch hlts hfetch ht) ?_ hbits
    have hbin : ∀ p ∈ [emptyAddress, step s], p.isBinary = true := by
      intro p hp
      rcases List.mem_pair.mp hp with rfl | rfl
      · decide
      · exact step_isBinary s (by omega)
    refine (Bitdef.admits_merge hrange hbin).mpr fun p hp => ?_
    rcases List.mem_pair.mp hp with rfl | rfl
    · exact emptyAddress_admits hbits
    · exact step_admits hb hf (by omega)
  exact ⟨f₀, f₁, hfetch, hword 0 f₀ (by omega) (by simp) h₀,
    hword 1 f₁ (by omega) (by simp) h₁⟩

/-- What the memory holds for an instruction byte `b` under the flag bits `f`, whose own steps
are the templates `ts`: the fetch words at steps 0 and 1, then the data of the templates, one to
six of them, the last one alone resetting the step counter; and no other template of the
language covers any of these addresses. -/
structure InstructionWords (rom : Array RomEntry) (lts : List Template) (b f : String)
    (ts : List Template) : Prop where
  fetch : ∃ f₀ f₁, fetchMicrocode = .ok [f₀, f₁] ∧
    (CoveredBy lts (stepAddress b f 0) f₀ ∧ wordAt rom (stepAddress b f 0) = some f₀.data) ∧
    (CoveredBy lts (stepAddress b f 1) f₁ ∧ wordAt rom (stepAddress b f 1) = some f₁.data)
  length_pos : 1 ≤ ts.length
  length_le : ts.length ≤ 6
  steps : ∀ j t, ts[j]? = some t →
    CoveredBy lts (stepAddress b f (j + 2)) t ∧
    wordAt rom (stepAddress b f (j + 2)) = some t.data ∧
    t.data.toList[Signal.stepReset.position]? = some (if j + 1 = ts.length then '1' else '0')

/-- The step-counter reset in the word of a step: high when the step is the last, which adds
the reset pattern, and low when no pattern of the step touches it. -/
theorem reset_bit {ctl : List Bitdef}
    (hwild : ∀ b ∈ ctl, b.cells[Signal.stepReset.position]? = some .wild) (last : Prop)
    [Decidable last] {d : Bitdef}
    (hd : Bitdef.merge (if last then ctl ++ [Signal.stepReset.bitdef] else ctl) = .ok d) :
    (d.fill "0").toList[Signal.stepReset.position]? = some (if last then '1' else '0') := by
  rw [Bitdef.toList_fill_zero, List.getElem?_map]
  obtain ⟨b₀, hb₀, -, hdlen, hfix⟩ := Bitdef.fixes_merge hd
  by_cases hlast : last
  · -- the reset pattern fixes the line high
    have hset := (hfix Signal.stepReset.position '1').mpr
      ⟨Signal.stepReset.bitdef, by simp [hlast], by decide⟩
    rw [Bitdef.Fixes] at hset
    simp [hset, hlast, Cell.zeroFill]
  · simp only [hlast, ↓reduceIte] at hb₀ hfix ⊢
    have hlt : Signal.stepReset.position < d.cells.length := by
      rw [← Bitdef.length, hdlen]
      exact (List.getElem?_eq_some_iff.mp (hwild b₀ hb₀)).1
    rw [List.getElem?_eq_getElem hlt]
    -- the combined cell is open: a fixed one would come from a pattern of the step
    cases hc : d.cells[Signal.stepReset.position] with
    | wild => rfl
    | fixed c =>
      obtain ⟨b, hb, hbc⟩ :=
        (hfix _ c).mp (by rw [Bitdef.Fixes, List.getElem?_eq_getElem hlt, hc])
      rw [Bitdef.Fixes, hwild b hb] at hbc
      cases hbc

namespace Form

/-- The instruction byte of a form is the byte its pattern fixes. -/
theorem byte_eq {φ : Form} (hφ : φ ∈ Form.all) {enc : List Bitdef}
    (henc : φ.instruction.encoding φ.signature = .ok enc) {ib : Bitdef}
    (hib : Bitdef.instructionByte enc = .ok ib) :
    ∃ i, Bitdef.merge enc = .ok i ∧ i.IsByte ∧ ib = ⟨i.cells.take 8⟩ := by
  obtain ⟨i, hi, hbyte⟩ := (forms_sound φ hφ).byte
  rw [henc] at hi
  simp only [Bitdef.instructionByte, bind_eq_ok, pure_eq_ok] at hib
  obtain ⟨m, hm, rfl⟩ := hib
  have hi' : Bitdef.merge enc = .ok i := hi
  rw [hm, Except.ok.injEq] at hi'
  subst hi'
  exact ⟨_, hm, hbyte, rfl⟩

/-- The form that flag bits `f` select for an instruction and one of its signatures: a conditional
jump's carry case, the one case of the others. -/
theorem exists_selected {i : Instruction} {sig : Signature} (hsig : sig ∈ i.signatures)
    (f : String) :
    ∃ c, (i = .jumpIfOverflow → c = Flag.carryBorrow.isSet f) ∧
      (⟨i, sig, c⟩ : Form) ∈ Form.all ∧
      i.templates sig (Flag.carryBorrow.isSet f) = i.templates sig c := by
  by_cases hi : i = .jumpIfOverflow
  · subst hi
    refine ⟨_, fun _ => rfl, Form.mem_all hsig ?_, rfl⟩
    cases Flag.carryBorrow.isSet f <;> decide
  · have htrue : true ∈ i.carries := by cases i <;> simp [Instruction.carries]
    exact ⟨true, fun h => absurd h hi, Form.mem_all hsig htrue,
      Instruction.templates_carry hi _ _⟩

/-- Under flag bits that select the form, the memory holds the fetch
words and then, step by step, the data of the form's templates. -/
theorem words {rom : Array RomEntry} (hrom : fullRom = .ok rom) {lts : List Template}
    (hlts : languageTemplates = .ok lts) {φ : Form} (hφ : φ ∈ Form.all) {enc : List Bitdef}
    (henc : φ.instruction.encoding φ.signature = .ok enc) {ib : Bitdef}
    (hib : Bitdef.instructionByte enc = .ok ib) {f : String} (hf : IsBits f 4)
    (hc : φ.instruction = .jumpIfOverflow → φ.carry = Flag.carryBorrow.isSet f) :
    ∃ ts, φ.templates = .ok ts ∧ InstructionWords rom lts ib.toString f ts := by
  have hsound := forms_sound φ hφ
  obtain ⟨ts, hts, -⟩ := hsound.templates
  obtain ⟨enc', s, i, henc', hs, hi, hlen, hsix, hstep⟩ := templates_eq_ok hts
  rw [henc, Except.ok.injEq] at henc'
  subst henc'
  obtain ⟨i', hi', hbyte, rfl⟩ := byte_eq hφ henc hib
  rw [hi, Except.ok.injEq] at hi'
  subst hi'
  obtain ⟨s', hs', hne, hnoreset⟩ := hsound.steps
  rw [hs, Except.ok.injEq] at hs'
  subst hs'
  refine ⟨ts, hts, fetch_words hrom hlts hbyte.bits hf, ?_, by omega, fun j t ht => ?_⟩
  · rw [hlen]
    exact List.length_pos_iff.mpr hne
  obtain ⟨ctl, hctl, hrange, d, hd, hdata⟩ := hstep j t ht
  have hj : j < ts.length := (List.getElem?_eq_some_iff.mp ht).1
  have hbits := stepAddress_bits hbyte.bits hf (s := j + 2) (by omega)
  -- the range is the byte, flag and step patterns, each of which admits the address
  have hadm :
      t.range.Admits (stepAddress (⟨i.cells.take 8⟩ : Bitdef).toString f (j + 2)).toList := by
    have hbin :
        ∀ p ∈ [i, φ.instruction.flagPattern φ.carry, step (j + 2)], p.isBinary = true := by
      intro p hp
      simp only [List.mem_cons, List.not_mem_nil, or_false] at hp
      rcases hp with rfl | rfl | rfl
      exacts [hbyte.isBinary, hsound.flags, step_isBinary _ (by omega)]
    refine (Bitdef.admits_merge hrange hbin).mpr fun p hp => ?_
    simp only [List.mem_cons, List.not_mem_nil, or_false] at hp
    rcases hp with rfl | rfl | rfl
    · exact hbyte.admits hf (by omega)
    · exact Instruction.flagPattern_admits hc hbyte.bits hf (by omega) hsound.flags
    · exact step_admits hbyte.bits hf (by omega)
  obtain ⟨hcov, hword⟩ := covered_word hrom hlts
    (mem_languageTemplates_of_form hlts hφ hts (List.mem_of_getElem? ht)) hadm hbits
  refine ⟨hcov, hword, ?_⟩
  rw [hdata, hlen]
  exact reset_bit (hnoreset ctl (List.mem_of_getElem? hctl)) _ hd

end Form

/-- A line that assembles to bytes matched an instruction and one of its signatures, and its first
byte is the instruction byte of that signature's patterns, whatever constant the line holds. -/
theorem machineBytes_signature {line : String} {bs : List CodeByte}
    (h : machineBytes line = .ok bs) :
    ∃ (i : Instruction) (args : List String) (sig parsed : Signature) (enc : List Bitdef)
      (ib : Bitdef) (rest : List CodeByte),
      tokens line = i.name :: args ∧ sig ∈ i.signatures ∧ acceptArgs sig args = some parsed ∧
      i.parse line = .ok bs ∧ i.encoding sig = .ok enc ∧ Bitdef.instructionByte enc = .ok ib ∧
      bs = CodeByte.instruction ib.toString :: rest := by
  obtain ⟨i, hparse, hne⟩ := machineBytes_eq_ok h
  obtain ⟨parsed, hmatch, enc, ib, rest, henc, hib, rfl⟩ := i.parse_eq_ok hparse hne
  obtain ⟨args, htok, sig, hsig, hacc⟩ :=
    exists_signature_of_matchLine hmatch i.signatures_ne_nil
  exact ⟨i, args, sig, parsed, enc, ib, rest, htok, hsig, hacc, hparse,
    Instruction.encoding_of_fills hsig (fills_of_acceptArgs hacc) henc, hib, rfl⟩

/-- A line that assembles
to bytes matched an instruction and one of its signatures, and its first byte `b` is an
instruction byte. Under every four flag bits `f`, the memory holds at the steps of `b` and `f`
the fetch words, then the data of the templates of that instruction and signature, for a
conditional jump those of the case the carry flag selects; no other template of the language
covers these addresses, so building the memory finds no address twice. -/
theorem machineBytes_rom_words {line : String} {bs : List CodeByte}
    (h : machineBytes line = .ok bs) :
    ∃ rom lts, fullRom = .ok rom ∧ languageTemplates = .ok lts ∧
      ∃ (i : Instruction) (args : List String) (sig parsed : Signature) (b : String)
        (rest : List CodeByte),
        tokens line = i.name :: args ∧ sig ∈ i.signatures ∧ acceptArgs sig args = some parsed ∧
        i.parse line = .ok bs ∧ bs = CodeByte.instruction b :: rest ∧ IsBits b 8 ∧
        ∀ f, IsBits f 4 → ∃ ts, i.templates sig (Flag.carryBorrow.isSet f) = .ok ts ∧
          InstructionWords rom lts b f ts := by
  obtain ⟨rom, hrom⟩ := fullRom_ok
  obtain ⟨lts, hlts⟩ := languageTemplates_ok
  obtain ⟨i, args, sig, parsed, enc, ib, rest, htok, hsig, hacc, hparse, henc, hib, rfl⟩ :=
    machineBytes_signature h
  have htrue : true ∈ i.carries := by cases i <;> simp [Instruction.carries]
  obtain ⟨m, -, hbyte, rfl⟩ := Form.byte_eq (Form.mem_all hsig htrue) henc hib
  refine ⟨rom, lts, hrom, hlts, i, args, sig, parsed, _, rest, htok, hsig, hacc, hparse, rfl,
    hbyte.bits, fun f hf => ?_⟩
  obtain ⟨c, hc, hφ, htempl⟩ := Form.exists_selected hsig f
  obtain ⟨ts, hts, hwords⟩ := Form.words hrom hlts hφ henc hib hf hc
  exact ⟨ts, htempl.trans hts, hwords⟩

theorem machineBytes_rom_words_conditional_jump :
    ∃ bs, machineBytes "JUMP_IF_OVERFLOW_FLAG @end" = .ok bs ∧
      ∃ rom lts, fullRom = .ok rom ∧ languageTemplates = .ok lts ∧
        ∃ (i : Instruction) (args : List String) (sig parsed : Signature) (b : String)
          (rest : List CodeByte),
          tokens "JUMP_IF_OVERFLOW_FLAG @end" = i.name :: args ∧ sig ∈ i.signatures ∧
          acceptArgs sig args = some parsed ∧ i.parse "JUMP_IF_OVERFLOW_FLAG @end" = .ok bs ∧
          bs = CodeByte.instruction b :: rest ∧ IsBits b 8 ∧
          ∀ f, IsBits f 4 → ∃ ts, i.templates sig (Flag.carryBorrow.isSet f) = .ok ts ∧
            InstructionWords rom lts b f ts := by
  obtain ⟨bs, h⟩ : ∃ bs, machineBytes "JUMP_IF_OVERFLOW_FLAG @end" = .ok bs := ⟨_, rfl⟩
  exact ⟨bs, h, machineBytes_rom_words h⟩

end ByteMachine
