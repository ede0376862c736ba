import ByteMachine.Proofs.RomLayout
/- The steps of an instruction. Building an instruction's templates numbers
   its control steps from 2, since steps 0 and 1 fetch it, and adds the reset
   of the step counter to the last one. This module

   1. describes the templates exactly (`assemble_eq_ok_iff`): the `j`-th
      combines the instruction, flag and step-`j + 2` patterns into its
      address range, and the control patterns of step `j`, with the reset
      pattern on the last step, into its data, every open line low; and they
      are built whenever each of these combinations succeeds;
   2. reads the step numbers back from the ranges (`drop_step_field`), which
      are therefore pairwise disjoint (`collapse_disjoint_of_steps`), and the
      reset line from the data (`reset_line_eq_one_iff`);
   3. follows the control steps as the caller holds them
      (`assembleInPlace_snd`): building the last step appends the reset
      pattern to that step's own list, and nothing else is changed.

   The main statement is `assemble_numbered_steps`. -/
namespace ByteMachine.Microcode

open Machine

/-! ## The templates, step by step -/

section Steps

variable {i f : Bitdef} {last : Nat}

theorem stepTemplatesInPlace_fst (k : Nat) (S : List (List Bitdef)) :
    (stepTemplatesInPlace i f last k S).1 = stepTemplates i f last k S := by
  fun_induction stepTemplatesInPlace i f last k S with
  | case1 => rfl
  | case2 k ctl rest e hr => simp [stepTemplates, hr, bind, Except.bind]
  | case3 k ctl rest range hr ctl' e hd =>
    simp only [ctl'] at hd
    simp [stepTemplates, hr, hd, bind, Except.bind]
  | case4 k ctl rest range hr ctl' data hd more ih =>
    simp only [ctl'] at hd
    simp only [stepTemplates, hr, hd, bind, Except.bind, more, ih]
    cases stepTemplates i f last (k + 1) rest <;> rfl

/-- The templates of the steps from `k` on are built exactly when each is what its
step makes: the range combines the instruction, flag and step patterns, and the data the step's
control patterns, with the reset pattern on step `last`, every open line low. -/
theorem stepTemplates_eq_ok_iff {k : Nat} {ctls : List (List Bitdef)} {ts : List Template} :
    stepTemplates i f last k ctls = .ok ts ↔
      ts.length = ctls.length ∧ ∀ j ctl t, ctls[j]? = some ctl → ts[j]? = some t →
        Bitdef.merge [i, f, step (k + j)] = .ok t.range ∧
        ∃ d, Bitdef.merge (if k + j = last then ctl ++ [Signal.stepReset.bitdef] else ctl) = .ok d ∧
          t.data = d.fill "0" := by
  refine ⟨stepTemplates_eq_ok, ?_⟩
  rintro ⟨hlen, h⟩
  induction ctls generalizing k ts with
  | nil =>
    rw [List.length_nil, List.length_eq_zero_iff] at hlen
    subst hlen
    rfl
  | cons ctl rest ih =>
    obtain ⟨t, ts, rfl⟩ := List.exists_cons_of_length_eq_add_one hlen
    obtain ⟨hr, d, hd, ht⟩ := h 0 ctl t rfl rfl
    -- the later templates are those of the steps from `k + 1` on
    have hrest : stepTemplates i f last (k + 1) rest = .ok ts := by
      refine ih (by simpa using hlen) fun j c u hc hu => ?_
      rw [show k + 1 + j = k + (j + 1) by omega]
      exact h (j + 1) c u hc hu
    rw [Nat.add_zero] at hr hd
    simp only [stepTemplates, hr, hd, hrest, bind, Except.bind, pure, Except.pure, ← ht]

/-- The templates are built whenever every step's combinations succeed. -/
theorem exists_stepTemplates_eq_ok {k : Nat} {ctls : List (List Bitdef)}
    (h : ∀ j ctl, ctls[j]? = some ctl → (∃ r, Bitdef.merge [i, f, step (k + j)] = .ok r) ∧
      ∃ d, Bitdef.merge (if k + j = last then ctl ++ [Signal.stepReset.bitdef] else ctl) = .ok d) :
    ∃ ts, stepTemplates i f last k ctls = .ok ts := by
  induction ctls generalizing k with
  | nil => exact ⟨[], rfl⟩
  | cons ctl rest ih =>
    obtain ⟨⟨r, hr⟩, d, hd⟩ := h 0 ctl rfl
    obtain ⟨ts, hts⟩ := ih fun j c hc => by
      rw [show k + 1 + j = k + (j + 1) by omega]
      exact h (j + 1) c hc
    rw [Nat.add_zero] at hr hd
    exact ⟨⟨r, d.fill "0"⟩ :: ts,
      by simp only [stepTemplates, hr, hd, hts, bind, Except.bind, pure, Except.pure]⟩

/-- Steps numbered past the last are left as they are. -/
theorem stepTemplatesInPlace_snd_of_lt {k : Nat} (S : List (List Bitdef)) (h : last < k) :
    (stepTemplatesInPlace i f last k S).2 = S := by
  fun_induction stepTemplatesInPlace i f last k S with
  | case1 => rfl
  | case2 => rfl
  | case3 k ctl rest range hr ctl' e hd => simp [ctl', Nat.ne_of_gt h]
  | case4 k ctl rest range hr ctl' data hd more ih =>
    simp [ctl', more, ih (by omega), Nat.ne_of_gt h]

/-- A run that builds every step appends the reset pattern to the step numbered `last`. -/
theorem stepTemplatesInPlace_snd_of_ok {k : Nat} (S : List (List Bitdef)) {ts : List Template}
    (h : (stepTemplatesInPlace i f last k S).1 = .ok ts) (hk : k ≤ last) :
    (stepTemplatesInPlace i f last k S).2 = S.modify (last - k) (· ++ [Signal.stepReset.bitdef]) := by
  fun_induction stepTemplatesInPlace i f last k S generalizing ts with
  | case1 => simp
  | case2 => cases h
  | case3 => cases h
  | case4 k ctl rest range hr ctl' data hd more =>
    rename_i ih
    -- the later steps were built too
    obtain ⟨ts', hts'⟩ : ∃ ts', more.1 = .ok ts' := by
      cases hm : more.1 with
      | error e => simp [hm, Except.map] at h
      | ok ts' => exact ⟨ts', rfl⟩
    by_cases hlast : k = last
    · -- the last step takes the reset; the steps after it are past the last
      subst hlast
      simp only [ctl', more, if_pos rfl, Nat.sub_self, List.modify_zero_cons,
        stepTemplatesInPlace_snd_of_lt rest (Nat.lt_succ_self k)]
    · rw [show last - k = last - (k + 1) + 1 by omega, List.modify_succ_cons]
      simp only [ctl', if_neg hlast, more, ih hts' (by omega)]

/-- Whatever the outcome, the steps are either left alone or the step numbered `last` has the
reset pattern appended. -/
theorem stepTemplatesInPlace_snd {k : Nat} (S : List (List Bitdef)) (hk : k ≤ last) :
    (stepTemplatesInPlace i f last k S).2 = S ∨
      (stepTemplatesInPlace i f last k S).2 = S.modify (last - k) (· ++ [Signal.stepReset.bitdef]) := by
  fun_induction stepTemplatesInPlace i f last k S with
  | case1 => simp
  | case2 => simp
  | case3 k ctl rest range hr ctl' e hd =>
    by_cases hlast : k = last
    · subst hlast
      simp [ctl']
    · simp [ctl', hlast]
  | case4 k ctl rest range hr ctl' data hd more ih =>
    by_cases hlast : k = last
    · subst hlast
      simp [ctl', more, stepTemplatesInPlace_snd_of_lt rest (Nat.lt_succ_self k)]
    · rw [show last - k = last - (k + 1) + 1 by omega, List.modify_succ_cons]
      rcases ih (by omega) with h | h <;> simp [ctl', hlast, more, h]

end Steps

/-! ## The templates of an instruction -/

theorem assembleInPlace_fst (I F : List Bitdef) (S : List (List Bitdef)) :
    (assembleInPlace I F S).1 = assemble I F S := by
  unfold assembleInPlace assemble
  by_cases hsix : 6 < S.length
  · simp [hsix, throw, throwThe, MonadExceptOf.throw, bind, Except.bind]
  · cases hi : Bitdef.merge I <;> cases hf : Bitdef.merge F <;>
      simp [hsix, bind, Except.bind, stepTemplatesInPlace_fst]

theorem assemble_eq_ok_iff {I F : List Bitdef} {S : List (List Bitdef)} {ts : List Template} :
    assemble I F S = .ok ts ↔ S.length ≤ 6 ∧ ∃ i f, Bitdef.merge I = .ok i ∧
      Bitdef.merge F = .ok f ∧ ts.length = S.length ∧
      ∀ j ctl t, S[j]? = some ctl → ts[j]? = some t →
        Bitdef.merge [i, f, step (j + 2)] = .ok t.range ∧
        ∃ d, Bitdef.merge (if j + 1 = S.length then ctl ++ [Signal.stepReset.bitdef] else ctl) =
          .ok d ∧ t.data = d.fill "0" := by
  -- step `j + 2` is the last exactly when step `j` is the last of the list
  have hidx : ∀ j, (j + 2 = S.length + 1) = (j + 1 = S.length) := fun j => propext (by omega)
  unfold assemble
  by_cases hsix : 6 < S.length
  · simp [hsix, Nat.not_le.mpr hsix, throw, throwThe, MonadExceptOf.throw, bind, Except.bind]
  · have hle : S.length ≤ 6 := by omega
    simp only [hsix, if_false, bind_eq_ok, stepTemplates_eq_ok_iff, Nat.add_comm 2, hidx, hle,
      true_and]
    exact ⟨fun ⟨i, hi, f, hf, h⟩ => ⟨i, f, hi, hf, h⟩,
      fun ⟨i, f, hi, hf, h⟩ => ⟨i, hi, f, hf, h⟩⟩

/-- An instruction of at most six steps is built whenever its patterns combine. -/
theorem exists_assemble_eq_ok {I F : List Bitdef} {S : List (List Bitdef)} {i f : Bitdef}
    (hsix : S.length ≤ 6) (hi : Bitdef.merge I = .ok i) (hf : Bitdef.merge F = .ok f)
    (h : ∀ j ctl, S[j]? = some ctl → (∃ r, Bitdef.merge [i, f, step (j + 2)] = .ok r) ∧
      ∃ d, Bitdef.merge (if j + 1 = S.length then ctl ++ [Signal.stepReset.bitdef] else ctl) =
        .ok d) :
    ∃ ts, assemble I F S = .ok ts := by
  have hidx : ∀ j, (j + 2 = S.length + 1) = (j + 1 = S.length) := fun j => propext (by omega)
  obtain ⟨ts, hts⟩ := @exists_stepTemplates_eq_ok i f (S.length + 1) 2 S fun j ctl hc => by
    simp only [Nat.add_comm 2, hidx]
    exact h j ctl hc
  refine ⟨ts, ?_⟩
  unfold assemble
  simp only [Nat.not_lt.mpr hsix, if_false, hi, hf, hts, bind, Except.bind]

/-- Whatever the outcome, the caller's steps are either left alone or the last has the reset
pattern appended. -/
theorem assembleInPlace_snd (I F : List Bitdef) (S : List (List Bitdef)) :
    (assembleInPlace I F S).2 = S ∨
      (assembleInPlace I F S).2 = S.modify (S.length - 1) (· ++ [Signal.stepReset.bitdef]) := by
  unfold assembleInPlace
  split
  · exact .inl rfl
  · split
    next i f _ _ =>
      cases S with
      | nil => exact .inl rfl
      | cons ctl rest =>
        have h := stepTemplatesInPlace_snd (i := i) (f := f) (ctl :: rest)
          (show 2 ≤ (ctl :: rest).length + 1 by simp)
        rwa [show (ctl :: rest).length + 1 - 2 = (ctl :: rest).length - 1 by simp] at h
    all_goals exact .inl rfl

/-- A built instruction has appended the reset pattern to the caller's last step. -/
theorem assembleInPlace_snd_of_ok {I F : List Bitdef} {S : List (List Bitdef)} {ts : List Template}
    (h : assemble I F S = .ok ts) :
    (assembleInPlace I F S).2 = S.modify (S.length - 1) (· ++ [Signal.stepReset.bitdef]) := by
  rw [← assembleInPlace_fst] at h
  unfold assembleInPlace at h ⊢
  by_cases hsix : 6 < S.length
  · simp [hsix] at h
  · simp only [hsix, if_false] at h ⊢
    cases hi : Bitdef.merge I with
    | error e => simp [hi] at h
    | ok i =>
      cases hf : Bitdef.merge F with
      | error e => simp [hi, hf] at h
      | ok f =>
        simp only [hi, hf] at h ⊢
        cases S with
        | nil => rfl
        | cons ctl rest =>
          rw [show (ctl :: rest).length - 1 = (ctl :: rest).length + 1 - 2 by simp]
          exact stepTemplatesInPlace_snd_of_ok _ h (by simp)

/-! ## Reading the templates -/

/-- The step field of an address range built for step `s` reads `s` in three bits. -/
theorem drop_step_field {i f r : Bitdef} {s : Nat} (hs : s < 8)
    (h : Bitdef.merge [i, f, step s] = .ok r) :
    r.cells.drop 12 = (Word.binary s 3).toList.map .fixed := by
  have hlen : r.cells.length = 15 := by
    rw [← Bitdef.length, Bitdef.length_merge h (b := step s) (by simp), length_step hs]
  have hbits : (Word.binary s 3).toList.length = 3 := by
    rw [String.length_toList]
    exact (binary_step s hs).1
  apply List.ext_getElem?
  intro p
  rw [List.getElem?_drop, List.getElem?_map]
  by_cases hp : p < 3
  · -- the step pattern fixes the position, and the range keeps what it fixes
    have hp' : p < (Word.binary s 3).toList.length := by omega
    have hfix : (step s).Fixes (12 + p) (Word.binary s 3).toList[p] :=
      fixes_step.mpr ⟨by omega, by simp⟩
    rw [Bitdef.refines_of_mem_merge h (by simp) _ _ hfix, List.getElem?_eq_getElem (by omega)]
    rfl
  · rw [List.getElem?_eq_none (by omega), List.getElem?_eq_none (by omega)]
    rfl

/-- Address ranges built for different steps share no address. -/
theorem collapse_disjoint_of_steps {i f i' f' r r' : Bitdef} {s s' : Nat} (hs : s < 8)
    (hs' : s' < 8) (hne : s ≠ s') (h : Bitdef.merge [i, f, step s] = .ok r)
    (h' : Bitdef.merge [i', f', step s'] = .ok r') :
    ∀ w ∈ r.collapse, w ∉ r'.collapse := by
  intro w hw hw'
  -- each range fixes its step field, and the two steps differ in some bit
  have happ : r.apart r' = true :=
    (Bitdef.refines_of_mem_merge h (by simp)).apart (Bitdef.refines_of_mem_merge h' (by simp))
      (step_apart s hs s' hs' hne)
  exact Bitdef.not_admits_of_apart happ (Bitdef.mem_collapse.mp hw) (Bitdef.mem_collapse.mp hw')

/-- The reset line of a step's data is high exactly when the step is the last, which adds the
reset pattern, or one of the step's own patterns sets it. -/
theorem reset_line_eq_one_iff {ctl : List Bitdef} (isLast : Prop) [Decidable isLast] {d : Bitdef}
    (hd : Bitdef.merge (if isLast then ctl ++ [Signal.stepReset.bitdef] else ctl) = .ok d) :
    (d.fill "0").toList[Signal.stepReset.position]? = some '1' ↔
      isLast ∨ ∃ b ∈ ctl, b.Fixes Signal.stepReset.position '1' := by
  obtain ⟨-, -, -, -, hfix⟩ := Bitdef.fixes_merge hd
  rw [Bitdef.fill_zero_eq_one, hfix]
  by_cases hlast : isLast
  · have hset : Signal.stepReset.bitdef.Fixes Signal.stepReset.position '1' := by decide
    simp only [hlast, if_true, true_or, iff_true]
    exact ⟨_, List.mem_append_right _ (List.mem_singleton_self _), hset⟩
  · simp [hlast]

/-! ## The steps of an instruction -/

/-- An instruction of more than six steps is refused and its
steps are left alone. Otherwise its templates are built exactly when the patterns of every step
combine, one per step: the `j`-th covers step `j + 2` of the instruction's addresses, no two
share an address, the reset line is high in the last and in those that set it themselves, and
the caller's last step has gained the reset pattern, the only change building makes to the
steps. -/
theorem assemble_numbered_steps (I F : List Bitdef) (S : List (List Bitdef)) :
    (6 < S.length → assembleInPlace I F S = (.error (.tooManySteps S.length), S)) ∧
    (∀ ts, assemble I F S = .ok ts ↔ S.length ≤ 6 ∧ ∃ i f, Bitdef.merge I = .ok i ∧
      Bitdef.merge F = .ok f ∧ ts.length = S.length ∧
      ∀ j ctl t, S[j]? = some ctl → ts[j]? = some t →
        Bitdef.merge [i, f, step (j + 2)] = .ok t.range ∧
        ∃ d, Bitdef.merge (if j + 1 = S.length then ctl ++ [Signal.stepReset.bitdef] else ctl) =
          .ok d ∧ t.data = d.fill "0") ∧
    (∀ i f, S.length ≤ 6 → Bitdef.merge I = .ok i → Bitdef.merge F = .ok f →
      (∀ j ctl, S[j]? = some ctl → (∃ r, Bitdef.merge [i, f, step (j + 2)] = .ok r) ∧
        ∃ d, Bitdef.merge (if j + 1 = S.length then ctl ++ [Signal.stepReset.bitdef] else ctl) =
          .ok d) →
      ∃ ts, assemble I F S = .ok ts) ∧
    (∀ ts, assemble I F S = .ok ts →
      (∀ (j : Nat) t, ts[j]? = some t →
        t.range.cells.drop 12 = (Word.binary (j + 2) 3).toList.map .fixed) ∧
      ts.Pairwise (fun t u => ∀ w ∈ t.range.collapse, w ∉ u.range.collapse) ∧
      (∀ j ctl t, S[j]? = some ctl → ts[j]? = some t →
        (t.data.toList[Signal.stepReset.position]? = some '1' ↔
          j + 1 = S.length ∨ ∃ b ∈ ctl, b.Fixes Signal.stepReset.position '1')) ∧
      (assembleInPlace I F S).2 = S.modify (S.length - 1) (· ++ [Signal.stepReset.bitdef])) ∧
    (assembleInPlace I F S).1 = assemble I F S ∧
    ((assembleInPlace I F S).2 = S ∨
      (assembleInPlace I F S).2 = S.modify (S.length - 1) (· ++ [Signal.stepReset.bitdef])) := by
  refine ⟨fun hsix => by simp [assembleInPlace, hsix], fun ts => assemble_eq_ok_iff,
    fun i f hsix hi hf h => exists_assemble_eq_ok hsix hi hf h, fun ts hts => ?_,
    assembleInPlace_fst I F S, assembleInPlace_snd I F S⟩
  obtain ⟨hsix, i, f, -, -, hlen, hstep⟩ := assemble_eq_ok_iff.mp hts
  -- the `j`-th template's range is built for step `j + 2`, below the eight the counter holds
  have hrange : ∀ j t, ts[j]? = some t →
      j + 2 < 8 ∧ Bitdef.merge [i, f, step (j + 2)] = .ok t.range := by
    intro j t ht
    have hj : j < S.length := hlen ▸ (List.getElem?_eq_some_iff.mp ht).1
    exact ⟨by omega, (hstep j S[j] t (List.getElem?_eq_getElem hj) ht).1⟩
  refine ⟨fun j t ht => ?_, ?_, fun j ctl t hc ht => ?_, assembleInPlace_snd_of_ok hts⟩
  · obtain ⟨hj, hr⟩ := hrange j t ht
    exact drop_step_field hj hr
  · rw [List.pairwise_iff_getElem]
    intro a b ha hb hab
    obtain ⟨ha8, hra⟩ := hrange a ts[a] (List.getElem?_eq_getElem ha)
    obtain ⟨hb8, hrb⟩ := hrange b ts[b] (List.getElem?_eq_getElem hb)
    exact collapse_disjoint_of_steps ha8 hb8 (by omega) hra hrb
  · obtain ⟨-, d, hd, hdata⟩ := hstep j ctl t hc ht
    rw [hdata]
    exact reset_line_eq_one_iff _ hd

/-- Two steps of the instruction with byte `00000001` under any flags: both combine, so the
instruction is built, and the second step, the last, gains the reset pattern. -/
theorem assemble_numbered_steps_two_steps :
    (∃ ts, assemble [Bitdef.ofString "00000001......."] [Bitdef.dots 15]
      [[Signal.aOut.bitdef, Signal.bIn.bitdef], [Signal.bOut.bitdef]] = .ok ts) ∧
    (assembleInPlace [Bitdef.ofString "00000001......."] [Bitdef.dots 15]
      [[Signal.aOut.bitdef, Signal.bIn.bitdef], [Signal.bOut.bitdef]]).2 =
      [[Signal.aOut.bitdef, Signal.bIn.bitdef], [Signal.bOut.bitdef, Signal.stepReset.bitdef]] := by
  have h := assemble_numbered_steps [Bitdef.ofString "00000001......."] [Bitdef.dots 15]
    [[Signal.aOut.bitdef, Signal.bIn.bitdef], [Signal.bOut.bitdef]]
  obtain ⟨ts, hts⟩ := h.2.2.1 (Bitdef.ofString "00000001.......") (Bitdef.dots 15) (by decide)
    rfl rfl fun j ctl hc => by
      rcases j with _ | _ | j
      · cases hc
        exact ⟨⟨_, rfl⟩, _, rfl⟩
      · cases hc
        exact ⟨⟨_, rfl⟩, _, rfl⟩
      · cases hc
  exact ⟨⟨ts, hts⟩, (h.2.2.2.1 ts hts).2.2.2⟩

end ByteMachine.Microcode
