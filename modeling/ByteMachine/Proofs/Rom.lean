import ByteMachine.Microcode.Rom
import ByteMachine.Proofs.Patterns
/- How templates become the microcode memory. This module

   1. takes the templates of an instruction apart (`assemble_templates`):
      its steps are numbered from 2, each template's address pattern combines
      the instruction pattern, the flag pattern and the step, and its data is
      the combined control pattern of the step, with the step counter reset on
      the last step, filled with zeros;
   2. shows that the check for repeated addresses finds exactly a repeat
      (`hasDuplicates_eq_false_iff`), and that filling the memory gives each
      address the data of the one entry for it (`getD_foldl_insert`);
   3. reads the full memory (`fullRom_word`): once it is built, every address
      that a template of the language stands for holds that template's data.

   A word of the memory is read by its address (`wordAt`). -/
namespace ByteMachine.Microcode

open Machine

/-! ## The templates of an instruction -/

/-- The templates of the steps from number `k` on: one per step, with the combined address
and control patterns. -/
theorem stepTemplates_eq_ok {i f : Bitdef} {last : Nat} :
    ∀ {k : Nat} {ctls : List (List Bitdef)} {ts : List Template},
      stepTemplates i f last k ctls = .ok ts →
      ts.length = ctls.length ∧ ∀ j ctl t, ctls[j]? = some ctl → ts[j]? = some t →
        Bitdef.merge [i, f, step (k + j)] = .ok t.range ∧
        ∃ d, Bitdef.merge (if k + j = last then ctl ++ [Signal.stepReset.bitdef] else ctl) = .ok d ∧
          t.data = d.fill "0"
  | k, [], ts, h => by
    rw [stepTemplates, Except.ok.injEq] at h
    subst h
    simp
  | k, ctl :: rest, ts, h => by
    simp only [stepTemplates, bind_eq_ok, pure_eq_ok] at h
    obtain ⟨range, hrange, data, hdata, more, hmore, rfl⟩ := h
    obtain ⟨hlen, hrest⟩ := stepTemplates_eq_ok hmore
    refine ⟨by simp [hlen], ?_⟩
    -- step `k` is the head; the others are the rest's, numbered from `k + 1`
    rintro (_ | j) ctl' t hctl ht
    · simp only [List.getElem?_cons_zero, Option.some.injEq] at hctl ht
      subst hctl ht
      exact ⟨hrange, data, hdata, rfl⟩
    · simp only [List.getElem?_cons_succ] at hctl ht
      have := hrest j ctl' t hctl ht
      rwa [Nat.add_assoc, Nat.add_comm 1 j] at this

/-- One template per control step, at most six, the
step numbered `j + 2` being the `j`-th; the last step also resets the step counter. -/
theorem assemble_templates {ins : List Bitdef} {fl : Bitdef} {steps : List (List Bitdef)}
    {ts : List Template} (h : assemble ins [fl] steps = .ok ts) :
    ts.length = steps.length ∧ steps.length ≤ 6 ∧ ∃ i, Bitdef.merge ins = .ok i ∧
      ∀ j ctl t, steps[j]? = some ctl → ts[j]? = some t →
        Bitdef.merge [i, fl, step (j + 2)] = .ok t.range ∧
        ∃ d, Bitdef.merge (if j + 1 = steps.length then ctl ++ [Signal.stepReset.bitdef] else ctl) =
          .ok d ∧ t.data = d.fill "0" := by
  unfold assemble at h
  split at h
  · simp [throw, throwThe, MonadExceptOf.throw, bind, Except.bind] at h
  next hsix =>
  simp only [bind_eq_ok, Bitdef.merge_single, Except.ok.injEq, exists_eq_left'] at h
  obtain ⟨i, hi, h⟩ := h
  obtain ⟨hlen, hsteps⟩ := stepTemplates_eq_ok h
  refine ⟨hlen, by omega, i, hi, fun j ctl t hctl ht => ?_⟩
  obtain ⟨hrange, d, hd, hdata⟩ := hsteps j ctl t hctl ht
  have hlast : (2 + j = steps.length + 1) = (j + 1 = steps.length) := by
    apply propext; omega
  rw [Nat.add_comm 2 j] at hrange
  exact ⟨hrange, d, by simpa only [hlast] using hd, hdata⟩

/-! ## Repeated addresses -/

/-- The step of the search for a repeated address: the addresses seen, and whether one came twice. -/
theorem hasDuplicates_foldl_found :
    ∀ (es : List RomEntry) (S : Std.HashSet String),
      (es.foldl (fun (st : Std.HashSet String × Bool) e =>
        if st.2 then st
        else if st.1.contains e.address then (st.1, true)
        else (st.1.insert e.address, false)) (S, true)).2 = true
  | [], _ => rfl
  | _ :: rest, S => hasDuplicates_foldl_found rest S

theorem hasDuplicates_foldl :
    ∀ (es : List RomEntry) (S : Std.HashSet String) (seen : List String),
      (∀ a, S.contains a = true ↔ a ∈ seen) → seen.Nodup →
      ((es.foldl (fun (st : Std.HashSet String × Bool) e =>
        if st.2 then st
        else if st.1.contains e.address then (st.1, true)
        else (st.1.insert e.address, false)) (S, false)).2 = false ↔
        (seen ++ es.map RomEntry.address).Nodup)
  | [], _, seen, _, hnd => by simp [hnd]
  | e :: rest, S, seen, hS, hnd => by
    simp only [List.foldl_cons, Bool.false_eq_true, ↓reduceIte, List.map_cons]
    by_cases hc : S.contains e.address = true
    · -- an address already seen: found, and the addresses repeat
      rw [if_pos hc, hasDuplicates_foldl_found]
      have hmem := (hS _).mp hc
      simp only [Bool.true_eq_false, false_iff]
      intro hnd'
      have := (List.nodup_append.mp hnd').2.2 _ hmem _ List.mem_cons_self
      exact this rfl
    · rw [if_neg hc]
      have hnew : e.address ∉ seen := fun hm => hc ((hS _).mpr hm)
      rw [hasDuplicates_foldl rest (S.insert e.address) (seen ++ [e.address]) ?_ ?_]
      · simp
      · intro a
        rw [Std.HashSet.contains_insert, Bool.or_eq_true, beq_iff_eq, hS]
        simp [or_comm, eq_comm]
      · refine List.nodup_append.mpr ⟨hnd, List.nodup_singleton _, fun a ha b hb => ?_⟩
        rw [List.mem_singleton] at hb
        subst hb
        exact fun heq => hnew (heq ▸ ha)

/-- The check finds a repeat exactly when two entries share an address. -/
theorem hasDuplicates_eq_false_iff {es : List RomEntry} :
    hasDuplicates es = false ↔ (es.map RomEntry.address).Nodup := by
  unfold hasDuplicates
  have := hasDuplicates_foldl es {} [] (by simp) List.nodup_nil
  rwa [List.nil_append] at this

/-! ## Filling the memory -/

/-- Filling a table entry by entry leaves an address no entry names as it was. -/
theorem getD_foldl_insert_of_not_mem (a d : String) :
    ∀ (es : List RomEntry) (m : Std.HashMap String String), (∀ e ∈ es, e.address ≠ a) →
      (es.foldl (fun m e => m.insert e.address e.data) m).getD a d = m.getD a d
  | [], _, _ => rfl
  | e :: rest, m, h => by
    rw [List.foldl_cons, getD_foldl_insert_of_not_mem a d rest _
      (fun e' he' => h e' (List.mem_cons_of_mem _ he')), Std.HashMap.getD_insert,
      if_neg (by simpa using h e List.mem_cons_self)]

/-- When no two entries share an address, each address gets the data
of its entry. -/
theorem getD_foldl_insert (d : String) :
    ∀ {es : List RomEntry} (m : Std.HashMap String String), (es.map RomEntry.address).Nodup →
      ∀ e ∈ es, (es.foldl (fun m e => m.insert e.address e.data) m).getD e.address d = e.data
  | [], _, _, _, he => by simp at he
  | e' :: rest, m, hnd, e, he => by
    rw [List.map_cons, List.nodup_cons] at hnd
    rw [List.foldl_cons]
    rcases List.mem_cons.mp he with rfl | he
    · -- the later entries name other addresses
      rw [getD_foldl_insert_of_not_mem _ _ rest _ (fun e'' he'' heq =>
        hnd.1 (by rw [← heq]; exact List.mem_map_of_mem he'')), Std.HashMap.getD_insert_self]
    · exact getD_foldl_insert d _ hnd.2 e he

/-! ## The full memory -/

/-- The data at an address of a memory: that of the first entry for the address. -/
def wordAt (rom : Array RomEntry) (a : String) : Option String :=
  (rom.toList.find? (·.address == a)).map RomEntry.data

theorem wordAt_of_mem {rom : Array RomEntry} (hnd : (rom.toList.map RomEntry.address).Nodup)
    {e : RomEntry} (he : e ∈ rom.toList) : wordAt rom e.address = some e.data := by
  unfold wordAt
  obtain ⟨pre, post, hsplit⟩ := List.append_of_mem he
  -- no entry before `e` has its address
  have hpre : ∀ x ∈ pre, (x.address == e.address) = false := by
    intro x hx
    rw [hsplit, List.map_append, List.map_cons] at hnd
    have := (List.nodup_append.mp hnd).2.2 _ (List.mem_map_of_mem hx) _ List.mem_cons_self
    simpa using this
  rw [hsplit, List.find?_append, List.find?_eq_none.mpr (fun x hx => by simp [hpre x hx])]
  simp

/-- Building the memory: the language's templates give entries with no address twice, and
the memory is the entry of every address, sorted by address. -/
theorem toList_fullRom {rom : Array RomEntry} (h : fullRom = .ok rom) :
    ∃ ts, languageTemplates = .ok ts ∧ ((collapseTemplates ts).map RomEntry.address).Nodup ∧
      rom.toList = (populate (collapseTemplates ts) emptyAddress.collapse controlsDefault).mergeSort
        fun a b => decide (a.address ≤ b.address) := by
  simp only [fullRom, bind_eq_ok] at h
  obtain ⟨ts, hts, h⟩ := h
  split at h
  · simp [throw, throwThe, MonadExceptOf.throw] at h
  next hdup =>
  rw [pure_eq_ok] at h
  subst h
  exact ⟨ts, hts, hasDuplicates_eq_false_iff.mp (by simpa using hdup), rfl⟩

theorem fullRom_eq_ok {rom : Array RomEntry} (h : fullRom = .ok rom) :
    ∃ ts, languageTemplates = .ok ts ∧ ((collapseTemplates ts).map RomEntry.address).Nodup ∧
      rom.toList.Perm (populate (collapseTemplates ts) emptyAddress.collapse controlsDefault) := by
  obtain ⟨ts, hts, hnd, hrom⟩ := toList_fullRom h
  rw [hrom]
  exact ⟨ts, hts, hnd, List.mergeSort_perm _ _⟩

/-- The entries of the memory name every address once. -/
theorem nodup_fullRom {rom : Array RomEntry} (h : fullRom = .ok rom) :
    (rom.toList.map RomEntry.address).Nodup := by
  obtain ⟨ts, -, -, hperm⟩ := fullRom_eq_ok h
  rw [(hperm.map RomEntry.address).nodup_iff]
  simpa [populate, List.map_map, Function.comp_def] using Bitdef.nodup_collapse emptyAddress

/-- Every address of fifteen bits that a template of the language
stands for holds the data of that template. -/
theorem fullRom_word {rom : Array RomEntry} (h : fullRom = .ok rom) {ts : List Template}
    (hts : languageTemplates = .ok ts) {t : Template} (ht : t ∈ ts) {a : String}
    (ha : a ∈ t.range.collapse) (hall : a ∈ emptyAddress.collapse) :
    wordAt rom a = some t.data := by
  obtain ⟨ts', hts', hnd, hperm⟩ := fullRom_eq_ok h
  rw [hts, Except.ok.injEq] at hts'
  subst hts'
  have he : (⟨a, t.data⟩ : RomEntry) ∈ collapseTemplates ts := by
    simp only [collapseTemplates, List.mem_flatMap, List.mem_map]
    exact ⟨t, ht, a, ha, rfl⟩
  have hmem : (⟨a, t.data⟩ : RomEntry) ∈ rom.toList := by
    rw [hperm.mem_iff]
    simp only [populate, List.mem_map]
    exact ⟨a, hall, by rw [getD_foldl_insert controlsDefault {} hnd _ he]⟩
  exact wordAt_of_mem (nodup_fullRom h) hmem

end ByteMachine.Microcode
