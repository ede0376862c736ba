import ByteMachine.Proofs.Overlap
/- Combining patterns. Combining a list of patterns fails when they differ in
   length, or when two of them, at different places of the list, fix a common
   position, even to the same symbol; otherwise each position of the result
   holds the symbol that one of them fixes there, and is open where all are.
   This module

   1. reads the outcomes of combining as conditions on the list as a whole
      (`merge_eq_ok_iff`, `merge_eq_error_iff`): a result is given by its
      length and the positions it fixes, whatever the order of the list, since
      a pattern is determined by these (`ext_of_fixes`);
   2. derives that combining ignores the order of the patterns (`merge_perm`),
      and that combining the results of two parts gives the result of the
      whole (`merge_append`);
   3. reads all this on the text of the patterns (`merge_texts`): failure
      exactly on unequal lengths or a crowded position, each with its own
      fault, and otherwise the text that combines them position by
      position. -/
namespace ByteMachine

namespace Bitdef

/-! ## A pattern is its length and its fixed positions -/

theorem ext_of_fixes {a b : Bitdef} (hlen : a.length = b.length)
    (h : ∀ i c, a.Fixes i c ↔ b.Fixes i c) : a = b := by
  obtain ⟨as⟩ := a
  obtain ⟨bs⟩ := b
  simp only [length] at hlen
  congr 1
  refine List.ext_getElem? fun i => ?_
  -- a position is open in one exactly when it is open in the other
  cases ha : as[i]? with
  | none => rw [eq_comm, List.getElem?_eq_none_iff, ← hlen, ← List.getElem?_eq_none_iff, ha]
  | some c =>
    have hi : i < bs.length := hlen ▸ (List.getElem?_eq_some_iff.mp ha).1
    rw [List.getElem?_eq_getElem hi]
    cases c with
    | fixed x => exact ((h i x).mp ha).symm.trans (List.getElem?_eq_getElem hi)
    | wild =>
      cases hb : bs[i] with
      | wild => rfl
      | fixed y =>
        have := (h i y).mpr (by rw [Fixes, List.getElem?_eq_getElem hi, hb])
        rw [Fixes, ha] at this
        cases this

theorem cells_eq_wild_iff {m : Bitdef} {p : Nat} :
    m.cells[p]? = some .wild ↔ p < m.length ∧ ∀ x, ¬ m.Fixes p x := by
  unfold Fixes length
  constructor
  · intro h
    exact ⟨(List.getElem?_eq_some_iff.mp h).1, fun x hx => by rw [h] at hx; cases hx⟩
  · rintro ⟨hp, hopen⟩
    rw [List.getElem?_eq_getElem hp]
    cases hc : m.cells[p] with
    | wild => rfl
    | fixed x => exact (hopen x (by rw [List.getElem?_eq_getElem hp, hc])).elim

/-! ## The outcomes of combining -/

theorem anyClash_eq_false_iff :
    ∀ {bs : List Bitdef}, anyClash bs = false ↔ bs.Pairwise fun c d => clash c d = false
  | [] => by simp [anyClash]
  | _ :: _ => by rw [anyClash_cons_eq_false, anyClash_eq_false_iff, List.pairwise_cons]

theorem clash_symm {a b : Bitdef} (h : clash a b = false) : clash b a = false :=
  clash_eq_false_iff.mpr fun i x y hb ha => clash_eq_false_iff.mp h i y x ha hb

theorem clash_eq_true_iff {a b : Bitdef} :
    clash a b = true ↔ ∃ i x y, a.Fixes i x ∧ b.Fixes i y := by
  rw [← Bool.not_eq_false, clash_eq_false_iff]
  constructor
  · intro h
    by_contra hne
    exact h fun i x y hx hy => hne ⟨i, x, y, hx, hy⟩
  · rintro ⟨i, x, y, hx, hy⟩ h
    exact h i x y hx hy

theorem all_length_iff {b : Bitdef} {rest : List Bitdef} :
    (b :: rest).all (fun c => c.length == b.length) = true ↔
      ∀ c ∈ b :: rest, ∀ d ∈ b :: rest, c.length = d.length := by
  simp only [List.all_eq_true, beq_iff_eq]
  exact ⟨fun h c hc d hd => (h c hc).trans (h d hd).symm,
    fun h c hc => h c hc b List.mem_cons_self⟩

theorem merge_cons_eq (b : Bitdef) (rest : List Bitdef) :
    merge (b :: rest) =
      if (b :: rest).all (fun c => c.length == b.length) then
        if anyClash (b :: rest) then .error .overlapping
        else .ok ((b :: rest).foldr overlay (dots b.length))
      else .error .unequalLengths := by
  by_cases hl : (b :: rest).all (fun c => c.length == b.length) = true
  · by_cases hc : anyClash (b :: rest) = true
    · simp [merge, first, sameLength, overlapping, hl, hc, bind, Except.bind, pure, Except.pure,
        throw, throwThe, MonadExceptOf.throw]
    · simp [merge, first, sameLength, overlapping, hl, hc, bind, Except.bind, pure, Except.pure]
  · simp [merge, first, sameLength, hl, bind, Except.bind, pure, Except.pure,
      throw, throwThe, MonadExceptOf.throw]

/-- Combining a list succeeds with `m` exactly when its patterns
have one length and no two of them fix a common position, and `m` has that length and fixes
exactly what one of them fixes. -/
theorem merge_eq_ok_iff {bs : List Bitdef} (hne : bs ≠ []) {m : Bitdef} :
    merge bs = .ok m ↔ (∀ c ∈ bs, ∀ d ∈ bs, c.length = d.length) ∧
      bs.Pairwise (fun c d => clash c d = false) ∧ (∀ c ∈ bs, m.length = c.length) ∧
      ∀ i x, m.Fixes i x ↔ ∃ c ∈ bs, c.Fixes i x := by
  obtain ⟨b, rest, rfl⟩ := List.exists_cons_of_ne_nil hne
  constructor
  · intro h
    obtain ⟨b', rest', hbs, hlen, hclash, rfl⟩ := merge_eq_ok h
    obtain ⟨hm, hfix⟩ := fixes_foldr_overlay hlen hclash
    refine ⟨fun c hc d hd => (hlen c hc).trans (hlen d hd).symm,
      anyClash_eq_false_iff.mp hclash, fun c hc => hm.trans (hlen c hc).symm, hfix⟩
  · rintro ⟨hlen, hpair, hm, hfix⟩
    have hclash := anyClash_eq_false_iff.mpr hpair
    obtain ⟨hm', hfix'⟩ :=
      fixes_foldr_overlay (fun c hc => hlen c hc b List.mem_cons_self) hclash
    rw [merge_cons_eq, if_pos (all_length_iff.mpr hlen), hclash, if_neg Bool.false_ne_true,
      Except.ok.injEq]
    exact ext_of_fixes (hm'.trans (hm b List.mem_cons_self).symm)
      fun i x => (hfix' i x).trans (hfix i x).symm

/-- Combining a list fails only for patterns of different lengths,
or for patterns of one length two of which fix a common position. -/
theorem merge_eq_error_iff {bs : List Bitdef} (hne : bs ≠ []) {f : Fault} :
    merge bs = .error f ↔
      (f = .unequalLengths ∧ ¬ ∀ c ∈ bs, ∀ d ∈ bs, c.length = d.length) ∨
      (f = .overlapping ∧ (∀ c ∈ bs, ∀ d ∈ bs, c.length = d.length) ∧
        ¬ bs.Pairwise (fun c d => clash c d = false)) := by
  obtain ⟨b, rest, rfl⟩ := List.exists_cons_of_ne_nil hne
  rw [merge_cons_eq, ← all_length_iff, ← anyClash_eq_false_iff]
  by_cases hl : (b :: rest).all (fun c => c.length == b.length) = true
  · by_cases hc : anyClash (b :: rest) = true
    · simp only [hl, hc, if_true, Except.error.injEq, not_true_eq_false,
        Bool.true_eq_false, not_false_eq_true, and_false, false_or, and_true]
      exact eq_comm
    · simp [hl, hc]
  · simp only [hl, if_false, Except.error.injEq, Bool.false_eq_true, not_false_eq_true, and_true,
      false_and, and_false, or_false]
    exact eq_comm

theorem exists_merge_eq_ok {bs : List Bitdef} (hne : bs ≠ [])
    (hlen : ∀ c ∈ bs, ∀ d ∈ bs, c.length = d.length)
    (hpair : bs.Pairwise fun c d => clash c d = false) : ∃ m, merge bs = .ok m := by
  cases h : merge bs with
  | ok m => exact ⟨m, rfl⟩
  | error f =>
    rcases (merge_eq_error_iff hne).mp h with ⟨-, h⟩ | ⟨-, -, h⟩
    · exact (h hlen).elim
    · exact (h hpair).elim

/-! ## Order and grouping -/

/-- Combining ignores order. -/
theorem merge_perm {bs bs' : List Bitdef} (h : bs.Perm bs') : merge bs = merge bs' := by
  by_cases hne : bs = []
  · subst hne
    rw [← h.nil_eq]
  have hne' : bs' ≠ [] := fun h' => hne (List.Perm.eq_nil (h' ▸ h))
  -- every condition reads the list as a collection
  have hsame : (∀ c ∈ bs, ∀ d ∈ bs, c.length = d.length) ↔
      ∀ c ∈ bs', ∀ d ∈ bs', c.length = d.length := by
    simp only [h.mem_iff]
  have hpair : (bs.Pairwise fun c d => clash c d = false) ↔
      bs'.Pairwise fun c d => clash c d = false :=
    h.pairwise_iff clash_symm
  have hfix : ∀ i x, (∃ c ∈ bs, c.Fixes i x) ↔ ∃ c ∈ bs', c.Fixes i x := by
    simp only [h.mem_iff, implies_true]
  cases hm : merge bs with
  | error f =>
    rw [merge_eq_error_iff hne, hsame, hpair] at hm
    exact ((merge_eq_error_iff hne').mpr hm).symm
  | ok m =>
    obtain ⟨hlen, hp, hmlen, hmfix⟩ := (merge_eq_ok_iff hne).mp hm
    refine ((merge_eq_ok_iff hne').mpr ⟨hsame.mp hlen, hpair.mp hp,
      fun c hc => hmlen c (h.mem_iff.mpr hc), fun i x => (hmfix i x).trans (hfix i x)⟩).symm

/-- When a list combines, so do its two parts, and their results
combine to the result of the whole. -/
theorem merge_append {xs ys : List Bitdef} (hxs : xs ≠ []) (hys : ys ≠ []) {m : Bitdef}
    (h : merge (xs ++ ys) = .ok m) :
    ∃ a b, merge xs = .ok a ∧ merge ys = .ok b ∧ merge [a, b] = .ok m := by
  obtain ⟨hlen, hpair, hm, hfix⟩ := (merge_eq_ok_iff (by simp [hxs])).mp h
  obtain ⟨hpx, hpy, hxy⟩ := List.pairwise_append.mp hpair
  have hlx : ∀ c ∈ xs, ∀ d ∈ xs, c.length = d.length := fun c hc d hd =>
    hlen c (List.mem_append_left _ hc) d (List.mem_append_left _ hd)
  have hly : ∀ c ∈ ys, ∀ d ∈ ys, c.length = d.length := fun c hc d hd =>
    hlen c (List.mem_append_right _ hc) d (List.mem_append_right _ hd)
  obtain ⟨a, ha⟩ := exists_merge_eq_ok hxs hlx hpx
  obtain ⟨b, hb⟩ := exists_merge_eq_ok hys hly hpy
  obtain ⟨-, -, hal, hafix⟩ := (merge_eq_ok_iff hxs).mp ha
  obtain ⟨-, -, hbl, hbfix⟩ := (merge_eq_ok_iff hys).mp hb
  obtain ⟨x, hx⟩ := List.exists_mem_of_ne_nil xs hxs
  obtain ⟨y, hy⟩ := List.exists_mem_of_ne_nil ys hys
  have hab : a.length = b.length := by
    rw [hal x hx, hbl y hy, hlen x (List.mem_append_left _ hx) y (List.mem_append_right _ hy)]
  -- a position fixed in both results is fixed by one pattern of each part
  have hclash : clash a b = false := clash_eq_false_iff.mpr fun i u v hau hbv => by
    obtain ⟨c, hc, hcu⟩ := (hafix i u).mp hau
    obtain ⟨d, hd, hdv⟩ := (hbfix i v).mp hbv
    exact clash_eq_false_iff.mp (hxy c hc d hd) i u v hcu hdv
  refine ⟨a, b, ha, hb, (merge_eq_ok_iff (List.cons_ne_nil _ _)).mpr ⟨?_, ?_, ?_, ?_⟩⟩
  · simp [hab]
  · simpa using hclash
  · simp only [List.mem_cons, List.not_mem_nil, or_false, forall_eq_or_imp, forall_eq]
    exact ⟨(hm x (List.mem_append_left _ hx)).trans (hal x hx).symm,
      (hm y (List.mem_append_right _ hy)).trans (hbl y hy).symm⟩
  · intro i u
    simp only [hfix, hafix, hbfix, List.mem_append, List.mem_cons, List.not_mem_nil, or_false,
      or_and_right, exists_or, exists_eq_left]

/-! ## Patterns written as text -/

theorem length_ofString (s : String) : (ofString s).length = s.length := by
  rw [length, cells_ofString, List.length_map, String.length_toList]

theorem fixes_ofString {s : String} {i : Nat} {c : Char} :
    (ofString s).Fixes i c ↔ s.toList[i]? = some c ∧ c ≠ '.' := by
  rw [Fixes, cells_ofString, List.getElem?_map]
  cases s.toList[i]? with
  | none => simp
  | some x =>
    by_cases hx : x = '.'
    · subst hx
      exact ⟨fun h => by simp [Cell.ofChar] at h,
        fun h => absurd (Option.some.inj h.1).symm h.2⟩
    · simp only [Option.map_some, Option.some.injEq, Cell.ofChar, hx, if_false,
        Cell.fixed.injEq]
      exact ⟨fun h => ⟨h, h ▸ hx⟩, fun h => h.1⟩

theorem toList_toString (m : Bitdef) : m.toString.toList = m.cells.map Cell.toChar :=
  String.toList_ofList

theorem length_toString (m : Bitdef) : m.toString.length = m.length := by
  rw [toString, String.length_ofList, List.length_map, length]

/-- The text of a pattern holds a symbol other than `.` exactly where the pattern fixes it. -/
theorem getElem?_toString_of_ne {m : Bitdef} {p : Nat} {c : Char} (hc : c ≠ '.') :
    m.toString.toList[p]? = some c ↔ m.Fixes p c := by
  rw [toList_toString, List.getElem?_map, Fixes]
  cases m.cells[p]? with
  | none => simp
  | some x => cases x <;> simp [Cell.toChar, Ne.symm hc]

/-- The text of a pattern that fixes no position to `.` holds `.` exactly where it is open. -/
theorem getElem?_toString_dot {m : Bitdef} (hm : ∀ i, ¬ m.Fixes i '.') {p : Nat} :
    m.toString.toList[p]? = some '.' ↔ m.cells[p]? = some .wild := by
  rw [toList_toString, List.getElem?_map]
  cases hp : m.cells[p]? with
  | none => simp
  | some x =>
    cases x with
    | wild => simp [Cell.toChar]
    | fixed y =>
      have hy : y ≠ '.' := fun h => hm p (by rw [Fixes, hp, h])
      simp [Cell.toChar, hy]

theorem ofString_toString {m : Bitdef} (hm : ∀ i, ¬ m.Fixes i '.') :
    ofString m.toString = m := by
  refine ext_of_fixes ?_ fun i c => ?_
  · rw [length_ofString, length_toString]
  · rw [fixes_ofString]
    by_cases hc : c = '.'
    · subst hc
      simp [hm i]
    · rw [getElem?_toString_of_ne hc]
      exact ⟨fun h => h.1, fun h => ⟨h, hc⟩⟩

/-- A combination of texts fixes no position to `.`. -/
theorem not_fixes_dot_of_merge {bs : List String} {m : Bitdef}
    (h : merge (bs.map ofString) = .ok m) (i : Nat) : ¬ m.Fixes i '.' := by
  intro hi
  obtain ⟨-, -, -, -, hfix⟩ := fixes_merge h
  obtain ⟨b, hb, hbi⟩ := (hfix i '.').mp hi
  obtain ⟨s, -, rfl⟩ := List.mem_map.mp hb
  exact (fixes_ofString.mp hbi).2 rfl

/-- The texts have one length. -/
def SameLength (bs : List String) : Prop := ∀ a ∈ bs, ∀ b ∈ bs, a.length = b.length

instance (bs : List String) : Decidable (SameLength bs) :=
  inferInstanceAs (Decidable (∀ a ∈ bs, ∀ b ∈ bs, a.length = b.length))

/-- Two texts at different places of the list hold a symbol other than `.` at one position. -/
def Crowded (bs : List String) : Prop :=
  ∃ (i j p : Nat) (a b : String) (x y : Char), i ≠ j ∧ bs[i]? = some a ∧ bs[j]? = some b ∧
    a.toList[p]? = some x ∧ x ≠ '.' ∧ b.toList[p]? = some y ∧ y ≠ '.'

/-- `r` combines the texts `bs`: it has their length, and each position holds the symbol other
than `.` that one of them holds there, or `.` where all of them hold `.`. -/
def Combines (bs : List String) (r : String) : Prop :=
  (∀ b ∈ bs, b.length = r.length) ∧
    ∀ (p : Nat) (c : Char), r.toList[p]? = some c ↔
      (c ≠ '.' ∧ ∃ b ∈ bs, b.toList[p]? = some c) ∨
        (c = '.' ∧ ∀ b ∈ bs, b.toList[p]? = some '.')

theorem sameLength_iff {bs : List String} :
    SameLength bs ↔
      ∀ c ∈ bs.map ofString, ∀ d ∈ bs.map ofString, c.length = d.length := by
  simp [SameLength, length_ofString]

theorem crowded_iff {bs : List String} :
    Crowded bs ↔ ¬ (bs.map ofString).Pairwise fun c d => clash c d = false := by
  have h := Microcode.not_pairwise_not_iff (l := bs.map ofString)
    (R := fun c d => clash c d = true) fun h =>
      let ⟨i, x, y, hx, hy⟩ := clash_eq_true_iff.mp h
      clash_eq_true_iff.mpr ⟨i, y, x, hy, hx⟩
  simp only [Bool.not_eq_true] at h
  rw [h]
  constructor
  · rintro ⟨i, j, p, a, b, x, y, hij, ha, hb, hax, hx, hby, hy⟩
    refine ⟨i, j, ofString a, ofString b, hij, ?_, ?_,
      clash_eq_true_iff.mpr
        ⟨p, x, y, fixes_ofString.mpr ⟨hax, hx⟩, fixes_ofString.mpr ⟨hby, hy⟩⟩⟩
    · rw [List.getElem?_map, ha]
      rfl
    · rw [List.getElem?_map, hb]
      rfl
  · rintro ⟨i, j, _, _, hij, ha, hb, hab⟩
    rw [List.getElem?_map, Option.map_eq_some_iff] at ha hb
    obtain ⟨a, ha, rfl⟩ := ha
    obtain ⟨b, hb, rfl⟩ := hb
    obtain ⟨p, x, y, hx, hy⟩ := clash_eq_true_iff.mp hab
    obtain ⟨hax, hx⟩ := fixes_ofString.mp hx
    obtain ⟨hby, hy⟩ := fixes_ofString.mp hy
    exact ⟨i, j, p, a, b, x, y, hij, ha, hb, hax, hx, hby, hy⟩

instance (bs : List String) : Decidable (Crowded bs) :=
  decidable_of_iff _ crowded_iff.symm

theorem merge_texts_eq_error_iff {bs : List String} (hne : bs ≠ []) {f : Fault} :
    merge (bs.map ofString) = .error f ↔
      (f = .unequalLengths ∧ ¬ SameLength bs) ∨
        (f = .overlapping ∧ SameLength bs ∧ Crowded bs) := by
  rw [merge_eq_error_iff (by simpa using hne), sameLength_iff, crowded_iff]

theorem length_of_merge_texts {bs : List String} {m : Bitdef}
    (h : merge (bs.map ofString) = .ok m) : ∀ b ∈ bs, b.length = m.length := by
  obtain ⟨b₀, -, hlen, hm, -⟩ := fixes_merge h
  intro b hb
  rw [← length_ofString, hlen _ (List.mem_map_of_mem hb), hm]

/-- A combination of texts is open at a position exactly when every text holds `.` there. -/
theorem open_of_merge_texts_iff {bs : List String} {m : Bitdef}
    (h : merge (bs.map ofString) = .ok m) {p : Nat} :
    (p < m.length ∧ ∀ x, ¬ m.Fixes p x) ↔ ∀ b ∈ bs, b.toList[p]? = some '.' := by
  obtain ⟨b₀, hb₀, -, -, hfix⟩ := fixes_merge h
  obtain ⟨s₀, hs₀, rfl⟩ := List.mem_map.mp hb₀
  have hlen := length_of_merge_texts h
  constructor
  · rintro ⟨hp, hopen⟩ b hb
    have hpb : p < b.toList.length := by rw [String.length_toList, hlen b hb]; exact hp
    rw [List.getElem?_eq_getElem hpb]
    -- a symbol other than `.` there would be fixed in the combination
    by_contra hx
    exact hopen b.toList[p] ((hfix p _).mpr ⟨_, List.mem_map_of_mem hb,
      fixes_ofString.mpr ⟨List.getElem?_eq_getElem hpb, fun h => hx (by rw [h])⟩⟩)
  · intro hall
    refine ⟨?_, fun x hx => ?_⟩
    · have := (List.getElem?_eq_some_iff.mp (hall s₀ hs₀)).1
      rwa [String.length_toList, hlen s₀ hs₀] at this
    · obtain ⟨b, hb, hbx⟩ := (hfix p x).mp hx
      obtain ⟨s, hs, rfl⟩ := List.mem_map.mp hb
      obtain ⟨hsx, hxd⟩ := fixes_ofString.mp hbx
      rw [hall s hs, Option.some.injEq] at hsx
      exact hxd hsx.symm

theorem combines_of_merge {bs : List String} {m : Bitdef} (h : merge (bs.map ofString) = .ok m) :
    Combines bs m.toString := by
  obtain ⟨-, -, -, -, hfix⟩ := fixes_merge h
  refine ⟨fun b hb => (length_toString m).symm ▸ length_of_merge_texts h b hb, fun p c => ?_⟩
  by_cases hc : c = '.'
  · -- `.` stands where every text is open
    subst hc
    rw [getElem?_toString_dot (not_fixes_dot_of_merge h), cells_eq_wild_iff,
      open_of_merge_texts_iff h]
    simp only [ne_eq, not_true_eq_false, false_and, true_and, false_or]
  · rw [getElem?_toString_of_ne hc, hfix]
    simp only [List.mem_map, exists_exists_and_eq_and, fixes_ofString, hc, ne_eq,
      not_false_eq_true, and_true, true_and, false_and, or_false]

/-- Combining a non-empty list of texts fails exactly when they differ in
length or two of them, at different places, hold a symbol other than `.` at one position, with a
fault of its own for each; otherwise it gives the text that holds at each position the one such
symbol, or `.` where there is none. Combining ignores the order of the texts, and the results of
two non-empty parts combine to the result of the whole. -/
theorem merge_texts :
    (∀ bs : List String, bs ≠ [] →
      ((∃ f, merge (bs.map ofString) = .error f) ↔ ¬ SameLength bs ∨ Crowded bs) ∧
      (¬ SameLength bs → merge (bs.map ofString) = .error .unequalLengths) ∧
      (SameLength bs → Crowded bs → merge (bs.map ofString) = .error .overlapping) ∧
      (SameLength bs → ¬ Crowded bs →
        ∃ m, merge (bs.map ofString) = .ok m ∧ Combines bs m.toString)) ∧
    (∀ bs bs' : List String, bs.Perm bs' →
      merge (bs.map ofString) = merge (bs'.map ofString)) ∧
    (∀ xs ys : List String, xs ≠ [] → ys ≠ [] →
      ∀ m, merge ((xs ++ ys).map ofString) = .ok m →
      ∃ a b, merge (xs.map ofString) = .ok a ∧ merge (ys.map ofString) = .ok b ∧
        merge [ofString a.toString, ofString b.toString] = .ok m) := by
  refine ⟨fun bs hne => ?_, fun bs bs' h => merge_perm (h.map ofString),
    fun xs ys hxs hys m h => ?_⟩
  · refine ⟨⟨?_, ?_⟩, fun hs => (merge_texts_eq_error_iff hne).mpr (.inl ⟨rfl, hs⟩),
      fun hs hc => (merge_texts_eq_error_iff hne).mpr (.inr ⟨rfl, hs, hc⟩), fun hs hc => ?_⟩
    · rintro ⟨f, hf⟩
      rcases (merge_texts_eq_error_iff hne).mp hf with ⟨-, h⟩ | ⟨-, -, h⟩
      · exact .inl h
      · exact .inr h
    · intro h
      by_cases hs : SameLength bs
      · exact ⟨_, (merge_texts_eq_error_iff hne).mpr
          (.inr ⟨rfl, hs, h.resolve_left (not_not.mpr hs)⟩)⟩
      · exact ⟨_, (merge_texts_eq_error_iff hne).mpr (.inl ⟨rfl, hs⟩)⟩
    · obtain ⟨m, hm⟩ := exists_merge_eq_ok (by simpa using hne) (sameLength_iff.mp hs)
        (not_not.mp (crowded_iff.not.mp hc))
      exact ⟨m, hm, combines_of_merge hm⟩
  · rw [List.map_append] at h
    obtain ⟨a, b, ha, hb, hab⟩ := merge_append (by simpa using hxs) (by simpa using hys) h
    refine ⟨a, b, ha, hb, ?_⟩
    rwa [ofString_toString (not_fixes_dot_of_merge ha),
      ofString_toString (not_fixes_dot_of_merge hb)]

/-- The texts `1..`, `.0.` and `..1` combine to `101`. -/
theorem merge_texts_three_bits :
    ["1..", ".0.", "..1"] ≠ [] ∧ SameLength ["1..", ".0.", "..1"] ∧
      ¬ Crowded ["1..", ".0.", "..1"] ∧
      ∃ m, merge (["1..", ".0.", "..1"].map ofString) = .ok m ∧
        Combines ["1..", ".0.", "..1"] m.toString :=
  ⟨by decide, by decide, by decide, (merge_texts.1 _ (by decide)).2.2.2 (by decide) (by decide)⟩

end Bitdef

end ByteMachine
