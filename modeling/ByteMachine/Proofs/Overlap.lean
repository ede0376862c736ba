import ByteMachine.Proofs.Counting
/- Repeated addresses among expanded templates. Two bit patterns overlap when
   they have one length and agree wherever both are fixed; they then admit a
   common string, the one that lays the first on the second and writes a zero
   where both are open. This module

   1. shows that two bit patterns admit a common string exactly when they
      overlap (`overlaps_iff_common`);
   2. shows that the entries of a list of templates repeat an address exactly
      when two templates at different places of the list overlap
      (`hasDuplicates_collapseTemplates`), since one template's addresses never
      repeat;
   3. gathers the check that the memory build makes
      (`expandTemplates_finds_overlaps`): below the expansion limit the
      expanded entries repeat an address exactly when two templates overlap,
      and from the limit on the expansion stops with a recursion fault. -/
namespace ByteMachine

namespace Bitdef

/-- Two patterns overlap: they have one length and agree wherever both are fixed. -/
def Overlaps (a b : Bitdef) : Prop :=
  a.length = b.length ∧ ∀ i c c', a.Fixes i c → b.Fixes i c' → c = c'

theorem Overlaps.symm {a b : Bitdef} (h : a.Overlaps b) : b.Overlaps a :=
  ⟨h.1.symm, fun i c c' hb ha => (h.2 i c' c ha hb).symm⟩

/-! ## Filling with zeros -/

theorem getElem?_fill_zero {b : Bitdef} {i : Nat} {c : Char} (h : b.Fixes i c) :
    (b.fill "0").toList[i]? = some c := by
  rw [toList_fill_zero, List.getElem?_map, h]
  rfl

theorem length_fill_zero (b : Bitdef) : (b.fill "0").toList.length = b.length := by
  rw [toList_fill_zero, List.length_map, length]

theorem bits_fill_zero {b : Bitdef} (hb : b.isBinary = true) :
    ∀ x ∈ (b.fill "0").toList, x = '0' ∨ x = '1' := by
  rw [toList_fill_zero]
  intro x hx
  obtain ⟨c, hc, rfl⟩ := List.mem_map.mp hx
  cases c with
  | wild => exact .inl rfl
  | fixed d => simpa [Cell.isBinary, Cell.zeroFill] using List.all_eq_true.mp hb _ hc

theorem isBinary_overlay {a b : Bitdef} (ha : a.isBinary = true) (hb : b.isBinary = true)
    (hlen : a.length = b.length) : (overlay a b).isBinary = true :=
  isBinary_iff.mpr fun i c h => ((fixes_overlay hlen).mp h).elim (isBinary_iff.mp ha i c)
    fun h => isBinary_iff.mp hb i c h.2

/-! ## A common string -/

/-- An overlapping pattern laid on another and filled with zeros is admitted by both. -/
theorem admits_fill_overlay {a b : Bitdef} (h : a.Overlaps b) (ha : a.isBinary = true)
    (hb : b.isBinary = true) :
    a.Admits ((overlay a b).fill "0").toList ∧ b.Admits ((overlay a b).fill "0").toList := by
  have hover := isBinary_overlay ha hb h.1
  have hlen : ((overlay a b).fill "0").toList.length = a.length := by
    rw [length_fill_zero, length_overlay h.1]
  refine ⟨(admits_iff ha).mpr ⟨hlen, bits_fill_zero hover, fun i c hc => ?_⟩,
    (admits_iff hb).mpr ⟨hlen.trans h.1, bits_fill_zero hover, fun i c hc => ?_⟩⟩
  · exact getElem?_fill_zero ((fixes_overlay h.1).mpr (.inl hc))
  · -- `a` either fixes the position to the same symbol or leaves it open
    refine getElem?_fill_zero ((fixes_overlay h.1).mpr ?_)
    have hi : i < a.cells.length := by
      have hab : a.cells.length = b.cells.length := h.1
      have := (List.getElem?_eq_some_iff.mp hc).1
      omega
    cases hcell : a.cells[i] with
    | wild => exact .inr ⟨by rw [List.getElem?_eq_getElem hi, hcell], hc⟩
    | fixed x =>
      have hx : a.Fixes i x := by rw [Fixes, List.getElem?_eq_getElem hi, hcell]
      exact .inl (h.2 i x c hx hc ▸ hx)

/-- Two bit patterns collapse to a common string exactly when they
overlap. -/
theorem overlaps_iff_common {a b : Bitdef} (ha : a.isBinary = true) (hb : b.isBinary = true) :
    a.Overlaps b ↔ ∃ w, w ∈ a.collapse ∧ w ∈ b.collapse := by
  constructor
  · intro h
    obtain ⟨hA, hB⟩ := admits_fill_overlay h ha hb
    exact ⟨_, mem_collapse.mpr hA, mem_collapse.mpr hB⟩
  · rintro ⟨w, hwa, hwb⟩
    have hA := mem_collapse.mp hwa
    have hB := mem_collapse.mp hwb
    -- both have the length of the common string, and hold its symbol where they are fixed
    refine ⟨((admits_iff ha).mp hA).1.symm.trans ((admits_iff hb).mp hB).1,
      fun i c c' hc hc' => ?_⟩
    have h := getElem?_of_admits hA hc
    rw [getElem?_of_admits hB hc', Option.some.injEq] at h
    exact h.symm

end Bitdef

namespace Microcode

/-- A list has two elements at different places related by a symmetric `R` exactly when it
is not pairwise free of `R`. -/
theorem not_pairwise_not_iff {α : Type} {R : α → α → Prop} (hR : ∀ {a b}, R a b → R b a)
    {l : List α} :
    ¬ l.Pairwise (fun a b => ¬ R a b) ↔
      ∃ (i j : Nat) (a b : α), i ≠ j ∧ l[i]? = some a ∧ l[j]? = some b ∧ R a b := by
  rw [List.pairwise_iff_getElem]
  simp only [not_forall, not_not]
  constructor
  · rintro ⟨i, j, hi, hj, hij, h⟩
    exact ⟨i, j, _, _, Nat.ne_of_lt hij, List.getElem?_eq_getElem hi,
      List.getElem?_eq_getElem hj, h⟩
  · rintro ⟨i, j, a, b, hne, ha, hb, h⟩
    obtain ⟨hi, rfl⟩ := List.getElem?_eq_some_iff.mp ha
    obtain ⟨hj, rfl⟩ := List.getElem?_eq_some_iff.mp hb
    rcases Nat.lt_or_gt_of_ne hne with hij | hji
    · exact ⟨i, j, hi, hj, hij, h⟩
    · exact ⟨j, i, hj, hi, hji, hR h⟩

/-- The entries of templates with bit patterns as ranges repeat an
address exactly when two templates at different places of the list overlap. -/
theorem hasDuplicates_collapseTemplates {ts : List Template}
    (hbin : ∀ t ∈ ts, t.range.isBinary = true) :
    hasDuplicates (collapseTemplates ts) = true ↔
      ∃ (i j : Nat) (t u : Template), i ≠ j ∧ ts[i]? = some t ∧ ts[j]? = some u ∧
        t.range.Overlaps u.range := by
  -- the entries repeat no address when the templates pairwise share no address
  have hfree : hasDuplicates (collapseTemplates ts) = false ↔
      ts.Pairwise fun t u => ¬ t.range.Overlaps u.range := by
    rw [hasDuplicates_eq_false_iff, map_address_collapseTemplates, List.nodup_flatMap]
    simp only [Bitdef.nodup_collapse, implies_true, true_and]
    refine List.Pairwise.iff_of_mem fun ht hu => ?_
    rw [Bitdef.overlaps_iff_common (hbin _ ht) (hbin _ hu), Function.onFun_apply, List.Disjoint]
    simp
  rw [← not_pairwise_not_iff Bitdef.Overlaps.symm, ← hfree, Bool.not_eq_false]

theorem expandTemplates_of_le {ts : List Template}
    (h : ∃ t ∈ ts, Bitdef.expansionLimit ≤ t.range.cells.count .wild) :
    expandTemplates ts = .error .recursionLimit := by
  rw [expandTemplates, if_pos]
  simpa using h

/-- For templates whose ranges are bit patterns, below the
expansion limit the expanded entries repeat an address exactly when two templates at
different places of the list have ranges of one length that agree wherever both are fixed;
from the limit on the expansion stops with a recursion fault. -/
theorem expandTemplates_finds_overlaps (ts : List Template)
    (hbin : ∀ t ∈ ts, t.range.isBinary = true) :
    ((∀ t ∈ ts, t.range.cells.count .wild < Bitdef.expansionLimit) →
      ∃ es, expandTemplates ts = .ok es ∧
        (hasDuplicates es = true ↔
          ∃ (i j : Nat) (t u : Template), i ≠ j ∧ ts[i]? = some t ∧ ts[j]? = some u ∧
            t.range.Overlaps u.range)) ∧
    ((∃ t ∈ ts, Bitdef.expansionLimit ≤ t.range.cells.count .wild) →
      expandTemplates ts = .error .recursionLimit) :=
  ⟨fun h => ⟨_, expandTemplates_of_lt h, hasDuplicates_collapseTemplates hbin⟩,
    expandTemplates_of_le⟩

/-- The ranges `0.` and `.1` cross at the address `01`. -/
theorem expandTemplates_finds_crossing_ranges :
    (∀ t ∈ ([⟨.ofString "0.", "a"⟩, ⟨.ofString ".1", "b"⟩] : List Template),
      t.range.isBinary = true) ∧
    ∃ es, expandTemplates [⟨.ofString "0.", "a"⟩, ⟨.ofString ".1", "b"⟩] = .ok es ∧
      (hasDuplicates es = true ↔
        ∃ (i j : Nat) (t u : Template), i ≠ j ∧
          ([⟨.ofString "0.", "a"⟩, ⟨.ofString ".1", "b"⟩] : List Template)[i]? = some t ∧
          ([⟨.ofString "0.", "a"⟩, ⟨.ofString ".1", "b"⟩] : List Template)[j]? = some u ∧
          t.range.Overlaps u.range) := by
  have hbin : ∀ t ∈ ([⟨.ofString "0.", "a"⟩, ⟨.ofString ".1", "b"⟩] : List Template),
      t.range.isBinary = true := by decide
  exact ⟨hbin, (expandTemplates_finds_overlaps _ hbin).1 (by decide)⟩

/-- A template of two thousand open positions is never expanded, so no answer about
repeated addresses is given, though one template alone repeats none. -/
theorem expandTemplates_refuses_two_thousand_places :
    expandTemplates [⟨.ofString (String.ofList (List.replicate 2000 '.')), ""⟩] =
      .error .recursionLimit :=
  expandTemplates_of_le ⟨_, List.mem_singleton_self _, by
    rw [Bitdef.ofString_replicate_dot, Bitdef.count_wild_dots]
    decide⟩

end Microcode

end ByteMachine
