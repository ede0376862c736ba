import ByteMachine.Proofs.RomLayout
/- Collapsing a pattern counts in binary. A pattern is written as text, `.` for
   an open position; a completion of the text puts a bit in place of each `.`
   and keeps every other character. This module

   1. reads the strings a pattern stands for as the completions of its text
      (`mem_collapse_ofString`) and counts them (`length_collapse_ofString`);
   2. shows that collapsing runs a counter over the open positions: the string
      at place `i` holds the binary digits of `i` at its `.` places, the
      leftmost most significant (`counts_completions`);
   3. gathers the listing (`expand_enumerates`): below the expansion limit,
      expanding the text lists its `2^k` completions for `k` open positions,
      each once and in increasing order; from the limit on it stops with a
      recursion fault. -/
namespace ByteMachine

/-- Digits read after a start value `init` add `init` shifted past them. -/
theorem ofDigitChars_eq_pow_mul_add (b : Nat) (l : List Char) (init : Nat) :
    Nat.ofDigitChars b l init = Nat.pow b l.length * init + Nat.ofDigitChars b l 0 := by
  induction l generalizing init with
  | nil => simp
  | cons c r ih =>
    rw [Nat.ofDigitChars_cons, Nat.ofDigitChars_cons, ih, ih (b * 0 + _), List.length_cons,
      Nat.pow_eq, Nat.pow_eq, Nat.pow_succ, Nat.mul_zero, Nat.zero_add, Nat.mul_add, Nat.mul_assoc,
      Nat.add_assoc]

namespace Bitdef

/-- The character `x` completes the character `c` of a pattern's text: a bit for `.`,
and `c` itself otherwise. -/
def completesChar (c x : Char) : Prop := if c = '.' then x = '0' ∨ x = '1' else x = c

instance (c x : Char) : Decidable (completesChar c x) :=
  inferInstanceAs (Decidable (if c = '.' then x = '0' ∨ x = '1' else x = c))

/-- `t` is the text `s` with each `.` replaced by a bit and every other character kept. -/
def Completes (s t : String) : Prop := List.Forall₂ completesChar s.toList t.toList

instance (s t : String) : Decidable (Completes s t) :=
  inferInstanceAs (Decidable (List.Forall₂ completesChar s.toList t.toList))

/-- The characters of `t` at the places where `s` has a `.`. -/
def atDots : List Char → List Char → List Char
  | c :: s, x :: t => if c = '.' then x :: atDots s t else atDots s t
  | _, _ => []

/-- `l` runs through the completions of `s` as a binary counter over its `.` places. -/
structure Enumerates (s : String) (l : List String) : Prop where
  length : l.length = Nat.pow 2 (s.toList.count '.')
  nodup : l.Nodup
  completions : ∀ t, t ∈ l ↔ Completes s t
  increasing : l.Pairwise (· < ·)
  counts : ∀ i t, l[i]? = some t → Nat.ofDigitChars 2 (atDots s.toList t.toList) 0 = i

@[simp] theorem cells_ofString (s : String) : (ofString s).cells = s.toList.map Cell.ofChar := rfl

theorem admits_ofChar {c x : Char} : (Cell.ofChar c).admits x = true ↔ completesChar c x := by
  unfold Cell.ofChar completesChar
  split <;> simp

/-! ## The completions of a text -/

theorem mem_completions_ofChar {cs w : List Char} :
    w ∈ completions (cs.map Cell.ofChar) ↔ List.Forall₂ completesChar cs w := by
  simp only [mem_completions, List.forall₂_map_left_iff, admits_ofChar]

/-- The strings a pattern collapses to are the completions of its text. -/
theorem mem_collapse_ofString {s t : String} : t ∈ (ofString s).collapse ↔ Completes s t := by
  rw [mem_collapse, Admits, ← mem_completions, cells_ofString, mem_completions_ofChar, Completes]

example : Completes "1.0." "1100" ∧ ¬ Completes "1.0." "1200" := by decide

theorem count_wild_map_ofChar (cs : List Char) :
    (cs.map Cell.ofChar).count .wild = cs.count '.' := by
  induction cs with
  | nil => rfl
  | cons c r ih => by_cases hc : c = '.' <;> simp [Cell.ofChar, hc, ih]

theorem count_wild_ofString (s : String) : (ofString s).cells.count .wild = s.toList.count '.' :=
  count_wild_map_ofChar _

/-- The text of `n` dots is the pattern of `n` open positions. -/
theorem ofString_replicate_dot (n : Nat) :
    ofString (String.ofList (List.replicate n '.')) = dots n := by
  rw [ofString, String.toList_ofList, List.map_replicate, dots]
  rfl

theorem length_completions_ofChar (cs : List Char) :
    (completions (cs.map Cell.ofChar)).length = Nat.pow 2 (cs.count '.') := by
  -- the open cells are the wild ones
  have hopen : ((cs.map Cell.ofChar).filter fun c => !c.isFixed) =
      (cs.map Cell.ofChar).filter (· == .wild) :=
    List.filter_congr fun c _ => by cases c <;> rfl
  rw [length_completions, hopen, ← List.count_eq_length_filter, count_wild_map_ofChar]

theorem length_collapse_ofString (s : String) :
    (ofString s).collapse.length = Nat.pow 2 (s.toList.count '.') := by
  rw [collapse, List.length_map]
  exact length_completions_ofChar _

/-! ## Counting -/

theorem length_atDots {cs w : List Char} (h : List.Forall₂ completesChar cs w) :
    (atDots cs w).length = cs.count '.' := by
  induction h with
  | nil => rfl
  | @cons c x r v _ _ ih => by_cases hc : c = '.' <;> simp [atDots, hc, ih]

/-- The completion at place `i` holds the binary digits of `i` at the
`.` places of the text. -/
theorem counts_completions : ∀ (cs : List Char) (i : Nat) (w : List Char),
    (completions (cs.map Cell.ofChar))[i]? = some w → Nat.ofDigitChars 2 (atDots cs w) 0 = i
  | [], i, w, h => by
    cases i with
    | zero =>
      simp only [List.map_nil, completions, List.getElem?_cons_zero, Option.some.injEq] at h
      subst h
      rfl
    | succ i => simp [completions] at h
  | c :: r, i, w, h => by
    by_cases hc : c = '.'
    · -- the first `.` is the most significant digit: the half with `1` comes second
      subst hc
      have hR := length_completions_ofChar r
      simp only [List.map_cons, Cell.ofChar, if_true, completions] at h
      rcases Nat.lt_or_ge i (completions (r.map Cell.ofChar)).length with hi | hi
      · rw [List.getElem?_append_left (by simpa using hi), List.getElem?_map] at h
        obtain ⟨v, hv, rfl⟩ := Option.map_eq_some_iff.mp h
        rw [atDots, if_pos rfl, Nat.ofDigitChars_cons]
        exact counts_completions r i v hv
      · rw [List.getElem?_append_right (by simpa using hi), List.getElem?_map,
          List.length_map] at h
        obtain ⟨v, hv, rfl⟩ := Option.map_eq_some_iff.mp h
        have hlen : (atDots r v).length = r.count '.' :=
          length_atDots (mem_completions_ofChar.mp (List.mem_of_getElem? hv))
        have hlow := counts_completions r _ v hv
        rw [atDots, if_pos rfl, Nat.ofDigitChars_cons, ofDigitChars_eq_pow_mul_add, hlen, hlow]
        simp only [Char.reduceToNat, Nat.mul_zero, Nat.zero_add]
        omega
    · simp only [List.map_cons, Cell.ofChar, hc, if_false, completions, List.getElem?_map] at h
      obtain ⟨v, hv, rfl⟩ := Option.map_eq_some_iff.mp h
      rw [atDots, if_neg hc]
      exact counts_completions r i v hv

/-! ## The listing -/

theorem enumerates_collapse (s : String) : Enumerates s (ofString s).collapse where
  length := length_collapse_ofString s
  nodup := nodup_collapse _
  completions _ := mem_collapse_ofString
  increasing := pairwise_lt_collapse _
  counts i t h := by
    rw [collapse, List.getElem?_map] at h
    obtain ⟨w, hw, rfl⟩ := Option.map_eq_some_iff.mp h
    rw [String.toList_ofList]
    exact counts_completions s.toList i w hw

/-- For a text with `k` places holding `.`, below
the expansion limit the expansion lists its completions, `2^k` of them, each once, in
increasing order, the one at place `i` holding the binary digits of `i` at the `.` places;
from the limit on the expansion stops with a recursion fault. -/
theorem expand_enumerates (s : String) :
    (s.toList.count '.' < expansionLimit →
      ∃ l, (ofString s).expand = .ok l ∧ Enumerates s l) ∧
    (expansionLimit ≤ s.toList.count '.' → (ofString s).expand = .error .recursionLimit) :=
  ⟨fun hk => ⟨_, expand_of_lt (by rwa [count_wild_ofString]), enumerates_collapse s⟩,
    fun hk => expand_of_le (by rwa [count_wild_ofString])⟩

/-- The text `1.0.` expands to four completions, counting over its two `.` places. -/
theorem expand_enumerates_two_places :
    "1.0.".toList.count '.' < expansionLimit ∧
      ∃ l, (ofString "1.0.").expand = .ok l ∧ Enumerates "1.0." l :=
  ⟨by decide, (expand_enumerates "1.0.").1 (by decide)⟩

/-- A text of two thousand `.` is never expanded: the nested calls run out first. -/
theorem expand_refuses_two_thousand_places :
    (ofString (String.ofList (List.replicate 2000 '.'))).expand = .error .recursionLimit :=
  expand_of_le <| by
    rw [ofString_replicate_dot, count_wild_dots]
    decide

end Bitdef

end ByteMachine
