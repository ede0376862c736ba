import Mathlib.Data.List.Chain
import ByteMachine.Proofs.MemoryImage
/- Cleaning a line of assembly. Cleaning keeps the text before the first `//`
   and joins its words with single spaces. This module

   1. says which pieces a split cuts (`mem_splitOnP`): runs of the list that
      hold no separator, so that every word is a non-empty run of blank-free
      characters (`mem_wordsOf`), and words joined by single spaces split
      back into the same words (`wordsOf_intercalate`);
   2. describes the text before the first `//` without the function that
      finds it (`CodePart`), and shows it is determined by the line
      (`CodePart.eq_beforeComment`);
   3. states what a cleaned line looks like (`Cleaned`): no `//`, no blank
      at either end and no blank but single spaces between words; words with
      no `//` in them, joined by spaces, look so (`cleaned_intercalate`);
   4. gathers these (`cleanLine_normal_form`): cleaning gives the words of
      the text before the first `//` joined by single spaces, the result is
      cleaned, and cleaning it again changes nothing. -/
namespace ByteMachine

namespace Text

variable {α : Type}

/-! ## The pieces of a split -/

theorem head?_splitOnP_prefix (p : α → Bool) :
    ∀ (xs : List α), ∀ h ∈ (xs.splitOnP p).head?, h <+: xs
  | [], h, hh => by
    rw [List.splitOnP_nil, List.head?_cons, Option.mem_some_iff] at hh
    subst hh
    exact List.nil_prefix
  | x :: xs, h, hh => by
    rw [List.splitOnP_cons_eq_if_modifyHead] at hh
    split at hh
    · rw [List.head?_cons, Option.mem_some_iff] at hh
      subst hh
      exact List.nil_prefix
    · -- the first piece grows by `x` in front
      rw [List.head?_modifyHead, Option.mem_def, Option.map_eq_some_iff] at hh
      obtain ⟨h', hh', rfl⟩ := hh
      exact List.cons_prefix_cons.mpr ⟨rfl, head?_splitOnP_prefix p xs h' hh'⟩

/-- Each piece of a split is a run of the list that holds no separator. -/
theorem mem_splitOnP (p : α → Bool) :
    ∀ (xs : List α), ∀ w ∈ xs.splitOnP p, w <:+: xs ∧ ∀ c ∈ w, p c = false
  | [], w, hw => by
    rw [List.splitOnP_nil, List.mem_singleton] at hw
    subst hw
    exact ⟨List.infix_refl _, nofun⟩
  | x :: xs, w, hw => by
    rw [List.splitOnP_cons_eq_if_modifyHead] at hw
    split at hw
    · rcases List.mem_cons.mp hw with rfl | hw
      · exact ⟨List.nil_infix, nofun⟩
      · obtain ⟨hinf, hw⟩ := mem_splitOnP p xs w hw
        exact ⟨hinf.trans (List.suffix_cons x xs).isInfix, hw⟩
    · next hx =>
      obtain ⟨h, t, hsplit⟩ := List.exists_cons_of_ne_nil (List.splitOnP_ne_nil p xs)
      rw [hsplit, List.modifyHead_cons, List.mem_cons] at hw
      have hfirst := mem_splitOnP p xs h (by rw [hsplit]; exact List.mem_cons_self)
      rcases hw with rfl | hw
      · -- the first piece: `x` followed by the first piece of the rest, a prefix of it
        have hpre := head?_splitOnP_prefix p xs h (by rw [hsplit]; rfl)
        refine ⟨(List.cons_prefix_cons.mpr ⟨rfl, hpre⟩).isInfix, ?_⟩
        intro c hc
        rcases List.mem_cons.mp hc with rfl | hc
        · simpa using hx
        · exact hfirst.2 c hc
      · obtain ⟨hinf, hw⟩ :=
          mem_splitOnP p xs w (by rw [hsplit]; exact List.mem_cons_of_mem _ hw)
        exact ⟨hinf.trans (List.suffix_cons x xs).isInfix, hw⟩

/-- A word is non-empty, holds no blank, and is a run of the text it comes from. -/
theorem mem_wordsOf {cs w : List Char} (h : w ∈ wordsOf cs) :
    w ≠ [] ∧ w <:+: cs ∧ ∀ c ∈ w, isBlank c = false :=
  ⟨ne_nil_of_mem_wordsOf h, mem_splitOnP isBlank cs w (List.mem_filter.mp h).1⟩

theorem wordsOf_word {w : List Char} (hne : w ≠ []) (hw : ∀ c ∈ w, isBlank c = false) :
    wordsOf w = [w] := by
  rw [wordsOf, List.splitOnP_eq_singleton hw]
  simp [hne]

/-- Words joined by single spaces split back into the same words. -/
theorem wordsOf_intercalate :
    ∀ {ws : List (List Char)}, (∀ w ∈ ws, w ≠ [] ∧ ∀ c ∈ w, isBlank c = false) →
      wordsOf ([' '].intercalate ws) = ws
  | [], _ => wordsOf_nil
  | [w], h => by
    rw [List.intercalate_singleton]
    exact wordsOf_word (h w List.mem_cons_self).1 (h w List.mem_cons_self).2
  | w :: w' :: ws, h => by
    obtain ⟨hne, hw⟩ := h w List.mem_cons_self
    rw [List.intercalate_cons_cons, List.append_assoc, List.singleton_append,
      wordsOf_append_cons isBlank_space, wordsOf_word hne hw,
      wordsOf_intercalate fun v hv => h v (List.mem_cons_of_mem _ hv), List.singleton_append]

/-! ## Neighbours -/

/-- A pair that does not occur in a list is a relation between every two neighbours. -/
theorem not_infix_pair_iff {a b : α} {l : List α} :
    ¬ [a, b] <:+: l ↔ l.IsChain fun x y => ¬ (x = a ∧ y = b) := by
  rw [List.isChain_iff_forall_rel_of_append_cons_cons]
  constructor
  · rintro h x y l₁ l₂ rfl ⟨rfl, rfl⟩
    exact h ⟨l₁, l₂, by simp⟩
  · rintro h ⟨l₁, l₂, rfl⟩
    exact h (show l₁ ++ [a, b] ++ l₂ = l₁ ++ a :: b :: l₂ by simp) ⟨rfl, rfl⟩

end Text


namespace Assembly

open Text

/-! ## The text before a comment -/

/-- `p` is the text of `s` before its first `//`, all of `s` when it holds none. -/
def CodePart (s p : List Char) : Prop :=
  (p = s ∧ ¬ ['/', '/'] <:+: s) ∨
    ∃ q, s = p ++ '/' :: '/' :: q ∧ ¬ ['/', '/'] <:+: p ++ ['/']

/-- A marker at the front of `c :: r` is `c` and the first character of `r`. -/
theorem not_infix_cons {c : Char} {r : List Char} (hc : ∀ r', r = '/' :: r' → c ≠ '/')
    (hr : ¬ ['/', '/'] <:+: r) : ¬ ['/', '/'] <:+: c :: r := by
  rw [not_infix_pair_iff, List.isChain_cons]
  refine ⟨?_, not_infix_pair_iff.mp hr⟩
  intro y hy ⟨hcy, hy'⟩
  obtain ⟨r', rfl⟩ : ∃ r', r = y :: r' := by
    cases r with
    | nil => cases hy
    | cons d r' =>
      rw [Option.mem_def, List.head?_cons, Option.some.injEq] at hy
      exact ⟨r', by rw [hy]⟩
  exact hc r' (by rw [hy']) hcy

theorem codePart_beforeComment (s : List Char) : CodePart s (beforeComment s) := by
  induction s using beforeComment.induct with
  | case1 => exact .inl ⟨rfl, fun h => by simpa using h.length_le⟩
  | case2 r =>
    rw [beforeComment.eq_2]
    exact .inr ⟨r, rfl, fun h => by simpa using h.length_le⟩
  | case3 c r h ih =>
    rw [beforeComment.eq_3 c r h]
    generalize beforeComment r = p at ih ⊢
    -- `c` does not open a marker, so the text before the marker grows by `c`
    have hc : ∀ r', r = '/' :: r' → c ≠ '/' := fun r' hr hc => h r' hc hr
    rcases ih with ⟨rfl, hr⟩ | ⟨q, rfl, hr⟩
    · exact .inl ⟨rfl, not_infix_cons hc hr⟩
    · refine .inr ⟨q, rfl, ?_⟩
      refine not_infix_cons (fun r' hr' => hc (r' ++ '/' :: q) ?_) hr
      calc p ++ '/' :: '/' :: q = (p ++ ['/']) ++ '/' :: q := by simp
        _ = '/' :: (r' ++ '/' :: q) := by
          rw [show p ++ ['/'] = '/' :: r' from hr', List.cons_append]

/-- The text before the first marker is determined by the line. -/
theorem CodePart.eq_beforeComment {s p : List Char} (h : CodePart s p) : p = beforeComment s := by
  induction s using beforeComment.induct generalizing p with
  | case1 =>
    rcases h with ⟨rfl, -⟩ | ⟨q, hq, -⟩
    · rfl
    · simp at hq
  | case2 r =>
    rw [beforeComment.eq_2]
    rcases h with ⟨-, hs⟩ | ⟨q, hq, hp⟩
    · exact absurd ⟨[], r, rfl⟩ hs
    · -- a non-empty text before the marker would open with a marker itself
      cases p with
      | nil => rfl
      | cons x p' =>
        refine absurd ?_ hp
        cases p' with
        | nil =>
          simp only [List.cons_append, List.nil_append, List.cons.injEq] at hq
          obtain ⟨rfl, -⟩ := hq
          exact List.infix_refl _
        | cons y p'' =>
          simp only [List.cons_append, List.cons.injEq] at hq
          obtain ⟨rfl, rfl, -⟩ := hq
          exact ⟨[], p'' ++ ['/'], rfl⟩
  | case3 c r hne ih =>
    rw [beforeComment.eq_3 c r hne]
    rcases h with ⟨rfl, hs⟩ | ⟨q, hq, hp⟩
    · -- no marker at all: the rest is its own text before the marker
      rw [← ih (.inl ⟨rfl, fun hr => hs (hr.trans (List.suffix_cons c r).isInfix)⟩)]
    · cases p with
      | nil =>
        obtain ⟨rfl, rfl⟩ := List.cons.inj hq
        exact absurd rfl (hne q rfl)
      | cons x p' =>
        obtain ⟨rfl, rfl⟩ := List.cons.inj hq
        rw [← ih (.inr ⟨q, rfl, fun h' => hp (h'.trans (List.suffix_cons c _).isInfix)⟩)]

/-! ## Cleaned text -/

/-- A cleaned line: no comment marker, no blank but single spaces, none at either end. -/
structure Cleaned (t : List Char) : Prop where
  no_marker : ¬ ['/', '/'] <:+: t
  blank_space : ∀ c ∈ t, isBlank c = true → c = ' '
  single_spaces : ¬ [' ', ' '] <:+: t
  head_word : ∀ c ∈ t.head?, isBlank c = false
  last_word : ∀ c ∈ t.getLast?, isBlank c = false

theorem cleaned_nil : Cleaned [] where
  no_marker h := by simpa using h.length_le
  blank_space _ h := by cases h
  single_spaces h := by simpa using h.length_le
  head_word _ h := by cases h
  last_word _ h := by cases h

/-- A word with no marker in it is cleaned. -/
theorem cleaned_word {w : List Char} (hw : ∀ c ∈ w, isBlank c = false)
    (hm : ¬ ['/', '/'] <:+: w) : Cleaned w where
  no_marker := hm
  blank_space c hc hb := by rw [hw c hc] at hb; cases hb
  single_spaces h := by
    have := hw ' ' (h.subset List.mem_cons_self)
    rw [isBlank_space] at this
    cases this
  head_word c hc := hw c (List.mem_of_mem_head? hc)
  last_word c hc := hw c (List.mem_of_mem_getLast? hc)

/-- Two cleaned texts joined by a space are cleaned. -/
theorem Cleaned.append_space {a b : List Char} (ha : Cleaned a) (hb : Cleaned b) (hne : a ≠ [])
    (hne' : b ≠ []) : Cleaned (a ++ ' ' :: b) where
  no_marker := by
    rw [not_infix_pair_iff, List.isChain_append, List.isChain_cons]
    refine ⟨not_infix_pair_iff.mp ha.no_marker, ⟨?_, not_infix_pair_iff.mp hb.no_marker⟩,
      ?_⟩
    · intro y _ h
      exact absurd h.1 (by decide)
    · intro x _ y hy h
      rw [List.head?_cons, Option.mem_some_iff] at hy
      exact absurd (hy ▸ h.2) (by decide)
  blank_space c hc hblank := by
    rcases List.mem_append.mp hc with hc | hc
    · exact ha.blank_space c hc hblank
    · rcases List.mem_cons.mp hc with rfl | hc
      · rfl
      · exact hb.blank_space c hc hblank
  single_spaces := by
    rw [not_infix_pair_iff, List.isChain_append, List.isChain_cons]
    refine ⟨not_infix_pair_iff.mp ha.single_spaces,
      ⟨?_, not_infix_pair_iff.mp hb.single_spaces⟩, ?_⟩
    · -- the space is followed by the first character of `b`, no blank
      intro y hy h
      have := hb.head_word y hy
      rw [h.2, isBlank_space] at this
      cases this
    · -- and preceded by the last character of `a`, no blank either
      intro x hx y _ h
      have := ha.last_word x hx
      rw [h.1, isBlank_space] at this
      cases this
  head_word c hc := ha.head_word c (by rwa [List.head?_append_of_ne_nil _ hne] at hc)
  last_word c hc := by
    obtain ⟨y, b', rfl⟩ := List.exists_cons_of_ne_nil hne'
    apply hb.last_word c
    rwa [List.getLast?_append_of_ne_nil _ (List.cons_ne_nil _ _), List.getLast?_cons_cons] at hc

/-- Words without markers, joined by single spaces, are cleaned. -/
theorem cleaned_intercalate : ∀ {ws : List (List Char)},
    (∀ w ∈ ws, w ≠ [] ∧ (∀ c ∈ w, isBlank c = false) ∧ ¬ ['/', '/'] <:+: w) →
      Cleaned ([' '].intercalate ws)
  | [], _ => cleaned_nil
  | [w], h => by
    rw [List.intercalate_singleton]
    exact cleaned_word (h w List.mem_cons_self).2.1 (h w List.mem_cons_self).2.2
  | w :: w' :: ws, h => by
    obtain ⟨hne, hw, hm⟩ := h w List.mem_cons_self
    have hrest := @cleaned_intercalate (w' :: ws) fun v hv => h v (List.mem_cons_of_mem _ hv)
    -- the rest opens with the first character of `w'`
    obtain ⟨x, w'', hx⟩ := List.exists_cons_of_ne_nil (h w' (by simp)).1
    have hne' : [' '].intercalate (w' :: ws) ≠ [] := by
      rw [hx, List.intercalate_cons_cons_left]
      exact List.cons_ne_nil _ _
    rw [List.intercalate_cons_cons, List.append_assoc, List.singleton_append]
    exact (cleaned_word hw hm).append_space hrest hne hne'

/-! ## Cleaning a line -/

theorem toList_cleanLine (s : String) :
    (cleanLine s).toList = [' '].intercalate (wordsOf (beforeComment s.toList)) := by
  rw [cleanLine, squeeze, words, removeComment, String.toList_intercalate, List.map_map,
    String.toList_ofList]
  simp [Function.comp_def]

/-- The words of the text before the marker hold no blank and no marker. -/
theorem word_of_mem_wordsOf {s w : List Char} (hw : w ∈ wordsOf (beforeComment s)) :
    w ≠ [] ∧ (∀ c ∈ w, isBlank c = false) ∧ ¬ ['/', '/'] <:+: w := by
  obtain ⟨hne, hinf, hblank⟩ := mem_wordsOf hw
  -- the text before the first marker holds none
  have hnm : ¬ ['/', '/'] <:+: beforeComment s := by
    rcases codePart_beforeComment s with ⟨heq, hs⟩ | ⟨q, -, hp⟩
    · rwa [heq]
    · exact fun h => hp (h.trans (List.prefix_append _ _).isInfix)
  exact ⟨hne, hblank, fun h => hnm (h.trans hinf)⟩

theorem cleaned_cleanLine (s : String) : Cleaned (cleanLine s).toList := by
  rw [toList_cleanLine]
  exact cleaned_intercalate fun w hw => word_of_mem_wordsOf hw

theorem cleanLine_cleanLine (s : String) : cleanLine (cleanLine s) = cleanLine s := by
  rw [← String.toList_inj, toList_cleanLine]
  -- a cleaned line holds no marker, so all of it comes before one
  have hcode : beforeComment (cleanLine s).toList = (cleanLine s).toList :=
    (CodePart.eq_beforeComment (.inl ⟨rfl, (cleaned_cleanLine s).no_marker⟩)).symm
  rw [hcode, toList_cleanLine, wordsOf_intercalate fun w hw =>
    ⟨(word_of_mem_wordsOf hw).1, (word_of_mem_wordsOf hw).2.1⟩]

/-- The text before the first `//` is determined by the line, and cleaning
joins its words with single spaces. The result holds no `//`, has no blank at either end and
none but single spaces between words, and cleaning it again changes nothing. -/
theorem cleanLine_normal_form (s : String) :
    (∃ p, CodePart s.toList p) ∧
      (∀ p, CodePart s.toList p → cleanLine s = " ".intercalate (words (String.ofList p))) ∧
      Cleaned (cleanLine s).toList ∧ cleanLine (cleanLine s) = cleanLine s := by
  refine ⟨⟨_, codePart_beforeComment _⟩, fun p hp => ?_, cleaned_cleanLine s,
    cleanLine_cleanLine s⟩
  rw [hp.eq_beforeComment]
  rfl

end Assembly

end ByteMachine
