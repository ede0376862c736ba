import ByteMachine.Export.Logisim
import ByteMachine.Proofs.TwosComplement
/- Memory images in the Logisim raw format. An image is the header line
   `v2.0 raw`, then the values sixteen to a row, each written in upper-case
   hexadecimal of two digits or more, with one space between values inside a
   group of four and two spaces between groups, and a line feed after every
   row. The rows and groups are cut by `chunksOf`. This module

   1. describes the pieces that `chunksOf` cuts (`chunksOf_eq_range`): the
      windows of `k` elements that start at the multiples of `k` below the
      length, so that every piece is non-empty and all but the last have `k`
      elements (`chunks_pieces`);
   2. reads the hexadecimal text of a number back as that number
      (`parse_hex`);
   3. lays the text of an image out value by value (`intercalate_chunksOf`,
      `logisim_eq_ok`): each row is the values from place `16 j` on, each
      after the gap its place in the row calls for;
   4. cuts the text after the header back into its words (`words_rows`);
   5. gathers all this (`logisim_round_trip`): reading the words of an image
      in hexadecimal gives back the numbers its bit strings stand for. -/
namespace ByteMachine

namespace Export

variable {α : Type}

/-! ## Chunks -/

/-- A non-empty list has one chunk more than what follows its first chunk. -/
theorem ceil_div_eq_succ {n k : Nat} (hk : 0 < k) (hn : 0 < n) :
    (n + k - 1) / k = (n - k + k - 1) / k + 1 := by
  rcases Nat.lt_or_ge n k with h | h
  · rw [Nat.sub_eq_zero_of_le h.le, Nat.zero_add, Nat.div_eq_of_lt (by omega : k - 1 < k)]
    exact Nat.div_eq_of_lt_le (by omega) (by omega)
  · rw [show n + k - 1 = n - k + k - 1 + k by omega, Nat.add_div_right _ hk]

/-- Chunk `j` is the window of `k` elements from place `k j`, and
there is one chunk for each multiple of `k` below the length. -/
theorem chunksOf_eq_range {k : Nat} (hk : 0 < k) (xs : List α) :
    chunksOf k xs =
      (List.range ((xs.length + k - 1) / k)).map fun j => (xs.drop (k * j)).take k := by
  fun_induction chunksOf k xs with
  | case1 => omega
  | case2 => rw [List.length_nil, Nat.zero_add, Nat.div_eq_of_lt (by omega)]; rfl
  | case3 _ x rest ih =>
    rw [ih, List.length_drop,
      ceil_div_eq_succ hk (List.length_pos_of_ne_nil (List.cons_ne_nil x rest)),
      List.range_succ_eq_map, List.map_cons, List.map_map]
    -- the first chunk is the head; chunk `j + 1` is chunk `j` of what follows it
    congr 1
    refine List.map_congr_left fun j _ => ?_
    rw [Function.comp_apply, List.drop_drop, Nat.mul_succ, Nat.add_comm (k * j) k]

theorem mul_lt_of_lt_ceil {n k j : Nat} (hk : 0 < k) (hj : j < (n + k - 1) / k) : k * j < n := by
  have := (Nat.le_div_iff_mul_le hk).mp hj
  rw [Nat.succ_mul] at this
  rw [Nat.mul_comm]
  omega

theorem add_le_of_succ_lt_ceil {n k j : Nat} (hk : 0 < k) (hj : j + 1 < (n + k - 1) / k) :
    k * j + k ≤ n := by
  have := (Nat.le_div_iff_mul_le hk).mp hj
  rw [Nat.succ_mul, Nat.succ_mul] at this
  rw [Nat.mul_comm]
  omega

theorem mem_of_mem_chunksOf {k : Nat} (hk : 0 < k) {xs c : List α} {x : α}
    (hc : c ∈ chunksOf k xs) (hx : x ∈ c) : x ∈ xs :=
  flatten_chunksOf k hk xs ▸ List.mem_flatten_of_mem hc hx

theorem chunksOf_nil (k : Nat) : chunksOf k ([] : List α) = [] := by
  rw [chunksOf]
  split <;> rfl

theorem chunksOf_ne_nil {k : Nat} (hk : 0 < k) {xs : List α} (h : xs ≠ []) :
    chunksOf k xs ≠ [] := by
  rw [chunksOf_eq_range hk, Ne, List.map_eq_nil_iff, List.range_eq_nil]
  have := List.length_pos_of_ne_nil h
  have := (Nat.le_div_iff_mul_le hk).mpr (show 1 * k ≤ xs.length + k - 1 by omega)
  omega

theorem chunksOf_map {β : Type} {k : Nat} (hk : 0 < k) (f : α → β) (xs : List α) :
    chunksOf k (xs.map f) = (chunksOf k xs).map (List.map f) := by
  rw [chunksOf_eq_range hk, chunksOf_eq_range hk, List.length_map, List.map_map]
  refine List.map_congr_left fun j _ => ?_
  rw [Function.comp_apply, List.map_take, List.map_drop]

theorem chunks_eq_ok {k : Int} (hk : 1 ≤ k) (xs : List α) :
    chunks xs k = .ok (chunksOf k.toNat xs) := by
  rw [chunks, if_neg (by omega), if_neg (by omega)]

/-- For a size `k ≥ 1` the pieces are the windows of `k` elements from each multiple
of `k` below the length: none is empty, all but the last have `k` elements, and together they
give the list back. -/
theorem chunks_pieces (xs : List α) (k : Int) (hk : 1 ≤ k) :
    ∃ cs, chunks xs k = .ok cs ∧
      cs = (List.range ((xs.length + k.toNat - 1) / k.toNat)).map
        (fun j => (xs.drop (k.toNat * j)).take k.toNat) ∧
      (∀ c ∈ cs, c ≠ [] ∧ c.length ≤ k.toNat) ∧
      (∀ j c, cs[j]? = some c → j + 1 < cs.length → c.length = k.toNat) ∧
      cs.flatten = xs := by
  have hk' : 0 < k.toNat := by omega
  refine ⟨_, chunks_eq_ok hk xs, chunksOf_eq_range hk' xs, fun c hc => ?_, fun j c hc hj => ?_,
    flatten_chunksOf _ hk' xs⟩
  · rw [chunksOf_eq_range hk'] at hc
    obtain ⟨j, hj, rfl⟩ := List.mem_map.mp hc
    have := mul_lt_of_lt_ceil hk' (List.mem_range.mp hj)
    refine ⟨fun h => ?_, by rw [List.length_take]; exact Nat.min_le_left _ _⟩
    rw [List.take_eq_nil_iff, List.drop_eq_nil_iff] at h
    omega
  · rw [chunksOf_eq_range hk', List.getElem?_map, Option.map_eq_some_iff] at hc
    obtain ⟨j', hj', rfl⟩ := hc
    rw [List.getElem?_range (by simpa using (List.getElem?_eq_some_iff.mp hj').1),
      Option.some.injEq] at hj'
    subst hj'
    rw [chunksOf_eq_range hk', List.length_map, List.length_range] at hj
    have := add_le_of_succ_lt_ceil hk' hj
    simp only [List.length_take, List.length_drop]
    omega

/-! ## Laying out an image -/

/-- The separator before the value at place `m` of a row cut into groups of `k`: nothing before
the first value, `outer` before the first value of every later group, `inner` inside a group. -/
def sepBefore (k : Nat) (outer inner : String) (m : Nat) : String :=
  if m = 0 then "" else if m % k = 0 then outer else inner

/-- A row of an image: each value after its separator, one space inside a group of four and two
spaces between groups. -/
def rowText (hs : List String) : String :=
  String.join (hs.mapIdx fun m h => sepBefore 4 "  " " " m ++ h)

/-- The rows of an image of the values `hs`: row `j` holds the values from place `16 j` on, sixteen
to a row. -/
def imageRows (hs : List String) : List String :=
  (List.range ((hs.length + 15) / 16)).map fun j => rowText ((hs.drop (16 * j)).take 16)

section Separators

variable {k : Nat} {outer inner : String}

theorem sepBefore_of_lt {m : Nat} (h0 : 0 < m) (hm : m < k) : sepBefore k outer inner m = inner := by
  rw [sepBefore, if_neg (by omega), if_neg (by rw [Nat.mod_eq_of_lt hm]; omega)]

theorem sepBefore_add (hk : 0 < k) (m : Nat) :
    sepBefore k outer inner (m + k) = if m = 0 then outer else sepBefore k outer inner m := by
  unfold sepBefore
  rw [if_neg (by omega), Nat.add_mod_right]
  by_cases hm : m = 0
  · rw [if_pos hm, if_pos (by rw [hm, Nat.zero_mod])]
  · rw [if_neg hm, if_neg hm]

theorem intercalate_cons_eq_join (s h : String) (t : List String) :
    s.intercalate (h :: t) = h ++ String.join (t.map (s ++ ·)) := by
  induction t generalizing h with
  | nil => rw [String.intercalate_singleton, List.map_nil, String.join_nil, String.append_empty]
  | cons x t ih =>
    rw [String.intercalate_cons_cons, ih, List.map_cons, String.join_cons]
    simp only [String.append_assoc]

/-- Values no more than a group: the first as it is, each other after the inner separator. -/
theorem join_sepBefore_of_le {l : List String} (hl : l.length ≤ k) :
    String.join (l.mapIdx fun m h => sepBefore k outer inner m ++ h) = inner.intercalate l := by
  cases l with
  | nil => rfl
  | cons h t =>
    rw [List.mapIdx_cons, String.join_cons, intercalate_cons_eq_join, sepBefore, if_pos rfl,
      String.empty_append]
    congr 2
    rw [List.mapIdx_eq_iff]
    intro i
    rw [List.getElem?_map]
    cases hi : t[i]? with
    | none => rfl
    | some x =>
      have : i + 1 < k := by
        have := (List.getElem?_eq_some_iff.mp hi).1
        simp only [List.length_cons] at hl
        omega
      simp [sepBefore_of_lt (Nat.succ_pos i) this]

/-- Values after a first group: the first after the outer separator. -/
theorem join_sepBefore_add (hk : 0 < k) {l : List String} (hl : l ≠ []) :
    String.join (l.mapIdx fun m h => sepBefore k outer inner (m + k) ++ h) =
      outer ++ String.join (l.mapIdx fun m h => sepBefore k outer inner m ++ h) := by
  obtain ⟨y, ys, rfl⟩ := List.exists_cons_of_ne_nil hl
  rw [List.mapIdx_cons, List.mapIdx_cons, String.join_cons, String.join_cons, sepBefore_add hk,
    if_pos rfl, sepBefore, if_pos rfl, String.empty_append, ← String.append_assoc]
  congr 2
  refine List.mapIdx_eq_mapIdx_iff.mpr fun i _ => ?_
  rw [sepBefore_add hk, if_neg (Nat.succ_ne_zero i)]

/-- Joining the groups of `k` with `outer`, each joined with `inner`, puts
before each value the separator its place calls for. -/
theorem intercalate_chunksOf (hk : 0 < k) (hs : List String) :
    outer.intercalate ((chunksOf k hs).map inner.intercalate) =
      String.join (hs.mapIdx fun m h => sepBefore k outer inner m ++ h) := by
  fun_induction chunksOf k hs with
  | case1 => omega
  | case2 => rfl
  | case3 _ x rest ih =>
    conv_rhs => rw [← List.take_append_drop k (x :: rest)]
    rw [List.mapIdx_append, String.join_append, List.map_cons,
      join_sepBefore_of_le (by rw [List.length_take]; exact Nat.min_le_left _ _)]
    -- the first group, then the groups of what follows it
    by_cases hrest : (x :: rest).drop k = []
    · rw [hrest, chunksOf_nil, List.map_nil, String.intercalate_singleton, List.mapIdx_nil,
        String.join_nil, String.append_empty]
    · have hlen : ((x :: rest).take k).length = k := by
        rw [List.length_take]
        have := List.length_pos_of_ne_nil hrest
        rw [List.length_drop] at this
        omega
      rw [String.intercalate_cons_of_ne_nil (by simpa using chunksOf_ne_nil hk hrest), ih, hlen,
        join_sepBefore_add hk hrest, String.append_assoc]

end Separators

theorem imageRows_eq (hs : List String) : imageRows hs = (chunksOf 16 hs).map rowText := by
  rw [chunksOf_eq_range (by decide), List.map_map, imageRows]
  rfl

theorem intercalate_cons_append (s h : String) (ls : List String) :
    s.intercalate (h :: ls) ++ s = h ++ s ++ String.join (ls.map (· ++ s)) := by
  induction ls generalizing h with
  | nil => rw [String.intercalate_singleton, List.map_nil, String.join_nil, String.append_empty]
  | cons l ls ih =>
    rw [String.intercalate_cons_cons]
    simp only [String.append_assoc]
    rw [ih, List.map_cons, String.join_cons]

/-- When every bit string is written in hexadecimal as `tok` says,
the image is the header and then the rows of the written values, each row ending a line. -/
theorem logisim_eq_ok {bs : List String} {tok : String → String}
    (h : ∀ b ∈ bs, Word.hexOfBits b 2 = .ok (tok b)) :
    logisim bs = .ok ("v2.0 raw\n" ++ String.join ((imageRows (bs.map tok)).map (· ++ "\n"))) := by
  have hrow : ∀ line ∈ chunksOf 16 bs,
      (do
        let groups ← (chunksOf 4 line).mapM fun g => do
          let hs ← g.mapM fun b => Word.hexOfBits b 2
          pure (" ".intercalate hs)
        pure ("  ".intercalate groups) : Except Fault String) = .ok (rowText (line.map tok)) := by
    intro line hline
    -- each group is written value by value, and the groups are laid out by their places
    have hgroup : ∀ g ∈ chunksOf 4 line,
        (do
          let hs ← g.mapM fun b => Word.hexOfBits b 2
          pure (" ".intercalate hs) : Except Fault String) = .ok (" ".intercalate (g.map tok)) := by
      intro g hg
      rw [mapM_eq_ok_map fun b hb => h b (mem_of_mem_chunksOf (by decide) hline
        (mem_of_mem_chunksOf (by decide) hg hb))]
      rfl
    rw [mapM_eq_ok_map hgroup, rowText, ← intercalate_chunksOf (by decide), chunksOf_map (by decide),
      List.map_map]
    rfl
  have hheader : "v2.0 raw" ++ "\n" = "v2.0 raw\n" := by decide
  unfold logisim
  rw [mapM_eq_ok_map hrow, imageRows_eq, chunksOf_map (by decide), List.map_map]
  show Except.ok ("\n".intercalate ("v2.0 raw" :: _) ++ "\n") = _
  rw [intercalate_cons_append, hheader]
  simp only [List.map_map]
  rfl

end Export

/-! ## Reading hexadecimal digits -/

namespace Numeral

/-- The sixteen upper-case hexadecimal digits. -/
def upperHexDigits : List Char := "0123456789ABCDEF".toList

theorem upperHexDigits_read : ∀ c ∈ upperHexDigits, asciiChar c = some c ∧
    (digitOf c).any (· < 16) = true ∧ isSpace c = false ∧ c ≠ '+' ∧ c ≠ '-' ∧ c ≠ '_' ∧
    prefixBase c ≠ some 16 ∧ Text.isBlank c = false :=
  -- decided through the list's own quantifier: with all of Mathlib in scope an instance that
  -- ranges over every character is found first
  @of_decide_eq_true _ (List.decidableBAll _ _) rfl

theorem upper_digitChar_mem : ∀ d, d < 16 → (Nat.digitChar d).toUpper ∈ upperHexDigits := by
  decide

theorem digitOf_upper_digitChar : ∀ d, d < 16 → digitOf (Nat.digitChar d).toUpper = some d := by
  decide

theorem runValue_zeros_append (b z : Nat) (ds : List Char) :
    runValue b (List.replicate z '0' ++ ds) = runValue b ds := by
  induction z with
  | zero => rfl
  | succ z ih =>
    have h0 : (digitOf '0').getD 0 = 0 := by decide
    rw [List.replicate_succ, List.cons_append, runValue, List.foldl_cons, h0, Nat.zero_mul]
    exact ih

theorem runValue_hex (n : Nat) : runValue 16 ((Nat.toDigits 16 n).map Char.toUpper) = n := by
  induction n using Nat.strong_induction_on with
  | _ n ih =>
    rw [Nat.toDigits_eq_if (by decide)]
    split
    · next hn =>
      simp [runValue, digitOf_upper_digitChar n hn]
    · next hn =>
      -- the digits of `n / 16`, then the last digit
      rw [List.map_append, runValue, List.foldl_append, ← runValue,
        ih (n / 16) (Nat.div_lt_self (by omega) (by decide))]
      simp [digitOf_upper_digitChar (n % 16) (Nat.mod_lt _ (by decide))]
      omega

end Numeral

namespace Word

open Numeral

theorem toList_hex_padded (v : Nat) :
    (padded 16 Char.toUpper v 2).toList =
      List.replicate (2 - (Nat.toDigits 16 v).length) '0' ++ (Nat.toDigits 16 v).map Char.toUpper := by
  simp [padded, Int.not_lt.mpr (Int.natCast_nonneg v)]

theorem mem_hex_padded {v : Nat} {c : Char} (h : c ∈ (padded 16 Char.toUpper v 2).toList) :
    c ∈ upperHexDigits := by
  rw [toList_hex_padded, List.mem_append, List.mem_map] at h
  rcases h with h | ⟨x, hx, rfl⟩
  · rw [(List.mem_replicate.mp h).2]
    decide
  · obtain ⟨d, hd, rfl⟩ := exists_digitChar_of_mem_toDigits (by decide) hx
    exact upper_digitChar_mem d hd

theorem two_le_length_hex_padded (v : Nat) : 2 ≤ (padded 16 Char.toUpper v 2).length := by
  rw [← String.length_toList, toList_hex_padded, List.length_append, List.length_replicate,
    List.length_map]
  omega

/-- The hexadecimal text of a number reads back as that number. -/
theorem parse_hex (v : Nat) : Numeral.parse (.base 16) (padded 16 Char.toUpper v 2) = .ok v := by
  have hread := upperHexDigits_read
  have hmem : ∀ c ∈ (padded 16 Char.toUpper v 2).toList, c ∈ upperHexDigits :=
    fun c hc => mem_hex_padded hc
  have hne : (padded 16 Char.toUpper v 2).toList ≠ [] := by
    intro h
    have := two_le_length_hex_padded v
    rw [← String.length_toList, h] at this
    cases this
  unfold Numeral.parse Numeral.read
  rw [asciiForm_of_forall fun c hc => (hread c (hmem c hc)).1]
  dsimp only
  rw [readAscii_run (by decide) hne
      (fun c hc => let h := hread c (hmem c hc); ⟨h.2.1, h.2.2.1, h.2.2.2.1, h.2.2.2.2.1,
        h.2.2.2.2.2.1⟩)
      (dropPrefix_of_forall fun c hc => (hread c (hmem c (List.mem_of_mem_drop hc))).2.2.2.2.2.2.1),
    toList_hex_padded, runValue_zeros_append, runValue_hex]

/-- A non-empty string of binary digits is written as the hexadecimal text of its value. -/
theorem hexOfBits_bits {s : String} (hne : s ≠ "") (hbits : ∀ c ∈ s.toList, c = '0' ∨ c = '1') :
    hexOfBits s 2 = .ok (padded 16 Char.toUpper (Nat.ofDigitChars 2 s.toList 0) 2) := by
  have hw : 0 < s.length := by
    rw [← String.length_toList]
    exact List.length_pos_of_ne_nil (fun h => hne (String.toList_eq_nil_iff.mp h))
  rw [hexOfBits, ofBits_of_bits hw ⟨rfl, hbits⟩]
  simp only [bind, Except.bind, hex]
  rw [if_neg (by decide), if_neg (by decide)]

end Word

/-! ## The words of an image -/

namespace Text

theorem wordsOf_append_cons {xs ys : List Char} {b : Char} (hb : isBlank b = true) :
    wordsOf (xs ++ b :: ys) = wordsOf xs ++ wordsOf ys := by
  rw [wordsOf, List.splitOnP_append_cons xs ys hb, List.filter_append]
  rfl

theorem wordsOf_nil : wordsOf [] = [] := by
  simp [wordsOf, List.splitOnP_nil]

theorem wordsOf_blanks_append : ∀ {g : List Char} (ys : List Char), (∀ c ∈ g, isBlank c = true) →
    wordsOf (g ++ ys) = wordsOf ys
  | [], _, _ => rfl
  | b :: g, ys, h => by
    have hb := @wordsOf_append_cons [] (g ++ ys) b (h b List.mem_cons_self)
    rw [List.nil_append, wordsOf_nil, List.nil_append] at hb
    rw [List.cons_append, hb, wordsOf_blanks_append ys fun c hc => h c (List.mem_cons_of_mem _ hc)]

theorem words_empty : words "" = [] := by
  rw [words, String.toList_empty, wordsOf_nil, List.map_nil]

theorem words_append_blank {x y : String} {b : Char} (hb : isBlank b = true) :
    words (x ++ (String.singleton b ++ y)) = words x ++ words y := by
  rw [words, String.toList_append, String.toList_append, String.toList_singleton,
    List.singleton_append, wordsOf_append_cons hb, List.map_append]
  rfl

theorem words_blanks_append {g : String} (y : String) (hg : ∀ c ∈ g.toList, isBlank c = true) :
    words (g ++ y) = words y := by
  rw [words, String.toList_append, wordsOf_blanks_append _ hg]
  rfl

/-- A word before a blank or the end of the text is the first word. -/
theorem words_word_append {t r : String} (hne : t ≠ "") (ht : ∀ c ∈ t.toList, isBlank c = false)
    (hr : r = "" ∨ ∃ b r', r = String.singleton b ++ r' ∧ isBlank b = true) :
    words (t ++ r) = t :: words r := by
  have hword : words t = [t] := by
    rw [words, wordsOf, List.splitOnP_eq_singleton ht]
    simp [hne]
  rcases hr with rfl | ⟨b, r', rfl, hb⟩
  · rw [String.append_empty, hword, words_empty]
  · have hfront : words (String.singleton b ++ r') = words r' := by
      simpa [words_empty] using words_append_blank (x := "") (y := r') hb
    rw [words_append_blank hb, hword, hfront, List.singleton_append]

section Gaps

variable {G : Nat → String}

/-- After the first value, each value comes after a gap that opens with a blank. -/
theorem join_gapped_front
    (hg : ∀ m, ∃ b g, G (m + 1) = String.singleton b ++ g ∧ isBlank b = true) (ts : List String) :
    String.join (ts.mapIdx fun m t => G (m + 1) ++ t) = "" ∨
      ∃ b r', String.join (ts.mapIdx fun m t => G (m + 1) ++ t) = String.singleton b ++ r' ∧
        isBlank b = true := by
  cases ts with
  | nil => exact .inl rfl
  | cons t ts =>
    obtain ⟨b, g, hG, hb⟩ := hg 0
    refine .inr ⟨b, g ++ t ++ String.join (ts.mapIdx fun m t => G (m + 1 + 1) ++ t), ?_, hb⟩
    rw [List.mapIdx_cons, String.join_cons, hG]
    simp only [String.append_assoc]

/-- Values that are non-empty and hold no blank, each after a gap of
blanks, the gaps after the first non-empty, are the words of their text. -/
theorem words_join_gapped (hg0 : ∀ c ∈ (G 0).toList, isBlank c = true)
    (hg : ∀ m, ∃ b g, G (m + 1) = String.singleton b ++ g ∧ isBlank b = true ∧
      ∀ c ∈ g.toList, isBlank c = true)
    {ts : List String} (hts : ∀ t ∈ ts, t ≠ "" ∧ ∀ c ∈ t.toList, isBlank c = false) :
    words (String.join (ts.mapIdx fun m t => G m ++ t)) = ts := by
  induction ts generalizing G with
  | nil => exact words_empty
  | cons t ts ih =>
    obtain ⟨hne, ht⟩ := hts t List.mem_cons_self
    -- the gaps of the later values are those from place 1 on
    have hg0' : ∀ c ∈ (G (0 + 1)).toList, isBlank c = true := by
      obtain ⟨b, g, hG, hb, hgb⟩ := hg 0
      rw [hG, String.toList_append, String.toList_singleton]
      intro c hc
      rcases List.mem_append.mp hc with hc | hc
      · rw [List.mem_singleton.mp hc]
        exact hb
      · exact hgb c hc
    have hfront := join_gapped_front (fun m => let ⟨b, g, hG, hb, _⟩ := hg m; ⟨b, g, hG, hb⟩) ts
    rw [List.mapIdx_cons, String.join_cons, String.append_assoc, words_blanks_append _ hg0,
      words_word_append hne ht hfront,
      ih (G := fun m => G (m + 1)) hg0' (fun m => hg (m + 1))
        fun t' ht' => hts t' (List.mem_cons_of_mem _ ht')]

end Gaps

/-- The words of rows, each ending a line, are the words of each row in turn. -/
theorem words_rows (rows : List String) :
    words (String.join (rows.map (· ++ "\n"))) = (rows.map words).flatten := by
  induction rows with
  | nil => exact words_empty
  | cons r rows ih =>
    have hline : r ++ "\n" ++ String.join (rows.map (· ++ "\n")) =
        r ++ (String.singleton '\n' ++ String.join (rows.map (· ++ "\n"))) := by
      rw [String.append_assoc]
      rfl
    rw [List.map_cons, String.join_cons, hline, words_append_blank (by decide), ih, List.map_cons,
      List.flatten_cons]

end Text

namespace Export

theorem sepBefore_gap (m : Nat) :
    ∃ b g, sepBefore 4 "  " " " (m + 1) = String.singleton b ++ g ∧ Text.isBlank b = true ∧
      ∀ c ∈ g.toList, Text.isBlank c = true := by
  unfold sepBefore
  rw [if_neg (Nat.succ_ne_zero m)]
  split
  · exact ⟨' ', " ", by decide, by decide, List.all_eq_true.mp (by decide)⟩
  · exact ⟨' ', "", by decide, by decide, List.all_eq_true.mp (by decide)⟩

/-- The words of a row are its values, when none is empty or holds a blank. -/
theorem words_rowText {hs : List String}
    (h : ∀ t ∈ hs, t ≠ "" ∧ ∀ c ∈ t.toList, Text.isBlank c = false) :
    Text.words (rowText hs) = hs :=
  Text.words_join_gapped (G := sepBefore 4 "  " " ") (List.all_eq_true.mp (by decide))
    sepBefore_gap h

/-- The words after the header of an image are its values, when none is empty or holds a blank. -/
theorem words_imageRows {hs : List String}
    (h : ∀ t ∈ hs, t ≠ "" ∧ ∀ c ∈ t.toList, Text.isBlank c = false) :
    Text.words (String.join ((imageRows hs).map (· ++ "\n"))) = hs := by
  rw [Text.words_rows, imageRows_eq, List.map_map]
  conv_rhs => rw [← flatten_chunksOf 16 (by decide) hs]
  congr 1
  refine (List.map_congr_left fun c hc => ?_).trans (List.map_id _)
  exact words_rowText fun t ht => h t (mem_of_mem_chunksOf (by decide) hc ht)

/-- For a size `k ≥ 1`, `chunks` cuts a list into the windows of
`k` elements from each multiple of `k`, none empty and all but the last of `k` elements, that
together give the list back. For non-empty bit strings, the image is the header and then one row
for every sixteen values, row `j` holding the values from place `16 j` on in upper-case
hexadecimal of two digits or more, one space apart inside a group of four and two spaces apart
between groups; the words after the header, read in hexadecimal, are the numbers the bit strings
stand for, in order. -/
theorem logisim_round_trip :
    (∀ {α : Type} (xs : List α) (k : Int), 1 ≤ k →
      ∃ cs, chunks xs k = .ok cs ∧
        cs = (List.range ((xs.length + k.toNat - 1) / k.toNat)).map
          (fun j => (xs.drop (k.toNat * j)).take k.toNat) ∧
        (∀ c ∈ cs, c ≠ [] ∧ c.length ≤ k.toNat) ∧
        (∀ j c, cs[j]? = some c → j + 1 < cs.length → c.length = k.toNat) ∧
        cs.flatten = xs) ∧
    ∀ bs : List String, (∀ s ∈ bs, s ≠ "" ∧ ∀ c ∈ s.toList, c = '0' ∨ c = '1') →
      ∃ hs, bs.mapM (fun b => Word.hexOfBits b 2) = .ok hs ∧
        (∀ h ∈ hs, 2 ≤ h.length ∧ ∀ c ∈ h.toList, c ∈ Numeral.upperHexDigits) ∧
        logisim bs = .ok ("v2.0 raw\n" ++ String.join ((imageRows hs).map (· ++ "\n"))) ∧
        (imageRows hs).length = (bs.length + 15) / 16 ∧
        Text.words (String.join ((imageRows hs).map (· ++ "\n"))) = hs ∧
        (Text.words (String.join ((imageRows hs).map (· ++ "\n")))).mapM
          (Numeral.parse (.base 16)) = bs.mapM Word.ofBits ∧
        ∃ vs, bs.mapM Word.ofBits = .ok vs := by
  refine ⟨fun xs k hk => chunks_pieces xs k hk, fun bs hbs => ?_⟩
  -- each bit string is written as the hexadecimal text of the number it stands for
  obtain ⟨value, hvalue⟩ : ∃ value : String → Nat, ∀ b, value b = Nat.ofDigitChars 2 b.toList 0 :=
    ⟨_, fun _ => rfl⟩
  obtain ⟨tok, htok⟩ : ∃ tok : String → String,
      ∀ b, tok b = Word.padded 16 Char.toUpper (value b) 2 := ⟨_, fun _ => rfl⟩
  have hhex : ∀ b ∈ bs, Word.hexOfBits b 2 = .ok (tok b) := fun b hb => by
    rw [htok, hvalue]
    exact Word.hexOfBits_bits (hbs b hb).1 (hbs b hb).2
  have hdigits : ∀ h ∈ bs.map tok, 2 ≤ h.length ∧ ∀ c ∈ h.toList, c ∈ Numeral.upperHexDigits := by
    intro h hh
    obtain ⟨b, -, rfl⟩ := List.mem_map.mp hh
    rw [htok]
    exact ⟨Word.two_le_length_hex_padded _, fun c hc => Word.mem_hex_padded hc⟩
  have hne : ∀ h ∈ bs.map tok, h ≠ "" := by
    intro h hh he
    have := (hdigits h hh).1
    rw [he] at this
    cases this
  have hwords := @words_imageRows (bs.map tok) fun h hh =>
    ⟨hne h hh, fun c hc => (Numeral.upperHexDigits_read c ((hdigits h hh).2 c hc)).2.2.2.2.2.2.2⟩
  have hread : (bs.map tok).mapM (Numeral.parse (.base 16)) =
      .ok (bs.map fun b => (value b : Int)) := by
    rw [List.mapM_map]
    exact mapM_eq_ok_map fun b _ => by
      rw [Function.comp_apply, htok]
      exact Word.parse_hex (value b)
  have hbits : bs.mapM Word.ofBits = .ok (bs.map fun b => (value b : Int)) :=
    mapM_eq_ok_map fun b hb => by
      have hw : 0 < b.length := by
        rw [← String.length_toList]
        exact List.length_pos_of_ne_nil fun h => (hbs b hb).1 (String.toList_eq_nil_iff.mp h)
      rw [hvalue]
      exact ofBits_of_bits hw ⟨rfl, (hbs b hb).2⟩
  refine ⟨bs.map tok, mapM_eq_ok_map hhex, hdigits, logisim_eq_ok hhex, ?_, hwords, ?_, _, hbits⟩
  · rw [imageRows, List.length_map, List.length_range, List.length_map]
  · rw [hwords, hread, hbits]

/-- The six values `0` to `5` in chunks of four, and two bytes as an image. -/
theorem logisim_round_trip_two_bytes :
    (1 ≤ (4 : Int) ∧ ∃ cs, chunks [0, 1, 2, 3, 4, 5] 4 = .ok cs ∧
        cs = (List.range (([0, 1, 2, 3, 4, 5].length + (4 : Int).toNat - 1) / (4 : Int).toNat)).map
          (fun j => ([0, 1, 2, 3, 4, 5].drop ((4 : Int).toNat * j)).take (4 : Int).toNat) ∧
        (∀ c ∈ cs, c ≠ [] ∧ c.length ≤ (4 : Int).toNat) ∧
        (∀ j c, cs[j]? = some c → j + 1 < cs.length → c.length = (4 : Int).toNat) ∧
        cs.flatten = [0, 1, 2, 3, 4, 5]) ∧
    ((∀ s ∈ ["1010", "11111111"], s ≠ "" ∧ ∀ c ∈ s.toList, c = '0' ∨ c = '1') ∧
      ∃ hs, ["1010", "11111111"].mapM (fun b => Word.hexOfBits b 2) = .ok hs ∧
        (∀ h ∈ hs, 2 ≤ h.length ∧ ∀ c ∈ h.toList, c ∈ Numeral.upperHexDigits) ∧
        logisim ["1010", "11111111"] =
          .ok ("v2.0 raw\n" ++ String.join ((imageRows hs).map (· ++ "\n"))) ∧
        (imageRows hs).length = (["1010", "11111111"].length + 15) / 16 ∧
        Text.words (String.join ((imageRows hs).map (· ++ "\n"))) = hs ∧
        (Text.words (String.join ((imageRows hs).map (· ++ "\n")))).mapM
          (Numeral.parse (.base 16)) = ["1010", "11111111"].mapM Word.ofBits ∧
        ∃ vs, ["1010", "11111111"].mapM Word.ofBits = .ok vs) := by
  have hbits : ∀ s ∈ ["1010", "11111111"], s ≠ "" ∧ ∀ c ∈ s.toList, c = '0' ∨ c = '1' := by
    intro s hs
    simp only [List.mem_cons, List.not_mem_nil, or_false] at hs
    rcases hs with rfl | rfl
    all_goals exact ⟨by decide, @of_decide_eq_true _ (List.decidableBAll _ _) rfl⟩
  exact ⟨⟨by decide, logisim_round_trip.1 [0, 1, 2, 3, 4, 5] 4 (by decide)⟩,
    hbits, logisim_round_trip.2 _ hbits⟩

end Export

end ByteMachine
