import ByteMachine.Microcode.Rom
import ByteMachine.Proofs.MemoryImage
import Mathlib.Data.List.TakeDrop
/- Cutting bits out of a row, and a memory into 8-bit chips. The positions of
   a row of `n` elements are counted from the right, position 0 being the
   last element. Cutting out the positions `hi` down to `lo` refuses a
   region that reaches past the row, one that ends before it starts and one
   that starts below zero, each with a fault of its own; but the first test
   compares `hi` with `n` rather than with the last position `n - 1`, so a
   region that ends one past the row is cut all the same, and gives the last
   element when it starts at 0 and nothing otherwise. This module

   1. reads a window of a row on bounds inside it (`window_of_nonneg`);
   2. gives the outcome of a cut for every pair of bounds (`extract_region`);
   3. cuts a memory into 8-bit chips (`sliceRom_chips`): data whose width is
      a multiple of 8 is cut into chips that together give every word back,
      a width 1 to 6 past a multiple of 8 is refused, and a width 7 past one
      gives a top chip that misses bits. -/
namespace ByteMachine

namespace Bitdef

variable {α : Type}

/-! ## Windows and cuts -/

theorem clampIndex_of_nonneg {n : Nat} {i : Int} (h0 : 0 ≤ i) (hi : i ≤ n) :
    Text.clampIndex n i = i.toNat := by
  rw [Text.clampIndex, if_neg (by omega)]
  omega

theorem window_of_nonneg (xs : List α) {a b : Int} (ha : 0 ≤ a) (hab : a ≤ b)
    (hb : b ≤ xs.length) : Text.window xs a b = (xs.drop a.toNat).take (b - a).toNat := by
  unfold Text.window
  dsimp only
  rw [clampIndex_of_nonneg ha (by omega), clampIndex_of_nonneg (by omega) hb]
  congr 1
  omega

theorem extract_of_length_lt {xs : List α} {hi lo : Int} (h : xs.length < hi) :
    extract xs hi lo = .error .regionTooLarge := by
  rw [extract, if_pos h]

theorem extract_of_lt_lo {xs : List α} {hi lo : Int} (hn : hi ≤ xs.length) (h : hi < lo) :
    extract xs hi lo = .error .endBeforeStart := by
  rw [extract, if_neg (by omega), if_pos h]

theorem extract_of_neg {xs : List α} {hi lo : Int} (hn : hi ≤ xs.length) (hlo : lo ≤ hi)
    (h : lo < 0) : extract xs hi lo = .error .startBelowZero := by
  rw [extract, if_neg (by omega), if_neg (by omega), if_pos h]

/-- A region inside the row is cut out: `hi - lo + 1` elements from place `n - 1 - hi`. -/
theorem extract_of_le {xs : List α} {hi lo : Int} (h0 : 0 ≤ lo) (hlo : lo ≤ hi)
    (hn : hi < xs.length) :
    extract xs hi lo = .ok ((xs.drop (xs.length - 1 - hi).toNat).take (hi - lo + 1).toNat) := by
  rw [extract, if_neg (by omega), if_neg (by omega), if_neg (by omega), if_neg (by omega),
    reverseIndex, reverseIndex, window_of_nonneg xs (by omega) (by omega) (by omega)]
  have hstart : (xs.length - hi - 1 : Int).toNat = (xs.length - 1 - hi : Int).toNat := by omega
  have hcount :
      (xs.length - lo - 1 + 1 - (xs.length - hi - 1) : Int).toNat = (hi - lo + 1).toNat := by
    omega
  rw [hstart, hcount]

/-- A region that ends one past the row is cut too: the last element when it starts at 0,
nothing otherwise. -/
theorem extract_at_length {xs : List α} {lo : Int} (hn : 1 ≤ xs.length) (h0 : 0 ≤ lo)
    (hlo : lo ≤ xs.length) :
    extract xs xs.length lo = .ok (if lo = 0 then xs.getLast?.toList else []) := by
  rw [extract, if_neg (by omega), if_neg (by omega), if_neg (by omega), if_neg (by omega),
    reverseIndex, reverseIndex]
  -- the start `-1` counts back to the last element
  have hstart : Text.clampIndex xs.length (xs.length - xs.length - 1) = xs.length - 1 := by
    rw [Text.clampIndex, if_pos (by omega)]
    omega
  have hstop : Text.clampIndex xs.length (xs.length - lo - 1 + 1) = xs.length - lo.toNat := by
    rw [clampIndex_of_nonneg (by omega) (by omega)]
    omega
  unfold Text.window
  dsimp only
  rw [hstart, hstop, List.drop_length_sub_one (List.ne_nil_of_length_pos hn)]
  by_cases hz : lo = 0
  · rw [if_pos hz, hz, Int.toNat_zero,
      List.take_of_length_le (by rw [List.length_singleton]; omega),
      List.getLast?_eq_some_getLast (List.ne_nil_of_length_pos hn), Option.toList_some]
  · rw [if_neg hz, List.take_eq_nil_iff.mpr (.inl (by omega))]

/-- The positions `hi` down to `lo`, counted from the right, stand in the cut from its first
element on. -/
theorem getElem?_extract {xs : List α} {hi lo : Int} (hlo : lo ≤ hi)
    (hn : hi < xs.length) {j : Int} (hj : lo ≤ j) (hjh : j ≤ hi) :
    ((xs.drop (xs.length - 1 - hi).toNat).take (hi - lo + 1).toNat)[(hi - j).toNat]? =
      xs[(xs.length - 1 - j).toNat]? := by
  rw [List.getElem?_take_of_lt (by omega), List.getElem?_drop]
  congr 1
  omega

/-- In a row of `n ≥ 1` elements, a cut fails exactly outside
`0 ≤ lo ≤ hi ≤ n`, with the fault of the first test that fails; inside `0 ≤ lo ≤ hi ≤ n - 1`
it gives the `hi - lo + 1` elements at the positions `hi` down to `lo`, counted from the right; at
`hi = n` it gives the last element when `lo = 0` and nothing otherwise. -/
theorem extract_region (xs : List α) (hi lo : Int) (hn : 1 ≤ xs.length) :
    ((∃ f, extract xs hi lo = .error f) ↔ ¬ (0 ≤ lo ∧ lo ≤ hi ∧ hi ≤ xs.length)) ∧
    (∀ f, extract xs hi lo = .error f ↔
      (f = .regionTooLarge ∧ xs.length < hi) ∨
      (f = .endBeforeStart ∧ hi ≤ xs.length ∧ hi < lo) ∨
      (f = .startBelowZero ∧ hi ≤ xs.length ∧ lo ≤ hi ∧ lo < 0)) ∧
    (0 ≤ lo → lo ≤ hi → hi < xs.length →
      ∃ r, extract xs hi lo = .ok r ∧
        r = (xs.drop (xs.length - 1 - hi).toNat).take (hi - lo + 1).toNat ∧
        r.length = (hi - lo + 1).toNat ∧
        ∀ j, lo ≤ j → j ≤ hi → r[(hi - j).toNat]? = xs[(xs.length - 1 - j).toNat]?) ∧
    (0 ≤ lo → lo ≤ xs.length →
      extract xs xs.length lo = .ok (if lo = 0 then xs.getLast?.toList else [])) := by
  -- the outcome on each side of the three tests
  have hcases : ∀ f, extract xs hi lo = .error f ↔
      (f = .regionTooLarge ∧ xs.length < hi) ∨
      (f = .endBeforeStart ∧ hi ≤ xs.length ∧ hi < lo) ∨
      (f = .startBelowZero ∧ hi ≤ xs.length ∧ lo ≤ hi ∧ lo < 0) := by
    intro f
    by_cases h1 : xs.length < hi
    · rw [extract_of_length_lt h1, Except.error.injEq]
      constructor
      · rintro rfl
        exact .inl ⟨rfl, h1⟩
      · rintro (⟨rfl, -⟩ | ⟨-, h, -⟩ | ⟨-, h, -⟩)
        · rfl
        all_goals omega
    by_cases h2 : hi < lo
    · rw [extract_of_lt_lo (by omega) h2, Except.error.injEq]
      constructor
      · rintro rfl
        exact .inr (.inl ⟨rfl, by omega, h2⟩)
      · rintro (⟨-, h⟩ | ⟨rfl, -⟩ | ⟨-, -, h, -⟩)
        · omega
        · rfl
        · omega
    by_cases h3 : lo < 0
    · rw [extract_of_neg (by omega) (by omega) h3, Except.error.injEq]
      constructor
      · rintro rfl
        exact .inr (.inr ⟨rfl, by omega, by omega, h3⟩)
      · rintro (⟨-, h⟩ | ⟨-, -, h⟩ | ⟨rfl, -⟩)
        · omega
        · omega
        · rfl
    -- inside the bounds the cut succeeds, at `hi = n` too
    have hok : ∃ r, extract xs hi lo = .ok r := by
      rcases Int.lt_or_eq_of_le (Int.not_lt.mp h1) with hlt | heq
      · exact ⟨_, extract_of_le (by omega) (by omega) hlt⟩
      · rw [heq]
        exact ⟨_, extract_at_length hn (by omega) (by omega)⟩
    obtain ⟨r, hr⟩ := hok
    rw [hr]
    simp only [reduceCtorEq, false_iff]
    omega
  refine ⟨⟨fun ⟨f, hf⟩ => ?_, fun h => ?_⟩, hcases, fun h0 hlo hn' => ?_,
    fun h0 hlo => extract_at_length hn h0 hlo⟩
  · rcases (hcases f).mp hf with ⟨-, h⟩ | ⟨-, -, h⟩ | ⟨-, -, -, h⟩ <;> omega
  · by_cases h1 : xs.length < hi
    · exact ⟨_, (hcases _).mpr (.inl ⟨rfl, h1⟩)⟩
    by_cases h2 : hi < lo
    · exact ⟨_, (hcases _).mpr (.inr (.inl ⟨rfl, by omega, h2⟩))⟩
    · exact ⟨_, (hcases _).mpr (.inr (.inr ⟨rfl, by omega, by omega, by omega⟩))⟩
  · refine ⟨_, extract_of_le h0 hlo hn', rfl, ?_, fun j hj hjh => getElem?_extract hlo hn' hj hjh⟩
    rw [List.length_take, List.length_drop]
    omega

/-- Bits 4 down to 1 of `00101011` are cut out as `0101`. -/
theorem extract_region_eight_bits :
    1 ≤ "00101011".toList.length ∧
      ∃ r, extract "00101011".toList 4 1 = .ok r ∧
        r = ("00101011".toList.drop (("00101011".toList.length : Int) - 1 - 4).toNat).take
          ((4 : Int) - 1 + 1).toNat ∧
        r.length = ((4 : Int) - 1 + 1).toNat ∧
        ∀ j, 1 ≤ j → j ≤ 4 → r[((4 : Int) - j).toNat]? =
          "00101011".toList[(("00101011".toList.length : Int) - 1 - j).toNat]? :=
  ⟨by decide,
    (extract_region "00101011".toList 4 1 (by decide)).2.2.1 (by decide) (by decide) (by decide)⟩

/-- Bits 8 down to 0 of the eight bits `00101011` reach one past them, and are cut all the same:
the cut is the last bit. -/
theorem extract_one_past_the_end : extract "00101011".toList 8 0 = .ok ['1'] := by
  rfl

end Bitdef

namespace Microcode

/-! ## Chips -/

/-- Chip `i` of a word of data: its bits `8 i + 7` down to `8 i`, counted from the right. -/
def chip (d : String) (i : Nat) : String :=
  String.ofList ((d.toList.drop (d.length - 8 * i - 8)).take 8)

theorem extract_chip {d : String} {i : Nat} (h : 8 * i + 8 ≤ d.length) :
    Bitdef.extract d.toList ((8 * i + 7 : Nat) : Int) ((8 * i : Nat) : Int) =
      .ok ((d.toList.drop (d.length - 8 * i - 8)).take 8) := by
  rw [Bitdef.extract_of_le (by omega) (by omega) (by rw [String.length_toList]; omega),
    String.length_toList]
  congr 3 <;> omega

theorem dataSlice_eq_ok {es : List RomEntry} {hi lo : Int} {g : RomEntry → List Char}
    (h : ∀ e ∈ es, Bitdef.extract e.data.toList hi lo = .ok (g e)) :
    dataSlice es hi lo = .ok (es.map fun e => ⟨e.address, String.ofList (g e)⟩) := by
  unfold dataSlice
  exact mapM_eq_ok_map fun e he => by rw [h e he]; rfl

theorem dataSlice_eq_error {e : RomEntry} {es : List RomEntry} {hi lo : Int} {f : Fault}
    (h : Bitdef.extract e.data.toList hi lo = .error f) :
    dataSlice (e :: es) hi lo = .error f := by
  unfold dataSlice
  rw [List.mapM_cons, bind_eq_error]
  exact .inl (by rw [h]; rfl)

/-- Chip `i` of every entry, where every word has room for it. -/
theorem dataSlice_chip {es : List RomEntry} {i : Nat} (h : ∀ e ∈ es, 8 * i + 8 ≤ e.data.length) :
    dataSlice es ((8 * i + 7 : Nat) : Int) ((8 * i : Nat) : Int) =
      .ok (es.map fun e => ⟨e.address, chip e.data i⟩) :=
  dataSlice_eq_ok fun e he => extract_chip (h e he)

theorem sliceRom_cons (e : RomEntry) (es : List RomEntry) :
    sliceRom (e :: es) = (List.range (byteCount e.data)).mapM (fun i => do
      let s ← dataSlice (e :: es) ((8 * i + 7 : Nat) : Int) ((8 * i : Nat) : Int)
      pure (i, s)) :=
  rfl

/-- The chips below `q` of every entry, where every word has room for them. -/
theorem mapM_chips {es : List RomEntry} {q : Nat} (h : ∀ e ∈ es, 8 * q ≤ e.data.length) :
    ((List.range q).mapM fun i => do
      let s ← dataSlice es ((8 * i + 7 : Nat) : Int) ((8 * i : Nat) : Int)
      pure (i, s)) =
      .ok ((List.range q).map fun i => (i, es.map fun e => ⟨e.address, chip e.data i⟩)) :=
  mapM_eq_ok_map fun i hi => by
    rw [dataSlice_chip fun e he => by have := h e he; have := List.mem_range.mp hi; omega]
    rfl

/-- The chips of a word whose width is a multiple of 8, from the top one down, give it back. -/
theorem join_chips {d : String} {q : Nat} (h : d.length = 8 * q) :
    String.join ((List.range q).reverse.map (chip d)) = d := by
  -- from the top, chip `q - 1 - j` is the window of 8 bits from place `8 j`
  have hwin : (List.range q).reverse.map (chip d) =
      (List.range q).map fun j => String.ofList ((d.toList.drop (8 * j)).take 8) := by
    rw [List.range_eq_range', List.reverse_range', List.map_map, ← List.range_eq_range']
    refine List.map_congr_left fun j hj => ?_
    have := List.mem_range.mp hj
    rw [Function.comp_apply, chip, h]
    congr 3
    omega
  have hchunks : (d.toList.length + 8 - 1) / 8 = q := by
    rw [String.length_toList, h]
    omega
  rw [hwin, ← String.toList_inj, String.toList_join, List.flatMap_map]
  simp only [String.toList_ofList]
  rw [List.flatMap_def, ← hchunks, ← Export.chunksOf_eq_range (by decide),
    Export.flatten_chunksOf _ (by decide)]

/-- The top chip of a word 7 bits past a multiple of 8 reaches one past the word: it holds the
last bit of a 7-bit word and nothing of a longer one. -/
theorem extract_top_chip {d : String} {q : Nat} (h : d.length = 8 * q + 7) :
    Bitdef.extract d.toList ((8 * q + 7 : Nat) : Int) ((8 * q : Nat) : Int) =
      .ok (if d.length = 7 then d.toList.drop 6 else []) := by
  have hlen : d.toList.length = 8 * q + 7 := by rw [String.length_toList, h]
  have hcast : ((8 * q + 7 : Nat) : Int) = (d.toList.length : Int) := by rw [hlen]
  rw [hcast, Bitdef.extract_at_length (by omega) (by omega) (by omega)]
  by_cases hq : q = 0
  · subst hq
    rw [if_pos (by omega), if_pos h,
      List.getLast?_eq_some_getLast (List.ne_nil_of_length_pos (by omega)), Option.toList_some,
      ← List.drop_length_sub_one, hlen]
  · rw [if_neg (by omega), if_neg (by omega)]

/-- For a non-empty memory whose data all have `L` bits:
when `L` is a multiple of 8, slice `i` holds chip `i` of every entry at its address, each chip
has 8 bits, and the chips of an entry from the top one down give its data back; when `L` is 1
to 6 past a multiple of 8, slicing is refused; when it is 7 past one, the top slice holds only
the last bit of a 7-bit word, and nothing of a longer one. -/
theorem sliceRom_chips (rom : List RomEntry) (L : Nat) (hne : rom ≠ [])
    (hlen : ∀ e ∈ rom, e.data.length = L) :
    (L % 8 = 0 →
      sliceRom rom = .ok ((List.range (L / 8)).map fun i =>
        (i, rom.map fun e => ⟨e.address, chip e.data i⟩)) ∧
      (∀ e ∈ rom, ∀ i < L / 8, (chip e.data i).length = 8) ∧
      ∀ e ∈ rom, String.join ((List.range (L / 8)).reverse.map (chip e.data)) = e.data) ∧
    (L % 8 ≠ 0 → L % 8 ≠ 7 → sliceRom rom = .error .regionTooLarge) ∧
    (L % 8 = 7 →
      sliceRom rom = .ok ((List.range (L / 8)).map (fun i =>
          (i, rom.map fun e => ⟨e.address, chip e.data i⟩)) ++
        [(L / 8, rom.map fun e =>
          ⟨e.address, if L = 7 then String.ofList (e.data.toList.drop 6) else ""⟩)])) := by
  obtain ⟨e₀, es, rfl⟩ := List.exists_cons_of_ne_nil hne
  have hbyte : byteCount e₀.data = (L + 7) / 8 := by rw [byteCount, hlen e₀ List.mem_cons_self]
  refine ⟨fun h8 => ⟨?_, fun e he i hi => ?_, fun e he => join_chips (by rw [hlen e he]; omega)⟩,
    fun h8 h7 => ?_, fun h7 => ?_⟩
  · -- as many chips as bytes, each inside every word
    rw [sliceRom_cons, hbyte, show (L + 7) / 8 = L / 8 by omega]
    exact mapM_chips fun e he => by rw [hlen e he]; omega
  · rw [chip, String.length_ofList, List.length_take, List.length_drop, String.length_toList,
      hlen e he]
    omega
  · -- the chips below the top one are cut, and the top one reaches past every word
    rw [sliceRom_cons, hbyte, show (L + 7) / 8 = L / 8 + 1 by omega, List.range_succ,
      List.mapM_append, mapM_chips fun e he => by rw [hlen e he]; omega, List.mapM_cons,
      dataSlice_eq_error (Bitdef.extract_of_length_lt (by
        rw [String.length_toList, hlen e₀ List.mem_cons_self]; omega))]
    rfl
  · -- the top chip reaches one past every word
    have htop :
        dataSlice (e₀ :: es) ((8 * (L / 8) + 7 : Nat) : Int) ((8 * (L / 8) : Nat) : Int) =
          .ok ((e₀ :: es).map fun e =>
            ⟨e.address, if L = 7 then String.ofList (e.data.toList.drop 6) else ""⟩) := by
      rw [dataSlice_eq_ok (g := fun e => if L = 7 then e.data.toList.drop 6 else [])
        fun e he => by rw [extract_top_chip (by rw [hlen e he]; omega), hlen e he]]
      congr 2
      funext e
      split <;> rfl
    rw [sliceRom_cons, hbyte, show (L + 7) / 8 = L / 8 + 1 by omega, List.range_succ,
      List.mapM_append, mapM_chips fun e he => by rw [hlen e he]; omega, List.mapM_cons, htop]
    rfl

/-- A memory of 16-bit words cut into its two chips. -/
theorem sliceRom_chips_two_bytes :
    [⟨"000", "1010101011111111"⟩, ⟨"001", "0000000011111111"⟩] ≠ ([] : List RomEntry) ∧
    (∀ e ∈ ([⟨"000", "1010101011111111"⟩, ⟨"001", "0000000011111111"⟩] : List RomEntry),
      e.data.length = 16) ∧
    sliceRom [⟨"000", "1010101011111111"⟩, ⟨"001", "0000000011111111"⟩] =
      .ok ((List.range (16 / 8)).map fun i =>
        (i, ([⟨"000", "1010101011111111"⟩, ⟨"001", "0000000011111111"⟩] : List RomEntry).map
          fun e => ⟨e.address, chip e.data i⟩)) := by
  have hlen :
      ∀ e ∈ ([⟨"000", "1010101011111111"⟩, ⟨"001", "0000000011111111"⟩] : List RomEntry),
        e.data.length = 16 := by
    decide
  exact ⟨by decide, hlen, ((sliceRom_chips _ 16 (by decide) hlen).1 (by decide)).1⟩

/-- Words of 7 bits are cut into one chip that keeps only their last bit. -/
theorem sliceRom_keeps_one_of_seven_bits :
    sliceRom [⟨"0", "1111111"⟩] = .ok [(0, [⟨"0", "1"⟩])] := by
  rfl

end Microcode

end ByteMachine
