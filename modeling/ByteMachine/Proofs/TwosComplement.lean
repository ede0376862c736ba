import ByteMachine.Proofs.Execution
import ByteMachine.Proofs.Variables
import Mathlib.Data.List.TakeWhile
/- Numbers written in bits. A number fits in `w` bits when it lies between
   -2^(w-1) and 2^w - 1; it is then written in binary with zeros in front up to
   `w` digits, after a negative number has been shifted up by 256, the shift of
   a byte, whatever the width. This module

   1. reads a run of digits in a base other than ten as its value
      (`readAscii_run`), so a string of binary digits as the number they stand
      for (`readAscii_bits`, `ofBits_of_bits`);
   2. says how a number is written at each width from 1 to 1024
      (`toBits_of_width`): refused with its own fault exactly outside the
      bounds, and otherwise written from its stored value;
   3. shows that a number that fits is written as its `w`-digit two's
      complement exactly when it is not negative or the width is 8
      (`toBits_twos_complement`): at other widths a negative number comes out
      with the digits of `n + 256`, or with a minus sign below -256;
   4. reads the number bytes of an assembled program
      (`assembleLines_number_bits`): each holds the bits its value is written
      with at width 8, so its eight-digit two's complement. -/
namespace ByteMachine

open Machine Assembly

/-! ## Reading binary digits -/

namespace Numeral

theorem asciiForm_of_forall : ∀ {cs : List Char}, (∀ c ∈ cs, asciiChar c = some c) →
    asciiForm cs = some cs
  | [], _ => rfl
  | c :: r, h => by
    simp [asciiForm, h c List.mem_cons_self,
      asciiForm_of_forall fun x hx => h x (List.mem_cons_of_mem _ hx)]

theorem asciiForm_bits {cs : List Char} (h : ∀ c ∈ cs, c = '0' ∨ c = '1') :
    asciiForm cs = some cs :=
  asciiForm_of_forall fun c hc => by rcases h c hc with rfl | rfl <;> decide

theorem runWellFormed_cons {c : Char} (hc : c ≠ '_') (r : List Char) :
    runWellFormed (c :: r) = runWellFormed r := by
  cases r <;> simp [runWellFormed, hc]

theorem runWellFormed_of_forall : ∀ {cs : List Char}, (∀ c ∈ cs, c ≠ '_') →
    runWellFormed cs = true
  | [], _ => rfl
  | c :: r, h => by
    rw [runWellFormed_cons (h c List.mem_cons_self),
      runWellFormed_of_forall fun x hx => h x (List.mem_cons_of_mem _ hx)]

/-- A run of binary digits has, in base 2, the value that core reads from it. -/
theorem foldl_digits_bits :
    ∀ {cs : List Char} (init : Nat), (∀ c ∈ cs, c = '0' ∨ c = '1') →
    cs.foldl (fun acc c => acc * 2 + (digitOf c).getD 0) init = Nat.ofDigitChars 2 cs init
  | [], _, _ => rfl
  | c :: r, init, h => by
    have hc : (digitOf c).getD 0 = c.toNat - '0'.toNat := by
      rcases h c List.mem_cons_self with rfl | rfl <;> decide
    rw [List.foldl_cons, Nat.ofDigitChars_cons, hc, Nat.mul_comm,
      foldl_digits_bits _ fun x hx => h x (List.mem_cons_of_mem _ hx)]

theorem dropPrefix_of_forall {b : Nat} {cs : List Char}
    (h : ∀ c ∈ cs.drop 1, prefixBase c ≠ some b) : dropPrefix b cs = cs := by
  unfold dropPrefix
  split
  · rw [if_neg]
    simp_all
  · rfl

/-- Digits below the base, with no prefix, read in a base other
than ten as the value of the run. -/
theorem readAscii_run {b : Nat} {cs : List Char} (hb : b ≠ 10) (hne : cs ≠ [])
    (hdig : ∀ c ∈ cs, (digitOf c).any (· < b) = true ∧ isSpace c = false ∧ c ≠ '+' ∧
      c ≠ '-' ∧ c ≠ '_')
    (hpre : dropPrefix b cs = cs) :
    readAscii (.base b) cs = .value (runValue b cs) := by
  obtain ⟨c, t, rfl⟩ := List.exists_cons_of_ne_nil hne
  obtain ⟨-, hspace, hplus, hminus, hunder⟩ := hdig c List.mem_cons_self
  have hrun : ∀ x ∈ c :: t, inRun b x = true := fun x hx => by
    simp [inRun, (hdig x hx).1]
  -- a digit is no space, sign or underscore, so the whole text is the run
  have hsign : readSign (c :: t) = (false, c :: t) := by
    unfold readSign
    split <;> simp_all
  have hfilter : (c :: t).filter (· ≠ '_') = c :: t :=
    List.filter_eq_self.mpr fun x hx => by simpa using (hdig x hx).2.2.2.2
  unfold readAscii
  simp only [List.dropWhile_cons, hspace, Bool.false_eq_true, if_false, hsign, resolveBase, hpre,
    List.head?_cons, Option.some.injEq, hunder, List.takeWhile_eq_self_iff.mpr hrun,
    List.dropWhile_eq_nil_iff.mpr hrun, runWellFormed_of_forall fun x hx => (hdig x hx).2.2.2.2,
    hfilter, hb, false_and, List.isEmpty_cons, List.dropWhile_nil, List.isEmpty_nil]
  simp

/-- A non-empty run of binary digits read in base 2 is the number
the digits stand for. -/
theorem readAscii_bits {cs : List Char} (hbits : ∀ c ∈ cs, c = '0' ∨ c = '1')
    (hne : cs ≠ []) :
    readAscii (.base 2) cs = .value (Nat.ofDigitChars 2 cs 0) := by
  -- a binary digit is a digit below 2, and no space, sign, underscore or prefix letter
  have hdig : ∀ c ∈ cs, (digitOf c).any (· < 2) = true ∧ isSpace c = false ∧ c ≠ '+' ∧
      c ≠ '-' ∧ c ≠ '_' := fun c hc => by
    rcases hbits c hc with rfl | rfl <;> decide
  have hpre : dropPrefix 2 cs = cs := dropPrefix_of_forall fun c hc => by
    rcases hbits c (List.mem_of_mem_drop hc) with rfl | rfl <;> decide
  rw [readAscii_run (by decide) hne hdig hpre, runValue, foldl_digits_bits 0 hbits]

end Numeral

/-- A string of `w ≥ 1` binary digits is read back as the number the
digits stand for. -/
theorem ofBits_of_bits {s : String} {w : Nat} (hw : 0 < w) (h : IsBits s w) :
    Word.ofBits s = .ok (Nat.ofDigitChars 2 s.toList 0) := by
  have hne : s.toList ≠ [] := by
    intro he
    have := h.1
    rw [← String.length_toList, he] at this
    exact absurd this.symm (Nat.ne_of_gt hw)
  unfold Word.ofBits Numeral.parse Numeral.read
  rw [Numeral.asciiForm_bits h.2]
  dsimp only
  rw [Numeral.readAscii_bits h.2 hne]

/-! ## Writing a number in bits -/

namespace Word

theorem fits_of_width {n w : Int} (h1 : 1 ≤ w) (h2 : w ≤ 1024) :
    fits n w = .ok (decide (-(Int.pow 2 (w.toNat - 1)) ≤ n ∧ n ≤ Int.pow 2 w.toNat - 1)) := by
  unfold fits
  rw [if_neg (by omega), if_neg (by omega), if_neg (by omega)]

/-- A number is refused exactly outside the bounds, and
otherwise written from the value a byte stores for it. -/
theorem toBits_of_width {n w : Int} (h1 : 1 ≤ w) (h2 : w ≤ 1024) :
    toBits n w = if -(Int.pow 2 (w.toNat - 1)) ≤ n ∧ n ≤ Int.pow 2 w.toNat - 1 then
      .ok (binary (stored n) w) else .error (.wontFit n w) := by
  rw [toBits, fits_of_width h1 h2]
  by_cases h : -(Int.pow 2 (w.toNat - 1)) ≤ n ∧ n ≤ Int.pow 2 w.toNat - 1
  · rw [if_pos h, decide_eq_true h]
    rfl
  · rw [if_neg h, decide_eq_false h]
    rfl

/-- A number that is not negative and below `2^w` is written as `w` binary digits that read
back as the number. -/
theorem bits_binary {m : Int} {w : Nat} (hw : 0 < w) (h0 : 0 ≤ m) (h1 : m < Int.pow 2 w) :
    IsBits (binary m w) w ∧ ofBits (binary m w) = .ok m := by
  have hm : m = (m.toNat : Int) := (Int.toNat_of_nonneg h0).symm
  have hbits : IsBits (binary m w) w := by
    rw [hm]
    refine binary_bits hw ?_
    have : Int.pow 2 w = ((Nat.pow 2 w : Nat) : Int) := rfl
    omega
  refine ⟨hbits, ?_⟩
  rw [ofBits_of_bits hw hbits, Word.ofDigitChars_binary h0, Int.toNat_of_nonneg h0]

/-- A negative number keeps its minus sign, so it is no string of binary digits. -/
theorem not_bits_binary_of_neg {m w : Int} (h : m < 0) (k : Nat) : ¬ IsBits (binary m w) k := by
  intro hb
  have hminus : '-' ∈ (binary m w).toList := by
    simp [binary, padded, h]
  rcases hb.2 _ hminus with h' | h' <;> cases h'

end Word

open Word

/-- Powers of two as integers are the powers of two as numbers. -/
theorem intPow_two (k : Nat) : Int.pow 2 k = ((Nat.pow 2 k : Nat) : Int) := rfl

namespace Word

/-- The fault for a number outside the bounds, and only for it. -/
theorem toBits_eq_error_iff {n w : Int} (h1 : 1 ≤ w) (h2 : w ≤ 1024) {f : Fault} :
    toBits n w = .error f ↔
      f = .wontFit n w ∧ (n < -Int.pow 2 (w.toNat - 1) ∨ Int.pow 2 w.toNat - 1 < n) := by
  rw [toBits_of_width h1 h2]
  split
  · simp only [reduceCtorEq, false_iff, not_and]
    intro _
    omega
  · rw [Except.error.injEq, eq_comm]
    constructor
    · rintro rfl
      exact ⟨rfl, by omega⟩
    · exact fun h => h.1

/-- A number that fits is written as its two's complement, `w` binary digits that read back as
`n mod 2^w`, exactly when it is not negative or the width is 8. -/
theorem twos_complement_iff {n w : Int} (h1 : 1 ≤ w)
    (hlo : -Int.pow 2 (w.toNat - 1) ≤ n) (hhi : n ≤ Int.pow 2 w.toNat - 1) :
    (IsBits (binary (stored n) w) w.toNat ∧
        ofBits (binary (stored n) w) = .ok (n % Int.pow 2 w.toNat)) ↔ (0 ≤ n ∨ w = 8) := by
  -- the width as a number `j + 1`, and `2^(j+1)` twice `2^j`
  obtain ⟨k, rfl⟩ := Int.eq_ofNat_of_zero_le (by omega : 0 ≤ w)
  obtain ⟨j, rfl⟩ : ∃ j, k = j + 1 := ⟨k - 1, by omega⟩
  simp only [Int.toNat_natCast, Nat.add_sub_cancel, intPow_two] at hlo hhi ⊢
  have hP : Nat.pow 2 (j + 1) = Nat.pow 2 j * 2 := rfl
  have hQ : 0 < Nat.pow 2 j := Nat.two_pow_pos j
  constructor
  · rintro ⟨hbits, hval⟩
    by_contra hcon
    rw [not_or, Int.not_le] at hcon
    have hneg : stored n = n + 256 := if_pos hcon.1
    rw [hneg] at hbits hval
    by_cases hs : n + 256 < 0
    · exact not_bits_binary_of_neg hs _ hbits
    · -- the digits read back as `n + 256`, which is `n mod 2^w` only at width 8
      rw [ofBits_of_bits (by omega) hbits, ofDigitChars_binary (by omega), Except.ok.injEq] at hval
      have hmod :
          n % ((Nat.pow 2 (j + 1) : Nat) : Int) = n + ((Nat.pow 2 (j + 1) : Nat) : Int) := by
        rw [← Int.add_emod_right, Int.emod_eq_of_lt (by omega) (by omega)]
      have h256 : 2 ^ (j + 1) = 2 ^ 8 := by
        rw [← Nat.pow_eq]
        omega
      exact hcon.2 (by rw [(Nat.pow_right_inj (by decide)).mp h256]; rfl)
  · intro h
    by_cases h0 : 0 ≤ n
    · -- stored as it is: its digits, below `2^w`
      have hs : stored n = n := if_neg (by omega)
      rw [hs, Int.emod_eq_of_lt h0 (by omega)]
      exact bits_binary (by omega) h0 (by rw [intPow_two]; omega)
    · -- a negative byte: stored as `n + 256`, which is `n mod 256`
      have h8 : j + 1 = 8 := by
        have := h.resolve_left h0
        omega
      have hs : stored n = n + 256 := if_pos (by omega)
      have h256 : Nat.pow 2 (j + 1) = 256 := by rw [h8]
      rw [hs, h256, (by omega : n % ((256 : Nat) : Int) = n + 256)]
      exact bits_binary (by omega) (by omega) (by rw [intPow_two, h256]; omega)

end Word

open Word

/-- A number written at width 8 lies in `[-128, 255]` and is its eight-digit two's
complement. -/
theorem byte_twos_complement {n : Int} {s : String} (h : toBits n 8 = .ok s) :
    -128 ≤ n ∧ n ≤ 255 ∧ IsBits s 8 ∧ ofBits s = .ok (n % 256) := by
  obtain ⟨⟨hlo, hhi⟩, rfl⟩ := toBits_byte_eq_ok.mp h
  have h128 : Int.pow 2 ((8 : Int).toNat - 1) = 128 := rfl
  have h256 : Int.pow 2 (8 : Int).toNat = 256 := rfl
  have hc := (twos_complement_iff (n := n) (w := 8) (by decide) (by omega) (by omega)).mpr
    (.inr rfl)
  rw [h256] at hc
  exact ⟨hlo, hhi, hc⟩

/-- The number bytes of an assembled program hold the bits of their values at width 8. -/
theorem assembleLines_number_bits {lines : List String} {offset : Int} {out : List Line}
    (h : assembleLines lines offset = .ok out) :
    ∀ b ∈ programBytes out, b.holds .number = true → toBits b.value 8 = .ok b.bits := by
  obtain ⟨ls, -, -, labels, -, ls₁, -, ls₂, h₂, vars, -, hout⟩ := assembleLines_eq_ok h
  obtain ⟨hls₂, hfound₂⟩ := resolve_eq_ok h₂
  obtain ⟨hout, -⟩ := resolve_eq_ok hout
  intro b hb hnum
  -- resolving the variables leaves a number byte as it is
  rw [hout, programBytes_map_mapBytes] at hb
  obtain ⟨b₂, hb₂, rfl⟩ := List.mem_map.mp hb
  have hnum₂ : b₂.holds .number = true := by simpa using hnum
  rw [CodeByte.settle_of_not_holds (CodeByte.holds_of_holds hnum₂ (by decide))]
  -- resolving the numbers wrote its bits
  rw [hls₂, programBytes_map_mapBytes] at hb₂
  obtain ⟨b₁, hb₁, rfl⟩ := List.mem_map.mp hb₂
  have hnum₁ : b₁.holds .number = true := by simpa using hnum₂
  obtain ⟨s, hs⟩ := hfound₂ b₁ hb₁ hnum₁
  rw [CodeByte.settle_of_ok hnum₁ hs]
  exact hs

/-- At a width `w` from 1 to 1024 a number `n` is refused exactly when
it lies outside `[-2^(w-1), 2^w - 1]`, with the fault that it does not fit; inside, it is
written from the value a byte stores for it, and that text is its two's complement, `w` binary
digits that read back as `n mod 2^w`, exactly when `n ≥ 0` or `w = 8`. Every number byte of an
assembled program lies in `[-128, 255]` and holds its eight-digit two's complement. -/
theorem toBits_twos_complement (n w : Int) (h1 : 1 ≤ w) (h2 : w ≤ 1024) :
    (∀ f, toBits n w = .error f ↔
      f = .wontFit n w ∧ (n < -Int.pow 2 (w.toNat - 1) ∨ Int.pow 2 w.toNat - 1 < n)) ∧
    (-Int.pow 2 (w.toNat - 1) ≤ n → n ≤ Int.pow 2 w.toNat - 1 →
      toBits n w = .ok (binary (stored n) w) ∧
      ((IsBits (binary (stored n) w) w.toNat ∧
          ofBits (binary (stored n) w) = .ok (n % Int.pow 2 w.toNat)) ↔ (0 ≤ n ∨ w = 8))) ∧
    (∀ (lines : List String) (offset : Int) (out : List Line),
      assembleLines lines offset = .ok out →
      ∀ b ∈ programBytes out, b.holds .number = true →
        -128 ≤ b.value ∧ b.value ≤ 255 ∧ IsBits b.bits 8 ∧
          ofBits b.bits = .ok (b.value % 256)) :=
  ⟨fun _ => toBits_eq_error_iff h1 h2,
    fun hlo hhi =>
      ⟨by rw [toBits_of_width h1 h2, if_pos ⟨hlo, hhi⟩], twos_complement_iff h1 hlo hhi⟩,
    fun _ _ _ h b hb hnum => byte_twos_complement (assembleLines_number_bits h b hb hnum)⟩

/-- At width 8 the number -1 is written `11111111`, which reads back as 255. -/
theorem toBits_twos_complement_minus_one :
    1 ≤ (8 : Int) ∧ (8 : Int) ≤ 1024 ∧
      toBits (-1) 8 = .ok "11111111" ∧ IsBits "11111111" 8 ∧ ofBits "11111111" = .ok 255 := by
  obtain ⟨-, hin, -⟩ := toBits_twos_complement (-1) 8 (by decide) (by decide)
  obtain ⟨hok, hc⟩ := hin (by decide) (by decide)
  obtain ⟨hbits, hval⟩ := hc.mpr (.inr rfl)
  exact ⟨by decide, by decide, hok, hbits, hval⟩

/-- At width 4 the number -8 fits, but is written with the eight digits of 248. -/
theorem toBits_eight_digits_at_width_four :
    toBits (-8) 4 = .ok "11111000" ∧ ¬ IsBits "11111000" 4 :=
  ⟨rfl, by decide⟩

end ByteMachine
