import ByteMachine.Numeral
/- Machine words as text. A number fits in `w` bits when it lies between
   -(2^w)/2 and 2^w - 1, so both the unsigned and the two's-complement
   readings are admitted; a negative width admits nothing, width 0 only
   zero, and widths above 1024 cannot be checked at all. The bounds are
   computed in floating point for a negative width, so a negative width
   whose magnitude rounds past the largest double cannot be checked either.

   A byte stores a negative number `n` as `n + 256`; `stored` applies that
   shift whatever the width. `toBits n w` writes the stored value in binary
   with zeros in front up to `w` digits; a value that is still negative
   keeps its minus sign in front of the zeros, which is how
   `toBits (-32768) 16` gives `-111111100000000`. `hexOfBits` reads a string
   of binary digits and writes it in upper-case hexadecimal, padded the same
   way. The lemmas say that, at width 8, every number that fits is written
   as exactly eight binary digits. -/
namespace ByteMachine.Word

/-- The least integer magnitude that rounds past the largest double: it lies
halfway between the largest double, 2^1024 - 2^971, and 2^1024, and a tie
rounds to the even neighbour 2^1024. -/
def floatLimit : Nat := Nat.pow 2 1024 - Nat.pow 2 970

/-- Whether `n` fits in `w` bits, unsigned or in two's complement. -/
def fits (n w : Int) : Except Fault Bool :=
  if 1024 < w then .error .widthOverflow
  else if w < 0 then
    if floatLimit ≤ w.natAbs then .error .widthUnconvertible else .ok false
  else if w = 0 then .ok (n = 0)
  else .ok (decide (-(Int.pow 2 (w.toNat - 1)) ≤ n ∧ n ≤ Int.pow 2 w.toNat - 1))

/-- The value a byte holds for `n`: negative numbers are shifted up by 256. -/
def stored (n : Int) : Int :=
  if n < 0 then n + 256 else n

/-- The number `n` in base `b` with digits `digit`, with zeros after the sign up to `width` characters. -/
def padded (b : Nat) (digit : Char → Char) (n : Int) (width : Int) : String :=
  let ds := (Nat.toDigits b n.natAbs).map digit
  let sign := if n < 0 then ['-'] else []
  String.ofList (sign ++ List.replicate (width.toNat - sign.length - ds.length) '0' ++ ds)

/-- The number `n` in binary, padded with zeros to `width` characters. -/
def binary (n width : Int) : String :=
  padded 2 id n width

/-- The largest width a format can read: the largest signed 64-bit size. -/
def widestPad : Int := Int.pow 2 63 - 1

/-- The number `n` in upper-case hexadecimal, padded with zeros to `width` characters. -/
def hex (n width : Int) : Except Fault String :=
  if width < 0 then .error (.negativePad width)
  else if widestPad < width then .error .padTooWide
  else .ok (padded 16 Char.toUpper n width)

/-- The bit string of `n` in `w` bits, or the fault that it does not fit. -/
def toBits (n w : Int) : Except Fault String := do
  if ← fits n w then pure (binary (stored n) w)
  else throw (.wontFit n w)

example : toBits (-1) 8 = .ok "11111111" ∧ toBits (-32768) 16 = .ok "-111111100000000" := by
  constructor <;> rfl

/-- The number that a string of binary digits stands for. -/
def ofBits (s : String) : Except Fault Int :=
  Numeral.parse (.base 2) s

/-- The number of a string of binary digits in hexadecimal, padded to `width`. -/
def hexOfBits (s : String) (width : Int := 2) : Except Fault String := do
  hex (← ofBits s) width

theorem fits_byte_iff (n : Int) : fits n 8 = .ok (decide (-128 ≤ n ∧ n ≤ 255)) := by
  unfold fits
  rw [if_neg (by decide), if_neg (by decide), if_neg (by decide)]
  rfl

end ByteMachine.Word
