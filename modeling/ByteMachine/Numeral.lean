import ByteMachine.Fault
import ByteMachine.Text.Blank
import ByteMachine.Text.Decimal
/- Integer literals. A literal is read in a given base from 2 to 36, or in
   a base taken from its prefix.

   Before reading, each non-ASCII blank becomes a space and each decimal
   digit of another script becomes its ASCII digit; any other character
   from U+007F on, and the NUL character, make the literal invalid. Then:
   spaces (space, tab, line feed, vertical tab, form feed, carriage return)
   may surround the literal; a sign `+` or `-` may open it; digits are
   `0`-`9` and the letters `a`-`z` in either case for 10 to 35, each below
   the base; a single `_` may stand between two digits, and also right after
   a prefix. A prefix `0x`, `0o` or `0b` (either case) is skipped when the
   base is 16, 8 or 2 and chooses that base when the base is to be read.
   Without a prefix such a literal is decimal, and then a literal that
   starts with `0` must be zero (`017` is refused, `00` and `0_0` are not).
   A decimal literal of more than 4300 digits is refused with a fault of its
   own, and so is writing an integer of more than 4300 digits in decimal. -/
namespace ByteMachine.Numeral

/-- The base in which a literal is read. -/
inductive Radix where
  /-- The base comes from a prefix; decimal without one. -/
  | prefixed
  /-- A fixed base from 2 to 36. -/
  | base (b : Nat)
  deriving Repr, DecidableEq

/-- The number by which a base is reported: 0 for a base read from a prefix. -/
def Radix.code : Radix → Nat
  | .prefixed => 0
  | .base b => b

/-- The character `c` in ASCII form, if it has one. -/
def asciiChar (c : Char) : Option Char :=
  if c.toNat = 0 then none
  else if c.toNat < 127 then some c
  else if Text.isBlank c then some ' '
  else (Text.digitValue? c).map fun d => Char.ofNat (48 + d)

/-- The characters in ASCII form, if every one has one. -/
def asciiForm : List Char → Option (List Char)
  | [] => some []
  | c :: cs => do
    let d ← asciiChar c
    let r ← asciiForm cs
    pure (d :: r)

/-- The spaces that may surround a literal. -/
def isSpace (c : Char) : Bool :=
  c = ' ' || (0x09 ≤ c.toNat && c.toNat ≤ 0x0D)

/-- The value of a digit character: `0`-`9`, then `a`-`z` or `A`-`Z` for 10 to 35. -/
def digitOf (c : Char) : Option Nat :=
  if '0' ≤ c ∧ c ≤ '9' then some (c.toNat - 48)
  else if 'a' ≤ c ∧ c ≤ 'z' then some (c.toNat - 87)
  else if 'A' ≤ c ∧ c ≤ 'Z' then some (c.toNat - 55)
  else none

/-- Whether `c` may appear in the digit run of a literal in base `b`. -/
def inRun (b : Nat) (c : Char) : Bool :=
  c = '_' || (digitOf c).any (· < b)

/-- A digit run is well formed when no `_` follows another and none ends it. -/
def runWellFormed : List Char → Bool
  | [] => true
  | ['_'] => false
  | '_' :: '_' :: _ => false
  | _ :: r => runWellFormed r

/-- The value of a run of digits in base `b`. -/
def runValue (b : Nat) (ds : List Char) : Nat :=
  ds.foldl (fun acc c => acc * b + (digitOf c).getD 0) 0

/-- The base a prefix chooses: the letter after a leading `0`. -/
def prefixBase (c : Char) : Option Nat :=
  if c = 'x' ∨ c = 'X' then some 16
  else if c = 'o' ∨ c = 'O' then some 8
  else if c = 'b' ∨ c = 'B' then some 2
  else none

/-- The base of a literal whose sign has been read, and whether its value
must then be zero (a decimal literal that starts with `0`). -/
def resolveBase (r : Radix) (cs : List Char) : Nat × Bool :=
  match r with
  | .base b => (b, false)
  | .prefixed =>
    match cs with
    | '0' :: c :: _ => match prefixBase c with
      | some b => (b, false)
      | none => (10, true)
    | ['0'] => (10, true)
    | _ => (10, false)

/-- The characters after the prefix of base `b`, with one `_` after it skipped. -/
def dropPrefix (b : Nat) (cs : List Char) : List Char :=
  match cs with
  | '0' :: c :: t =>
    if prefixBase c = some b then
      match t with
      | '_' :: t' => t'
      | _ => t
    else cs
  | _ => cs

/-- The sign of a literal and the characters after it. -/
def readSign : List Char → Bool × List Char
  | '+' :: t => (false, t)
  | '-' :: t => (true, t)
  | t => (false, t)

/-- The outcome of reading a literal. -/
inductive Reading where
  | value (n : Int)
  | malformed
  | tooManyDigits (count : Nat)
  deriving Repr, DecidableEq

/-- Read the ASCII characters of a literal. -/
def readAscii (r : Radix) (cs : List Char) : Reading :=
  let (neg, cs) := readSign (cs.dropWhile isSpace)
  let (b, zeroOnly) := resolveBase r cs
  let cs := dropPrefix b cs
  if cs.head? = some '_' then .malformed
  else
    let run := cs.takeWhile (inRun b)
    let rest := cs.dropWhile (inRun b)
    if !runWellFormed run then .malformed
    else
      let ds := run.filter (· ≠ '_')
      if b = 10 ∧ 4300 < ds.length then .tooManyDigits ds.length
      else if ds.isEmpty then .malformed
      else
        let v := runValue b ds
        if zeroOnly ∧ v ≠ 0 then .malformed
        else if !(rest.dropWhile isSpace).isEmpty then .malformed
        else .value (if neg then -(v : Int) else v)

/-- Read the literal `s` in radix `r`. -/
def read (r : Radix) (s : String) : Reading :=
  match asciiForm s.toList with
  | none => .malformed
  | some cs => readAscii r cs

example : read .prefixed "0x_f" = .value 15 ∧ read .prefixed "017" = .malformed := by decide

/-- The value of the literal `s` in radix `r`, or the fault that refuses it. -/
def parse (r : Radix) (s : String) : Except Fault Int :=
  match read r s with
  | .value n => .ok n
  | .malformed => .error (.literal r.code s)
  | .tooManyDigits n => .error (.tooManyDigits n)

/-- Whether `s` is a literal in radix `r`. -/
def isLiteral (r : Radix) (s : String) : Bool :=
  match read r s with
  | .value _ => true
  | _ => false

/-- The decimal text of `n`, or the fault that it has more than 4300 digits, the
most that integers are written with. -/
def decimal (n : Int) : Except Fault String :=
  if 4300 < (toString n.natAbs).length then .error .tooManyDigitsToShow else .ok (toString n)

end ByteMachine.Numeral
