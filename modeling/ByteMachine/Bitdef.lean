import ByteMachine.Fault
import ByteMachine.Text.Slice
/- Bit patterns. A pattern is a row of positions, each either open (written
   `.`) or fixed to a symbol, normally `0` or `1`. Positions are counted from
   the right: position 0 is the last character.

   Patterns of one length that fix disjoint positions combine into one
   (`merge`): each position takes the symbol of the pattern that fixes it,
   and stays open if none does. Combining fails on an empty list, on
   patterns of different lengths, and on two patterns that fix the same
   position, even to the same symbol. `collapse` lists the bit strings a
   pattern stands for, reading its open positions from left to right as
   the digits of a counter that starts at all zeros; `expand` does the same
   but refuses a pattern with 990 open positions or more, which would nest
   calls too deep; `fill` writes a given
   text into every open position; `extract` cuts out the positions from
   `hi` down to `lo`.

   The lemmas say that a pattern read from text and written back is that
   text, that combining one pattern gives it back, and how many bit strings
   a pattern stands for. -/
namespace ByteMachine

/-- One position of a pattern. -/
inductive Cell where
  /-- The position may hold either bit. -/
  | wild
  /-- The position holds `c`. -/
  | fixed (c : Char)
  deriving Repr, DecidableEq

namespace Cell

/-- The cell written as `c`: `.` is open, any other character fixed. -/
def ofChar (c : Char) : Cell := if c = '.' then .wild else .fixed c

/-- The character that writes a cell. -/
def toChar : Cell → Char
  | .wild => '.'
  | .fixed c => c

/-- Whether the cell is fixed. -/
def isFixed : Cell → Bool
  | .wild => false
  | .fixed _ => true

/-- The cell seen when `a` lies on top of `b`: `a` unless it is open. -/
def atop : Cell → Cell → Cell
  | .wild, b => b
  | a, _ => a

theorem toChar_ofChar (c : Char) : (ofChar c).toChar = c := by
  unfold ofChar; split <;> simp_all [toChar]

end Cell

/-- A bit pattern. -/
structure Bitdef where
  cells : List Cell
  deriving Repr, DecidableEq

namespace Bitdef

/-- The pattern written as `s`. -/
def ofString (s : String) : Bitdef := ⟨s.toList.map Cell.ofChar⟩

/-- The text of a pattern. -/
def toString (b : Bitdef) : String := String.ofList (b.cells.map Cell.toChar)

/-- The number of positions. -/
def length (b : Bitdef) : Nat := b.cells.length

/-- The pattern of `n` open positions. -/
def dots (n : Nat) : Bitdef := ⟨List.replicate n .wild⟩

/-- The pattern of `width` positions that fixes `bits` from position `start`
on, counting from the left, and leaves all others open. -/
def field (width start : Nat) (bits : String) : Bitdef :=
  ⟨List.replicate start .wild ++ bits.toList.map .fixed ++
    List.replicate (width - start - bits.length) .wild⟩

/-- Whether all patterns have the length of the first. -/
def sameLength (bs : List Bitdef) : Except Fault Bool := do
  let b ← first bs
  pure (bs.all fun c => c.length == b.length)

/-- Whether `a` and `b` fix a common position. -/
def clash (a b : Bitdef) : Bool :=
  (a.cells.zip b.cells).any fun p => p.1.isFixed && p.2.isFixed

/-- Whether two patterns of the list fix a common position. -/
def anyClash : List Bitdef → Bool
  | [] => false
  | b :: rest => rest.any (clash b) || anyClash rest

/-- Whether two of the patterns fix a common position; they must have one length. -/
def overlapping (bs : List Bitdef) : Except Fault Bool := do
  if ← sameLength bs then pure (anyClash bs) else throw .unequalLengths

/-- The pattern `a` laid on top of `b`. -/
def overlay (a b : Bitdef) : Bitdef := ⟨List.zipWith Cell.atop a.cells b.cells⟩

/-- The patterns combined into one. -/
def merge (bs : List Bitdef) : Except Fault Bitdef := do
  let b ← first bs
  unless ← sameLength bs do throw .unequalLengths
  if ← overlapping bs then throw .overlapping
  pure (bs.foldr overlay (dots b.length))

/-- The bit strings that the cells stand for, open positions counting up from the left. -/
def completions : List Cell → List (List Char)
  | [] => [[]]
  | .wild :: r =>
    let rs := completions r
    rs.map ('0' :: ·) ++ rs.map ('1' :: ·)
  | .fixed c :: r => (completions r).map (c :: ·)

/-- The bit strings that the pattern stands for, in counting order. -/
def collapse (b : Bitdef) : List String := (completions b.cells).map String.ofList

/-- The most open positions that a collapse expands. It takes one nested call per open
position, and calls nest at most a thousand deep. The limit is set for a pattern expanded on its
own, below the few calls of the request that asks for it. The ranges of a list of templates
(`Microcode.expandTemplates`), and the full memory, are expanded a call or two deeper, where the
nesting runs out that many positions sooner; this model keeps the one limit for all of them.
The language's ranges have fifteen open positions. -/
def expansionLimit : Nat := 990

/-- The bit strings that the pattern stands for, or the fault that it has too
many open positions to expand one nested call at a time. -/
def expand (b : Bitdef) : Except Fault (List String) :=
  if expansionLimit ≤ b.cells.count .wild then .error .recursionLimit else .ok b.collapse

/-- The pattern with `v` written into every open position. -/
def fill (b : Bitdef) (v : String) : String :=
  String.ofList (b.cells.flatMap fun
    | .wild => v.toList
    | .fixed c => [c])

/-- The position counted from the other end of a row of `length` positions. -/
def reverseIndex (index length : Int) : Int := length - index - 1

/-- The positions `hi` down to `lo` of `xs`, counting from the right. -/
def extract {α : Type} (xs : List α) (hi lo : Int) : Except Fault (List α) :=
  let n : Int := xs.length
  if n < hi then .error .regionTooLarge
  else if hi < lo then .error .endBeforeStart
  else if lo < 0 then .error .startBelowZero
  else if n = 0 then .ok xs
  else .ok (Text.window xs (reverseIndex hi n) (reverseIndex lo n + 1))

/-- The first eight positions of the patterns combined. -/
def instructionByte (bs : List Bitdef) : Except Fault Bitdef := do
  let m ← merge bs
  pure ⟨m.cells.take 8⟩

theorem toString_ofString (s : String) : (ofString s).toString = s := by
  simp [ofString, toString, List.map_map, Function.comp_def, Cell.toChar_ofChar]

theorem length_completions (cs : List Cell) :
    (completions cs).length = Nat.pow 2 (cs.filter fun c => !c.isFixed).length := by
  induction cs with
  | nil => rfl
  | cons c r ih =>
    cases c with
    | wild =>
      have hf : ((Cell.wild :: r).filter fun c => !c.isFixed) =
          Cell.wild :: r.filter fun c => !c.isFixed := rfl
      have hp : Nat.pow 2 ((r.filter fun c => !c.isFixed).length + 1) =
          Nat.pow 2 (r.filter fun c => !c.isFixed).length * 2 := rfl
      rw [hf, List.length_cons, hp, ← ih]
      simp only [completions, List.length_append, List.length_map]
      omega
    | fixed x => simp [completions, ih, Cell.isFixed]

theorem zipWith_atop_dots (cs : List Cell) :
    List.zipWith Cell.atop cs (List.replicate cs.length .wild) = cs := by
  induction cs with
  | nil => rfl
  | cons c r ih => cases c <;> simp [List.replicate_succ, Cell.atop, ih]

/-- Combining one pattern gives it back. -/
theorem merge_single (b : Bitdef) : merge [b] = .ok b := by
  simp [merge, first, sameLength, overlapping, anyClash, overlay, dots, length, bind,
    Except.bind, pure, Except.pure, zipWith_atop_dots]

end Bitdef

end ByteMachine
