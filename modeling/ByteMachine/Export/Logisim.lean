import ByteMachine.Word
/- Memory images in the Logisim raw format: the header line `v2.0 raw`,
   then the bytes as upper-case hexadecimal of two digits or more, sixteen
   to a line, with one space between bytes inside groups of four and two
   spaces between groups, and a line feed after every line.

   `chunks` cuts a list into consecutive pieces of a given size, the last
   one possibly shorter; its lemma says that the pieces put together give
   the list back. -/
namespace ByteMachine.Export

/-- The consecutive pieces of `xs` of `k` elements each, the last possibly shorter. -/
def chunksOf {α : Type} (k : Nat) (xs : List α) : List (List α) :=
  if _h : k = 0 then []
  else
    match xs with
    | [] => []
    | x :: rest => (x :: rest).take k :: chunksOf k ((x :: rest).drop k)
termination_by xs.length
decreasing_by simp only [List.length_drop, List.length_cons]; omega

/-- The pieces of `xs` of `k` elements each; none for a negative size, a fault for size zero. -/
def chunks {α : Type} (xs : List α) (k : Int) : Except Fault (List (List α)) :=
  if k = 0 then .error .zeroChunk
  else if k < 0 then .ok []
  else .ok (chunksOf k.toNat xs)

/-- Pieces of a positive size put together give the list back. -/
theorem flatten_chunksOf {α : Type} (k : Nat) (hk : 0 < k) (xs : List α) :
    (chunksOf k xs).flatten = xs := by
  fun_induction chunksOf k xs with
  | case1 => omega
  | case2 => rfl
  | case3 x rest _ ih => rw [List.flatten_cons, ih, List.take_append_drop]

/-- The bytes given as strings of binary digits, as a Logisim memory image. -/
def logisim (bitstrings : List String) : Except Fault String := do
  let lines ← (chunksOf 16 bitstrings).mapM fun line => do
    let groups ← (chunksOf 4 line).mapM fun g => do
      let hs ← g.mapM fun b => Word.hexOfBits b 2
      pure (" ".intercalate hs)
    pure ("  ".intercalate groups)
  pure ("\n".intercalate ("v2.0 raw" :: lines) ++ "\n")

/-- Memory images as C++ source, a format not implemented. -/
def cpp (_bitstrings : List String) : Except Fault String := .error .unsupportedFormat

end ByteMachine.Export
