/- Text cut into lines.

   A line ends at a line feed, a carriage return, the pair of the two, a
   vertical tab, a form feed, one of the separators U+001C to U+001E, a next
   line U+0085, a line separator U+2028 or a paragraph separator U+2029. The
   ends are not part of the lines, and text that ends with a line end has
   no empty line after it. -/
namespace ByteMachine.Text

/-- Whether `c` ends a line. -/
def endsLine (c : Char) : Bool :=
  let n := c.toNat
  (0x0A ≤ n && n ≤ 0x0D) || (0x1C ≤ n && n ≤ 0x1E) || n == 0x85 || n == 0x2028 || n == 0x2029

/-- The lines of `cs`, the one being read so far kept as `cur`, reversed. -/
def linesFrom (cur : List Char) : List Char → List String
  | [] => if cur.isEmpty then [] else [String.ofList cur.reverse]
  | '\r' :: '\n' :: rest => String.ofList cur.reverse :: linesFrom [] rest
  | c :: rest =>
    if endsLine c then String.ofList cur.reverse :: linesFrom [] rest
    else linesFrom (c :: cur) rest

/-- The lines of `s`. -/
def lines (s : String) : List String :=
  linesFrom [] s.toList

/-- A character that is no carriage return starts a line, or ends the one so far. -/
theorem linesFrom_cons (cur : List Char) (c : Char) (rest : List Char) (hc : c ≠ '\r') :
    linesFrom cur (c :: rest) =
      if endsLine c then String.ofList cur.reverse :: linesFrom [] rest
      else linesFrom (c :: cur) rest :=
  linesFrom.eq_3 cur c rest fun _ h _ => hc h

/-- Text with no line end adds to the line being read. -/
theorem linesFrom_of_no_end (cur cs : List Char) (h : ∀ c ∈ cs, endsLine c = false) :
    linesFrom cur cs = linesFrom (cs.reverse ++ cur) [] := by
  induction cs generalizing cur with
  | nil => rfl
  | cons c rest ih =>
    have hc : endsLine c = false := h c (by simp)
    have hcr : c ≠ '\r' := by
      intro e
      subst e
      simp [endsLine] at hc
    rw [linesFrom_cons cur c rest hcr, if_neg (by simp [hc]),
      ih (c :: cur) fun d hd => h d (by simp [hd])]
    simp

end ByteMachine.Text
