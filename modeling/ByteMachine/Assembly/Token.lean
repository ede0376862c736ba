import ByteMachine.Numeral
import ByteMachine.Text.Blank
import ByteMachine.Text.Slice
import ByteMachine.Text.WordChar
/- Tokens of an assembly line. A line is cut into tokens at blanks.

   A label is `@` and a variable is `$`, each followed by a name: an ASCII
   letter or `_`, then any word characters of any script; one line feed may
   end the token. A number is `#` followed by an integer literal whose base
   comes from its prefix (see `Numeral`). Labels, variables and numbers are
   the constants. A memory index is a token of more than two characters
   between `[` and `]`; the text inside is the position it names.

   The lemmas say that the three kinds of constant are told apart by their
   first character, so no token is of two kinds (`kinds_apart`). -/
namespace ByteMachine.Assembly

/-- Whether `cs` is a run of word characters, optionally ended by one line feed. -/
def nameTail : List Char → Bool
  | [] => true
  | ['\n'] => true
  | c :: r => Text.isWordChar c && nameTail r

/-- Whether `s` is `sigil` followed by a name. -/
def isNamed (sigil : Char) (s : String) : Bool :=
  match s.toList with
  | c :: d :: rest => c == sigil && (d.isAlpha || d == '_') && nameTail rest
  | _ => false

/-- Whether `s` is a label. -/
def isLabel (s : String) : Bool := isNamed '@' s

example : isLabel "@a\n" = true ∧ isLabel "@a\n\n" = false := by decide +kernel

/-- Whether `s` is a variable. -/
def isVariable (s : String) : Bool := isNamed '$' s

/-- Whether `s` is a number: `#` and an integer literal. -/
def isNumber (s : String) : Bool :=
  match s.toList with
  | '#' :: rest => !rest.isEmpty && Numeral.isLiteral .prefixed (String.ofList rest)
  | _ => false

/-- Whether `s` is a constant: a label, a variable or a number. -/
def isConstant (s : String) : Bool :=
  isLabel s || isVariable s || isNumber s

/-- The value of the number `s`: the literal after its first character. -/
def numberValue (s : String) : Except Fault Int :=
  Numeral.parse .prefixed (String.ofList (s.toList.drop 1))

/-- Whether `s` is a memory index: `[`, at least one character, `]`. -/
def isMemoryIndex (s : String) : Bool :=
  s.toList.head? == some '[' && s.toList.getLast? == some ']' && 2 < s.length

/-- The position that a memory index names: its text without the first and last character. -/
def memoryPosition (s : String) : String :=
  String.ofList (Text.window s.toList 1 (-1))

/-- The token `s` written as a memory index. -/
def asMemoryIndex (s : String) : String :=
  "[" ++ s ++ "]"

/-- The tokens of a line. -/
def tokens (line : String) : List String :=
  Text.words line

theorem isNamed_head {sigil : Char} {s : String} (h : isNamed sigil s = true) :
    s.toList.head? = some sigil := by
  unfold isNamed at h
  split at h
  · next c d rest hs =>
    simp only [Bool.and_eq_true, beq_iff_eq] at h
    rw [hs, h.1.1]
    rfl
  · simp at h

theorem isNumber_head {s : String} (h : isNumber s = true) : s.toList.head? = some '#' := by
  unfold isNumber at h
  split at h
  · next rest hs => rw [hs]; rfl
  · cases h

/-- A kind of constant that opens with another character than `p`'s holds of no text of `p`. -/
theorem eq_false_of_heads {p q : String → Bool} {a b : Char} (hab : a ≠ b)
    (hp : ∀ {s}, p s = true → s.toList.head? = some a)
    (hq : ∀ {s}, q s = true → s.toList.head? = some b) {s : String} (hs : p s = true) :
    q s = false := by
  cases hqs : q s
  · rfl
  · exact absurd (Option.some.inj ((hp hs).symm.trans (hq hqs))) hab

theorem isLabel_eq_false_of_isVariable {s : String} (h : isVariable s = true) :
    isLabel s = false :=
  eq_false_of_heads (by decide) isNamed_head isNamed_head h

theorem isLabel_eq_false_of_isNumber {s : String} (h : isNumber s = true) : isLabel s = false :=
  eq_false_of_heads (by decide) isNumber_head isNamed_head h

theorem isVariable_eq_false_of_isNumber {s : String} (h : isNumber s = true) :
    isVariable s = false :=
  eq_false_of_heads (by decide) isNumber_head isNamed_head h

/-- No constant is of two kinds: each kind has its own first character. -/
theorem kinds_apart (c : String) :
    ([isLabel c, isVariable c, isNumber c].filter id).length ≤ 1 := by
  have hlv := @isLabel_eq_false_of_isVariable c
  have hln := @isLabel_eq_false_of_isNumber c
  have hvn := @isVariable_eq_false_of_isNumber c
  -- with each pair ruled out, at most one of the three is true
  cases hl : isLabel c <;> cases hv : isVariable c <;> cases hn : isNumber c <;> simp_all

/-- So the test for a constant of several kinds fails on every constant. -/
theorem not_many_kinds (c : String) :
    ¬ 1 < ([isLabel c, isVariable c, isNumber c].filter id).length :=
  Nat.not_lt.mpr (kinds_apart c)

end ByteMachine.Assembly
