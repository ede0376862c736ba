/- Bytes of machine code, with what the assembler knows about each. A
   byte is an instruction byte or a constant byte; a constant byte keeps
   the constant's text and, once it is classified, whether it is a label,
   a variable or a number, and the number's value. Every byte gets its
   index in the program. The defaults are the values of a byte about which
   nothing is known yet: empty texts, value 0 and index -1. -/
namespace ByteMachine.Assembly

/-- What a byte of machine code is. -/
inductive ByteRole where
  | instruction
  | constant
  /-- Any other tag; the empty tag is a byte whose role is not yet known. -/
  | other (tag : String)
  deriving Repr, DecidableEq

/-- The role named by `t`. -/
def ByteRole.ofTag (t : String) : ByteRole :=
  if t = "instruction" then .instruction else if t = "constant" then .constant else .other t

/-- The name of a role. -/
def ByteRole.tag : ByteRole → String
  | .instruction => "instruction"
  | .constant => "constant"
  | .other t => t

/-- What kind of constant a constant byte holds. -/
inductive ConstKind where
  /-- Not classified yet. -/
  | unknown
  | label
  | variable
  | number
  /-- Any other tag. -/
  | other (tag : String)
  deriving Repr, DecidableEq

/-- The kind named by `t`; the empty tag is `unknown`. -/
def ConstKind.ofTag (t : String) : ConstKind :=
  if t = "" then .unknown
  else if t = "label" then .label
  else if t = "variable" then .variable
  else if t = "number" then .number
  else .other t

/-- The name of a kind. -/
def ConstKind.tag : ConstKind → String
  | .unknown => ""
  | .label => "label"
  | .variable => "variable"
  | .number => "number"
  | .other t => t

/-- A byte of machine code. -/
structure CodeByte where
  /-- The eight binary digits of the byte, once known. -/
  bits : String := ""
  role : ByteRole := .other ""
  kind : ConstKind := .unknown
  /-- The text of the constant of a constant byte. -/
  constant : String := ""
  /-- The value of a number constant. -/
  value : Int := 0
  /-- The position of the byte in the program. -/
  index : Int := -1
  deriving Repr, DecidableEq

/-- An instruction byte with the given bits. -/
def CodeByte.instruction (bits : String) : CodeByte := { bits, role := .instruction }

/-- A constant byte for the constant `text`. -/
def CodeByte.ofConstant (text : String) : CodeByte := { role := .constant, constant := text }

/-- Whether the byte is a constant byte whose constant is of kind `k`. -/
def CodeByte.holds (b : CodeByte) (k : ConstKind) : Bool :=
  b.role == .constant && b.kind == k

theorem ByteRole.ofTag_tag (r : ByteRole) (h : ∀ t, r = .other t → t ≠ "instruction" ∧ t ≠ "constant") :
    ByteRole.ofTag r.tag = r := by
  cases r with
  | instruction => rfl
  | constant => rfl
  | other t =>
    have := h t rfl
    simp [ofTag, tag, this.1, this.2]

end ByteMachine.Assembly
