import ByteMachine.Assembly.Program
/- The listing of an assembled program: a table with one row per line
   without machine code and one row per byte of machine code. The first
   byte of an instruction line shares its row with the line; its other
   bytes get rows of their own.

   A row shows the line's number and text, then after `|` the byte's index
   in decimal, hexadecimal and binary, a `-`, the label that names the byte,
   the byte's value in decimal and hexadecimal, its bits, and for a constant
   byte the constant's text. Line numbers, indexes and values are aligned
   to the right and texts and labels to the left, each column as wide as
   its widest entry; blanks at the end of a row are dropped. A number of
   more than 4300 digits cannot be written in decimal, and the listing then
   fails while the widths are measured. -/
namespace ByteMachine.Assembly

/-- One row of a listing. -/
structure Row where
  /-- The assembly line shown in the row. -/
  line : Option Line := none
  /-- The byte shown in the row. -/
  byte : Option CodeByte := none
  /-- The label that names the byte. -/
  label : Option String := none

/-- The rows of the listing of `lines`. -/
def rows (lines : List Line) : Except Fault (List Row) := do
  let rs ← lines.mapM fun l =>
    match l.code with
    | some bs => do
      let b ← first bs
      pure ({ line := some l, byte := some b, label := l.assigned } ::
        (bs.drop 1).map fun b => { byte := some b })
    | none => pure [{ line := some l }]
  pure rs.flatten

/-- The widths of the aligned columns. -/
structure Widths where
  number : Nat := 0
  text : Nat := 0
  index : Nat := 0
  value : Nat := 0
  label : Nat := 0

/-- The widths after taking row `r` into account. -/
def Widths.add (w : Widths) (r : Row) : Except Fault Widths := do
  let w ← match r.line with
    | some l => do
      let number ← Numeral.decimal l.number
      pure { w with number := max w.number number.length, text := max w.text l.raw.length }
    | none => pure w
  match r.byte with
  | some b =>
    let index ← Numeral.decimal b.index
    let v ← Word.ofBits b.bits
    let value ← Numeral.decimal v
    pure { w with index := max w.index index.length,
                  value := max w.value value.length,
                  label := max w.label ((r.label.map String.length).getD 0) }
  | none => pure w

/-- The text `s` with spaces before it up to `width` characters. -/
def alignRight (s : String) (width : Nat) : String :=
  String.ofList (List.replicate (width - s.length) ' ') ++ s

/-- The text `s` with spaces after it up to `width` characters. -/
def alignLeft (s : String) (width : Nat) : String :=
  s ++ String.ofList (List.replicate (width - s.length) ' ')

/-- The text of row `r` with column widths `w`. -/
def Row.render (w : Widths) (r : Row) : Except Fault String := do
  let (number, text) := match r.line with
    | some l => (toString l.number, l.raw)
    | none => ("", "")
  let cells ← match r.byte with
    | some b => do
      let bits ← Word.toBits b.index 8
      let v ← Word.ofBits b.bits
      pure [toString b.index, Word.padded 16 Char.toUpper b.index 2, bits, "-",
        (r.label.getD ""), toString v, Word.padded 16 Char.toUpper v 2, b.bits,
        if b.role == .constant then b.constant else ""]
    | none => pure ["", "", "", "", "", "", "", "", ""]
  match cells with
  | [index, indexHex, indexBits, sep, label, value, valueHex, bits, constant] =>
    pure (Text.trimRight (alignRight number w.number ++ " " ++ alignLeft text w.text ++ " | " ++
      alignRight index w.index ++ " " ++ indexHex ++ " " ++ indexBits ++ " " ++ sep ++ " " ++
      alignLeft label w.label ++ " " ++ alignRight value w.value ++ " " ++ valueHex ++ " " ++
      bits ++ " " ++ constant))
  | _ => pure ""

/-- The rows of the listing of an assembled program, as text. -/
def summaryLines (lines : List Line) : Except Fault (List String) := do
  let rs ← rows lines
  let w ← rs.foldlM Widths.add {}
  rs.mapM (Row.render w)

/-- The listing of an assembled program, its rows separated by line feeds. -/
def listing (lines : List Line) : Except Fault String := do
  let texts ← summaryLines lines
  pure ("\n".intercalate texts)

end ByteMachine.Assembly
