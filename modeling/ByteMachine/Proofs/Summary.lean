import ByteMachine.Assembly.Listing
import ByteMachine.Proofs.Settled
/- The listing of an assembled program, computed. For settled lines numbered with at most 4300
   digits (`summaryLines_eq_ok`) the listing has one row for each line without code and one for
   each byte of a line with code, in order (`listingRows`); a row is its cells separated by single
   spaces (`Row.text`), and each aligned column is as wide as its longest entry
   (`listingWidths`). Blanks at the end of a row are dropped: the last cell, the bar, the bits or
   the constant, ends in a character that is no blank, and the cells after the bar of a row
   without a byte are blank.

   The offsets follow from the widths: the bar of every row stands at the same place, and so
   does the constant of every row with a byte, since the fixed cells of a byte, two hexadecimal
   digits and eight bits, never overflow. `ListingLayout` gathers all this, and it holds of the
   listing of every assembled program. -/
namespace ByteMachine.Assembly

open Text Machine

/-- The number that the bits of a byte stand for. -/
def CodeByte.bitsValue (b : CodeByte) : Nat := Nat.ofDigitChars 2 b.bits.toList 0

/-- The rows that show line `l`: the line alone if it has no code; otherwise the line with its
first byte and the label that names it, then a row for each further byte. -/
def Line.listingRows (l : Line) : List Row :=
  match l.code with
  | some (b :: bs) =>
    { line := some l, byte := some b, label := l.assigned } :: bs.map fun b => { byte := some b }
  | _ => [{ line := some l }]

/-- The rows of the listing of `lines`, line after line. -/
def listingRows (lines : List Line) : List Row := lines.flatMap Line.listingRows

/-- The widths of the columns of the listing of `lines`, each the length of its longest entry. -/
def listingWidths (lines : List Line) : Widths where
  number := (lines.map fun l => (toString l.number).length).max?.getD 0
  text := (lines.map fun l => l.raw.length).max?.getD 0
  index := ((programBytes lines).map fun b => (toString b.index).length).max?.getD 0
  value := ((programBytes lines).map fun b => (toString b.bitsValue).length).max?.getD 0
  label := ((lines.filterMap Line.assigned).map String.length).max?.getD 0

/-- The cells of row `r` with column widths `W`: the line's number and text and a bar; then for a
row with a byte, the byte's number in decimal, hexadecimal and binary, a dash, the label that
names it, its value in decimal and hexadecimal, its bits, and the constant of a constant byte. -/
def Row.cells (W : Widths) (r : Row) : List String :=
  [alignRight ((r.line.map fun l => toString l.number).getD "") W.number,
    alignLeft ((r.line.map Line.raw).getD "") W.text, "|"] ++
  match r.byte with
  | some b =>
    [alignRight (toString b.index) W.index, Word.padded 16 Char.toUpper b.index 2,
      Word.binary b.index 8, "-", alignLeft (r.label.getD "") W.label,
      alignRight (toString b.bitsValue) W.value, Word.padded 16 Char.toUpper b.bitsValue 2,
      b.bits] ++ if b.role = .constant then [b.constant] else []
  | none => []

/-- The text of a row: its cells separated by single spaces. -/
def Row.text (W : Widths) (r : Row) : String := " ".intercalate (r.cells W)

/-! ## Text -/

theorem toList_alignRight (s : String) (w : Nat) :
    (alignRight s w).toList = List.replicate (w - s.length) ' ' ++ s.toList := by
  simp [alignRight]

theorem toList_alignLeft (s : String) (w : Nat) :
    (alignLeft s w).toList = s.toList ++ List.replicate (w - s.length) ' ' := by
  simp [alignLeft]

theorem length_alignRight {s : String} {w : Nat} (h : s.length ≤ w) :
    (alignRight s w).length = w := by
  rw [← String.length_toList, toList_alignRight, List.length_append, List.length_replicate,
    String.length_toList]
  omega

theorem length_alignLeft {s : String} {w : Nat} (h : s.length ≤ w) :
    (alignLeft s w).length = w := by
  rw [← String.length_toList, toList_alignLeft, List.length_append, List.length_replicate,
    String.length_toList]
  omega

/-- Blanks at the end do not count. -/
theorem trimRight_append_blanks {s t : String} (ht : ∀ c ∈ t.toList, isBlank c = true) :
    trimRight (s ++ t) = trimRight s := by
  have hdrop : t.toList.reverse.dropWhile isBlank = [] :=
    List.dropWhile_eq_nil_iff.mpr fun c hc => ht c (List.mem_reverse.mp hc)
  unfold trimRight
  rw [String.toList_append, List.reverse_append, List.dropWhile_append, hdrop]
  rfl

/-- Text that ends in a character that is no blank keeps its end. -/
theorem trimRight_append_of_getLast? {s t : String} {c : Char} (ht : t.toList.getLast? = some c)
    (hc : isBlank c = false) : trimRight (s ++ t) = s ++ t := by
  obtain ⟨u, hu⟩ := List.getLast?_eq_some_iff.mp ht
  unfold trimRight
  rw [String.toList_append, hu, List.reverse_append, List.reverse_append, List.reverse_singleton,
    List.singleton_append, List.cons_append, List.dropWhile_cons_of_neg (by simp [hc]),
    ← List.cons_append, ← List.singleton_append, ← List.reverse_singleton,
    ← List.reverse_append, ← List.reverse_append, List.reverse_reverse, ← hu,
    ← String.toList_append, String.ofList_toList]

theorem blank_replicate_space (n : Nat) : ∀ c ∈ List.replicate n ' ', isBlank c = true := by
  intro c hc
  rw [(List.mem_replicate.mp hc).2]
  exact isBlank_space

/-! ## Numbers as text -/

theorem toString_natCast (n : Nat) : toString (n : Int) = toString n := by
  simp [Int.repr_eq_if]

/-- A number of at most 4300 digits is written in decimal. -/
theorem decimal_eq_ok {n : Int} (h : (toString n.natAbs).length ≤ 4300) :
    Numeral.decimal n = .ok (toString n) := by
  rw [Numeral.decimal, if_neg (Nat.not_lt.mpr h)]

/-- A smaller number has no more digits. -/
theorem length_toString_le {a b : Nat} (h : a ≤ b) :
    (toString a).length ≤ (toString b).length := by
  rw [Nat.toString_eq_repr, Nat.toString_eq_repr]
  have hb := (Nat.length_repr_le_iff (n := b) Nat.length_repr_pos).mp (Nat.le_refl _)
  exact (Nat.length_repr_le_iff Nat.length_repr_pos).mpr (Nat.lt_of_le_of_lt h hb)

theorem length_toString_natAbs_le {n : Int} (h0 : 0 ≤ n) (h : n < 256) :
    (toString n.natAbs).length ≤ 3 :=
  Nat.le_trans (length_toString_le (show n.natAbs ≤ 255 by omega)) (by decide)

/-- Binary digits read after `a` give less than `a + 1` shifted past them. -/
theorem ofDigitChars_lt {l : List Char} (h : ∀ c ∈ l, c = '0' ∨ c = '1') (a : Nat) :
    Nat.ofDigitChars 2 l a < (a + 1) * Nat.pow 2 l.length := by
  induction l generalizing a with
  | nil => simp
  | cons c r ih =>
    have hd : c.toNat - '0'.toNat ≤ 1 := by
      rcases h c List.mem_cons_self with rfl | rfl <;> decide
    have hr := ih (fun x hx => h x (List.mem_cons_of_mem _ hx)) (2 * a + (c.toNat - '0'.toNat))
    rw [Nat.ofDigitChars_cons]
    calc _ < (2 * a + (c.toNat - '0'.toNat) + 1) * Nat.pow 2 r.length := hr
      _ ≤ (2 * a + 2) * Nat.pow 2 r.length := Nat.mul_le_mul_right _ (by omega)
      _ = (a + 1) * Nat.pow 2 (r.length + 1) := by
        show (2 * a + 2) * Nat.pow 2 r.length = (a + 1) * (Nat.pow 2 r.length * 2)
        rw [Nat.mul_comm (Nat.pow 2 r.length) 2, ← Nat.mul_assoc]
        congr 1
        omega

theorem bitsValue_lt {b : CodeByte} (h : IsBits b.bits 8) : b.bitsValue < 256 := by
  have := ofDigitChars_lt h.2 0
  rwa [String.length_toList, h.1] at this

theorem length_hex {v : Int} (h0 : 0 ≤ v) (h : v < 256) :
    (Word.padded 16 Char.toUpper v 2).length = 2 := by
  obtain ⟨k, rfl⟩ := Int.eq_ofNat_of_zero_le h0
  have hk : (Nat.toDigits 16 k).length ≤ 2 :=
    (Nat.length_toDigits_le_iff (by decide) (by decide)).mpr (by omega)
  rw [← String.length_toList, Word.toList_hex_padded, List.length_append, List.length_replicate,
    List.length_map]
  omega

/-! ## Rows -/

theorem rows_eq_ok {lines : List Line} (h : ∀ l ∈ lines, l.code ≠ some []) :
    rows lines = .ok (listingRows lines) := by
  unfold rows
  rw [mapM_eq_ok_map (g := Line.listingRows)]
  · rfl
  · intro l hl
    unfold Line.listingRows
    cases hc : l.code with
    | none => rfl
    | some bs =>
      cases bs with
      | nil => exact absurd hc (h l hl)
      | cons b bs => rfl

theorem listingRows_cons (l : Line) (rest : List Line) :
    listingRows (l :: rest) = l.listingRows ++ listingRows rest :=
  List.flatMap_cons

/-- Each line has one row. -/
theorem filterMap_line_listingRows (lines : List Line) :
    (listingRows lines).filterMap Row.line = lines := by
  induction lines with
  | nil => rfl
  | cons l rest ih =>
    rw [listingRows_cons, List.filterMap_append, ih]
    unfold Line.listingRows
    split <;> simp [List.filterMap_map]

/-- Each byte has one row, in the order of the program. -/
theorem filterMap_byte_listingRows (lines : List Line) :
    (listingRows lines).filterMap Row.byte = programBytes lines := by
  induction lines with
  | nil => rfl
  | cons l rest ih =>
    rw [listingRows_cons, List.filterMap_append, ih, programBytes_cons]
    unfold Line.listingRows Line.bytes
    cases hc : l.code with
    | none => rfl
    | some bs =>
      cases bs with
      | nil => rfl
      | cons b bs => simp [List.filterMap_map]

/-- The label of a line stands in the row of its first byte. -/
theorem filterMap_label_listingRows {lines : List Line} (h : ∀ l ∈ lines, l.Settled) :
    (listingRows lines).filterMap (fun r => if r.byte.isSome then r.label else none) =
      lines.filterMap Line.assigned := by
  induction lines with
  | nil => rfl
  | cons l rest ih =>
    rw [listingRows_cons, List.filterMap_append, ih fun x hx => h x (List.mem_cons_of_mem _ hx),
      List.filterMap_cons]
    have hl := h l List.mem_cons_self
    unfold Line.listingRows
    cases hc : l.code with
    | none =>
      -- a line without code is named by no label
      have ha : l.assigned = none := by
        cases ha : l.assigned with
        | none => rfl
        | some L => simpa [hc] using hl.assigned_code (by simp [ha])
      simp [ha]
    | some bs =>
      cases bs with
      | nil => exact absurd hc hl.code_ne_nil
      | cons b bs => cases l.assigned <;> simp [List.filterMap_map]

theorem mem_of_mem_listingRows {lines : List Line} {r : Row} {l : Line}
    (hr : r ∈ listingRows lines) (hl : r.line = some l) : l ∈ lines := by
  rw [← filterMap_line_listingRows lines]
  exact List.mem_filterMap.mpr ⟨r, hr, hl⟩

theorem mem_programBytes_of_mem_listingRows {lines : List Line} {r : Row} {b : CodeByte}
    (hr : r ∈ listingRows lines) (hb : r.byte = some b) : b ∈ programBytes lines := by
  rw [← filterMap_byte_listingRows lines]
  exact List.mem_filterMap.mpr ⟨r, hr, hb⟩

theorem settled_of_mem_programBytes {lines : List Line} (h : ∀ l ∈ lines, l.Settled)
    {b : CodeByte} (hb : b ∈ programBytes lines) : b.Settled := by
  obtain ⟨l, hl, hbl⟩ := List.mem_flatMap.mp hb
  exact (h l hl).bytes b hbl

theorem settled_of_mem_listingRows {lines : List Line} (h : ∀ l ∈ lines, l.Settled) {r : Row}
    (hr : r ∈ listingRows lines) {b : CodeByte} (hb : r.byte = some b) : b.Settled :=
  settled_of_mem_programBytes h (mem_programBytes_of_mem_listingRows hr hb)

/-! ## Widths -/

/-- The widths of the entries of one row. -/
def Row.widths (r : Row) : Widths where
  number := (r.line.map fun l => (toString l.number).length).getD 0
  text := (r.line.map fun l => l.raw.length).getD 0
  index := (r.byte.map fun b => (toString b.index).length).getD 0
  value := (r.byte.map fun b => (toString b.bitsValue).length).getD 0
  label := ((if r.byte.isSome then r.label else none).map String.length).getD 0

/-- The wider of two widths in each column. -/
def Widths.join (w v : Widths) : Widths where
  number := max w.number v.number
  text := max w.text v.text
  index := max w.index v.index
  value := max w.value v.value
  label := max w.label v.label

/-- A row whose entries can be measured: its line number has at most 4300 digits, and its byte
is settled. -/
def Row.Measurable (r : Row) : Prop :=
  (∀ l, r.line = some l → (toString l.number.natAbs).length ≤ 4300) ∧
    ∀ b, r.byte = some b → b.Settled

theorem ofBits_eq_ok {b : CodeByte} (h : IsBits b.bits 8) :
    Word.ofBits b.bits = .ok (b.bitsValue : Int) :=
  ofBits_of_bits (by decide) h

theorem decimal_of_byte {n : Int} (h0 : 0 ≤ n) (h : n < 256) :
    Numeral.decimal n = .ok (toString n) :=
  decimal_eq_ok (Nat.le_trans (length_toString_natAbs_le h0 h) (by decide))

/-- Measuring a row takes each of its entries into its column's width. -/
theorem Widths.add_eq_ok {w : Widths} {r : Row} (hr : r.Measurable) :
    w.add r = .ok (w.join r.widths) := by
  obtain ⟨hline, hbyte⟩ := hr
  -- a settled byte's number and value are written in decimal, its bits read in binary
  have hfacts : ∀ b, r.byte = some b → Numeral.decimal b.index = .ok (toString b.index) ∧
      Word.ofBits b.bits = .ok (b.bitsValue : Int) ∧
      Numeral.decimal (b.bitsValue : Int) = .ok (toString (b.bitsValue : Int)) := by
    intro b hb
    have hs := hbyte b hb
    have hv := bitsValue_lt hs.bits
    exact ⟨decimal_of_byte hs.index_nonneg hs.index_lt, ofBits_eq_ok hs.bits,
      decimal_of_byte (Int.natCast_nonneg b.bitsValue) (by omega)⟩
  unfold Widths.add
  cases hl : r.line with
  | none =>
    cases hb : r.byte with
    | none => simp [Widths.join, Row.widths, hl, hb, pure, Except.pure, bind, Except.bind]
    | some b =>
      obtain ⟨hi, hbits, hv⟩ := hfacts b hb
      simp [Widths.join, Row.widths, hl, hb, pure, Except.pure, bind, Except.bind, hi, hbits, hv,
        Int.repr_eq_if]
  | some l =>
    have hn := decimal_eq_ok (hline l hl)
    cases hb : r.byte with
    | none => simp [Widths.join, Row.widths, hl, hb, pure, Except.pure, bind, Except.bind, hn]
    | some b =>
      obtain ⟨hi, hbits, hv⟩ := hfacts b hb
      simp [Widths.join, Row.widths, hl, hb, pure, Except.pure, bind, Except.bind, hn, hi, hbits,
        hv, Int.repr_eq_if]

theorem foldlM_add_eq_ok {rs : List Row} (hrs : ∀ r ∈ rs, r.Measurable) (w : Widths) :
    rs.foldlM Widths.add w = .ok (rs.foldl (fun w r => w.join r.widths) w) := by
  induction rs generalizing w with
  | nil => rfl
  | cons r rs ih =>
    rw [List.foldlM_cons, Widths.add_eq_ok (hrs r List.mem_cons_self), List.foldl_cons]
    exact ih (fun r' hr' => hrs r' (List.mem_cons_of_mem _ hr')) _

/-- Joining row after row keeps the widest entry of each column. -/
theorem foldl_join (rs : List Row) (w : Widths) :
    rs.foldl (fun w r => w.join r.widths) w =
      { number := (rs.map fun r => r.widths.number).foldl max w.number,
        text := (rs.map fun r => r.widths.text).foldl max w.text,
        index := (rs.map fun r => r.widths.index).foldl max w.index,
        value := (rs.map fun r => r.widths.value).foldl max w.value,
        label := (rs.map fun r => r.widths.label).foldl max w.label } := by
  induction rs generalizing w with
  | nil => rfl
  | cons r rs ih =>
    rw [List.foldl_cons, ih]
    rfl

theorem getD_max?_cons (x : Nat) (xs : List Nat) :
    (x :: xs).max?.getD 0 = max x (xs.max?.getD 0) := by
  rw [List.max?_cons]
  cases xs.max? <;> simp

/-- Entries of width 0 for the items that `f` skips leave the widest entry as it is. -/
theorem getD_max?_map_filterMap {β γ : Type} (f : β → Option γ) (g : γ → Nat)
    (xs : List β) :
    (xs.map fun x => ((f x).map g).getD 0).max?.getD 0 =
      ((xs.filterMap f).map g).max?.getD 0 := by
  induction xs with
  | nil => rfl
  | cons x xs ih =>
    rw [List.map_cons, getD_max?_cons, ih, List.filterMap_cons]
    cases f x with
    | none => rw [Option.map_none, Option.getD_none, Nat.zero_max]
    | some y => rw [Option.map_some, Option.getD_some, List.map_cons, getD_max?_cons]

/-- Measuring the rows of settled lines gives each column the width of its longest
entry. -/
theorem foldlM_listingRows {lines : List Line}
    (h : ∀ l ∈ lines, l.Settled ∧ (toString l.number.natAbs).length ≤ 4300) :
    (listingRows lines).foldlM Widths.add {} = .ok (listingWidths lines) := by
  have hmeas : ∀ r ∈ listingRows lines, r.Measurable := fun r hr =>
    ⟨fun l hl => (h l (mem_of_mem_listingRows hr hl)).2,
      fun b hb => settled_of_mem_listingRows (fun l hl => (h l hl).1) hr hb⟩
  rw [foldlM_add_eq_ok hmeas, foldl_join, listingWidths]
  simp only [List.foldl_max, Nat.zero_max, Row.widths]
  rw [getD_max?_map_filterMap Row.line, getD_max?_map_filterMap Row.line,
    getD_max?_map_filterMap Row.byte, getD_max?_map_filterMap Row.byte,
    getD_max?_map_filterMap (fun r : Row => if r.byte.isSome then r.label else none),
    filterMap_line_listingRows, filterMap_byte_listingRows,
    filterMap_label_listingRows fun l hl => (h l hl).1]

/-! ## Rendering -/

theorem isWord_of_isBits {s : String} {n : Nat} (h : IsBits s n) (hn : 0 < n) : IsWord s := by
  refine ⟨fun he => ?_, fun c hc => ?_⟩
  · have := h.1
    rw [he] at this
    exact absurd this (Nat.ne_of_lt hn)
  · rcases h.2 c hc with rfl | rfl <;> decide

/-- Text that ends in a word keeps its end. -/
theorem trimRight_append_word {s t : String} (ht : IsWord t) : trimRight (s ++ t) = s ++ t := by
  have hne : t.toList ≠ [] := fun he => ht.1 (String.toList_inj.mp (by rw [he]; rfl))
  exact trimRight_append_of_getLast? (List.getLast?_eq_some_getLast hne)
    (ht.2 _ (List.getLast_mem hne))

theorem trimRight_append_space (s : String) : trimRight (s ++ " ") = trimRight s :=
  trimRight_append_blanks (by simp [isBlank_space])

theorem trimRight_append_alignRight_empty (s : String) (w : Nat) :
    trimRight (s ++ alignRight "" w) = trimRight s :=
  trimRight_append_blanks (by simpa [toList_alignRight] using blank_replicate_space w)

theorem trimRight_append_alignLeft_empty (s : String) (w : Nat) :
    trimRight (s ++ alignLeft "" w) = trimRight s :=
  trimRight_append_blanks (by simpa [toList_alignLeft] using blank_replicate_space w)

theorem trimRight_append_bar (s : String) : trimRight (s ++ " | ") = s ++ " |" := by
  rw [show " | " = " |" ++ " " from rfl, ← String.append_assoc, trimRight_append_space]
  exact trimRight_append_of_getLast? (c := '|') rfl (by decide)

theorem bar_append (s : String) : " | " ++ s = " " ++ ("|" ++ (" " ++ s)) := by
  rw [← String.append_assoc, ← String.append_assoc]
  rfl

/-- A row with a settled byte or none is rendered as its cells separated by
single spaces: the blanks that the template leaves at its end are dropped, and no more. -/
theorem Row.render_eq_ok {W : Widths} {r : Row} (hb : ∀ b, r.byte = some b → b.Settled) :
    r.render W = .ok (r.text W) := by
  unfold Row.render Row.text Row.cells
  cases hbyte : r.byte with
  | none =>
    -- the cells after the bar are blank
    cases hl : r.line <;>
    simp only [bind, Except.bind, pure, Except.pure, String.append_empty, trimRight_append_space,
      trimRight_append_alignRight_empty, trimRight_append_alignLeft_empty, trimRight_append_bar,
      Option.map_none, Option.map_some, Option.getD_none, Option.getD_some] <;>
    simp only [List.append_nil, String.intercalate_cons_cons, String.intercalate_singleton,
      String.append_assoc] <;>
    rfl
  | some b =>
    have hs := hb b hbyte
    have hidx : Word.toBits b.index 8 = .ok (Word.binary b.index 8) :=
      Word.toBits_of_byte hs.index_nonneg (by have := hs.index_lt; omega)
    -- the row ends in the constant of a constant byte, and in the bits of any other
    by_cases hc : b.role = .constant
    · cases hl : r.line <;>
      simp only [bind, Except.bind, pure, Except.pure, hidx, ofBits_eq_ok hs.bits, hc,
        beq_self_eq_true, if_true, trimRight_append_word (hs.constant_word hc), toString_natCast,
        Option.map_none, Option.map_some, Option.getD_none, Option.getD_some] <;>
      simp only [List.cons_append, List.nil_append, String.intercalate_cons_cons,
        String.intercalate_singleton, String.append_assoc, bar_append]
    · cases hl : r.line <;>
      simp only [bind, Except.bind, pure, Except.pure, hidx, ofBits_eq_ok hs.bits, hc,
        beq_iff_eq, if_false, String.append_empty, trimRight_append_space,
        trimRight_append_word (isWord_of_isBits hs.bits (by decide)), toString_natCast,
        Option.map_none, Option.map_some, Option.getD_none, Option.getD_some] <;>
      simp only [List.cons_append, List.nil_append, List.append_nil, String.intercalate_cons_cons,
        String.intercalate_singleton, String.append_assoc, bar_append]

/-! ## The listing -/

/-- The rows of the listing of settled lines are those of `listingRows`, each its cells
separated by single spaces, with the columns as wide as their longest entries. -/
theorem summaryLines_eq_ok {lines : List Line}
    (h : ∀ l ∈ lines, l.Settled ∧ (toString l.number.natAbs).length ≤ 4300) :
    summaryLines lines = .ok ((listingRows lines).map (Row.text (listingWidths lines))) := by
  have hrender : ∀ r ∈ listingRows lines, r.render (listingWidths lines) =
      .ok (r.text (listingWidths lines)) := fun r hr =>
    Row.render_eq_ok fun _ hb => settled_of_mem_listingRows (fun l hl => (h l hl).1) hr hb
  rw [summaryLines, rows_eq_ok fun l hl => (h l hl).1.code_ne_nil]
  show (do
    let w ← (listingRows lines).foldlM Widths.add {}
    (listingRows lines).mapM (Row.render w)) = _
  rw [foldlM_listingRows h]
  exact mapM_eq_ok_map hrender

/-! ## Offsets -/

theorem toList_intercalate_cons {a : String} {l : List String} (hl : l ≠ []) :
    (" ".intercalate (a :: l)).toList = a.toList ++ ' ' :: (" ".intercalate l).toList := by
  rw [String.intercalate_cons_of_ne_nil hl, String.toList_append, String.toList_append,
    List.append_assoc]
  rfl

/-- The length of `cells`, each followed by a space. -/
def spacedLength (cells : List String) : Nat := cells.foldr (fun c n => c.length + 1 + n) 0

@[simp] theorem spacedLength_nil : spacedLength [] = 0 := rfl

@[simp] theorem spacedLength_cons (c : String) (cells : List String) :
    spacedLength (c :: cells) = c.length + 1 + spacedLength cells := rfl

/-- The `k`-th cell of a row starts after the first `k` cells, each with its space. -/
theorem drop_toList_intercalate (cells : List String) (k : Nat) (hk : k < cells.length) :
    (" ".intercalate cells).toList.drop (spacedLength (cells.take k)) =
      (" ".intercalate (cells.drop k)).toList := by
  induction k generalizing cells with
  | zero => simp
  | succ k ih =>
    obtain ⟨a, l, rfl⟩ := List.exists_cons_of_length_pos (Nat.lt_of_le_of_lt (Nat.zero_le _) hk)
    have hkl : k < l.length := by simpa using hk
    have hl : l ≠ [] := List.ne_nil_of_length_pos (Nat.lt_of_le_of_lt (Nat.zero_le _) hkl)
    have hsplit : a.toList ++ ' ' :: (" ".intercalate l).toList =
        (a.toList ++ [' ']) ++ (" ".intercalate l).toList := by simp
    rw [toList_intercalate_cons hl, List.take_succ_cons, spacedLength_cons,
      List.drop_succ_cons, hsplit,
      show a.length + 1 = (a.toList ++ [' ']).length by simp [String.length_toList],
      ← List.drop_drop, List.drop_left, ih l hkl]

/-- The fixed cells of a settled byte do not overflow: two hexadecimal digits for its number and
its value, and eight binary digits for its number and its bits. -/
theorem CodeByte.Settled.fixed_cells {b : CodeByte} (hs : b.Settled) :
    (Word.padded 16 Char.toUpper b.index 2).length = 2 ∧ (Word.binary b.index 8).length = 8 ∧
      (Word.padded 16 Char.toUpper b.bitsValue 2).length = 2 ∧ b.bits.length = 8 := by
  obtain ⟨k, hk⟩ := Int.eq_ofNat_of_zero_le hs.index_nonneg
  have hlt := hs.index_lt
  have hv := bitsValue_lt hs.bits
  refine ⟨length_hex hs.index_nonneg hs.index_lt, ?_, length_hex (by omega) (by omega),
    hs.bits.1⟩
  rw [hk]
  exact (binary_bits (by decide) (show k < 256 by omega)).1

/-- Every entry of a row is at most as long as its column is wide. -/
structure Row.FitsIn (W : Widths) (r : Row) : Prop where
  number : ∀ l, r.line = some l → (toString l.number).length ≤ W.number
  text : ∀ l, r.line = some l → l.raw.length ≤ W.text
  index : ∀ b, r.byte = some b → (toString b.index).length ≤ W.index
  value : ∀ b, r.byte = some b → (toString b.bitsValue).length ≤ W.value
  label : ∀ b, r.byte = some b → (r.label.getD "").length ≤ W.label

theorem Row.FitsIn.length_number {W : Widths} {r : Row} (hf : r.FitsIn W) :
    (alignRight ((r.line.map fun l => toString l.number).getD "") W.number).length =
      W.number := by
  apply length_alignRight
  cases hl : r.line with
  | none => simp
  | some l => simpa using hf.number l hl

theorem Row.FitsIn.length_text {W : Widths} {r : Row} (hf : r.FitsIn W) :
    (alignLeft ((r.line.map Line.raw).getD "") W.text).length = W.text := by
  apply length_alignLeft
  cases hl : r.line with
  | none => simp
  | some l => simpa using hf.text l hl

/-- In a row whose entries fit the widths, the bar stands after the number and the
text columns and a space after each. -/
theorem Row.FitsIn.bar {W : Widths} {r : Row} (hf : r.FitsIn W) :
    (r.text W).toList[W.number + W.text + 2]? = some '|' := by
  have hk : 2 < (r.cells W).length := by
    unfold Row.cells
    simp
  have hsum : spacedLength ((r.cells W).take 2) = W.number + W.text + 2 := by
    simp only [Row.cells, List.cons_append, List.take_succ_cons, List.take_zero,
      spacedLength_cons, spacedLength_nil, hf.length_number, hf.length_text]
    omega
  have hhead : (" ".intercalate ((r.cells W).drop 2)).toList[0]? = some '|' := by
    unfold Row.cells
    cases r.byte <;> simp
  rw [Row.text, ← hsum, ← Nat.add_zero (spacedLength _), ← List.getElem?_drop,
    drop_toList_intercalate _ 2 hk, hhead]

/-- In a row of a settled byte whose entries fit the widths, what stands
from the same place on is the constant of a constant byte, and nothing for any other byte. -/
theorem Row.FitsIn.drop_constant {W : Widths} {r : Row} (hf : r.FitsIn W) {b : CodeByte}
    (hb : r.byte = some b) (hs : b.Settled) :
    (r.text W).toList.drop (W.number + W.text + W.index + W.label + W.value + 33) =
      if b.role = .constant then b.constant.toList else [] := by
  obtain ⟨hih, hib, hvh, hbits⟩ := hs.fixed_cells
  have hi := length_alignRight (hf.index b hb)
  have hl := length_alignLeft (hf.label b hb)
  have hv := length_alignRight (hf.value b hb)
  have hk : 10 < (r.cells W).length := by
    simp [Row.cells, hb]
  -- the cells before the bits have the widths of their columns or fixed lengths
  have hsum : spacedLength ((r.cells W).take 10) =
      W.number + W.text + W.index + W.label + W.value + 24 := by
    have hbar : "|".length = 1 := rfl
    have hdash : "-".length = 1 := rfl
    simp only [Row.cells, hb, List.cons_append, List.nil_append, List.take_succ_cons,
      List.take_zero, spacedLength_cons, spacedLength_nil, hf.length_number, hf.length_text,
      hi, hl, hv, hih, hib, hvh, hbar, hdash]
    omega
  have hrest :
      (r.cells W).drop 10 = b.bits :: if b.role = .constant then [b.constant] else [] := by
    simp [Row.cells, hb]
  rw [Row.text, show W.number + W.text + W.index + W.label + W.value + 33 =
    W.number + W.text + W.index + W.label + W.value + 24 + 9 by omega, ← hsum, ← List.drop_drop,
    drop_toList_intercalate _ 10 hk, hrest]
  by_cases hc : b.role = .constant
  · -- the bits, a space, then the constant
    simp only [hc, if_true, String.intercalate_cons_cons, String.intercalate_singleton,
      String.toList_append]
    exact List.drop_left' (by simp [String.length_toList, hbits])
  · -- the row ends with the bits
    simp only [hc, if_false, String.intercalate_singleton]
    exact List.drop_eq_nil_of_le (by rw [String.length_toList, hbits]; decide)

/-- The cells of a settled byte read back: its number from its hexadecimal and binary cells, and
its value from its bits and from its hexadecimal cell. -/
theorem CodeByte.Settled.read_back {b : CodeByte} (hs : b.Settled) :
    Numeral.parse (.base 16) (Word.padded 16 Char.toUpper b.index 2) = .ok b.index ∧
      Word.ofBits (Word.binary b.index 8) = .ok b.index ∧
      Word.ofBits b.bits = .ok (b.bitsValue : Int) ∧
      Numeral.parse (.base 16) (Word.padded 16 Char.toUpper b.bitsValue 2) =
        .ok (b.bitsValue : Int) := by
  obtain ⟨k, hk⟩ := Int.eq_ofNat_of_zero_le hs.index_nonneg
  have hlt := hs.index_lt
  have hbin := Word.bits_binary (m := b.index) (w := 8) (by decide) hs.index_nonneg
    (by rw [intPow_two]; exact hlt)
  refine ⟨?_, hbin.2, ofBits_eq_ok hs.bits, Word.parse_hex b.bitsValue⟩
  rw [hk]
  exact Word.parse_hex k

/-- Each column of the listing of settled lines is as wide as its longest entry, so every entry
fits. -/
theorem fitsIn_listingWidths {lines : List Line} (h : ∀ l ∈ lines, l.Settled) :
    ∀ r ∈ listingRows lines, r.FitsIn (listingWidths lines) := by
  intro r hr
  refine ⟨fun l hl => ?_, fun l hl => ?_, fun b hb => ?_, fun b hb => ?_, fun b hb => ?_⟩
  · exact List.le_max?_getD_of_mem (List.mem_map_of_mem (mem_of_mem_listingRows hr hl))
  · exact List.le_max?_getD_of_mem (List.mem_map_of_mem (mem_of_mem_listingRows hr hl))
  · exact List.le_max?_getD_of_mem
      (List.mem_map_of_mem (mem_programBytes_of_mem_listingRows hr hb))
  · exact List.le_max?_getD_of_mem
      (List.mem_map_of_mem (mem_programBytes_of_mem_listingRows hr hb))
  · -- the label of a row with a byte is one that names a line
    cases hlab : r.label with
    | none => exact Nat.zero_le _
    | some L =>
      have hmem : L ∈ lines.filterMap Line.assigned := by
        rw [← filterMap_label_listingRows h]
        exact List.mem_filterMap.mpr ⟨r, hr, by simp [hb, hlab]⟩
      exact List.le_max?_getD_of_mem (List.mem_map_of_mem hmem)

/-! ## The listing of an assembled program -/

/-- What the listing of `lines` shows as `texts`: one row for each line without code and one for
each byte, line after line, each its cells separated by single spaces with the columns as wide as
their longest entries; the bytes in the order of their numbers; cells of fixed width that hold
what they show; the bar at one place in every row, and the constants at one place in every row
of a byte. -/
structure ListingLayout (lines : List Line) (texts : List String) : Prop where
  rows : texts = (listingRows lines).map (Row.text (listingWidths lines))
  lines_once : (listingRows lines).filterMap Row.line = lines
  bytes_in_order : ((listingRows lines).filterMap Row.byte).map CodeByte.index =
    (List.range ((listingRows lines).filterMap Row.byte).length).map (fun k : Nat => (k : Int))
  fixed_cells : ∀ b ∈ programBytes lines,
    (Word.padded 16 Char.toUpper b.index 2).length = 2 ∧ (Word.binary b.index 8).length = 8 ∧
      (Word.padded 16 Char.toUpper b.bitsValue 2).length = 2 ∧ b.bits.length = 8
  read_back : ∀ b ∈ programBytes lines,
    Numeral.parse (.base 16) (Word.padded 16 Char.toUpper b.index 2) = .ok b.index ∧
      Word.ofBits (Word.binary b.index 8) = .ok b.index ∧
      Word.ofBits b.bits = .ok (b.bitsValue : Int) ∧
      Numeral.parse (.base 16) (Word.padded 16 Char.toUpper b.bitsValue 2) =
        .ok (b.bitsValue : Int)
  bar : ∀ t ∈ texts,
    t.toList[(listingWidths lines).number + (listingWidths lines).text + 2]? = some '|'
  constant_column : ∀ r ∈ listingRows lines, ∀ b, r.byte = some b →
    (r.text (listingWidths lines)).toList.drop ((listingWidths lines).number +
      (listingWidths lines).text + (listingWidths lines).index + (listingWidths lines).label +
      (listingWidths lines).value + 33) = if b.role = .constant then b.constant.toList else []

/-- The listing of an assembled program, for a program of fewer than `10^4300` lines, the
most whose numbers can be written: it is laid out as `ListingLayout` says. -/
theorem summaryLines_layout {raws : List String} {offset : Int} {lines : List Line}
    (h : assembleLines raws offset = .ok lines) (hn : (toString raws.length).length ≤ 4300) :
    ∃ texts, summaryLines lines = .ok texts ∧ ListingLayout lines texts := by
  obtain ⟨hlines, hidx⟩ := assembleLines_settled h
  have hset : ∀ l ∈ lines, l.Settled := fun l hl => (hlines l hl).1
  have hbytes : ∀ b ∈ programBytes lines, b.Settled := fun _ hb =>
    settled_of_mem_programBytes hset hb
  -- a line's number is at most the number of lines, so it has no more digits
  have hdigits : ∀ l ∈ lines, l.Settled ∧ (toString l.number.natAbs).length ≤ 4300 := by
    intro l hl
    obtain ⟨hs, h1, h2⟩ := hlines l hl
    have hle : l.number.natAbs ≤ raws.length := by omega
    exact ⟨hs, Nat.le_trans (length_toString_le hle) hn⟩
  have hfits := fitsIn_listingWidths hset
  refine ⟨_, summaryLines_eq_ok hdigits, rfl, filterMap_line_listingRows lines, ?_,
    fun b hb => (hbytes b hb).fixed_cells, fun b hb => (hbytes b hb).read_back, ?_, ?_⟩
  · rw [filterMap_byte_listingRows]
    exact hidx
  · intro t ht
    obtain ⟨r, hr, rfl⟩ := List.mem_map.mp ht
    exact (hfits r hr).bar
  · intro r hr b hb
    exact (hfits r hr).drop_constant hb (settled_of_mem_listingRows hset hr hb)

/-- A loop with a number and a label: its listing is laid out as `ListingLayout` says. -/
theorem summaryLines_layout_loop :
    (toString ["@start", "SET A #3", "@loop", "ADD A", "JUMP @loop"].length).length ≤ 4300 ∧
      ∃ lines,
        assembleLines ["@start", "SET A #3", "@loop", "ADD A", "JUMP @loop"] 0 = .ok lines ∧
        ∃ texts, summaryLines lines = .ok texts ∧ ListingLayout lines texts := by
  obtain ⟨lines, h⟩ : ∃ lines,
      assembleLines ["@start", "SET A #3", "@loop", "ADD A", "JUMP @loop"] 0 = .ok lines :=
    ⟨_, rfl⟩
  exact ⟨by decide, lines, h, summaryLines_layout h (by decide)⟩

end ByteMachine.Assembly
