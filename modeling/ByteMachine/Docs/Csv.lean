/- Records of comma-separated values.

   Text is first brought to one line ending: a carriage return, alone or
   before a line feed, becomes a line feed. It is then cut into lines, each
   ending after its line feed, and read one character at a time, with an
   end-of-line event after each line. A comma ends a field; a double quote
   at the start of a field opens a quoted part, in which two quotes stand
   for one and commas and line feeds are text; a quote that closes a quoted
   part and is followed by something other than a comma or the line's end
   lets the field go on unquoted; a quote inside an unquoted field is text.
   A record ends at an end-of-line event outside quotes, so an empty line
   is a record with no fields. When the text ends inside quotes, the open
   field and its record are kept.

   `Reader.step` is one transition of the machine, and `records` runs it
   over a whole text. -/
namespace ByteMachine.Docs.Csv

/-- One character of a line, or the end of the line. -/
inductive Event where
  | char (c : Char)
  | lineEnd
  deriving Repr, DecidableEq

/-- Where the reader stands within a record. -/
inductive Phase where
  /-- Before the first character of a record. -/
  | startRecord
  /-- Before the first character of a field. -/
  | startField
  /-- Inside a field that is not quoted. -/
  | inField
  /-- Inside the quoted part of a field. -/
  | inQuoted
  /-- Just after a quote inside the quoted part of a field. -/
  | quoteInQuoted
  /-- After the line feed that ended a record, waiting for the end of the line. -/
  | afterNewline
  deriving Repr, DecidableEq

/-- The state of the reader: its phase, the fields of the record so far, the
characters of the open field, and the records it has finished. -/
structure Reader where
  phase : Phase := .startRecord
  fields : List String := []
  field : List Char := []
  records : List (List String) := []
  deriving Repr, DecidableEq

/-- Close the open field and add it to the record. -/
def Reader.saveField (r : Reader) : Reader :=
  { r with fields := r.fields ++ [String.ofList r.field], field := [] }

/-- Add `c` to the open field. -/
def Reader.add (r : Reader) (c : Char) : Reader :=
  { r with field := r.field ++ [c] }

/-- Whether an event ends a line or a record: a line feed, a carriage return or the end of a line. -/
def Event.endsLine : Event → Bool
  | .char '\n' | .char '\r' | .lineEnd => true
  | _ => false

/-- The phase after the field that an event `e` closed at the end of a line. -/
def Event.afterField (e : Event) : Phase :=
  if e = .lineEnd then .startRecord else .afterNewline

/-- The reader's move on a character or an end of line, before a finished
record is taken out of it. -/
def Reader.step (r : Reader) (e : Event) : Reader :=
  match r.phase, e with
  | .startRecord, .lineEnd => r
  | .startRecord, .char '\n' | .startRecord, .char '\r' => { r with phase := .afterNewline }
  | .startRecord, _ | .startField, _ =>
    if e.endsLine then { r.saveField with phase := e.afterField }
    else match e with
      | .char '"' => { r with phase := .inQuoted }
      | .char ',' => { r.saveField with phase := .startField }
      | .char c => { r.add c with phase := .inField }
      | .lineEnd => r
  | .inField, _ =>
    if e.endsLine then { r.saveField with phase := e.afterField }
    else match e with
      | .char ',' => { r.saveField with phase := .startField }
      | .char c => r.add c
      | .lineEnd => r
  | .inQuoted, .lineEnd => r
  | .inQuoted, .char '"' => { r with phase := .quoteInQuoted }
  | .inQuoted, .char c => r.add c
  | .quoteInQuoted, _ =>
    match e with
    | .char '"' => { r.add '"' with phase := .inQuoted }
    | .char ',' => { r.saveField with phase := .startField }
    | .char c =>
      if e.endsLine then { r.saveField with phase := .afterNewline }
      else { r.add c with phase := .inField }
    | .lineEnd => { r.saveField with phase := .startRecord }
  | .afterNewline, .lineEnd => { r with phase := .startRecord }
  | .afterNewline, .char _ => r

/-- After an end of line that leaves the reader before a record, the record
read so far is finished. -/
def Reader.feed (r : Reader) (e : Event) : Reader :=
  let s := r.step e
  if e = .lineEnd ∧ s.phase = .startRecord then
    { s with records := s.records ++ [s.fields], fields := [] }
  else s

/-- The records of a reader whose text has ended; a field still open inside
quotes, or holding characters, is closed with its record. -/
def Reader.finish (r : Reader) : List (List String) :=
  if r.phase ≠ .startRecord ∧ (r.phase = .inQuoted ∨ r.field ≠ []) then
    r.records ++ [r.saveField.fields]
  else r.records

/-- Text with each carriage return, alone or before a line feed, turned into a line feed. -/
def unifyNewlines : List Char → List Char
  | [] => []
  | '\r' :: '\n' :: rest => '\n' :: unifyNewlines rest
  | '\r' :: rest => '\n' :: unifyNewlines rest
  | c :: rest => c :: unifyNewlines rest

/-- The events of a text: its characters, with an end of line after each
line feed and after a last line that has none. -/
def events : List Char → List Event
  | [] => []
  | [c] => [.char c, .lineEnd]
  | c :: rest@(_ :: _) =>
    if c = '\n' then .char c :: .lineEnd :: events rest else .char c :: events rest

/-- The records of a text of comma-separated values. -/
def records (text : String) : List (List String) :=
  ((events (unifyNewlines text.toList)).foldl Reader.feed {}).finish

/-- No carriage return is left once line endings are unified. -/
theorem cr_not_mem_unifyNewlines (cs : List Char) : '\r' ∉ unifyNewlines cs := by
  fun_induction unifyNewlines cs <;> grind

end ByteMachine.Docs.Csv
