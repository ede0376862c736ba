import ByteMachine.Package.OptionScan
/- The help text of a table of options.

   Each option gets one line that starts with two spaces, two dashes and
   its long name, followed by ` (-x)` if it has the short letter `x`, padded
   to the widest such name in the table, then two spaces and its help. Help
   that does not fit in a line of 78 characters is wrapped: it is cut into
   runs of spaces, runs of hyphens and the words between them, lines are
   filled greedily with whole pieces, a run of spaces that ends a full line
   is dropped, and a piece longer than a line is cut at the line's width.
   Continuation lines are indented to where the help starts. -/
namespace ByteMachine.Package

/-- Whether `c` is an ASCII white-space character. -/
def isAsciiSpace (c : Char) : Bool :=
  c = ' ' ∨ c = '\t' ∨ c = '\n' ∨ c = '\r' ∨ c = '\x0b' ∨ c = '\x0c'

/-- Text with each tab widened with spaces to the next multiple of eight
columns; `col` is the column of the first character. -/
def expandTabs : Nat → List Char → List Char
  | _, [] => []
  | col, '\t' :: rest =>
    let n := 8 - col % 8
    List.replicate n ' ' ++ expandTabs (col + n) rest
  | _, '\n' :: rest => '\n' :: expandTabs 0 rest
  | _, '\r' :: rest => '\r' :: expandTabs 0 rest
  | col, c :: rest => c :: expandTabs (col + 1) rest

/-- The kind of a character when help is cut into pieces: a space, a hyphen, or neither. -/
def pieceKind (c : Char) : Nat :=
  if c = ' ' then 0 else if c = '-' then 1 else 2

/-- Text cut into maximal runs of characters of one kind. -/
def pieces (cs : List Char) : List (List Char) :=
  cs.foldr (fun c acc => match acc with
    | (d :: ds) :: more => if pieceKind c = pieceKind d then (c :: d :: ds) :: more else [c] :: acc
    | _ => [c] :: acc) []

/-- Whether a piece is a run of spaces. -/
def isSpaces : List Char → Bool
  | ' ' :: _ => true
  | _ => false

/-- Fill one line of at most `width` characters from the front of the pieces:
the pieces taken, how many characters they hold, and the pieces left. A run of
spaces that ends a full line is dropped from it. -/
def fillLine (width : Nat) :
    Nat → List (List Char) → List (List Char) → List (List Char) × Nat × List (List Char)
  | used, taken, [] => (taken, used, [])
  | used, taken, p :: rest =>
    if used + p.length ≤ width then fillLine width (used + p.length) (taken ++ [p]) rest
    else
      let taken := match taken.getLast? with
        | some last => if isSpaces last then taken.dropLast else taken
        | none => taken
      (taken, used, p :: rest)

/-- Lines of at most `width` characters from the pieces; `fuel` bounds the
number of lines, each of which uses up at least one character. -/
def wrapPieces (width : Nat) : Nat → List (List Char) → List String
  | 0, _ => []
  | _ + 1, [] => []
  | fuel + 1, ps =>
    let (taken, used, rest) := fillLine width 0 [] ps
    let (taken, rest) := match rest with
      | p :: more => if used = 0 then (taken ++ [p.take width], p.drop width :: more) else (taken, rest)
      | [] => (taken, rest)
    let rest := match rest with
      | p :: more => if isSpaces p then more else rest
      | [] => rest
    String.ofList taken.flatten :: wrapPieces width fuel rest

/-- Help text as lines of at most `width` characters; text that fits stays one line. -/
def wrap (text : String) (width : Nat) : List String :=
  if text.length ≤ width then [text]
  else
    let cs := (expandTabs 0 text.toList).map fun c => if isAsciiSpace c then ' ' else c
    wrapPieces width (cs.length + 1) (pieces cs)

/-- The text `s` padded with spaces on the right to `n` characters. -/
def padRight (s : String) (n : Nat) : String :=
  s ++ String.ofList (List.replicate (n - s.length) ' ')

/-- The name of an option as its help line shows it. -/
def OptionSpec.shownName (o : OptionSpec) : String :=
  match o.short with
  | some c => o.long ++ " (-" ++ c.toString ++ ")"
  | none => o.long

/-- The lines of help for a table of options, under a header. -/
def helpLines (header : String) (opts : List OptionSpec) : List String :=
  let nameWidth := opts.foldl (fun m o => max m o.shownName.length) 0
  let helpStart := nameWidth + 6
  let indent := String.ofList (List.replicate helpStart ' ')
  header :: opts.flatMap fun o =>
    let lead := "  --" ++ padRight o.shownName nameWidth ++ "  "
    match wrap o.help (78 - helpStart) with
    | first :: more => (lead ++ first) :: more.map (indent ++ ·)
    | [] => [lead]

/-- Cutting into pieces loses no character. -/
theorem flatten_pieces (cs : List Char) : (pieces cs).flatten = cs := by
  induction cs with
  | nil => rfl
  | cons c rest ih =>
    unfold pieces at ih ⊢
    rw [List.foldr_cons]
    split
    · rename_i d ds more h
      rw [h] at ih
      split <;> simp_all
    · simp_all

end ByteMachine.Package
