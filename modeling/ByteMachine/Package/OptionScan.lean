/- Option words in the two-dash and one-dash style of classic command lines.

   Words are scanned from the front while they start with `-` and are not
   `-` alone; `--` ends the options and is dropped, and the first other
   word ends them too, so the words from there on are left for commands.

   A word `--name` or `--name=value` names a long option: the name given
   must be a long option's name or the prefix of exactly one, and an exact
   name wins over longer ones it is a prefix of. An option that takes a
   value takes the text after `=`, or else the next word; one that takes
   none refuses `=`. A word `-abc` holds short options, letters of the
   short specification, one after another; a letter followed by `:` in the
   specification takes a value, which is the rest of the word or else the
   next word.

   The scan reports each option found with its dashes and its value, the
   empty text for an option without one. -/
namespace ByteMachine.Package

/-- An option of a command line: its long name, its short letter if it has
one, whether it takes a value, and the line of help that describes it. -/
structure OptionSpec where
  long : String
  short : Option Char := none
  takesValue : Bool := false
  help : String
  deriving Repr, DecidableEq

/-- Why a scan of option words failed. -/
inductive ScanFault where
  /-- No long option starts with the name given. -/
  | unknownLong (given : String)
  /-- The name given starts several long options and is none of them. -/
  | notUnique (given : String)
  /-- A long option that takes a value has none. -/
  | needsValue (name : String)
  /-- A long option that takes no value has one after `=`. -/
  | noValueAllowed (name : String)
  /-- A short letter that the specification does not hold. -/
  | unknownShort (c : Char)
  /-- A short option that takes a value has none. -/
  | shortNeedsValue (c : Char)
  deriving Repr, DecidableEq

/-- The text that reports a failed scan. -/
def ScanFault.message : ScanFault → String
  | .unknownLong n => "option --" ++ n ++ " not recognized"
  | .notUnique n => "option --" ++ n ++ " not a unique prefix"
  | .needsValue n => "option --" ++ n ++ " requires argument"
  | .noValueAllowed n => "option --" ++ n ++ " must not have an argument"
  | .unknownShort c => "option -" ++ c.toString ++ " not recognized"
  | .shortNeedsValue c => "option -" ++ c.toString ++ " requires argument"

/-- An option found by a scan: as written with its dashes, and its value. -/
structure Found where
  flag : String
  value : String
  deriving Repr, DecidableEq

/-- The long option that `given` names: the one of that name, or else the only
one that it is a prefix of. -/
def resolveLong (longs : List OptionSpec) (given : String) : Except ScanFault OptionSpec :=
  match longs.filter (fun o => given.isPrefixOf o.long) with
  | [] => .error (.unknownLong given)
  | [o] => .ok o
  | candidates =>
    match candidates.find? (·.long = given) with
    | some o => .ok o
    | none => .error (.notUnique given)

/-- Read the long option word `--body`, followed by the words `rest`. -/
def scanLong (longs : List OptionSpec) (body : List Char) (rest : List String) :
    Except ScanFault (Found × List String) := do
  let given := String.ofList (body.takeWhile (· ≠ '='))
  let attached := match body.dropWhile (· ≠ '=') with
    | _ :: v => some (String.ofList v)
    | [] => none
  let o ← resolveLong longs given
  let flag := "--" ++ o.long
  if o.takesValue then
    match attached, rest with
    | some v, _ => pure (⟨flag, v⟩, rest)
    | none, v :: rest' => pure (⟨flag, v⟩, rest')
    | none, [] => throw (.needsValue o.long)
  else
    match attached with
    | some _ => throw (.noValueAllowed o.long)
    | none => pure (⟨flag, ""⟩, rest)

/-- Whether the short letter `c` takes a value, by the first place it has in
the specification `spec`; `none` if it has none. A colon is never a letter. -/
def shortTakesValue (c : Char) : List Char → Option Bool
  | [] => none
  | d :: more => if c = d ∧ c ≠ ':' then some (more.head? = some ':') else shortTakesValue c more

/-- Read the short letters of one word, followed by the words `rest`. -/
def scanShorts (spec : List Char) : List Char → List String → Except ScanFault (List Found × List String)
  | [], rest => .ok ([], rest)
  | c :: more, rest =>
    let flag := String.ofList ['-', c]
    match shortTakesValue c spec with
    | none => .error (.unknownShort c)
    | some false => do
      let (found, rest') ← scanShorts spec more rest
      pure (⟨flag, ""⟩ :: found, rest')
    | some true =>
      match more, rest with
      | [], [] => .error (.shortNeedsValue c)
      | [], v :: rest' => .ok ([⟨flag, v⟩], rest')
      | _ :: _, _ => .ok ([⟨flag, String.ofList more⟩], rest)

/-- Scan option words; `fuel` bounds the number of words read, each of which
uses up at least one word. -/
def scanWords (longs : List OptionSpec) (spec : List Char) :
    Nat → List String → Except ScanFault (List Found × List String)
  | 0, words => .ok ([], words)
  | _ + 1, [] => .ok ([], [])
  | fuel + 1, w :: rest =>
    match w.toList with
    | ['-', '-'] => .ok ([], rest)
    | '-' :: '-' :: body => do
      let (f, rest') ← scanLong longs body rest
      let (more, left) ← scanWords longs spec fuel rest'
      pure (f :: more, left)
    | '-' :: c :: body => do
      let (fs, rest') ← scanShorts spec (c :: body) rest
      let (more, left) ← scanWords longs spec fuel rest'
      pure (fs ++ more, left)
    | _ => .ok ([], w :: rest)

/-- The options at the front of `words`, and the words after them. -/
def scanOptions (longs : List OptionSpec) (spec : List Char) (words : List String) :
    Except ScanFault (List Found × List String) :=
  scanWords longs spec words.length words

end ByteMachine.Package
