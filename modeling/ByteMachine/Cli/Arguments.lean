import ByteMachine.Text.Decimal
/- Command-line parsing. A parser knows options that take one value each,
   the help flag `-h`/`--help`, and positional arguments that take one value
   each. The outcome is the setting of every destination, or an exit code:
   0 after a request for help, 2 for a command line that is refused.

   Words are read in two passes. The first pass marks each word as a value,
   as the `--` after which every word is a value, or as an option. A word
   names an option when it is one of the option's flags, a flag followed by
   `=` and a value, a unique prefix of a long flag (`--rom` for
   `--rom_prefix`), or a short flag with its value attached (`-s2`). A word
   that starts with `-` and names no option is refused, unless it looks
   like a negative number or holds a space, in which case it is a value; a
   prefix of more than one long flag refuses the line at once.

   The second pass consumes the words in order: positional arguments take
   the values before the next option, an option takes its attached value or
   the next word, which must be a value, and the short help flag may carry
   further short flags after it (`-hs 2`, `-h=s 2`). Values are converted and checked against
   the allowed choices as they are taken; a later setting of an option
   replaces an earlier one; help ends parsing as soon as it is taken. A
   positional argument that is never given, or a word that nothing
   consumes, refuses the line. -/
namespace ByteMachine.Cli

/-- A setting read from a command line. -/
inductive Value where
  | none
  | text (s : String)
  | number (n : Int)
  deriving Repr, DecidableEq

/-- An option that takes one value. -/
structure Opt where
  flags : List String
  dest : String
  /-- The setting for a value, or `none` if the value is refused. -/
  convert : String → Option Value := fun s => some (.text s)
  choices : Option (List String) := none
  default : Value := .none

/-- A positional argument. -/
structure Positional where
  dest : String
  convert : String → Option Value := fun s => some (.text s)

/-- A command-line parser. -/
structure Parser where
  options : List Opt
  positionals : List Positional

/-- What a flag stands for. -/
inductive Action where
  | help
  | opt (o : Opt)

/-- How a word was read in the first pass. -/
inductive Mark where
  /-- A value. -/
  | arg
  /-- The `--` that ends the options. -/
  | dashes
  /-- An option flag: its action if known, the flag, and the attached value. -/
  | option (act : Option Action) (flag : String) (attached : Option String)

/-- The outcome of parsing a command line. -/
inductive Outcome where
  | parsed (settings : List (String × Value))
  | exit (code : Nat)
  deriving Repr, DecidableEq

/-- Every flag with what it stands for, in the order they were declared. -/
def Parser.flags (p : Parser) : List (String × Action) :=
  [("-h", .help), ("--help", .help)] ++ p.options.flatMap fun o => o.flags.map fun f => (f, .opt o)

/-- The text before the first `=`, and the text after it if there is one. -/
def splitAtEquals (s : String) : String × Option String :=
  let cs := s.toList
  match cs.findIdx? (· = '=') with
  | some i => (String.ofList (cs.take i), some (String.ofList (cs.drop (i + 1))))
  | none => (s, none)

/-- Whether `cs` is a run of decimal digits of any script, optionally ended by a line feed. -/
def digitsTail : List Char → Bool
  | [] => true
  | ['\n'] => true
  | c :: r => (Text.digitValue? c).isSome && digitsTail r

/-- Whether a word looks like a negative number: `-` then digits, or `-`,
digits, a point and at least one digit. -/
def looksNegative (s : String) : Bool :=
  match s.toList with
  | '-' :: rest =>
    let ds := rest.takeWhile fun c => (Text.digitValue? c).isSome
    let after := rest.drop ds.length
    (!ds.isEmpty && digitsTail after) ||
      (match after with
       | '.' :: more => match more with
         | c :: _ => (Text.digitValue? c).isSome && digitsTail more
         | [] => false
       | _ => false)
  | _ => false

/-- The readings of a word that starts with `-` as an abbreviated or attached flag. -/
def Parser.readings (p : Parser) (s : String) : List Mark :=
  match s.toList with
  | '-' :: '-' :: _ =>
    let (pre, attached) := splitAtEquals s
    (p.flags.filter fun f => pre.isPrefixOf f.1).map fun f => .option (some f.2) f.1 attached
  | '-' :: c :: rest =>
    let short := String.ofList ['-', c]
    p.flags.filterMap fun f =>
      if f.1 = short then some (.option (some f.2) f.1 (some (String.ofList rest)))
      else if s.isPrefixOf f.1 then some (.option (some f.2) f.1 none)
      else none
  | _ => []

/-- How one word outside the values after `--` is read; `none` refuses the line. -/
def Parser.mark (p : Parser) (s : String) : Option Mark :=
  match s.toList with
  | [] => some .arg
  | '-' :: rest =>
    match p.flags.lookup s with
    | some a => some (.option (some a) s none)
    | none =>
      if rest.isEmpty then some .arg
      else
        let (pre, attached) := splitAtEquals s
        match attached, p.flags.lookup pre with
        | some v, some a => some (.option (some a) pre (some v))
        | _, _ =>
          match p.readings s with
          | [m] => some m
          | _ :: _ :: _ => none
          | [] =>
            if looksNegative s || s.toList.contains ' ' then some .arg
            else some (.option none s none)
  | _ => some .arg

/-- The marks of all words; every word after `--` is a value. -/
def Parser.markAll (p : Parser) : List String → Option (List (String × Mark))
  | [] => some []
  | w :: rest =>
    if w = "--" then some ((w, .dashes) :: rest.map fun r => (r, .arg))
    else do
      let m ← p.mark w
      let ms ← p.markAll rest
      pure ((w, m) :: ms)

/-- Whether a mark is an option. -/
def Mark.isOption : Mark → Bool
  | .option .. => true
  | _ => false

/-- The state of the second pass: the settings so far and whether some word was left over. -/
structure State where
  settings : List (String × Value)
  leftover : Bool := false

/-- Set `dest` to `v`. -/
def State.set (st : State) (dest : String) (v : Value) : State :=
  { st with settings := (dest, v) :: st.settings.filter fun p => p.1 ≠ dest }

/-- The setting for a value taken by an option, or `none` if it is refused. -/
def Opt.take (o : Opt) (s : String) : Option Value := do
  let v ← o.convert s
  match o.choices with
  | some cs => if cs.contains s then some v else none
  | none => some v

/-- The words taken by the next positional argument: dashes, a value, dashes. -/
def positionalWords : List (String × Mark) → Option (List String × List (String × Mark))
  | items =>
    let lead := items.takeWhile fun i => match i.2 with | .dashes => true | _ => false
    match items.drop lead.length with
    | (w, .arg) :: rest =>
      let trail := rest.takeWhile fun i => match i.2 with | .dashes => true | _ => false
      some (lead.map (·.1) ++ [w] ++ trail.map (·.1), rest.drop trail.length)
    | _ => none

/-- The words without the first `--`. -/
def dropFirstDashes : List String → List String
  | [] => []
  | w :: rest => if w = "--" then rest else w :: dropFirstDashes rest

/-- Consume as many positional arguments as the words allow; `none` refuses the line. -/
def consumePositionals (st : State) :
    List Positional → List (String × Mark) → Option (State × List Positional × List (String × Mark))
  | [], items => some (st, [], items)
  | pos :: more, items =>
    match positionalWords items with
    | none => some (st, pos :: more, items)
    | some (ws, rest) =>
      match dropFirstDashes ws with
      | [w] => do
        let v ← pos.convert w
        consumePositionals (st.set pos.dest v) more rest
      | _ => none

/-- Take the actions gathered from one option word, in order: a setting for
each option, or the exit code at which parsing stops. -/
def takeAll (st : State) : List (Action × Option String) → Except Nat State
  | [] => .ok st
  | (.help, _) :: _ => .error 0
  | (.opt o, v) :: more =>
    match v.bind o.take with
    | some value => takeAll (st.set o.dest value) more
    | none => .error 2

/-- What one option word amounts to: its actions with their values, and the
words after those it used. -/
abbrev Gathered := List (Action × Option String) × List (String × Mark)

/-- Gather the actions of the option word with action `a`, flag `flag` and
attached value `attached`, followed by the words `rest`. After the short help
flag, the first attached character names a further short flag, which takes
the rest of the word as its own attached text, so `-hs2`, `-h=s 2` and `-hh`
all ask for help; a character that names no flag refuses the line. `fuel`
bounds the number of such flags. `none` refuses the line. -/
def Parser.gather (p : Parser) (rest : List (String × Mark)) :
    Nat → List (Action × Option String) → Action → String → Option String → Option Gathered
  | _, acc, .opt o, _, some v => some (acc ++ [(.opt o, some v)], rest)
  | _, acc, .opt o, _, none =>
    match rest with
    | (v, .arg) :: rest' => some (acc ++ [(.opt o, some v)], rest')
    | _ => none
  | _, acc, .help, _, none => some (acc ++ [(.help, none)], rest)
  | 0, _, .help, _, some _ => none
  | fuel + 1, acc, .help, flag, some attached =>
    match flag.toList, attached.toList with
    | ['-', c], x :: more =>
      if c = '-' then none
      else
        let next := String.ofList ['-', x]
        match p.flags.lookup next with
        | some b =>
          let attached := if more.isEmpty then none else some (String.ofList more)
          p.gather rest fuel (acc ++ [(.help, none)]) b next attached
        | none => none
    | _, _ => none

/-- Whether no value was left over and every positional argument was given. -/
def finish (st : State) (pos : List Positional) : Outcome :=
  if !pos.isEmpty || st.leftover then .exit 2 else .parsed st.settings

/-- The second pass over the marked words; `fuel` bounds the number of rounds,
each of which consumes at least one word. -/
def Parser.consume (p : Parser) : Nat → State → List Positional → List (String × Mark) → Outcome
  | 0, _, _, _ => .exit 2
  | fuel + 1, st, pos, items =>
    if !(items.any (·.2.isOption)) then
      match consumePositionals st pos items with
      | some (st, pos, left) => finish { st with leftover := st.leftover || !left.isEmpty } pos
      | none => .exit 2
    else
      match items with
      | (_, .option none _ _) :: rest => p.consume fuel { st with leftover := true } pos rest
      | (_, .option (some a) flag attached) :: rest =>
        match p.gather rest (attached.map String.length |>.getD 0) [] a flag attached with
        | none => .exit 2
        | some (acts, rest') =>
          match takeAll st acts with
          | .error code => .exit code
          | .ok st' => p.consume fuel st' pos rest'
      | _ =>
        match consumePositionals st pos items with
        | none => .exit 2
        | some (st', pos', left) =>
          if left.length < items.length then p.consume fuel st' pos' left
          else p.consume fuel { st with leftover := true } pos (items.dropWhile fun i => !i.2.isOption)

/-- Parse the words of a command line. -/
def Parser.parse (p : Parser) (words : List String) : Outcome :=
  match p.markAll words with
  | none => .exit 2
  | some items =>
    let defaults := p.options.map (fun o => (o.dest, o.default)) ++
      p.positionals.map fun q => (q.dest, Value.none)
    p.consume (items.length + 1) { settings := defaults.reverse } p.positionals items

end ByteMachine.Cli
