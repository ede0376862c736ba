import ByteMachine.Package.Commands
import ByteMachine.Package.Import
import ByteMachine.Package.Metadata
/- The command line of the package's setup script.

   The script first scans its global options (verbosity, dry run, help,
   the packages that provide commands) and its display options (one per
   field of the metadata, and the list of commands); a scan that fails
   stops the script with the usage text and the scan's message. Short
   letters are looked up among the options that have one, `--licence` is
   the same as `--license`, and `--quiet` turns verbosity off rather than
   on.

   If the list of commands was asked for, the script lists them. Otherwise
   each display option prints its field, one line each, in the order given,
   and the script ends. With none, the words left are commands, each
   followed by its options: the global ones apart from the command
   packages, its own, and those that print a topic. A name that is not a
   letter followed by letters, digits and underscores stops the script, and
   so does a command that it does not know, or a scan of its options that
   fails, with the usage text. Help asked for among a command's options
   shows the global options and the options of every command named so far;
   a topic asked for is printed instead of running anything; a command that
   takes the rest of the words as its own ends the reading.

   When every word is read, help asked for before the first command shows
   the options of the commands named, or, with none, the global and the
   display options. Otherwise the script stops if no command was given, and
   runs the commands if some were. -/
namespace ByteMachine.Package

/-- The name the script is run under. -/
def scriptName : String := "setup.py"

/-- The options the script takes before any command. -/
def globalOptions : List OptionSpec := [
  { long := "verbose", short := some 'v', help := "run verbosely (default)" },
  { long := "quiet", short := some 'q', help := "run quietly (turns verbosity off)" },
  { long := "dry-run", short := some 'n', help := "don't actually do anything" },
  { long := "help", short := some 'h', help := "show detailed help message" },
  { long := "no-user-cfg", help := "ignore pydistutils.cfg in your home directory" }]

/-- The option that names further packages to look for commands in. -/
def commandPackagesOption : OptionSpec :=
  { long := "command-packages", takesValue := true,
    help := "list of packages that provide distutils commands" }

/-- The options the script takes before the first command only. -/
def toplevelOptions : List OptionSpec := globalOptions ++ [commandPackagesOption]

/-- The options that print something about the package and run no command. -/
def displayOptions : List OptionSpec := [
  { long := "help-commands", help := "list all available commands" },
  { long := "name", help := "print package name" },
  { long := "version", short := some 'V', help := "print package version" },
  { long := "fullname", help := "print <package name>-<version>" },
  { long := "author", help := "print the author's name" },
  { long := "author-email", help := "print the author's email address" },
  { long := "maintainer", help := "print the maintainer's name" },
  { long := "maintainer-email", help := "print the maintainer's email address" },
  { long := "contact", help := "print the maintainer's name if known, else the author's" },
  { long := "contact-email",
    help := "print the maintainer's email address if known, else the author's" },
  { long := "url", help := "print the URL for this package" },
  { long := "license", help := "print the license of the package" },
  { long := "licence", help := "alias for --license" },
  { long := "description", help := "print the package description" },
  { long := "long-description", help := "print the long package description" },
  { long := "platforms", help := "print the list of platforms" },
  { long := "classifiers", help := "print the list of classifiers" },
  { long := "keywords", help := "print the list of keywords" },
  { long := "provides", help := "print the list of packages/modules provided" },
  { long := "requires", help := "print the list of packages/modules required" },
  { long := "obsoletes", help := "print the list of packages/modules made obsolete" }]

/-- Every option the script scans for before the first command. -/
def scriptOptions : List OptionSpec := toplevelOptions ++ displayOptions

/-- The short letters of a table of options, separated by spaces, each
followed by a colon if its option takes a value. -/
def shortSpec (opts : List OptionSpec) : List Char :=
  (" ".intercalate (opts.filterMap fun o =>
    o.short.map fun c => String.ofList (if o.takesValue then [c, ':'] else [c]))).toList

/-- The usage text. -/
def usage : String :=
  "usage: " ++ scriptName ++ " [global_opts] cmd1 [cmd1_opts] [cmd2 [cmd2_opts] ...]\n" ++
  "   or: " ++ scriptName ++ " --help [cmd1 cmd2 ...]\n" ++
  "   or: " ++ scriptName ++ " --help-commands\n" ++
  "   or: " ++ scriptName ++ " cmd --help\n"

/-- The text that stops the script on a refused command line. -/
def refusal (message : String) : String :=
  usage ++ "\nerror: " ++ message

/-- The lines before the table of global options in the help. -/
def commonUsage : String :=
  "Common commands: (see '--help-commands' for more)\n\n" ++
  "  " ++ scriptName ++ " build      will build the package underneath 'build/'\n" ++
  "  " ++ scriptName ++ " install    will install the package\n"

/-- The options a command takes: the global ones, its own, and those that print a topic. -/
def CommandSpec.table (c : CommandSpec) : List OptionSpec :=
  globalOptions ++ c.options ++ c.topics.map (·.1)

/-- The help for the commands `cs`: with none, the global and the display
options; with some, the global options without the command packages, and
each command's own options with those that print a topic. -/
def helpText (cs : List CommandSpec) : String :=
  let head :=
    if cs.isEmpty then
      helpLines (commonUsage ++ "\nGlobal options:") toplevelOptions ++ [""] ++
        helpLines "Information display options (just display information, ignore any commands)"
          displayOptions ++ [""]
    else helpLines (commonUsage ++ "\nGlobal options:") globalOptions ++ [""]
  let sections := cs.flatMap fun c =>
    helpLines ("Options for '" ++ c.name ++ "' command:") (c.options ++ c.topics.map (·.1)) ++ [""]
  String.join ((head ++ sections ++ [usage]).map (· ++ "\n"))

/-- The list of commands with the usage after it. -/
def commandList : String :=
  String.join ((commandListLines ++ ["", usage]).map (· ++ "\n"))

/-- Whether `c` is an ASCII letter. -/
def isAsciiLetter (c : Char) : Bool :=
  ('a' ≤ c && c ≤ 'z') || ('A' ≤ c && c ≤ 'Z')

/-- Whether a word can name a command: an ASCII letter, then ASCII letters,
digits and underscores, and at most a line feed at the very end. -/
def isCommandName (w : String) : Bool :=
  let body := match w.toList.reverse with
    | '\n' :: rest => rest.reverse
    | cs => cs.reverse
  match body with
  | c :: rest => isAsciiLetter c && rest.all fun d => isAsciiLetter d || d.isDigit || d = '_'
  | [] => false

/-- How a run of the script ends. -/
inductive Reply where
  /-- It ran to its end after printing `stdout`. -/
  | finished (stdout : String)
  /-- It stopped with `message`, having printed `stdout` before. -/
  | stopped (stdout message : String)
  /-- It goes on to run the commands named. -/
  | runsCommands (names : List String)
  deriving Repr, DecidableEq

/-- The long name of an option found by a scan of the table `opts`, aliases
resolved. A short letter stands for the last option in the table that has it. -/
def optionName (opts : List OptionSpec) (f : Found) : Except Fault String :=
  match f.flag.toList with
  | ['-', c] =>
    match (opts.filter (·.short = some c)).getLast? with
    | some o => .ok o.long
    | none => .error (.missingKey c.toString)
  | cs =>
    let name := String.ofList (cs.drop 2)
    .ok (if name = "licence" then "license" else name)

/-- Whether an option found is switched on: every flag is, but `--quiet`
switches verbosity off, and an option with a value is on if the value is not
empty. -/
def switchedOn (name value : String) : Bool :=
  match scriptOptions.find? (·.long = name) with
  | some o => if o.takesValue then !value.isEmpty else name ≠ "quiet"
  | none => false

/-- How reading the commands ends. -/
inductive Reading where
  /-- Every command was read: these, in order. -/
  | commands (cs : List CommandSpec)
  /-- The script ends before every word was read. -/
  | ends (r : Reply)

/-- The refusal of a command name that no command class was found for. -/
def unknownCommand (name : String) : Search → String
  | .noClass module =>
    "invalid command '" ++ name ++ "' (no class '" ++ name ++ "' in module '" ++ module ++ "')"
  | .notFound => "invalid command '" ++ name ++ "'"

/-- Read the commands in `words`, each followed by its options, after the
commands `sofar`; commands the script does not know are looked for in the
packages `pkgs`, at verbosity `v`. `fuel` bounds the number of
commands, each of which uses up at least one word. -/
def readCommands (pkgs : List String) (v : Nat) :
    Nat → List CommandSpec → List String → Except Fault Reading
  | 0, sofar, _ => .ok (.commands sofar)
  | _ + 1, sofar, [] => .ok (.commands sofar)
  | fuel + 1, sofar, w :: rest =>
    if !isCommandName w then .ok (.ends (.stopped "" ("invalid command name '" ++ w ++ "'")))
    else
      match findCommand w with
      | some c =>
        let sofar := sofar ++ [c]
        match scanOptions c.table (shortSpec c.table) rest with
        | .error e => .ok (.ends (.stopped "" (refusal e.message)))
        | .ok (found, left) => do
          let names ← found.mapM (optionName c.table)
          if names.contains "help" then return .ends (.finished (helpText sofar))
          match c.topics.find? fun t => names.contains t.1.long with
          | some (_, t) => return .ends (.finished t.text)
          | none =>
            if c.takesRest then return .commands sofar
            else readCommands pkgs v fuel sofar left
      | none => do
        let (printed, search) ← searchCommand v w pkgs
        return .ends (.stopped printed (refusal (unknownCommand w search)))

/-- The verbosity after the options found, from 1: each `--verbose` raises it
by one and `--quiet` sets it to 0. -/
def verbosity (names : List String) : Nat :=
  names.foldl (fun v n => if n = "verbose" then v + 1 else if n = "quiet" then 0 else v) 1

/-- Run the setup script on the words of its command line. -/
def runScript (words : List String) : Except Fault Reply :=
  match scanOptions scriptOptions (shortSpec scriptOptions) words with
  | .error e => .ok (.stopped "" (refusal e.message))
  | .ok (found, rest) => do
    let names ← found.mapM fun f => do
      let n ← optionName scriptOptions f
      pure (n, switchedOn n f.value)
    let on := (names.filter (·.2)).map (·.1)
    if on.contains "help-commands" then return .finished commandList
    let fields := on.filterMap Field.ofOption?
    if !fields.isEmpty then
      let texts ← fields.mapM toolPackage.text
      return .finished (String.join (texts.map (· ++ "\n")))
    let given := (found.filter (·.flag = "--command-packages")).getLast?.map (·.value)
    let pkgs := commandPackages (given.getD "")
    match ← readCommands pkgs (verbosity (names.map (·.1))) (rest.length + 1) [] rest with
    | .ends r => return r
    | .commands cs =>
      if on.contains "help" then return .finished (helpText cs)
      else if cs.isEmpty then return .stopped "" (refusal "no commands supplied")
      else return .runsCommands (cs.map (·.name))

end ByteMachine.Package
