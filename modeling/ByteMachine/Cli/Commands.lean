import ByteMachine.Cli.Arguments
import ByteMachine.Numeral
/- The two commands of the tool set and what their command lines amount to.

   `assemble` takes the path of an assembly file, and optionally the path of
   the machine code to write (`-o`), the place in data memory where
   variables start (`-s`, a count) and the output format (`-f`). `gen_roms`
   takes the directory to write the microcode ROMs into (`-o`), the prefix
   of their file names (`-p`) and the output format. A parsed command line
   becomes one `Call` of the build function of the same name, with the path
   as its only positional argument for `assemble` and every other setting as
   a keyword argument.

   `readCount` accepts what a decimal integer literal accepts, blanks around
   it, signs and digit separators included, as long as the value is not
   negative. -/
namespace ByteMachine.Cli

/-- A count given on a command line: a decimal integer that is not negative. -/
def readCount (s : String) : Except Fault Int :=
  match Numeral.read (.base 10) s with
  | .value n => if n < 0 then .error (.notCount s) else .ok n
  | _ => .error (.notCount s)

/-- The formats machine code and ROMs can be written in. -/
def outputFormats : List String := ["logisim", "cpp"]

/-- The output format option, which both commands share. -/
def formatOption : Opt :=
  { flags := ["-f", "--output_format"], dest := "output_format",
    choices := some outputFormats, default := .text "logisim" }

/-- The command line of `assemble`. -/
def assembleParser : Parser :=
  { options := [
      { flags := ["-o", "--output_filepath"], dest := "output_filepath" },
      { flags := ["-s", "--variable_start_offset"], dest := "variable_start_offset",
        convert := fun s => match readCount s with
          | .ok n => some (.number n)
          | .error _ => none,
        default := .number 0 },
      formatOption],
    positionals := [{ dest := "asm_filepath" }] }

/-- The command line of `gen_roms`. -/
def romsParser : Parser :=
  { options := [
      { flags := ["-o", "--output_dir"], dest := "output_dir", default := .text "." },
      { flags := ["-p", "--rom_prefix"], dest := "rom_prefix", default := .text "rom" },
      formatOption],
    positionals := [] }

/-- A command of the tool set. -/
inductive Command where
  | assemble
  | genRoms
  deriving Repr, DecidableEq

/-- The command with the given name. -/
def Command.ofName? : String → Option Command
  | "assemble" => some .assemble
  | "gen_roms" => some .genRoms
  | _ => none

/-- The name of a command, which is also the name of the function it calls. -/
def Command.name : Command → String
  | .assemble => "assemble"
  | .genRoms => "gen_roms"

/-- The command line parser of a command. -/
def Command.parser : Command → Parser
  | .assemble => assembleParser
  | .genRoms => romsParser

/-- The settings a command passes positionally, and those it passes by name. -/
def Command.layout : Command → List String × List String
  | .assemble => (["asm_filepath"], ["output_filepath", "variable_start_offset", "output_format"])
  | .genRoms => ([], ["output_dir", "rom_prefix", "output_format"])

/-- A call of a build function: its name, positional and keyword arguments. -/
structure Call where
  function : String
  args : List Value
  kwargs : List (String × Value)
  deriving Repr, DecidableEq

/-- The setting of `dest`, or `none` if there is none. -/
def setting (settings : List (String × Value)) (dest : String) : Value :=
  (settings.lookup dest).getD .none

/-- The call a command makes with the given settings. -/
def Command.call (c : Command) (settings : List (String × Value)) : Call :=
  let (pos, named) := c.layout
  { function := c.name,
    args := pos.map (setting settings),
    kwargs := named.map fun k => (k, setting settings k) }

/-- Run a command on the words of its command line: the calls it makes, or
the exit code if the line asks for help or is refused. -/
def Command.run (c : Command) (words : List String) : Except Nat (List Call) :=
  match c.parser.parse words with
  | .parsed settings => .ok [c.call settings]
  | .exit code => .error code

/-- Where `assemble` writes machine code when no path is given: the assembly
path with its four-character extension replaced by `.mc`. -/
def machineCodePath (asmPath : String) : String :=
  String.ofList (asmPath.toList.take (asmPath.length - 4)) ++ ".mc"

/-- A path that names no directory is taken in the current one. -/
def inCurrentDirectory (path : String) : String :=
  if path.toList.contains '/' then path else "./" ++ path

/-- The path of `name` inside the directory `dir`; a name that starts at the
root stands alone. -/
def joinPath (dir name : String) : String :=
  if name.startsWith "/" then name
  else if dir.isEmpty || dir.endsWith "/" then dir ++ name
  else dir ++ "/" ++ name

/-- The file name of ROM number `i`. -/
def romFileName (prefixText : String) (i : Nat) : String :=
  prefixText ++ "_" ++ toString i

end ByteMachine.Cli
