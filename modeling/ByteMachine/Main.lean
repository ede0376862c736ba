import ByteMachine.Assembler
import ByteMachine.Microcode.Rom
import ByteMachine.Cli.Commands
import ByteMachine.Text.Lines
/- The command-line tools.

   `assemble FILE [-o OUT] [-s OFFSET] [-f FORMAT]` assembles an assembly
   file, prints the listing of the program and writes its machine code, by
   default beside the input with the extension `.mc`. `gen_roms [-o DIR]
   [-p PREFIX] [-f FORMAT]` writes the microcode, one file per 8-bit ROM.
   The first word names the tool; the exit code is 2 for a refused command
   line and 1 for a failed run. -/
namespace ByteMachine.Tool

open Cli

/-- The text of a setting. -/
def textOf : Value → String
  | .text s => s
  | _ => ""

/-- The number of a setting. -/
def numberOf : Value → Int
  | .number n => n
  | _ => 0

/-- The file contents for the chosen format. -/
def encode (format : String) (bitstrings : List String) : Except Fault String :=
  if format = "cpp" then Export.cpp bitstrings else Export.logisim bitstrings

/-- Assemble the file that the settings name. -/
def assembleFile (settings : List (String × Value)) : IO UInt32 := do
  let input := textOf (setting settings "asm_filepath")
  let source ← try
      pure (some (← IO.FS.readFile input))
    catch _ => pure none
  let some text := source
    | IO.println ("Input file: " ++ input ++ " does not exist."); return 1
  unless input.endsWith ".asm" do
    IO.println "Input file must have a .asm extension."
    return 1
  let output := inCurrentDirectory (match setting settings "output_filepath" with
    | .text s => s
    | _ => machineCodePath input)
  match assembleProgram (Text.lines text) (numberOf (setting settings "variable_start_offset")) with
  | .error f =>
    IO.println f.message
    return 1
  | .ok result =>
    IO.println ("Assembly complete. Assembly file written to: " ++ output ++ ".\n\nAssembly summary:\n")
    IO.println result.listing
    match encode (textOf (setting settings "output_format")) result.code with
    | .error f =>
      IO.eprintln ("cannot write this format " ++ f.message)
      return 1
    | .ok contents =>
      IO.FS.writeFile output contents
      return 0

/-- Write the microcode ROMs into the directory that the settings name. -/
def writeRoms (settings : List (String × Value)) : IO UInt32 := do
  let dir := textOf (setting settings "output_dir")
  let pre := textOf (setting settings "rom_prefix")
  let format := textOf (setting settings "output_format")
  let slices := Microcode.fullRom >>= fun rom => Microcode.sliceRom rom.toList
  match slices with
  | .error f =>
    IO.eprintln f.message
    return 1
  | .ok parts =>
    for (i, entries) in parts do
      match encode format (entries.map (·.data)) with
      | .error f =>
        IO.eprintln ("cannot write this format " ++ f.message)
        return 1
      | .ok contents => IO.FS.writeFile (joinPath dir (romFileName pre i)) contents
    IO.println ("ROM writing complete. ROMs written to " ++ dir)
    return 0

/-- The line that shows how the tools are called. -/
def usage : String := "usage: assemble FILE [options] | gen_roms [options]"

/-- Run the tool named by the first word on the words after it. -/
def run (args : List String) : IO UInt32 := do
  let name :: words := args
    | IO.eprintln usage; return 2
  let some c := Command.ofName? name
    | IO.eprintln usage; return 2
  match c.parser.parse words with
  | .exit code =>
    unless code = 0 do
      IO.eprintln usage
    return code.toUInt32
  | .parsed settings =>
    match c with
    | .assemble => assembleFile settings
    | .genRoms => writeRoms settings

end ByteMachine.Tool

def main (args : List String) : IO UInt32 :=
  ByteMachine.Tool.run args
