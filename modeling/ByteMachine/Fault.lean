import ByteMachine.Text.Quoted
/- The ways a request can fail, one constructor per cause, and the text
   that each failure reports. `Fault.message` is the single place where
   failure texts are written.

   Failures of argument matching (`ArgsFault`) and of reading one assembly
   line (`LineFault`) are kept apart from the rest, because a line failure
   carries an argument failure inside it, and a failed assembly reports a
   line failure, or a failed structure check (`Problem`), together with the
   number and text of the line it concerns. -/
namespace ByteMachine

/-- Why the arguments of an instruction line were refused. -/
inductive ArgsFault where
  /-- The arguments fit more than one signature. -/
  | ambiguous
  /-- The argument `arg` fits more than one kind of argument description at once. -/
  | argumentOfManyKinds (arg : String)
  /-- The arguments fit no signature; `choices` lists every signature as text. -/
  | unmatched (opcode : String) (given : List String) (choices : List (List String))
  deriving Repr, DecidableEq

/-- Why one line of assembly was refused. -/
inductive LineFault where
  /-- No instruction takes the line. -/
  | noInstruction
  /-- More than one instruction takes the line. -/
  | manyInstructions
  /-- The instruction's arguments were refused. -/
  | args (fault : ArgsFault)
  /-- A constant operand is neither a label, a variable nor a number. -/
  | badConstant
  /-- A constant operand is of more than one of the three kinds. -/
  | constantOfManyKinds
  /-- A number operand does not fit in a byte. -/
  | outOfByte (constant : String)
  deriving Repr, DecidableEq

/-- Why a whole program was refused, beside the line it names. -/
inductive Problem where
  /-- The line itself was refused. -/
  | line (fault : LineFault)
  /-- A label is defined a second time; `first` is the line of its first definition. -/
  | labelRedefined (label : String) (first : Int)
  /-- A label is defined while another still waits for its instruction. -/
  | labelQueued (waiting : String)
  /-- A label is used that no line defines. -/
  | labelUndefined (label : String)
  /-- A variable is declared a second time. -/
  | variableRedefined (name : String) (first : Int)
  /-- The variables no longer fit in data memory after `offset`. -/
  | dataFull (name : String) (offset : Int)
  /-- The program has more than 255 bytes of machine code. -/
  | programFull (count : Nat)
  deriving Repr, DecidableEq

/-- A failed request. -/
inductive Fault where
  /-- The text `text` is no integer literal in `base` (0: the base is read from a prefix). -/
  | literal (base : Nat) (text : String)
  /-- A decimal literal has more digits than a conversion accepts. -/
  | tooManyDigits (count : Nat)
  /-- The number `n` is not representable in `width` bits. -/
  | wontFit (n width : Int)
  /-- A width is too large for its bounds to be computed. -/
  | widthOverflow
  /-- A width too large in magnitude to be converted to a floating-point number. -/
  | widthUnconvertible
  /-- A padding width below zero. -/
  | negativePad (width : Int)
  /-- A padding width too large for a format to read. -/
  | padTooWide
  /-- An integer of more than 4300 decimal digits was to be written in decimal. -/
  | tooManyDigitsToShow
  /-- A recursion went deeper than calls may nest. -/
  | recursionLimit
  /-- A module name whose top-level package is the empty name. -/
  | emptyModuleName
  /-- A command was looked up and something that is not a class was found. -/
  | notAClass
  /-- A command was looked up and a class that is no command was found, as it is shown. -/
  | notACommand (shown : String)
  /-- A position past the end of a list, or the first element of an empty one. -/
  | noElement
  /-- Patterns of different lengths were combined. -/
  | unequalLengths
  /-- Two patterns fix the same position. -/
  | overlapping
  /-- An extraction reaches past the pattern. -/
  | regionTooLarge
  /-- An extraction ends before it starts. -/
  | endBeforeStart
  /-- An extraction starts below zero. -/
  | startBelowZero
  /-- An instruction was given more than six control steps. -/
  | tooManySteps (count : Nat)
  /-- Chunks of size zero were asked for. -/
  | zeroChunk
  /-- A name missing from a table. -/
  | missingKey (key : String)
  /-- A value read before anything was assigned to it. -/
  | unassigned (name : String)
  /-- An operation without a signature list was asked for its microcode. -/
  | noSignatureList
  /-- An operation without an encoding was asked for an instruction byte. -/
  | noEncoding
  /-- An operation without control steps was asked for its microcode. -/
  | noStepList
  /-- Instruction arguments were refused. -/
  | args (fault : ArgsFault)
  /-- One assembly line was refused. -/
  | line (fault : LineFault)
  /-- A program was refused at line `lineNo`, whose text is `raw`. -/
  | assembly (lineNo : Int) (raw : String) (problem : Problem)
  /-- Two microcode templates cover a common address. -/
  | duplicateAddresses
  /-- An output format that is not implemented. -/
  | unsupportedFormat
  /-- A command-line value that is not a whole number of at least zero. -/
  | notCount (value : String)
  /-- A list of values to be printed is missing altogether. -/
  | joinMissing
  /-- The definitions published for an operation, under `source`, hold no `part`. -/
  | unpublished (source part : String)
  deriving Repr, DecidableEq

/-- The items in double quotes, separated by a comma and a space. -/
def quoteAll (items : List String) : String :=
  ", ".intercalate (items.map fun s => "\"" ++ s ++ "\"")

/-- The report of refused arguments. -/
def ArgsFault.message : ArgsFault → String
  | .ambiguous => "Args matched multiple arg possibilities."
  | .argumentOfManyKinds arg => "The argument '" ++ arg ++ " matched more than one argument type"
  | .unmatched opcode given choices =>
    "Incorrect arguments specified for the " ++ opcode ++ " operation:\n\n" ++
      quoteAll given ++ "\n\nThe possible arguments are:\n\n" ++
      "\n".intercalate (choices.map quoteAll) ++ "."

/-- The report of a refused line. -/
def LineFault.message : LineFault → String
  | .noInstruction => "Unable to match line to an operation"
  | .manyInstructions => "Line matched multiple operations"
  | .args f => f.message
  | .badConstant => "Not a valid constant"
  | .constantOfManyKinds => "Constant is of more than one type"
  | .outOfByte c =>
    "Number specified (" ++ c ++
      ") is not within the range of values that a byte can store (-127 to 255)"

/-- The report of a refused program, after the line it names. -/
def Problem.message : Problem → String
  | .line f => f.message
  | .labelRedefined l first =>
    "The label: \"" ++ l ++ "\" has already been defined on line " ++ toString first ++ "."
  | .labelQueued l =>
    "There is already a label (" ++ l ++ ") queued for assignment to the next instruction."
  | .labelUndefined l =>
    "This line is referencing a label (" ++ l ++ ") that has not been defined."
  | .variableRedefined v first =>
    "The variable: \"" ++ v ++ "\" has already been defined on line " ++ toString first ++ "."
  | .dataFull v offset =>
    "No more data memory is available for the declaration of variable: \"" ++ v ++
      "\". The max is 255 and a variable start offset of " ++ toString offset ++ " was used."
  | .programFull n =>
    "This operation brought the total number of machine code bytes above 255. " ++
      "The complete assembly code has resulted in " ++ toString n ++ " bytes of machine code."

/-- The text that a failure reports. -/
def Fault.message : Fault → String
  | .literal base text =>
    "invalid literal for int() with base " ++ toString base ++ ": " ++
      String.ofList ((Text.quote text).toList.take 200)
  | .tooManyDigits n =>
    "Exceeds the limit (4300 digits) for integer string conversion: value has " ++
      toString n ++ " digits; use sys.set_int_max_str_digits() to increase the limit"
  | .wontFit n w => toString n ++ " will not fit in " ++ toString w ++ " bits."
  | .widthOverflow => "integer division result too large for a float"
  | .widthUnconvertible => "int too large to convert to float"
  | .negativePad w => "Invalid format specifier '0" ++ toString w ++ "X' for object of type 'int'"
  | .padTooWide => "Too many decimal digits in format string"
  | .tooManyDigitsToShow =>
    "Exceeds the limit (4300 digits) for integer string conversion; " ++
      "use sys.set_int_max_str_digits() to increase the limit"
  | .recursionLimit => ""
  | .emptyModuleName => "Empty module name"
  | .notAClass => "issubclass() arg 1 must be a class"
  | .notACommand shown => "command class " ++ shown ++ " must subclass Command"
  | .noElement => "list index out of range"
  | .unequalLengths => "Bitdefs are not all the same length."
  | .overlapping => "Bitdefs have overlapping bits."
  | .regionTooLarge => "Extraction region is larger than bitdef."
  | .endBeforeStart => "Extraction end index is before extraction start index."
  | .startBelowZero => "Extraction start index is less than 0."
  | .tooManySteps n => toString n ++ " control steps were passed, the maxiumum is 6."
  | .zeroChunk => "range() arg 3 must not be zero"
  | .missingKey k => Text.quote k
  | .unassigned name =>
    "cannot access local variable '" ++ name ++ "' where it is not associated with a value"
  | .noSignatureList => "'NoneType' object is not iterable"
  | .noEncoding => "'NoneType' object is not subscriptable"
  | .noStepList => "object of type 'NoneType' has no len()"
  | .args f => f.message
  | .line f => f.message
  | .assembly n raw p =>
    "Error processing line " ++ toString n ++ " (" ++ raw ++ "): " ++ p.message
  | .duplicateAddresses => "Romdata set has duplicate addresses"
  | .unsupportedFormat => ""
  | .notCount v => v ++ " is not an integer greater than or equal to 0."
  | .joinMissing => "can only join an iterable"
  | .unpublished m p => "module '" ++ m ++ "' has no attribute '" ++ p ++ "'"

/-- The first element of `xs`, or `noElement`. -/
def first {α : Type} (xs : List α) : Except Fault α :=
  match xs with
  | x :: _ => .ok x
  | [] => .error .noElement

/-- The element of `xs` at position `i`, or `noElement`. -/
def nth {α : Type} (xs : List α) (i : Nat) : Except Fault α :=
  match xs[i]? with
  | some x => .ok x
  | none => .error .noElement

theorem first_cons {α : Type} (x : α) (xs : List α) : first (x :: xs) = .ok x := rfl

end ByteMachine
