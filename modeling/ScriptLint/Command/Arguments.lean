import ScriptLint.Text.Digit

/-!
# Command line arguments

A command line names one of three commands and its options.  An option is written
out or by any beginning that no other option of the command shares, and its value
follows as the next argument or after an equals sign.
-/

namespace ScriptLint

/-- How diagnostics are printed. -/
inductive OutputFormat where
  | table
  | json
deriving DecidableEq, Repr

/-- How diagnostics are printed, and the file that takes the printed text, if
any. -/
structure OutputOptions where
  format : OutputFormat
  file : Option String
deriving DecidableEq, Repr

/-- What the program is asked to do. -/
inductive Command where
  /-- To scan the folders at these paths. -/
  | scan (paths : List String) (output : OutputOptions)
  /-- To check one file in the folder at a path. -/
  | check (path file : String) (output : OutputOptions)
  /-- To scan these folders and then follow their changes. -/
  | watch (paths : List String)
deriving DecidableEq, Repr

namespace Command

/-- What an argument is taken for. -/
inductive Word where
  /-- A value or the name of a command. -/
  | plain (text : String)
  /-- An option, and the text after its equals sign, if there is one. -/
  | option (name : String) (value : Option String)
  /-- Two hyphens, or an option that is not known or not told apart from another. -/
  | unknown
deriving DecidableEq, Repr

/-- A text without a line feed at its end. -/
def dropFinalBreak (text : List Char) : List Char :=
  if text.getLast? = some '\n' then text.dropLast else text

/-- Whether a text is a hyphen and a decimal number. -/
def isNegativeNumber (text : List Char) : Bool :=
  match dropFinalBreak text with
  | '-' :: number =>
      match number.dropWhile Text.isDigit with
      | [] => !number.isEmpty
      | '.' :: digits => !digits.isEmpty && digits.all Text.isDigit
      | _ => false
  | _ => false

/-- What an argument that names no option is taken for. -/
def Word.ofOther (text : List Char) : Word :=
  if isNegativeNumber text || text.contains ' ' then .plain (String.ofList text)
  else .unknown

/-- The options that a written name may stand for. -/
def candidates (names : List String) (written : String) : List String :=
  if names.contains written then [written]
  else names.filter fun name => written.toList.isPrefixOf name.toList

/-- The text after the first equals sign, if there is one. -/
def textAfterEquals (text : List Char) : Option String :=
  match text.dropWhile (· ≠ '=') with
  | [] => none
  | _ :: value => some (String.ofList value)

/-- What an argument is taken for by a command with these options. -/
def Word.ofString (names : List String) (argument : String) : Word :=
  match argument.toList with
  | ['-', '-'] => .unknown
  | '-' :: '-' :: rest =>
      match candidates names (String.ofList (rest.takeWhile (· ≠ '='))) with
      | [] => .ofOther ('-' :: '-' :: rest)
      | [name] => .option name (textAfterEquals rest)
      | _ => .unknown
  | '-' :: 'h' :: _ => .unknown
  | '-' :: '=' :: _ => .unknown
  | '-' :: char :: rest => .ofOther ('-' :: char :: rest)
  | _ => .plain argument

/-- Reads options with a value each, in order.  Fails at anything else. -/
def readOptions (names : List String) : List String → Option (List (String × String))
  | [] => some []
  | argument :: rest =>
      match Word.ofString names argument, rest with
      | .option name (some value), rest =>
          (readOptions names rest).map ((name, value) :: ·)
      | .option name none, next :: rest =>
          match Word.ofString names next with
          | .plain value => (readOptions names rest).map ((name, value) :: ·)
          | _ => none
      | _, _ => none

def values (options : List (String × String)) (name : String) : List String :=
  (options.filter (·.1 = name)).map (·.2)

def readFormat? (value : String) : Option OutputFormat :=
  if value = "table" then some .table
  else if value = "json" then some .json
  else none

/-- The output options; every format given has to be known, and the last one
counts. -/
def outputOptions? (options : List (String × String)) : Option OutputOptions := do
  let formats ← (values options "format").mapM readFormat?
  return ⟨formats.getLast?.getD .table, (values options "output").getLast?⟩

def required? : List String → Option (List String)
  | [] => none
  | values => some values

/-- Reads the options of a command.  Asking for help is no command. -/
def ofOptions? (command : String) (arguments : List String) : Option Command := do
  match command with
  | "scan" =>
      let options ← readOptions ["path", "format", "output", "help"] arguments
      if !(values options "help").isEmpty then none
      return .scan (← required? (values options "path")) (← outputOptions? options)
  | "check" =>
      let options ← readOptions ["path", "file", "format", "output", "help"] arguments
      if !(values options "help").isEmpty then none
      return .check (← (values options "path").getLast?)
        (← (values options "file").getLast?) (← outputOptions? options)
  | "watch" =>
      let options ← readOptions ["path", "help"] arguments
      if !(values options "help").isEmpty then none
      return .watch (← required? (values options "path"))
  | _ => none

/-- Reads a command line.  The flag for more detail may come before the command. -/
def ofArguments? : List String → Option Command
  | [] => none
  | argument :: rest =>
      match Word.ofString ["verbose", "help"] argument with
      | .option "verbose" none => ofArguments? rest
      | .plain command => ofOptions? command rest
      | _ => none

end Command

end ScriptLint
