import WebTidy.CommandLine.FileTree
import WebTidy.Text.Integer
import WebTidy.Text.Similarity

/-!
# Reading arguments

A command has options with a value, switches and at most one operand. An option is written
`--name value` or `--name=value`, or with a letter as `-n value` or `-nvalue`; behind `--` all
arguments are operands. Of an option that is given twice the last value counts. A name that is not
known is answered with the ones most similar to it.
-/

namespace WebTidy

/-- What the value of an option must be. -/
inductive ValueKind where
  | text
  | inputFile
  | outputFile
  | integer
  | logLevel
  deriving DecidableEq, Repr

structure OptionSpec where
  name : Text
  letter : Option Char
  kind : ValueKind
  deriving DecidableEq, Repr

structure ArgumentSpec where
  options : List OptionSpec
  switches : List Text
  /-- Whether options may stand behind operands. -/
  mixed : Bool
  deriving DecidableEq, Repr

/-- One argument as the command understands it. -/
inductive Occurrence where
  | value (name value : Text)
  | switched (name : Text)
  | operand (value : Text)
  deriving DecidableEq, Repr

inductive ArgumentError where
  | unknownOption (name : Text) (similar : List Text)
  | valueMissing (name : Text)
  | valueRefused (name : Text)
  | invalidValue (hint : String) (reason : String)
  | operandMissing (name : String)
  | operandsLeft (values : List Text)
  | commandMissing
  | unknownCommand (name : Text) (similar : List Text)
  | badSettings (reason : String)
  /-- A path holds the character that ends paths in the system. -/
  | nullCharacter
  deriving DecidableEq, Repr

namespace ArgumentError

/-- What is appended to a message about a name that is not known. -/
def suggestion : List Text → String
  | [] => ""
  | [name] => " Did you mean " ++ name.shown ++ "?"
  | names =>
    " (Did you mean one of: " ++ String.ofList (Text.join [',', ' '] (names.map Text.quoted))
      ++ "?)"

def message : ArgumentError → String
  | unknownOption name similar => "No such option " ++ name.shown ++ "." ++ suggestion similar
  | valueMissing name => "Option " ++ name.shown ++ " requires an argument."
  | valueRefused name => "Option " ++ name.shown ++ " does not take a value."
  | invalidValue hint reason => "Invalid value for " ++ hint ++ ": " ++ reason
  | operandMissing name => "Missing argument '" ++ name ++ "'."
  | operandsLeft values =>
    "Got unexpected extra argument" ++ (if values.length = 1 then "" else "s") ++ " ("
      ++ String.ofList (Text.join [' '] values) ++ ")"
  | commandMissing => "Missing command."
  | unknownCommand name similar => "No such command " ++ name.shown ++ "." ++ suggestion similar
  | badSettings reason => reason
  | nullCharacter => "embedded null byte"

/-- Whether the usage of the command is shown with the message. -/
def showsUsage : ArgumentError → Bool
  | valueMissing _ => false
  | valueRefused _ => false
  | _ => true

end ArgumentError

/-- What an argument that begins with a hyphen asks for. -/
inductive OptionUse where
  | valued (option : OptionSpec) (writtenAs : Text) (value : Option Text)
  | switched (name : Text)
  deriving DecidableEq, Repr

namespace ArgumentSpec

/-- The name of an option and the value behind an equals sign. -/
def nameAndValue (argument : Text) : Text × Option Text :=
  if argument.contains '=' then
    ((Text.cutAt '=' argument).1, some (Text.cutAt '=' argument).2)
  else (argument, none)

def letterUse (spec : ArgumentSpec) : Text → Except ArgumentError OptionUse
  | hyphen :: letter :: rest =>
    match spec.options.find? (·.letter == some letter) with
    | some option =>
      .ok (.valued option [hyphen, letter] (if rest.isEmpty then none else some rest))
    | none => .error (.unknownOption [hyphen, letter] [])
  | argument => .error (.unknownOption argument [])

/-- All names that may be written out. -/
def names (spec : ArgumentSpec) : List Text := spec.options.map (·.name) ++ spec.switches

def optionUse (spec : ArgumentSpec) (argument : Text) : Except ArgumentError OptionUse :=
  let (name, value) := nameAndValue argument
  match spec.options.find? (·.name == name) with
  | some option => .ok (.valued option name value)
  | none =>
    if name ∈ spec.switches then
      if value.isSome then .error (.valueRefused name) else .ok (.switched name)
    else if argument.startsWith ['-', '-'] then
      .error (.unknownOption name (Text.similarTo name spec.names))
    else spec.letterUse argument

def isOption (argument : Text) : Bool := argument.startsWith ['-'] && argument.length > 1

/-- The arguments in order, each as it is understood. -/
def occurrences (spec : ArgumentSpec) : List Text → Except ArgumentError (List Occurrence)
  | [] => .ok []
  | argument :: rest =>
    if argument = ['-', '-'] then .ok (rest.map .operand)
    else if isOption argument then do
      match ← spec.optionUse argument with
      | .switched name => return .switched name :: (← spec.occurrences rest)
      | .valued option _ (some value) =>
        return .value option.name value :: (← spec.occurrences rest)
      | .valued option writtenAs none =>
        match rest with
        | [] => throw (.valueMissing writtenAs)
        | value :: rest => return .value option.name value :: (← spec.occurrences rest)
    else if spec.mixed then return .operand argument :: (← spec.occurrences rest)
    else .ok ((argument :: rest).map .operand)

end ArgumentSpec

/-- The arguments of a command, sorted by what they are. -/
structure Arguments where
  values : Table Text Text
  switches : List Text
  operands : List Text
  deriving DecidableEq, Repr

namespace Arguments

def ofOccurrences (occurrences : List Occurrence) : Arguments where
  values := Table.ofEntries <| occurrences.filterMap fun
    | .value name value => some (name, value)
    | _ => none
  switches := occurrences.filterMap fun
    | .switched name => some name
    | _ => none
  operands := occurrences.filterMap fun
    | .operand value => some value
    | _ => none

def read (spec : ArgumentSpec) (arguments : List Text) : Except ArgumentError Arguments :=
  (spec.occurrences arguments).map ofOccurrences

def value? (a : Arguments) (name : Text) : Option Text := Table.get? name a.values

/-- Whether of two opposite switches the last one that was given is the first of them. -/
def isOn (a : Arguments) (on off : Text) (otherwise : Bool) : Bool :=
  match (a.switches.filter fun name => name == on || name == off).getLast? with
  | none => otherwise
  | some last => last == on

end Arguments

end WebTidy
