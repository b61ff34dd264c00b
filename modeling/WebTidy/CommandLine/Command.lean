import WebTidy.CommandLine.Arguments
import WebTidy.CommandLine.Log
import WebTidy.Settings
import WebTidy.Text.UpperCase

/-!
# Commands

The program's commands with their options, and how arguments, environment and files determine what
is to be done. Options are checked in the order in which they were first given, then the operand,
then what is left over.
-/

namespace WebTidy

inductive CommandName where
  | validate
  | optimize
  | classes
  | dialects
  | serve
  deriving DecidableEq, Repr

namespace CommandName

def all : List CommandName := [validate, optimize, classes, dialects, serve]

def text : CommandName → String
  | validate => "validate"
  | optimize => "optimize"
  | classes => "classes"
  | dialects => "dialects"
  | serve => "serve"

def ofText? (name : Text) : Option CommandName := all.find? (·.text.toList == name)

/-- What the operand of a command is called. -/
def operand? : CommandName → Option String
  | validate => some "SOURCEFILE"
  | classes => some "SOURCEFILE"
  | optimize => some "CSSFILE"
  | dialects => none
  | serve => none

def dialectOption : OptionSpec := ⟨"--dialect".toList, none, .text⟩

def markupOption : OptionSpec := ⟨"--markup".toList, none, .inputFile⟩

def outputOption : OptionSpec := ⟨"--output".toList, some 'o', .outputFile⟩

def hostOption : OptionSpec := ⟨"--host".toList, none, .text⟩

def portOption : OptionSpec := ⟨"--port".toList, none, .integer⟩

def statsSwitch : Text := "--stats".toList

def noStatsSwitch : Text := "--no-stats".toList

def debugSwitch : Text := "--debug".toList

def noDebugSwitch : Text := "--no-debug".toList

def helpSwitch : Text := "--help".toList

def spec : CommandName → ArgumentSpec
  | validate => ⟨[dialectOption], [helpSwitch], true⟩
  | classes => ⟨[dialectOption], [helpSwitch], true⟩
  | optimize =>
    ⟨[markupOption, dialectOption, outputOption], [statsSwitch, noStatsSwitch, helpSwitch], true⟩
  | dialects => ⟨[], [helpSwitch], true⟩
  | serve => ⟨[hostOption, portOption], [debugSwitch, noDebugSwitch, helpSwitch], true⟩

end CommandName

def logLevelOption : OptionSpec := ⟨"--log-level".toList, none, .logLevel⟩

def versionSwitch : Text := "--version".toList

/-- The options in front of a command. -/
def programSpec : ArgumentSpec :=
  ⟨[logLevelOption], [versionSwitch, CommandName.helpSwitch], false⟩

/-- A file that was there when the arguments were read. -/
structure InputFile where
  path : Text
  content : Bytes
  deriving DecidableEq, Repr

def OptionSpec.hint (option : OptionSpec) : String :=
  Text.shown option.name
    ++ match option.letter with
      | none => ""
      | some letter => " / " ++ Text.shown ['-', letter]

def openInput (files : FileTree) (hint : String) (path : Text) :
    Except ArgumentError InputFile :=
  if path.contains '\x00' then .error .nullCharacter
  else match files.lookup path with
  | .file _ content => .ok ⟨path, content⟩
  | .directory _ => .error (.invalidValue hint ("File " ++ path.shown ++ " is a directory."))
  | _ => .error (.invalidValue hint ("File " ++ path.shown ++ " does not exist."))

/-- Whether a value is one that the option accepts. -/
def OptionSpec.check (option : OptionSpec) (files : FileTree) (value : Text) :
    Except ArgumentError Unit :=
  match option.kind with
  | .text => .ok ()
  | .inputFile => (openInput files option.hint value).map fun _ => ()
  | .outputFile =>
    if value.contains '\x00' then .error .nullCharacter
    else match files.lookup value with
    | .directory _ =>
      .error (.invalidValue option.hint ("File " ++ value.shown ++ " is a directory."))
    | _ => .ok ()
  | .integer =>
    match readInteger? value with
    | some _ => .ok ()
    | none => .error (.invalidValue option.hint (value.shown ++ " is not a valid integer."))
  | .logLevel =>
    match LogLevel.ofName? value with
    | some _ => .ok ()
    | none =>
      .error (.invalidValue option.hint (value.shown ++ " is not one of "
        ++ joinStrings ", " (LogLevel.all.map fun l => Text.shown l.name.toList) ++ "."))

/-- Checks all values that were given. -/
def ArgumentSpec.check (spec : ArgumentSpec) (files : FileTree) (a : Arguments) :
    Except ArgumentError Unit :=
  a.values.forM fun given =>
    match spec.options.find? (·.name == given.1) with
    | some option => option.check files given.2
    | none => .ok ()

/-- A command with all that it needs. -/
inductive Command where
  | validate (source : InputFile) (dialect : Option Text)
  | optimize (css : InputFile) (markup : Option InputFile) (dialect output : Option Text)
      (stats : Bool)
  | classes (source : InputFile) (dialect : Option Text)
  | dialects
  | serve (host : Option Text) (port : Option Int) (debug : Bool)
  deriving DecidableEq, Repr

def Command.name : Command → CommandName
  | validate _ _ => .validate
  | optimize _ _ _ _ _ => .optimize
  | classes _ _ => .classes
  | dialects => .dialects
  | serve _ _ _ => .serve

namespace CommandName

/-- The operand, of which a command that has one needs exactly one. -/
def openOperand (files : FileTree) (metavar : String) (operands : List Text) :
    Except ArgumentError InputFile :=
  match operands with
  | [] => .error (.operandMissing metavar)
  | path :: rest => do
    let file ← openInput files ("'" ++ metavar ++ "'") path
    if rest.isEmpty then return file else throw (.operandsLeft rest)

def requireNoOperand (operands : List Text) : Except ArgumentError Unit :=
  if operands.isEmpty then .ok () else .error (.operandsLeft operands)

def readCommand (name : CommandName) (files : FileTree) (a : Arguments) :
    Except ArgumentError Command := do
  name.spec.check files a
  match name with
  | validate =>
    return .validate (← openOperand files "SOURCEFILE" a.operands) (a.value? dialectOption.name)
  | classes =>
    return .classes (← openOperand files "SOURCEFILE" a.operands) (a.value? dialectOption.name)
  | optimize =>
    let css ← openOperand files "CSSFILE" a.operands
    let markup ← (a.value? markupOption.name).mapM (openInput files markupOption.hint)
    return .optimize css markup (a.value? dialectOption.name) (a.value? outputOption.name)
      (a.isOn statsSwitch noStatsSwitch true)
  | dialects =>
    requireNoOperand a.operands
    return .dialects
  | serve =>
    requireNoOperand a.operands
    return .serve (a.value? hostOption.name) ((a.value? portOption.name).bind readInteger?)
      (a.isOn debugSwitch noDebugSwitch false)

end CommandName

/-- What the arguments ask for. -/
inductive Invocation where
  | version
  | help (scope : Option CommandName)
  | command (level : LogLevel) (command : Command)
  deriving DecidableEq, Repr

/-- An error in the arguments, of the program itself or of a command. -/
structure UsageError where
  scope : Option CommandName
  error : ArgumentError
  deriving DecidableEq, Repr

/-- How the program or one of its commands is called. -/
def usage : Option CommandName → String
  | none => programName ++ " [OPTIONS] COMMAND [ARGS]..."
  | some c =>
    programName ++ " " ++ c.text ++ " [OPTIONS]"
      ++ match c.operand? with
        | none => ""
        | some operand => " " ++ operand

namespace UsageError

def helpCommand (e : UsageError) : String :=
  match e.scope with
  | none => programName ++ " --help"
  | some c => programName ++ " " ++ c.text ++ " --help"

def message (e : UsageError) : String :=
  (if e.error.showsUsage then
      "Usage: " ++ usage e.scope ++ "\nTry '" ++ e.helpCommand ++ "' for help.\n\n"
    else "")
    ++ "Error: " ++ e.error.message ++ "\n"

end UsageError

def readSettings (env : Environment) : Except ArgumentError Settings :=
  match Settings.ofEnvironment env with
  | .ok settings => .ok settings
  | .error e => .error (.badSettings e.message)

/-- The level that an option gives, else the settings. -/
def levelInForce (env : Environment) (option : Option Text) : Except ArgumentError LogLevel :=
  match option.bind LogLevel.ofName? with
  | some level => .ok level
  | none => do
    let settings ← readSettings env
    let title := Text.upper settings.logLevel.toList
    match LogLevel.ofTitle? title with
    | some level => return level
    | none =>
      throw (.badSettings ("STYLESWEEP_LOG_LEVEL must be one of "
        ++ joinStrings ", " (LogLevel.all.map LogLevel.title) ++ ", got " ++ title.shown))

namespace Invocation

/-- What switches in front of a command ask for instead of one; the first of them counts. -/
def ofSwitches? : List Text → Option Invocation
  | [] => none
  | switch :: _ => some (if switch = versionSwitch then .version else .help none)

/-- The options in front of a command; their values do not matter to an answer without one. -/
def readProgram (files : FileTree) (arguments : List Text) : Except ArgumentError Arguments := do
  let a ← Arguments.read programSpec arguments
  if a.switches.isEmpty then programSpec.check files a
  return a

/-- What is left when the first operand names no command: it may be an option behind `--`. -/
def ofUnknown (files : FileTree) (name : Text) (operands : List Text) :
    Except ArgumentError Invocation := do
  let a ← readProgram files operands
  match ofSwitches? a.switches with
  | some invocation => return invocation
  | none => throw (.unknownCommand name
      (Text.similarTo name (CommandName.all.map (·.text.toList))))

/-- A command with its own arguments. -/
def ofCommand (level : LogLevel) (files : FileTree) (name : CommandName) (arguments : List Text) :
    Except ArgumentError Invocation := do
  let a ← Arguments.read name.spec arguments
  if CommandName.helpSwitch ∈ a.switches then return .help (some name)
  return .command level (← name.readCommand files a)

def read (env : Environment) (files : FileTree) (arguments : List Text) :
    Except UsageError Invocation := do
  let a ← (readProgram files arguments).mapError (⟨none, ·⟩)
  match ofSwitches? a.switches, a.operands with
  | some invocation, _ => return invocation
  | none, [] => throw ⟨none, .commandMissing⟩
  | none, name :: rest =>
    match CommandName.ofText? name with
    | none => (ofUnknown files name a.operands).mapError (⟨none, ·⟩)
    | some c =>
      let level ← (levelInForce env (a.value? logLevelOption.name)).mapError (⟨none, ·⟩)
      (ofCommand level files c rest).mapError (⟨some c, ·⟩)

end Invocation

end WebTidy
