import WebTidy.CommandLine.Command
import WebTidy.CommandLine.Captured

/-!
# Running a command

A run turns arguments, environment and files into what is printed, the exit code and the files
afterwards. Only tidying with an output file changes a file, and only when nothing went wrong.
-/

namespace WebTidy

/-- What stops a run that was asked for correctly. -/
inductive Fault where
  | undecodable (e : Utf8Error)
  | unwritable (e : WriteError)
  | unknownDialect (e : UnknownDialect)
  | nullCharacter
  deriving DecidableEq, Repr

def Fault.message : Fault → String
  | undecodable e => e.message
  | unwritable e => e.message
  | unknownDialect e => e.message
  | nullCharacter => ArgumentError.nullCharacter.message

/-- The address of a web server to be started. -/
structure Served where
  host : String
  port : Int
  debug : Bool
  deriving DecidableEq, Repr

structure Outcome where
  exitCode : Nat
  /-- What goes to the standard output. -/
  printed : Text
  /-- What goes to the standard error. -/
  reported : String
  fault : Option Fault
  files : FileTree
  served : Option Served
  deriving DecidableEq, Repr

/-- Why a command did not finish; a fault may come after log lines. -/
inductive Stop where
  | usage (e : ArgumentError)
  | fault (f : Fault) (reported : String)
  deriving DecidableEq, Repr

namespace Outcome

def done (files : FileTree) (exitCode : Nat) (printed : Text) (reported : String) : Outcome :=
  ⟨exitCode, printed.captured, reported, none, files, none⟩

def failed (files : FileTree) (fault : Fault) (reported : String) : Outcome :=
  ⟨1, [], reported, some fault, files, none⟩

def ofUsageError (files : FileTree) (e : UsageError) : Outcome :=
  if e.error = .nullCharacter then failed files .nullCharacter ""
  else done files 2 [] (String.ofList (Text.captured e.message.toList))

def ofStop (files : FileTree) (name : CommandName) : Stop → Outcome
  | .usage e => ofUsageError files ⟨some name, e⟩
  | .fault f reported => failed files f reported

end Outcome

/-- Puts a line end behind every line. -/
def unlines (lines : List Text) : Text := lines.flatMap (· ++ ['\n'])

def InputFile.read (file : InputFile) : Except Stop Text :=
  match decodeUtf8 file.content with
  | .ok text => .ok text.normalizeNewlines
  | .error e => .error (.fault (.undecodable e) "")

theorem InputFile.read_utf8 (path t : Text) : read ⟨path, t.utf8⟩ = .ok t.normalizeNewlines := by
  simp only [read, decodeUtf8_utf8]

/-- The dialect that is named, else that of the file's extension, else the configured one. -/
def chooseDialect (env : Environment) (path : Text) (name : Option Text) : Except Stop Dialect :=
  match name with
  | some name =>
    match Dialect.named name with
    | .ok d => .ok d
    | .error e => .error (.usage (.invalidValue "--dialect" e.message))
  | none =>
    match Dialect.ofPath? path with
    | some d => .ok d
    | none =>
      match readSettings env with
      | .error e => .error (.usage e)
      | .ok settings =>
        match Dialect.named settings.defaultDialect.toList with
        | .ok d => .ok d
        | .error e => .error (.fault (.unknownDialect e) "")

def padRight (width : Nat) (s : String) : Text :=
  s.toList ++ List.replicate (width - s.length) ' '

/-- The list of the dialects. -/
def dialectLines : List Text :=
  Dialect.all.map fun d =>
    padRight 6 d.id ++ ' ' :: padRight 15 d.longId ++ ' ' :: d.displayName.toList

/-- A review as it is printed for a file. -/
def Review.lines (r : Review) (fileName : Text) (d : Dialect) : List Text :=
  if r.isEmpty then
    ["OK: ".toList ++ fileName ++ (" looks valid " ++ d.displayName ++ " (0 diagnostics)").toList]
  else
    r.all.map (·.render.toList) ++ [[],
      ("Summary: " ++ toString r.errors.length ++ " error(s), " ++ toString r.warnings.length
        ++ " warning(s)").toList]

def SizeReport.summary (r : SizeReport) : String :=
  "Original: " ++ toString r.before ++ " bytes, optimized: " ++ toString r.after
    ++ " bytes (" ++ r.reduction.render ++ "% reduction)\n"
    ++ match r.classCount with
      | none => ""
      | some n => "Used classes: " ++ toString n ++ "\n"

namespace Command

/-- The filter that a markup file gives; a blank file gives none. -/
def markupFilter (env : Environment) (markup : Option InputFile) (dialect : Option Text) :
    Except Stop ClassFilter :=
  match markup with
  | none => .ok none
  | some file => do
    let text ← file.read
    if text.trim.isEmpty then return none
    let d ← chooseDialect env file.path dialect
    return some (usedClasses d.classAttributes text)

/-- Writes a text to the output file, or prints it if there is none. -/
def deliver (files : FileTree) (output : Option Text) (text : Text) :
    Except WriteError (FileTree × Text) :=
  match output with
  | none => .ok (files, unlines [text])
  | some path => (files.write path text.utf8).map fun after => (after, [])

/-- The exit code that an outcome gives, and what is reported about it. -/
def conclude (stats : Bool) : TidyOutcome → Nat × String
  | .tidied _ size => (0, if stats then size.summary else "")
  | .failed reason =>
    (1, String.ofList (Text.captured ("Optimization failed: " ++ reason ++ "\n").toList))

/-- The outcome is delivered whatever it is, and a failure shows in the exit code. -/
def runOptimize (env : Environment) (files : FileTree) (level : LogLevel) (css : InputFile)
    (markup : Option InputFile) (dialect output : Option Text) (stats : Bool) :
    Except Stop Outcome := do
  let text ← css.read
  let filter ← markupFilter env markup dialect
  let result := tidyReport filter text
  let log := renderLog level (outcomeLog filter text result)
  match deliver files output result.output with
  | .ok (files, printed) =>
    let (exitCode, report) := conclude stats result
    return Outcome.done files exitCode printed (log ++ report)
  | .error e => throw (.fault (.unwritable e) log)

def runValidate (env : Environment) (files : FileTree) (level : LogLevel) (source : InputFile)
    (dialect : Option Text) : Except Stop Outcome := do
  let d ← chooseDialect env source.path dialect
  let text ← source.read
  let r := review d [] text
  return Outcome.done files (if r.passed then 0 else 1) (unlines (r.lines (baseName source.path) d))
    (renderLog level (reviewLog d text r))

def runClasses (env : Environment) (files : FileTree) (source : InputFile)
    (dialect : Option Text) : Except Stop Outcome := do
  let d ← chooseDialect env source.path dialect
  let text ← source.read
  return Outcome.done files 0 (unlines (usedClasses d.classAttributes text).names) ""

def runServe (env : Environment) (files : FileTree) (host : Option Text) (port : Option Int)
    (debug : Bool) : Except Stop Outcome :=
  match readSettings env with
  | .error e => .error (.usage e)
  | .ok settings =>
    let served : Served :=
      ⟨(host.map String.ofList).getD settings.host, port.getD settings.port, debug⟩
    let line := "Starting Stylesweep on " ++ served.host ++ ":" ++ toString served.port
    .ok { Outcome.done files 0 (unlines [line.toList]) "" with served := some served }

def run (env : Environment) (files : FileTree) (level : LogLevel) :
    Command → Except Stop Outcome
  | validate source dialect => runValidate env files level source dialect
  | optimize css markup dialect output stats =>
    runOptimize env files level css markup dialect output stats
  | classes source dialect => runClasses env files source dialect
  | dialects => .ok (Outcome.done files 0 (unlines dialectLines) "")
  | serve host port debug => runServe env files host port debug

end Command

/-- Runs the program. -/
def runProgram (env : Environment) (files : FileTree) (arguments : List Text) : Outcome :=
  match Invocation.read env files arguments with
  | .error e => Outcome.ofUsageError files e
  | .ok .version =>
    Outcome.done files 0 (unlines [(programName ++ ", version " ++ programVersion).toList]) ""
  | .ok (.help scope) => Outcome.done files 0 (unlines [("Usage: " ++ usage scope).toList]) ""
  | .ok (.command level command) =>
    match command.run env files level with
    | .ok outcome => outcome
    | .error stop => Outcome.ofStop files command.name stop

end WebTidy
