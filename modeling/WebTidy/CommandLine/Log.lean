import WebTidy.Checks.Review
import WebTidy.Stylesheet.SizeReport

/-!
# The log

What the commands report on the way, below the level of a warning. Each record names its subject
and is shown if the level in force admits it.
-/

namespace WebTidy

inductive LogLevel where
  | debug
  | info
  | warning
  | error
  deriving DecidableEq, Repr

namespace LogLevel

def all : List LogLevel := [debug, info, warning, error]

def name : LogLevel → String
  | debug => "debug"
  | info => "info"
  | warning => "warning"
  | error => "error"

def title : LogLevel → String
  | debug => "DEBUG"
  | info => "INFO"
  | warning => "WARNING"
  | error => "ERROR"

def rank : LogLevel → Nat
  | debug => 0
  | info => 1
  | warning => 2
  | error => 3

/-- The level of a name in any case. -/
def ofName? (name : Text) : Option LogLevel := all.find? fun l => l.name.toList == name.lower

def ofTitle? (title : Text) : Option LogLevel := all.find? fun l => l.title.toList == title

end LogLevel

structure LogRecord where
  level : LogLevel
  subject : String
  message : String
  deriving DecidableEq, Repr

def LogRecord.render (r : LogRecord) : String :=
  r.level.title ++ " " ++ r.subject ++ ": " ++ r.message ++ "\n"

/-- The records that a level admits, one a line. -/
def renderLog (level : LogLevel) (records : List LogRecord) : String :=
  String.join ((records.filter fun r => level.rank ≤ r.level.rank).map LogRecord.render)

def sheetRecord (sheet : Sheet) : LogRecord where
  level := .debug
  subject := "stylesweep.stylesheet.parser"
  message := "Parsed " ++ toString sheet.rules.length ++ " rule(s) and "
    ++ toString sheet.media.length ++ " media block(s)"

def optimizerRecord (message : String) : LogRecord :=
  ⟨.debug, "stylesweep.stylesheet.optimizer", message⟩

/-- A record for every group that the filter drops. -/
def droppedRecords (filter : ClassFilter) (groups : Groups) : List LogRecord :=
  match filter with
  | none => []
  | some used => (groups.filter (namesUnusedClass used ·.1)).map fun g =>
      optimizerRecord ("Dropping unused selector " ++ Text.shown g.1)

def mediaRecords (filter : ClassFilter) (block : MediaBlock) : List LogRecord :=
  droppedRecords filter (Groups.ofRules block.rules)
    ++ if (block.grouped filter).groups.isEmpty then
        [optimizerRecord ("Dropping empty media block " ++ block.query.shown)]
      else []

def sizeRecord (r : SizeReport) : LogRecord where
  level := .info
  subject := "stylesweep.stylesheet.report"
  message := "Optimized CSS: " ++ toString r.before ++ " -> " ++ toString r.after
    ++ " bytes (" ++ r.reduction.render ++ "%)"

/-- What tidying a stylesheet reports. -/
def tidyLog (filter : ClassFilter) (css : Text) : List LogRecord :=
  let sheet := Sheet.parse css
  sheetRecord sheet :: droppedRecords filter (Groups.ofRules sheet.rules)
    ++ sheet.media.flatMap (mediaRecords filter)
    ++ [sizeRecord (SizeReport.compute filter css (tidy filter css))]

/-- A stylesheet that could not be tidied. -/
def failureRecord (reason : String) : LogRecord :=
  ⟨.warning, "stylesweep.stylesheet.report", "CSS optimization failed: " ++ reason⟩

/-- What tidying reports with its outcome; a failure comes before any other record. -/
def outcomeLog (filter : ClassFilter) (css : Text) : TidyOutcome → List LogRecord
  | .tidied _ _ => tidyLog filter css
  | .failed reason => [failureRecord reason]

/-- What a review reports; that of an empty source goes unreported. -/
def reviewLog (d : Dialect) (source : Text) (r : Review) : List LogRecord :=
  if source.isEmpty then []
  else
    [⟨.info, "stylesweep.validation.validator",
      "Validated " ++ d.displayName ++ " source: " ++ toString r.errors.length ++ " error(s), "
        ++ toString r.warnings.length ++ " warning(s)"⟩]

end WebTidy
