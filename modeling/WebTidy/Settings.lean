import WebTidy.Table
import WebTidy.Text.Integer
import WebTidy.Text.Quoted

/-!
# The program's name and settings

The settings have defaults, which variables of the environment replace. The first variable, in the
order of the settings, that is no whole number where one is needed is an error.
-/

namespace WebTidy

def programName : String := "stylesweep"

def programVersion : String := "0.1.0"

abbrev Environment := Table String String

structure Settings where
  defaultDialect : String
  host : String
  port : Int
  downloadName : String
  logLevel : String
  maxInputBytes : Int
  deriving DecidableEq, Repr

structure SettingsError where
  name : String
  value : String
  deriving DecidableEq, Repr

def SettingsError.message (e : SettingsError) : String :=
  e.name ++ " must be an integer, got " ++ Text.shown e.value.toList

namespace Settings

def default : Settings := ⟨"jsx", "127.0.0.1", 5000, "optimized.css", "WARNING", 2000000⟩

def textSetting (env : Environment) (name value : String) : String :=
  (Table.get? name env).getD value

def integerSetting (env : Environment) (name : String) (value : Int) :
    Except SettingsError Int :=
  match Table.get? name env with
  | none => .ok value
  | some raw =>
    match readInteger? raw.toList with
    | some n => .ok n
    | none => .error ⟨name, raw⟩

def ofEnvironment (env : Environment) : Except SettingsError Settings := do
  let port ← integerSetting env "STYLESWEEP_PORT" default.port
  let maxInputBytes ← integerSetting env "STYLESWEEP_MAX_INPUT_BYTES" default.maxInputBytes
  return {
    defaultDialect := textSetting env "STYLESWEEP_DEFAULT_DIALECT" default.defaultDialect
    host := textSetting env "STYLESWEEP_HOST" default.host
    port
    downloadName := textSetting env "STYLESWEEP_DOWNLOAD_NAME" default.downloadName
    logLevel := textSetting env "STYLESWEEP_LOG_LEVEL" default.logLevel
    maxInputBytes }

end Settings

end WebTidy
