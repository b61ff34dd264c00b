import WebTidy.Json.Views
import WebTidy.Settings

/-!
# The endpoints

An endpoint takes the members of a JSON object and answers with a JSON value or with a stylesheet to
download. It refuses a request that lacks its main member or that names an unknown dialect.
-/

namespace WebTidy

/-- The endpoints that take a body. -/
inductive Endpoint where
  | validate
  | classes
  | optimize
  | download
  deriving DecidableEq, Repr

abbrev Members := Table String Json

inductive Refusal where
  | required (member : String)
  | unknownDialect (e : UnknownDialect)
  deriving DecidableEq, Repr

def Refusal.message : Refusal → String
  | required member => member ++ " required"
  | unknownDialect e => e.message

inductive Reply where
  | json (value : Json)
  | attachment (css : Text)

/-- What to look up as the dialect: the member, unless it counts as missing. -/
def dialectName (settings : Settings) (data : Members) : Text :=
  match Table.get? "dialect" data with
  | none => settings.defaultDialect.toList
  | some value => if value.isFalsy then settings.defaultDialect.toList else value.display

def dialectFor (settings : Settings) (data : Members) : Except Refusal Dialect :=
  match Dialect.named (dialectName settings data) with
  | .ok d => .ok d
  | .error e => .error (.unknownDialect e)

/-- A member that has to be a string. -/
def requiredText (member : String) (data : Members) : Except Refusal Text :=
  match (Table.get? member data).bind Json.asText? with
  | some t => .ok t
  | none => .error (.required member)

/-- The filter that the markup gives; markup that is blank or no string gives none, and then the
dialect does not matter. -/
def requestFilter (settings : Settings) (data : Members) : Except Refusal ClassFilter :=
  match (Table.get? "markup" data).bind Json.asText? with
  | none => .ok none
  | some markup =>
    if markup.trim.isEmpty then .ok none
    else (dialectFor settings data).map fun d => some (usedClasses d.classAttributes markup)

def tidyRequest (settings : Settings) (data : Members) : Except Refusal TidyOutcome :=
  match Table.get? "css" data with
  | none => .error (.required "css")
  | some css => (requestFilter settings data).map fun filter => tidyValue filter css

def Endpoint.answer (settings : Settings) (data : Members) : Endpoint → Except Refusal Reply
  | validate => do
    let source ← requiredText "source" data
    let d ← dialectFor settings data
    return .json (review d [] source).toJson
  | classes => do
    let markup ← requiredText "markup" data
    let d ← dialectFor settings data
    let used := usedClasses d.classAttributes markup
    return .json (.obj [("classes", .arr (used.names.map Json.ofText)), ("count", .int used.size)])
  | optimize => (tidyRequest settings data).map fun outcome => .json outcome.toJson
  | download => (tidyRequest settings data).map fun outcome => .attachment outcome.output

/-- The list of the dialects. -/
def dialectsJson : Json :=
  .arr (Dialect.all.map fun d =>
    .obj [("id", .str d.id), ("long_id", .str d.longId), ("name", .str d.displayName),
      ("attributes", .arr (d.conventions.attributes.map Json.str))])

end WebTidy
