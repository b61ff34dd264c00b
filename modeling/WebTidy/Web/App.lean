import WebTidy.Json.Encoding
import WebTidy.Text.UpperCase
import WebTidy.Web.Api
import WebTidy.Web.Request

/-!
# The web application

Requests are routed by path and method. A path with doubled slashes is redirected to the one without
them, if that can be answered. No route serves web sockets. A body is read only if its media type is
one of JSON; what is no JSON object counts as an empty one, and a body over the limit is refused. A
body that is nested too deep for the reader is a failure, as nothing catches it. Browsers of other
origins may call whatever lies below `/api`.
-/

namespace WebTidy

inductive Body where
  | json (value : Json)
  | text (content : Text)
  /-- A page that names the status. -/
  | statusPage

structure Response where
  status : Nat
  headers : List (String × String)
  body : Body

structure App where
  settings : Settings
  /-- The most bytes that a body may have. -/
  limit : Option Int
  /-- The most brackets that the reader of a body can have open. -/
  nesting : Nat
  deriving DecidableEq, Repr

/-- About what a stack of a thousand frames leaves to the reader of a body: each open bracket takes
a frame, and those of the server are below. -/
def nestingLimit : Nat := 960

def App.ofSettings (settings : Settings) : App :=
  ⟨settings, some settings.maxInputBytes, nestingLimit⟩

inductive Route where
  | dialects
  | health
  | staticFile
  | endpoint (e : Endpoint)
  deriving DecidableEq, Repr

def routes : List (Text × Route) := [
    ("api/dialects".toList, .dialects), ("health".toList, .health),
    ("api/validate".toList, .endpoint .validate), ("api/classes".toList, .endpoint .classes),
    ("api/optimize".toList, .endpoint .optimize),
    ("api/optimize/download".toList, .endpoint .download)]

namespace Route

/-- The route of a path without slashes in front. A file has a name that begins with no slash and is
on one line from its second character on. -/
def ofPath? (path : Text) : Option Route :=
  match routes.lookup path with
  | some route => some route
  | none =>
    match Text.after? "static/".toList path with
    | some (c :: t) => if c = '/' ∨ t.contains '\n' then none else some .staticFile
    | _ => none

/-- The methods of each handler of a route. An endpoint has one more, for `OPTIONS` alone. -/
def handlers : Route → List (List Text)
  | endpoint _ => [["OPTIONS".toList], ["POST".toList, "OPTIONS".toList]]
  | _ => [["GET".toList, "HEAD".toList, "OPTIONS".toList]]

/-- The methods that a route answers. -/
def methods (route : Route) : List Text := route.handlers.flatten

end Route

def corsHeaders : List (String × String) := [
    ("Access-Control-Allow-Origin", "*"), ("Access-Control-Allow-Headers", "Content-Type"),
    ("Access-Control-Allow-Methods", "GET, POST, OPTIONS")]

def htmlHeader : String × String := ("Content-Type", "text/html; charset=utf-8")

namespace Response

def ofJson (status : Nat) (value : Json) : Response :=
  ⟨status, [("Content-Type", "application/json")], .json value⟩

def page (status : Nat) : Response := ⟨status, [htmlHeader], .statusPage⟩

/-- A response that is empty apart from its headers. -/
def blank (status : Nat) : Response := ⟨status, [htmlHeader], .text []⟩

def withCors (r : Response) : Response := { r with headers := r.headers ++ corsHeaders }

/-- The response without its content; a status page still tells its status. -/
def withoutBody (r : Response) : Response :=
  match r.body with
  | .statusPage => r
  | _ => { r with body := .text [] }

/-- A stylesheet to download. A header cannot hold a line end, so a name with one is a failure. -/
def attachment (name : String) (css : Text) : Response :=
  if holdsLineEnd name.toList then page 500
  else
    ⟨200, [("Content-Type", "text/css; charset=utf-8"),
      ("Content-Disposition", "attachment; filename=\"" ++ name ++ "\"")], .text css⟩

end Response

/-- The blanks that do not count around a value in a header. -/
def isHeaderBlank (c : Char) : Bool := c == ' ' || c == '\t'

/-- The media type of a content type, which may have parameters behind a semicolon. -/
def mediaType (contentType : Text) : Text :=
  let media := (Text.cutAt ';' contentType).1.dropWhile isHeaderBlank
  Text.lower (media.reverse.dropWhile isHeaderBlank).reverse

/-- Whether the media type of a content type is one of JSON. -/
def isJsonType (contentType : Text) : Bool :=
  let media := mediaType contentType
  media == "application/json".toList
    || (media.startsWith "application/".toList && media.endsWith "+json".toList)

/-- What reading the body of a request gives. -/
inductive BodyRead where
  | members (data : Members)
  | tooLarge
  | tooDeep

/-- Reads the body; an empty one is never too large. -/
def App.readBody (app : App) (r : Request) : BodyRead :=
  if !(r.contentType.any isJsonType) then .members []
  else if !r.body.isEmpty && app.limit.any fun limit : Int => decide (limit < r.body.length) then
    .tooLarge
  else
    match Json.ofBytes app.nesting r.body with
    | .ok (.obj data) => .members data
    | .ok _ | .error .malformed => .members []
    | .error .tooDeep => .tooDeep

namespace App

/-- The answer of an endpoint to a request with a body. -/
def post (app : App) (e : Endpoint) (r : Request) : Response :=
  match app.readBody r with
  | .tooLarge => Response.page 413
  | .tooDeep => Response.page 500
  | .members data =>
    match e.answer app.settings data with
    | .error refusal => Response.ofJson 400 (.obj [("error", .str refusal.message)])
    | .ok (.json value) => Response.ofJson 200 value
    | .ok (.attachment css) => Response.attachment app.settings.downloadName css

def healthJson : Json := .obj [("status", .str "ok"), ("version", .str programVersion)]

/-- The answer of a route to a request with one of its methods. -/
def answer (app : App) (r : Request) (method : Text) : Route → Response
  | .dialects =>
    if method = "OPTIONS".toList then (Response.blank 200).withCors
    else (Response.ofJson 200 dialectsJson).withCors
  | .health =>
    if method = "OPTIONS".toList then Response.blank 200 else Response.ofJson 200 healthJson
  | .staticFile => if method = "OPTIONS".toList then Response.blank 200 else Response.page 404
  | .endpoint e =>
    if method = "OPTIONS".toList then (Response.blank 204).withCors else (app.post e r).withCors

/-- The response to a request on a path. -/
def respond (app : App) (r : Request) (path method : Text) : Response :=
  match Route.ofPath? path, Route.ofPath? (mergeSlashes path) with
  | some route, merged =>
    if method ∈ route.methods then app.answer r method route
    else if merged.any (method ∈ ·.methods) then Response.page 308
    else Response.page 405
  | none, some merged => Response.page (if method ∈ merged.methods then 308 else 405)
  | none, none => Response.page 404

/-- The response to a request for a web socket, which no handler serves. One that lacks the method
refuses the method first. -/
def refuseWebSocket (path method : Text) : Response :=
  let handlers := ([path, mergeSlashes path].filterMap Route.ofPath?).flatMap Route.handlers
  if handlers.isEmpty then Response.page 404
  else if handlers.all (method ∈ ·) then Response.page 400
  else Response.page 405

/-- The response to a request. The case of a method does not matter for the route; only to `HEAD` as
it is the body is left out. -/
def handle (app : App) (r : Request) : Response :=
  let path := targetPath r.target
  let method := Text.upper r.method
  let response :=
    if asksWebSocket r.target then refuseWebSocket path method else app.respond r path method
  if r.method = "HEAD".toList then response.withoutBody else response

end App

end WebTidy
