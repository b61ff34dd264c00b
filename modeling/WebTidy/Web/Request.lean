import WebTidy.Json.Reader
import WebTidy.Text.Utf8
import WebTidy.Web.Url

/-!
# Requests

The target of a request is a path with what may follow it, or a full URL. What is left of a URL is
read as a URL again, so a path that begins with two slashes loses its first component. Escapes in a
path stand for characters. A request can be sent if its target is a URL with a well-formed authority
and its header holds no line end.
-/

namespace WebTidy

/-- The path with its escapes of ASCII characters resolved; no route has other characters. -/
def unescapePath : Text → Text
  | '%' :: a :: b :: t =>
    match Json.hexValue? a, Json.hexValue? b with
    | some high, some low =>
      if high < 8 then Char.ofNat (high * 16 + low) :: unescapePath t
      else '%' :: unescapePath (a :: b :: t)
    | _, _ => '%' :: unescapePath (a :: b :: t)
  | c :: t => c :: unescapePath t
  | [] => []
termination_by t => t.length

/-- The path inside a target that is to be sent as a URL. -/
def sentPath (target : Text) : Text := (Url.read (Url.read target).path).path

/-- The path that a target asks for, without the slashes in front. -/
def targetPath (target : Text) : Text :=
  (unescapePath (Url.read (sentPath target)).render).dropWhile (· == '/')

/-- Whether the target is one of a web socket, by its scheme. -/
def asksWebSocket (target : Text) : Bool :=
  let scheme := (Url.read target).scheme.map Char.toLower
  scheme == "ws:".toList || scheme == "wss:".toList

/-- Whether a request with the target can be sent. -/
def checkTarget (target : Text) : Except UrlError Unit := do
  (Url.read target).checkBrackets
  (Url.read (Url.read target).path).checkBrackets
  (Url.read (sentPath target)).check
  (Url.read target).check

/-- The path with a single slash wherever there are more. -/
def mergeSlashes : Text → Text
  | [] => []
  | c :: t => if c = '/' ∧ t.head? = some '/' then mergeSlashes t else c :: mergeSlashes t

structure Request where
  method : Text
  /-- The path with what may follow it, as it stands in the request. -/
  target : Text
  contentType : Option Text
  body : Bytes
  deriving DecidableEq, Repr

inductive RequestError where
  | badTarget (e : UrlError)
  | lineEndInHeader
  deriving DecidableEq, Repr

def holdsLineEnd (t : Text) : Bool := t.any fun c => c == '\n' || c == '\r'

/-- Whether the request can be sent. -/
def Request.check (r : Request) : Except RequestError Unit := do
  (checkTarget r.target).mapError .badTarget
  if r.contentType.any holdsLineEnd then throw .lineEndInHeader

end WebTidy
