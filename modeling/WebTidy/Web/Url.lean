import WebTidy.Text.Basic

/-!
# URLs

A URL has a scheme and an authority, or lacks them, and a path. The authority stands behind two
slashes and names a host and perhaps a port. Query and fragment are left out.
-/

namespace WebTidy

structure Url where
  /-- With its colon; empty if there is none. -/
  scheme : Text
  /-- Without the slashes in front; empty if there is none. -/
  authority : Text
  path : Text
  deriving DecidableEq, Repr

inductive UrlError where
  | loneBracket
  | badLabel
  | lastLabelTooLong
  | badPort (port : Text)
  | portOutOfRange
  deriving DecidableEq, Repr

def isSchemeChar (c : Char) : Bool := c.isAlphanum || c == '+' || c == '-' || c == '.'

/-- The scheme and what follows it. A scheme begins with a letter and ends with a colon. -/
def cutScheme (t : Text) : Text × Text :=
  let scheme := t.takeWhile isSchemeChar
  match t.dropWhile isSchemeChar with
  | ':' :: rest => if scheme.head?.any Char.isAlpha then (scheme ++ [':'], rest) else ([], t)
  | _ => ([], t)

/-- The authority and what follows it. -/
def cutAuthority : Text → Text × Text
  | '/' :: '/' :: t => (t.takeWhile (· != '/'), t.dropWhile (· != '/'))
  | t => ([], t)

def isQueryMark (c : Char) : Bool := c == '?' || c == '#'

def isUrlBreak (c : Char) : Bool := c == '\t' || c == '\n' || c == '\r'

/-- What may separate the labels of a host. -/
def isLabelDot (c : Char) : Bool := c == '.' || c == '。' || c == '．' || c == '｡'

def maxLabelLength : Nat := 63

def maxPort : Nat := 65535

namespace Url

/-- Reads a URL. Leading blanks and control characters do not count, and line ends and tabs count
nowhere. -/
def read (t : Text) : Url :=
  let t := (t.dropWhile fun c => c.toNat ≤ 0x20).filter (!isUrlBreak ·)
  let (scheme, t) := cutScheme (t.takeWhile (!isQueryMark ·))
  let (authority, path) := cutAuthority t
  ⟨scheme, authority, path⟩

/-- What the authority holds in front of the host, with its at sign, unless the user's name in it is
empty. -/
def userInfo (u : Url) : Text :=
  let info := (u.authority.reverse.dropWhile (· != '@')).reverse
  if info = ['@'] ∨ info.head? = some ':' then [] else info

/-- Host and port; a host with colons stands in brackets, which do not belong to it. -/
def hostAndPort (u : Url) : Text × Text :=
  let t := (u.authority.reverse.takeWhile (· != '@')).reverse
  match t.dropWhile (· != '[') with
  | [] => Text.cutAt ':' t
  | _ :: t => ((Text.cutAt ']' t).1, (Text.cutAt ':' (Text.cutAt ']' t).2).2)

def checkBrackets (u : Url) : Except UrlError Unit :=
  if u.authority.contains '[' = u.authority.contains ']' then .ok () else .error .loneBracket

/-- A label has 1 to 63 characters; only the last one may be empty. -/
def checkHost (u : Url) : Except UrlError Unit :=
  let host := u.hostAndPort.1
  let labels := host.splitOnP isLabelDot
  if host.isEmpty then .ok ()
  else if labels.dropLast.any fun l => l.isEmpty || decide (maxLabelLength < l.length) then
    .error .badLabel
  else if labels.getLast?.any fun l => decide (maxLabelLength < l.length) then
    .error .lastLabelTooLong
  else .ok ()

def checkPort (u : Url) : Except UrlError Unit :=
  let port := u.hostAndPort.2
  if !port.all Char.isDigit then .error (.badPort port)
  else if maxPort < Nat.ofDigitChars 10 port 0 then .error .portOutOfRange
  else .ok ()

def check (u : Url) : Except UrlError Unit := do
  u.checkBrackets
  u.checkHost
  u.checkPort

/-- The host in lower case, apart from escapes and what follows them. -/
def lowerHost (u : Url) : Text :=
  let host := u.hostAndPort.1
  let lower := (host.takeWhile (· != '%')).map Char.toLower ++ host.dropWhile (· != '%')
  if lower.contains ':' then '[' :: lower ++ [']'] else lower

/-- The URL as a text, with its host in lower case. -/
def render (u : Url) : Text :=
  if u.authority.isEmpty then u.scheme ++ u.path
  else
    u.scheme ++ '/' :: '/' :: u.userInfo ++ u.lowerHost
      ++ (if u.hostAndPort.2.isEmpty then [] else ':' :: u.hostAndPort.2) ++ u.path

end Url

end WebTidy
