import WebTidy.Text.Basic

/-!
# File paths

A path is cut into components at its slashes. Empty components and the component `.` lead nowhere
and do not count. A component has at most 255 bytes and a path at most 4095.
-/

namespace WebTidy

def currentComponent : Text := ['.']

def parentComponent : Text := ['.', '.']

def pathComponents (path : Text) : List Text :=
  (path.splitOn '/').filter fun c => !c.isEmpty && c != currentComponent

def isAbsolute (path : Text) : Bool := Text.startsWith path ['/']

/-- The slashes that a full path keeps in front: two if there are exactly two, else one. -/
def rootSlashes : Text → Text
  | '/' :: '/' :: '/' :: _ => ['/']
  | '/' :: '/' :: _ => ['/', '/']
  | '/' :: _ => ['/']
  | _ => []

/-- The path with its root and its components only, as messages show it. -/
def plainPath (path : Text) : Text :=
  match rootSlashes path ++ Text.join ['/'] (pathComponents path) with
  | [] => currentComponent
  | plain => plain

def maxComponentBytes : Nat := 255

def maxPathBytes : Nat := 4095

/-- The last component of a path. -/
def baseName (path : Text) : Text := ((pathComponents path).getLast?).getD []

/-- The last dot of a path's last component and what follows it; there is no extension if that dot
begins or ends the component. -/
def fileExtension (path : Text) : Text :=
  let name := baseName path
  let tail := (name.reverse.takeWhile (· != '.')).reverse
  if tail.isEmpty || name.length ≤ tail.length + 1 then [] else '.' :: tail

theorem ne_nil_of_mem_pathComponents {path c : Text} (h : c ∈ pathComponents path) :
    c ≠ [] ∧ c ≠ currentComponent := by
  simpa [pathComponents] using (List.mem_filter.mp h).2

end WebTidy
