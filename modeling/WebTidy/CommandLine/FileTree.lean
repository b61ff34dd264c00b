import WebTidy.FilePath
import WebTidy.Table
import WebTidy.Text.Utf8

/-!
# File trees

A file is known by the components of its full path. The directories are those on the way to a file
or to the working directory, and any others that are given. A file is written only into a directory
that is there.
-/

namespace WebTidy

/-- The components of a full path. -/
abbrev FileName := List Text

structure FileTree where
  workingDirectory : FileName
  directories : List FileName
  files : Table FileName Bytes
  deriving DecidableEq, Repr

/-- What a path leads to. -/
inductive Entry where
  | missing
  | beyondFile
  | nameTooLong
  | directory (name : FileName)
  | file (name : FileName) (content : Bytes)
  deriving DecidableEq, Repr

inductive WriteError where
  | noDirectory (path : Text)
  | beyondFile (path : Text)
  | nameTooLong (path : Text)
  | isDirectory (path : Text)
  deriving DecidableEq, Repr

def WriteError.message : WriteError → String
  | noDirectory path => "[Errno 2] No such file or directory: " ++ path.shown
  | beyondFile path => "[Errno 20] Not a directory: " ++ path.shown
  | nameTooLong path => "[Errno 36] File name too long: " ++ path.shown
  | isDirectory path => "[Errno 21] Is a directory: " ++ path.shown

namespace FileTree

def isDirectory (tree : FileTree) (name : FileName) : Bool :=
  name.isPrefixOf tree.workingDirectory || tree.directories.any name.isPrefixOf
    || tree.files.any fun f => name.isPrefixOf f.1 && name != f.1

def child (tree : FileTree) (name : FileName) : Entry :=
  match Table.get? name tree.files with
  | some content => .file name content
  | none => if tree.isDirectory name then .directory name else .missing

/-- One component further; the root is its own parent. -/
def step (tree : FileTree) : Entry → Text → Entry
  | .missing, _ => .missing
  | .beyondFile, _ => .beyondFile
  | .nameTooLong, _ => .nameTooLong
  | .file _ _, _ => .beyondFile
  | .directory name, component =>
    if component.isEmpty || component == currentComponent then .directory name
    else if component = parentComponent then .directory name.dropLast
    else if maxComponentBytes < component.utf8ByteSize then .nameTooLong
    else tree.child (name ++ [component])

def start (tree : FileTree) (path : Text) : Entry :=
  .directory (if isAbsolute path then [] else tree.workingDirectory)

/-- What the path leads to; the empty path leads nowhere. -/
def lookup (tree : FileTree) (path : Text) : Entry :=
  if path.isEmpty then .missing
  else if maxPathBytes < path.utf8ByteSize then .nameTooLong
  else (path.splitOn '/').foldl tree.step (tree.start path)

/-- The place of a file that may be written: the last component, which is not there or a file, in a
directory. -/
def writable (tree : FileTree) (path : Text) : Except WriteError FileName :=
  let components := pathComponents path
  if maxPathBytes < (plainPath path).utf8ByteSize then .error (.nameTooLong (plainPath path))
  else match components.getLast?, components.dropLast.foldl tree.step (tree.start path) with
  | none, _ => .error (.isDirectory (plainPath path))
  | some _, .missing => .error (.noDirectory (plainPath path))
  | some _, .beyondFile => .error (.beyondFile (plainPath path))
  | some _, .nameTooLong => .error (.nameTooLong (plainPath path))
  | some _, .file _ _ => .error (.beyondFile (plainPath path))
  | some last, .directory name =>
    match tree.step (.directory name) last with
    | .directory _ => .error (.isDirectory (plainPath path))
    | .nameTooLong => .error (.nameTooLong (plainPath path))
    | _ => .ok (name ++ [last])

def write (tree : FileTree) (path : Text) (content : Bytes) : Except WriteError FileTree :=
  (tree.writable path).map fun name => { tree with files := Table.set name content tree.files }

/-- The files of `after` that `before` lacks or holds with other content. -/
def changes (before after : FileTree) : Table FileName Bytes :=
  after.files.filter fun f => Table.get? f.1 before.files ≠ some f.2

theorem write_eq_ok {tree after : FileTree} {path : Text} {content : Bytes}
    (h : tree.write path content = .ok after) :
    ∃ name, tree.writable path = .ok name ∧
      after = { tree with files := Table.set name content tree.files } := by
  rw [write] at h
  cases hw : tree.writable path with
  | error e => simp [hw, Except.map] at h
  | ok name =>
    simp only [hw, Except.map, Except.ok.injEq] at h
    exact ⟨name, rfl, h.symm⟩

end FileTree

end WebTidy
