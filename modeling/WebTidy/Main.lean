import WebTidy.CommandLine.Run

/-!
# The program

Looks up the files that the arguments may mean, runs the program on them and carries out what it
decided. The address of a server is announced; to listen there is left to a host of the web
application.
-/

namespace WebTidy

/-- A name as a path for the system. -/
def systemPath (name : FileName) : String := String.ofList ('/' :: Text.join ['/'] name)

/-- Adds what is found at a name. -/
def loadName (tree : FileTree) (name : FileName) : IO FileTree := do
  if ← (System.mkFilePath [systemPath name]).isDir then
    return { tree with directories := name :: tree.directories }
  try
    let bytes ← IO.FS.readBinFile (systemPath name)
    return { tree with files := Table.set name bytes.toList tree.files }
  catch _ => return tree

/-- The names that a path passes, up to the one that it leads to. -/
def passedNames (start : FileName) : List Text → List FileName
  | [] => [start]
  | component :: rest =>
    let next := if component = parentComponent then start.dropLast else start ++ [component]
    start :: passedNames next rest

def loadPath (tree : FileTree) (path : Text) : IO FileTree :=
  let start := if isAbsolute path then [] else tree.workingDirectory
  (passedNames start (pathComponents path)).foldlM loadName tree

/-- The paths that an argument may hold: itself, or what follows an equals sign or a letter. -/
def candidatePaths (argument : Text) : List Text :=
  [argument, (Text.cutAt '=' argument).2, argument.drop 2]

def settingNames : List String :=
  ["STYLESWEEP_DEFAULT_DIALECT", "STYLESWEEP_HOST", "STYLESWEEP_PORT", "STYLESWEEP_DOWNLOAD_NAME",
    "STYLESWEEP_LOG_LEVEL", "STYLESWEEP_MAX_INPUT_BYTES"]

def loadEnvironment : IO Environment :=
  settingNames.filterMapM fun name => do
    return (← IO.getEnv name).map fun value => (name, value)

def saveFile (file : FileName × Bytes) : IO Unit :=
  IO.FS.writeBinFile (systemPath file.1) file.2.toByteArray

end WebTidy

open WebTidy in
def main (arguments : List String) : IO UInt32 := do
  let arguments := arguments.map String.toList
  let env ← loadEnvironment
  let directory ← IO.currentDir
  let empty : FileTree := ⟨pathComponents directory.toString.toList, [], []⟩
  let files ← (arguments.flatMap candidatePaths).foldlM loadPath empty
  let outcome := runProgram env files arguments
  (FileTree.changes files outcome.files).forM saveFile
  (← IO.getStdout).putStr (String.ofList outcome.printed)
  (← IO.getStderr).putStr outcome.reported
  if let some fault := outcome.fault then
    (← IO.getStderr).putStrLn fault.message
  return outcome.exitCode.toUInt32
