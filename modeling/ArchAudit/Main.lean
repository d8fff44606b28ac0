import ArchAudit.Command.Run

/-!
# The command line

Reads from disk what the command will look at, runs the command on that picture of the file system,
prints what it prints and writes the report that it writes.
-/

namespace ArchAudit

namespace Disk

/-- The bytes of a file, or the failure to read it. -/
def readSource (path : String) : IO Source := do
  try
    return .complete (← IO.FS.readBinFile path).toList
  catch failure =>
    return ⟨[], some (.interrupted (toString failure))⟩

/-- Whether the content of a file can matter to a scan. -/
def isRead (name : String) : Bool :=
  name = Scanner.scriptName

/-- The entries of a directory, with everything below it.  Files that no scan reads are empty. -/
partial def loadDirectory (path : String) : IO Directory := do
  try
    let here ← IO.FS.realPath path
    let mut directory := Directory.empty
    for entry in ← here.readDir do
      let below := path ++ "/" ++ entry.fileName
      if ← entry.path.isDir then
        directory := .folder entry.fileName (← loadDirectory below) directory
      else
        let source ← if isRead entry.fileName then readSource below else pure (.complete [])
        directory := .file entry.fileName source directory
    return directory
  catch _ =>
    return .empty

/-- Puts the directory at a place into the picture. -/
def putDirectory (names : List String) (entries : Directory) (root : Directory) : Directory :=
  match names with
  | [] => entries
  | name :: others => Directory.changeFolder (putDirectory others entries) root name

/-- Puts one place on disk into the picture, a directory with everything below it if that is asked
for. -/
def loadPlace (deep : Bool) (names : List String) (root : Directory) : IO Directory := do
  let path := "/" ++ Path.ofNames names
  let here ← try some <$> IO.FS.realPath path catch _ => pure none
  match here, names.getLast? with
  | none, _ => return root
  | some here, last =>
    if !(← here.pathExists) then return root
    else if ← here.isDir then
      if deep then return putDirectory names (← loadDirectory path) root
      else return Directory.putFolder names root
    else
      match last with
      | some name => return Directory.putFile (← readSource path) name names.dropLast root
      | none => return root

/-- Follows the pieces of a path on disk and puts every place on the way into the picture. -/
def loadPieces (deep : Bool) : List String → List String → Directory → IO Directory
  | names, [], root => loadPlace deep names root
  | names, piece :: pieces, root => do
    let root ← loadPlace false names root
    if piece = "" ∨ piece = "." then loadPieces deep names pieces root
    else if piece = ".." then loadPieces deep names.dropLast pieces root
    else loadPieces deep (names ++ [piece]) pieces root

/-- Puts what a path leads to into the picture. -/
def loadPath (deep : Bool) (system : FileSystem) (path : String) : IO FileSystem := do
  let root ← loadPieces deep (system.origin path) (Path.pieces path) system.root
  return { system with root := root }

/-- The picture of the file system for a command. -/
def load (command : Command) : IO FileSystem := do
  let here ← IO.FS.realPath "."
  let names := Path.names here.toString
  let system : FileSystem := ⟨Directory.putFolder names .empty, names⟩
  match command with
  | .scan options =>
    let system ← loadPath true system options.path
    let system ← options.vocabulary.toList.foldlM (loadPath false) system
    options.output.toList.foldlM (loadPath false) system
  | .vocabulary path => path.toList.foldlM (loadPath false) system
  | _ => return system

/-- The current time in seconds since the start of 1970. -/
def timestamp : IO String := do
  try
    let self ← IO.FS.realPath "/proc/self"
    return toString (← self.metadata).modified.sec
  catch _ =>
    return "0"

/-- The setting of colours and log messages. -/
def environment : IO Environment := do
  let forced := (← IO.getEnv "CLICOLOR_FORCE").any fun value => value ≠ "0"
  let refused := (← IO.getEnv "NO_COLOR").isSome
  let terminal ← (← IO.getStdout).isTty
  return ⟨forced || (terminal && !refused), ← IO.getEnv "RUST_LOG", ← timestamp⟩

/-- Writes the report of a run that ended well to the file that was asked for. -/
def save (command : Command) (outcome : Outcome) : IO Unit :=
  match command with
  | .scan options =>
    match options.output, options.format with
    | _, .terminal => pure ()
    | none, _ => pure ()
    | some path, _ =>
      match outcome.exitCode, outcome.files.read path with
      | 0, .ok source => IO.FS.writeBinFile path ⟨source.bytes.toArray⟩
      | _, _ => pure ()
  | _ => pure ()

/-- Prints what a run prints. -/
def print (outcome : Outcome) : IO UInt32 := do
  IO.print outcome.stdout
  IO.eprint outcome.stderr
  return outcome.exitCode.toUInt32

end Disk

end ArchAudit

/-- Runs the command line. -/
def main (arguments : List String) : IO UInt32 := do
  let environment ← ArchAudit.Disk.environment
  match ArchAudit.Arguments.parse arguments with
  | .error failure =>
    let outcome := ArchAudit.Run.usageOutcome (.fresh "") failure
    ArchAudit.Disk.print (outcome.startedIn environment)
  | .ok command =>
    let system ← ArchAudit.Disk.load command
    let outcome := ArchAudit.Run.command environment system command
    ArchAudit.Disk.save command outcome
    ArchAudit.Disk.print (outcome.startedIn environment)
