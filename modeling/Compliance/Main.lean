import Compliance.Cli.Run
import Std.Time.DateTime.Timestamp

/-!
The command line. What a command may look at is read from disk into a tree of files, the command
is run on it, and what it changed in the tree is made on disk.
-/

namespace Compliance.Cli

def pathOf (location : Location) : String := "/" ++ "/".intercalate location

def putDirectories (tree : FileTree) (location : Location) : FileTree :=
  (List.range location.length).foldl
    (fun known count => known.put (location.take (count + 1)) .directory) tree

def danglingLink : Entry := .link "/\x00"

def reasonOf : IO.Error → IoError
  | .noFileOrDirectory .. => .notFound
  | .alreadyExists .. => .alreadyExists
  | .inappropriateType .. => .notDirectory
  | .permissionDenied .. => .denied
  | _ => .busy

def denying (tree : FileTree) (step : ReadStep) (error : IO.Error) : FileTree :=
  { tree with
    denies := fun other => if other = step then some (reasonOf error) else tree.denies other }

def putReal (tree : FileTree) (path : String) : IO FileTree := do
  let real ← IO.FS.realPath path
  let location := Path.names path
  if ← real.isDir then return putDirectories tree location
  let known := putDirectories tree location.dropLast
  match ← (IO.FS.readBinFile path).toBaseIO with
  | .ok content => return known.put location (.file content)
  | .error error =>
      return denying (known.put location (.file ByteArray.empty)) (.openAt location) error

def capture (tree : FileTree) (directory : String) : List String → IO FileTree
  | [] => return tree
  | name :: rest => do
      let base ← IO.FS.realPath directory
      let place := base / name
      if name == "." || name == ".." then capture tree place.toString rest
      else
        let location := Path.names base.toString ++ [name]
        match ← place.symlinkMetadata.toBaseIO with
        | .error (.permissionDenied file code details) =>
            return denying tree (.search (Path.names base.toString))
              (.permissionDenied file code details)
        | .error _ => return tree
        | .ok found =>
            if found.type != .symlink then
              let known ← putReal tree (pathOf location)
              if found.type == .dir then capture known place.toString rest else return known
            else
              match ← place.metadata.toBaseIO with
              | .error (.noFileOrDirectory ..) => return tree.put location danglingLink
              | .error _ => return tree.put location (.link name)
              | .ok _ =>
                  let target ← IO.FS.realPath place
                  let known ← putReal (tree.put location (.link target.toString)) target.toString
                  if ← target.isDir then capture known target.toString rest else return known

def capturePath (tree : FileTree) (path : String) : IO FileTree :=
  capture tree (if Path.isAbsolute path then "/" else pathOf tree.here) (Path.names path)

def isWalked (name : String) : Except IO.Error IO.FS.Metadata → Bool
  | .error _ => true
  | .ok found => found.type == .dir || (found.type == .file && RuleSource.isRuleFile name)

/-- Puts everything below a directory that a walk looks at, over links too. `seen` are the
directories that were listed already. -/
partial def captureBelow (tree : FileTree) (seen : List Location) (directory : String) :
    IO (FileTree × List Location) := do
  let real ← IO.FS.realPath directory
  let location := Path.names real.toString
  if seen.contains location then return (tree, seen)
  let entries ← match ← real.readDir.toBaseIO with
    | .ok entries => pure entries
    | .error error => return (denying tree (.openAt location) error, seen)
  let mut known := tree
  let mut listed := location :: seen
  for entry in entries do
    let below := real / entry.fileName
    if isWalked entry.fileName (← below.metadata.toBaseIO) then
      known ← capture known real.toString [entry.fileName]
      if known.isDirectory? below.toString then
        (known, listed) ← captureBelow known listed below.toString
  return (known, listed)

def Command.project : Command → String
  | .check request => request.project
  | .validate project | .list project | .save project _ => project

def Command.paths (command : Command) : List String :=
  configNames.map (Path.join command.project) ++
    match command with
    | .check request => [request.document]
    | .save _ output => [output]
    | _ => []

def environment : IO Environment := do
  return {
    rulePaths := ← IO.getEnv "FORENSIC_RULE_PATHS"
    contextRadius := ← IO.getEnv "FORENSIC_CONTEXT_RADIUS" }

def captureRules (tree : FileTree) (environment : Environment) (project : String) :
    IO FileTree := do
  match ProjectConfig.loadOrStandard tree environment project with
  | .error _ => return tree
  | .ok config =>
      let mut known := tree
      for path in (RuleSource.ofConfig project config).paths do
        known ← capturePath known path
        if let .ok (location, .directory) := known.locate true path then
          (known, _) ← captureBelow known [] (pathOf location)
      return known

def filesFor (environment : Environment) (arguments : List String) : IO FileTree := do
  let here := Path.names (← IO.FS.realPath ".").toString
  let start : FileTree := { putDirectories {} here with here }
  match Command.ofArguments arguments with
  | .error _ => return start
  | .ok command =>
      let known ← command.paths.foldlM capturePath start
      captureRules known environment command.project

def make (location : Location) : Entry → IO Unit
  | .directory => IO.FS.createDir (pathOf location)
  | .link _ => return
  | .file content => do
      let stamp := toString (← IO.monoNanosNow)
      let temporary := pathOf (location.dropLast ++ [".tmp" ++ stamp])
      let handle ← IO.FS.Handle.mk temporary .writeNew
      try
        handle.write content
        handle.flush
        IO.FS.rename temporary (pathOf location)
      catch error =>
        IO.FS.removeFile temporary
        throw error

/-- Runs a command and makes what it changed. If that fails, the command ends as it does when its
write is refused. -/
def perform (world : World) (arguments : List String) : IO Output := do
  let output := run world arguments
  try
    for (location, entry) in output.files.changesSince world.files do
      make location entry
    return output
  catch error =>
    return run { world with refuses := fun _ => some (reasonOf error) } arguments

end Compliance.Cli

open Compliance Compliance.Cli in
/-- The moment shown is the start; the duration shown is that of everything that is read. -/
def main (arguments : List String) : IO UInt32 := do
  let now ← Std.Time.Timestamp.now
  let started ← IO.monoNanosNow
  let environment ← environment
  let files ← filesFor environment arguments
  let reading : ClockReading :=
    { time := Timestamp.ofNanos now.toNanosecondsSinceUnixEpoch.val.toNat
      milliseconds := Float.ofNat ((← IO.monoNanosNow) - started) / 1000000.0 }
  let world : World :=
    { files, environment, clock := { rule := fun _ => reading, whole := reading } }
  let output ← perform world arguments
  (← IO.getStdout).putStr output.stdout
  (← IO.getStderr).putStr output.stderr
  return output.status.toUInt32
