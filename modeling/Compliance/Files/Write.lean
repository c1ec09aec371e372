import Compliance.Files.Tree

/-!
Writing files so that at a path there is the old content or the new one, and never a mix: the text
goes to a temporary file in the same directory, which is then renamed. Each step may be refused
from outside; a temporary file that was not renamed is removed.
-/

namespace Compliance

inductive WriteStep where
  | makeDirectory (path : String)
  | createTemporary
  | writeContent
  | rename
deriving DecidableEq, Repr

abbrev Refuses := WriteStep → Option IoError

def Refuses.never : Refuses := fun _ => none

namespace FileTree

def directoryAt (tree : FileTree) (absolute : Bool) (names : List String) :
    Except IoError Location :=
  (tree.locateNames true absolute (names ++ ["."])).map Prod.fst

def split (tree : FileTree) (path : String) (special : IoError) :
    Except IoError (Location × String) :=
  match (Path.names path).getLast? with
  | none => .error (if path.isEmpty then .notFound else special)
  | some name => do
      let base ← tree.directoryAt (Path.isAbsolute path) (Path.names path).dropLast
      if name == "." || name == ".." then .error special
      else
        match tree.denies (.search base) with
        | some error => .error error
        | none => return (base, name)

def makeDirectory (tree : FileTree) (refuses : Refuses) (path : String) :
    Except IoError FileTree :=
  match refuses (.makeDirectory path) with
  | some error => .error error
  | none => do
      let (base, name) ← tree.split path .alreadyExists
      match tree.at? (base ++ [name]) with
      | some _ => .error .alreadyExists
      | none => return tree.put (base ++ [name]) .directory

/-- Makes a directory with those above it that are missing. What was made stays, also on failure. -/
def makeDirectories (tree : FileTree) (fuel : Nat) (path : String)
    (refuses : Refuses := Refuses.never) : Except IoError Unit × FileTree :=
  match fuel with
  | 0 => (.ok (), tree)
  | fuel + 1 =>
      if path.isEmpty then (.ok (), tree)
      else
        match tree.makeDirectory refuses path with
        | .ok made => (.ok (), made)
        | .error error =>
            if error != .notFound then
              (if tree.isDirectory? path then .ok () else .error error, tree)
            else
              match tree.makeDirectories fuel ((Path.parent? path).getD "") refuses with
              | (.error above, partly) => (.error above, partly)
              | (.ok (), above) =>
                  match above.makeDirectory refuses path with
                  | .ok made => (.ok (), made)
                  | .error again =>
                      (if above.isDirectory? path then .ok () else .error again, above)

def makeParents (tree : FileTree) (path : String) (refuses : Refuses := Refuses.never) :
    Except IoError Unit × FileTree :=
  match Path.parent? path with
  | none => (.ok (), tree)
  | some parent => tree.makeDirectories ((Path.names parent).length + 2) parent refuses

/-- A name that is longer than any other. -/
def freshName (tree : FileTree) : String :=
  let longest := tree.entries.foldl (fun known entry =>
    entry.1.foldl (fun bound name => max bound name.length) known) 0
  String.ofList (List.replicate (longest + 1) 't')

def renameTarget (tree : FileTree) (path : String) : Except IoError Location := do
  let (base, name) ← tree.split path .busy
  if Path.endsWithSlash path then .error .notDirectory
  else
    match tree.at? (base ++ [name]) with
    | some .directory => .error .isDirectory
    | _ => return base ++ [name]

def createTemporary (tree : FileTree) (refuses : Refuses) (path : String) :
    Except IoError (Location × FileTree) :=
  match refuses .createTemporary with
  | some error => .error error
  | none => do
      let parent := (Path.parent? path).getD "."
      let base ← tree.directoryAt (Path.isAbsolute parent) (Path.names parent)
      let temporary := base ++ [tree.freshName]
      return (temporary, tree.put temporary (.file ByteArray.empty))

def rename (tree : FileTree) (refuses : Refuses) (temporary : Location) (path : String)
    (content : ByteArray) : Except IoError FileTree :=
  match refuses .rename with
  | some error => .error error
  | none => do
      let target ← tree.renameTarget path
      return (tree.erase temporary).put target (.file content)

def atomicWrite (tree : FileTree) (refuses : Refuses) (path : String) (content : ByteArray) :
    Except IoError Unit × FileTree :=
  match tree.createTemporary refuses path with
  | .error error => (.error error, tree)
  | .ok (temporary, created) =>
      match refuses .writeContent with
      | some error => (.error error, created.erase temporary)
      | none =>
          let written := created.put temporary (.file content)
          match written.rename refuses temporary path content with
          | .error error => (.error error, written.erase temporary)
          | .ok renamed => (.ok (), renamed)

def writeExport (tree : FileTree) (refuses : Refuses) (path : String) (content : ByteArray) :
    Except IoError Unit × FileTree :=
  match tree.makeParents path refuses with
  | (.error error, partly) => (.error error, partly)
  | (.ok (), ready) => ready.atomicWrite refuses path content

end FileTree

end Compliance
