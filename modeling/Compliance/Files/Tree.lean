import Compliance.Files.Path

/-!
A tree of files: what there is at every location, how a path leads to a location, and what may not
be read. A location is the list of names from the root, of which none is a link, a single or a
double point.
-/

namespace Compliance

abbrev Location := List String

inductive Entry where
  | file (content : ByteArray)
  | link (target : String)
  | directory

namespace Entry

def isDirectory : Entry → Bool
  | directory => true
  | _ => false

def isSame : Entry → Entry → Bool
  | file left, file right => left.data.toList == right.data.toList
  | link left, link right => left == right
  | directory, directory => true
  | _, _ => false

end Entry

/-- Whether a location comes first: name by name, and a directory before what is in it. -/
def Location.precedes : Location → Location → Bool
  | [], _ => true
  | _ :: _, [] => false
  | left :: leftRest, right :: rightRest =>
      left < right || (left == right && precedes leftRest rightRest)

inductive IoError where
  | notFound
  | alreadyExists
  | notDirectory
  | isDirectory
  | busy
  | tooManyLinks
  | denied
  | notText
deriving DecidableEq, Repr

def IoError.message : IoError → String
  | notFound => "No such file or directory (os error 2)"
  | alreadyExists => "File exists (os error 17)"
  | notDirectory => "Not a directory (os error 20)"
  | isDirectory => "Is a directory (os error 21)"
  | busy => "Device or resource busy (os error 16)"
  | tooManyLinks => "Too many levels of symbolic links (os error 40)"
  | denied => "Permission denied (os error 13)"
  | notText => "stream did not contain valid UTF-8"

/-- What reading takes: to look for a name in a directory, and to open a file or a directory. -/
inductive ReadStep where
  | search (directory : Location)
  | openAt (location : Location)
deriving DecidableEq, Repr

structure FileTree where
  entries : List (Location × Entry) := []
  /-- The working directory. -/
  here : Location := []
  /-- What is refused to whoever reads. -/
  denies : ReadStep → Option IoError := fun _ => none

namespace FileTree

def at? (tree : FileTree) (location : Location) : Option Entry :=
  if location.isEmpty then some .directory else tree.entries.lookup location

def erase (tree : FileTree) (location : Location) : FileTree :=
  { tree with entries := tree.entries.filter fun entry => entry.1 != location }

def put (tree : FileTree) (location : Location) (entry : Entry) : FileTree :=
  { tree with entries := (location, entry) :: (tree.erase location).entries }

def look (tree : FileTree) (base : Location) (name : String) : Except IoError Entry :=
  match tree.denies (.search base), tree.at? (base ++ [name]) with
  | some error, _ => .error error
  | none, none => .error .notFound
  | none, some entry => .ok entry

abbrev Lookup := Except IoError (Location × Entry)

/-- The names of a path, with a point at the end where only a directory will do. -/
def wantedNames (path : String) : List String :=
  Path.names path ++ (if Path.endsWithSlash path then ["."] else [])

/-- Follows names from a directory. `follow` goes on where a link leads; whether a link at the end
is followed is up to `followLast`. -/
def descend (tree : FileTree) (follow : Location → List String → Lookup) (followLast : Bool) :
    Location → List String → Lookup
  | base, [] => .ok (base, .directory)
  | base, name :: rest =>
      if name == "." then tree.descend follow followLast base rest
      else if name == ".." then tree.descend follow followLast base.dropLast rest
      else
        let location := base ++ [name]
        match tree.look base name with
        | .error error => .error error
        | .ok .directory => tree.descend follow followLast location rest
        | .ok (.file content) =>
            if rest.isEmpty then .ok (location, .file content) else .error .notDirectory
        | .ok (.link target) =>
            if rest.isEmpty && !followLast then .ok (location, .link target)
            else follow (if Path.isAbsolute target then [] else base) (wantedNames target ++ rest)

def resolve (tree : FileTree) (followLast : Bool) : (links : Nat) → Location → List String → Lookup
  | 0 => tree.descend (fun _ _ => .error .tooManyLinks) followLast
  | links + 1 => tree.descend (tree.resolve followLast links) followLast

def linkLimit : Nat := 40

def locateNames (tree : FileTree) (followLast absolute : Bool) (names : List String) : Lookup :=
  tree.resolve followLast linkLimit (if absolute then [] else tree.here) names

def locate (tree : FileTree) (followLast : Bool) (path : String) : Lookup :=
  if path.isEmpty then .error .notFound
  else tree.locateNames followLast (Path.isAbsolute path) (wantedNames path)

def exists? (tree : FileTree) (path : String) : Bool :=
  (tree.locate true path).isOk

def isDirectory? (tree : FileTree) (path : String) : Bool :=
  match tree.locate true path with
  | .ok (_, .directory) => true
  | _ => false

def read (tree : FileTree) (path : String) : Except IoError ByteArray :=
  match tree.locate true path with
  | .error error => .error error
  | .ok (location, entry) =>
      match tree.denies (.openAt location), entry with
      | some error, _ => .error error
      | none, .file content => .ok content
      | none, _ => .error .isDirectory

def readText (tree : FileTree) (path : String) : Except IoError String :=
  match tree.read path with
  | .error error => .error error
  | .ok content =>
      match String.fromUTF8? content with
      | some text => .ok text
      | none => .error .notText

def namesIn (tree : FileTree) (directory : Location) : List String :=
  let names := tree.entries.filterMap fun entry =>
    if entry.1.dropLast == directory then entry.1.getLast? else none
  names.mergeSort fun left right => left ≤ right

def list (tree : FileTree) (directory : Location) : Except IoError (List String) :=
  match tree.denies (.openAt directory) with
  | some error => .error error
  | none => .ok (tree.namesIn directory)

def leaves (tree : FileTree) : List (Location × Entry) :=
  let inside := tree.entries.filter fun entry =>
    tree.here.isPrefixOf entry.1 && !entry.2.isDirectory
  inside.mergeSort fun left right => Location.precedes left.1 right.1

/-- What there is in a tree that another one does not have, every directory before what is in it. -/
def changesSince (tree before : FileTree) : List (Location × Entry) :=
  let changed := tree.entries.filter fun entry =>
    !(before.at? entry.1).any entry.2.isSame
  changed.mergeSort fun left right => left.1.length ≤ right.1.length

end FileTree

end Compliance
