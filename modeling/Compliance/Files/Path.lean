/-!
Paths as text: names between slashes, from the root or from the working directory.
-/

namespace Compliance.Path

def names (path : String) : List String :=
  (path.splitOn "/").filter fun name => !name.isEmpty

def isAbsolute (path : String) : Bool := path.startsWith "/"

def endsWithSlash (path : String) : Bool := path.endsWith "/"

/-- A path below another one. An absolute path stays itself. -/
def join (base path : String) : String :=
  if isAbsolute path then path
  else if base.isEmpty || endsWithSlash base then base ++ path
  else base ++ "/" ++ path

def components (path : String) : List String :=
  match isAbsolute path, names path with
  | false, "." :: rest => "." :: rest.filter (· != ".")
  | _, all => all.filter (· != ".")

def parent? (path : String) : Option String :=
  match components path with
  | [] => none
  | first :: rest =>
      some ((if isAbsolute path then "/" else "") ++ "/".intercalate (first :: rest).dropLast)

/-- What follows the last point of the last component. A point at the start of a name starts no
extension. -/
def extension? (path : String) : Option String :=
  match (components path).getLast? with
  | none => none
  | some name =>
      match (name.splitOn ".").reverse with
      | extension :: stem :: more =>
          if name == ".." || (stem.isEmpty && more.isEmpty) then none else some extension
      | _ => none

end Compliance.Path
