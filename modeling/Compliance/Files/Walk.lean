import Compliance.Files.Tree

/-!
The files below a path, depth first and by name. Links are followed; one that leads back to a
directory on the way to it is a fault.
-/

namespace Compliance

inductive WalkFault where
  | io (path : String) (error : IoError)
  | loop (child ancestor : String)
deriving DecidableEq, Repr

def WalkFault.message : WalkFault → String
  | io path error => "IO error for operation on " ++ path ++ ": " ++ error.message
  | loop child ancestor =>
      "File system loop found: " ++ child ++ " points to an ancestor " ++ ancestor

namespace FileTree

/-- The directories on the way, by path and location, the nearest first. -/
abbrev Way := List (String × Location)

def gather (visit : String → Except WalkFault (List String)) :
    List String → Except WalkFault (List String)
  | [] => .ok []
  | path :: rest => do
      let found ← visit path
      return found ++ (← gather visit rest)

def ancestorAt? (way : Way) (location : Location) : Option String :=
  (way.find? fun step => step.2 == location).map Prod.fst

/-- The files at or below a path. The fuel bounds the length of the way. -/
def visit (tree : FileTree) : (fuel : Nat) → Way → String → Except WalkFault (List String)
  | 0, _, _ => .ok []
  | fuel + 1, way, path =>
      let below (location : Location) :=
        match tree.list location with
        | .error error => .error (.io path error)
        | .ok names =>
            gather (tree.visit fuel ((path, location) :: way)) (names.map (Path.join path))
      match tree.locate false path with
      | .error error => .error (.io path error)
      | .ok (_, .file _) => .ok [path]
      | .ok (location, .directory) => below location
      | .ok (_, .link _) =>
          match tree.locate true path with
          | .error error => .error (.io path error)
          | .ok (location, .directory) =>
              match ancestorAt? way location with
              | some ancestor => .error (.loop path ancestor)
              | none => below location
          | .ok _ => .ok [path]

def depth (tree : FileTree) : Nat :=
  tree.entries.foldl (fun known entry => max known entry.1.length) 0

/-- Between two links a way goes down, at most as far as the tree is deep, and no two links on it lead
to the same directory. So no way is longer than this fuel. -/
def walk (tree : FileTree) (path : String) : Except WalkFault (List String) :=
  tree.visit ((tree.entries.length + 2) * (tree.depth + 1) + 1) [] path

end FileTree

end Compliance
