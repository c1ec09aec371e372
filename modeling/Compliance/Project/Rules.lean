import Compliance.Engine
import Compliance.Json.Reader
import Compliance.Project.Settings

/-!
The rule files of a project and the engine that is made of them. A file holds a definition, a list
of definitions, or an object with such a list under `rules`. Files are read in the order of the
rule paths and below each path by name, so that of rules with one id always the same one counts.
-/

namespace Compliance

structure RuleSource where
  paths : List String
deriving DecidableEq, Repr

namespace RuleSource

def ofConfig (directory : String) (config : ProjectConfig) : RuleSource where
  paths := config.rulePaths.map (Path.join directory)

def describe (source : RuleSource) : String := ", ".intercalate source.paths

def isRuleFile (path : String) : Bool :=
  (Path.extension? path).any ["json", "yaml", "yml"].contains

def filesBelow (files : FileTree) (path : String) : Except ProjectFault (List String) :=
  if !files.exists? path then .ok []
  else
    match files.walk path with
    | .ok found => .ok (found.filter isRuleFile)
    | .error fault => .error (.walk fault)

def ruleFiles (files : FileTree) : List String → Except ProjectFault (List String)
  | [] => .ok []
  | path :: rest => do
      let found ← filesBelow files path
      return found ++ (← ruleFiles files rest)

def definitionsIn : Json → Except String (List Json)
  | .array items => .ok items
  | .null => .ok []
  | .object members =>
      match Keyed.get? "id" members, Keyed.get? "rules" members with
      | none, some (.array items) => .ok items
      | none, some _ => .error "'rules' must be a list"
      | _, _ => .ok [.object members]
  | other => .ok [other]

def valueOf (path text : String) : Except String Json :=
  if Path.extension? path == some "json" then Json.ofText text
  else (Yaml.valueOfText text).mapError Yaml.Fault.message

def parse (files : FileTree) (path : String) : Except ProjectFault (List Json) :=
  match files.readText path with
  | .error error => .error (.io error)
  | .ok text => ((valueOf path text).bind definitionsIn).mapError (.ruleFile path)

def parseAll (files : FileTree) : List String → Except ProjectFault (List Json)
  | [] => .ok []
  | path :: rest => do
      let definitions ← parse files path
      return definitions ++ (← parseAll files rest)

def load (files : FileTree) (source : RuleSource) : Except ProjectFault (List Json) := do
  parseAll files (← ruleFiles files source.paths)

def engine (files : FileTree) (source : RuleSource) (config : EngineConfig) :
    Except ProjectFault (Engine × Summary) := do
  let definitions ← source.load files
  let batch := Registry.empty.registerValues definitions
  return ((Engine.withConfig config).withRegistry batch.registry, batch.summary)

end RuleSource

end Compliance
