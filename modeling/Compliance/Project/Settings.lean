import Compliance.Project.Config
import Compliance.Project.Fault
import Compliance.Text.Quoted
import Compliance.Yaml.Value

/-!
The effective settings of a project: those of its file, or the standard ones, with what the
environment puts in their place. A record of settings is read from a mapping by the names of its
fields, from a sequence by their order, or from nothing.
-/

namespace Compliance

namespace Yaml

namespace Tree

/-- Of entries, those with a known key, each at most once. Every key has to be a scalar. -/
def knownEntries (tree : Tree) (known : List String) :
    List (Node × Node) → Except Fault (List (String × Node))
  | [] => .ok []
  | (key, value) :: rest =>
      match tree.resolve key with
      | .scalar text _ _ _ => do
          let others ← tree.knownEntries known rest
          if !known.contains text then return others
          else if (others.lookup text).isSome then throw .wrongValue
          else return (text, value) :: others
      | _ => .error .wrongValue

def fields (tree : Tree) (known : List String) (node : Node) :
    Except Fault (List (String × Node)) :=
  match tree.resolve node with
  | .mapping entries _ _ => tree.knownEntries known entries
  | .sequence items _ _ =>
      if items.length ≤ known.length then .ok (known.zip items) else .error .wrongValue
  | .scalar text style _ _ =>
      if text.isEmpty && style = .plain then .ok [] else .error .wrongValue
  | .reference _ => .error .wrongValue

def field {α : Type} (read : Node → Except Fault α) (absent : α)
    (fields : List (String × Node)) (name : String) : Except Fault α :=
  match fields.lookup name with
  | some node => read node
  | none => .ok absent

def text (tree : Tree) (node : Node) : Except Fault String :=
  match tree.resolve node with
  | .scalar text _ _ _ => .ok text
  | _ => .error .wrongValue

def texts (tree : Tree) (node : Node) : Except Fault (List String) :=
  match tree.resolve node with
  | .sequence items _ _ => items.mapM tree.text
  | .scalar text style _ _ =>
      if text.isEmpty && style = .plain then .ok [] else .error .wrongValue
  | _ => .error .wrongValue

def typed (tree : Tree) (core : CoreTag) (node : Node) : Except Fault String :=
  match tree.resolve node with
  | .scalar text style tag _ =>
      if style = .plain || (style = .literal && tag == some core.name) then .ok text
      else .error .wrongValue
  | _ => .error .wrongValue

def bool (tree : Tree) (node : Node) : Except Fault Bool := do
  match Plain.bool? (← tree.typed .bool node) with
  | some value => return value
  | none => throw .wrongValue

def count (tree : Tree) (node : Node) : Except Fault Nat := do
  let text ← tree.typed .int node
  match Plain.integer? text.toList with
  | some (.ofNat value) =>
      if value < wordCount && !text.startsWith "-" then return value else throw .wrongValue
  | _ => throw .wrongValue

/-- The name of a severity, as the text or as the tag of an otherwise empty scalar. -/
def severity (tree : Tree) (node : Node) : Except Fault Severity :=
  let named (name : String) : Except Fault Severity :=
    (Severity.spellings.lookup name).elim (.error .wrongValue) .ok
  match tree.resolve node with
  | .scalar text style (some ('!' :: name)) _ =>
      if text.isEmpty || (style = .plain && Plain.isNull text) then
        named (if name.isEmpty then "!" else String.ofList name)
      else .error .wrongValue
  | .scalar text _ _ _ => named text
  | _ => .error .wrongValue

end Tree

end Yaml

namespace EngineConfig

def ofNode (tree : Yaml.Tree) (node : Yaml.Node) : Except Yaml.Fault EngineConfig := do
  let fields ← tree.fields ["context_radius", "critical_severity", "record_history"] node
  let standard : EngineConfig := {}
  return {
    contextRadius := ← Yaml.Tree.field tree.count standard.contextRadius fields "context_radius"
    criticalSeverity :=
      ← Yaml.Tree.field tree.severity standard.criticalSeverity fields "critical_severity"
    recordHistory := ← Yaml.Tree.field tree.bool standard.recordHistory fields "record_history" }

end EngineConfig

namespace ProjectConfig

def ofNode (tree : Yaml.Tree) (node : Yaml.Node) : Except Yaml.Fault ProjectConfig := do
  let fields ← tree.fields ["name", "rule-paths", "engine"] node
  return {
    name := ← Yaml.Tree.field tree.text standard.name fields "name"
    rulePaths := ← Yaml.Tree.field tree.texts standard.rulePaths fields "rule-paths"
    engine := ← Yaml.Tree.field (EngineConfig.ofNode tree) standard.engine fields "engine" }

def ofText (text : String) : Except Yaml.Fault ProjectConfig := do
  match ← Yaml.Tree.ofText? text with
  | none => return standard
  | some tree => ofNode tree tree.root

end ProjectConfig

structure Environment where
  rulePaths : Option String := none
  contextRadius : Option String := none
deriving DecidableEq, Repr

namespace Environment

def pathsOf (list : String) : List String :=
  ((list.splitOn ",").map trim).filter fun path => !path.isEmpty

/-- A count of 64 bits in decimal; a plus sign may stand before it. -/
def radiusOf? (text : String) : Option Nat :=
  let trimmed := Text.trimmed text.toList
  let digits := if trimmed.head? == some '+' then trimmed.drop 1 else trimmed
  (Yaml.Plain.natural? 10 digits).filter fun value => value < wordCount

def overridePaths (environment : Environment) (config : ProjectConfig) : ProjectConfig :=
  match (environment.rulePaths.map pathsOf).getD [] with
  | [] => config
  | paths => { config with rulePaths := paths }

def overrideRadius (environment : Environment) (config : ProjectConfig) : ProjectConfig :=
  match environment.contextRadius.bind radiusOf? with
  | none => config
  | some contextRadius => { config with engine := { config.engine with contextRadius } }

def override (environment : Environment) (config : ProjectConfig) : ProjectConfig :=
  environment.overrideRadius (environment.overridePaths config)

end Environment

namespace ProjectConfig

def path? (files : FileTree) (directory : String) : Option String :=
  (configNames.map (Path.join directory)).find? files.exists?

/-- The settings of a project that has a settings file. One rule path at least must not be blank. -/
def load (files : FileTree) (environment : Environment) (directory : String) :
    Except ProjectFault ProjectConfig :=
  match path? files directory with
  | none => .error (.noConfig (quotedPath directory))
  | some path =>
      match files.readText path with
      | .error error => .error (.io error)
      | .ok text =>
          match ofText text with
          | .error fault => .error (.yaml fault)
          | .ok written =>
              let config := environment.override written
              if config.rulePaths.all isBlankText then .error (.noRulePaths config.name)
              else .ok config

def loadOrStandard (files : FileTree) (environment : Environment) (directory : String) :
    Except ProjectFault ProjectConfig :=
  match load files environment directory with
  | .error (.noConfig _) => .ok (environment.override standard)
  | other => other

end ProjectConfig

end Compliance
