import Compliance.Files.Walk
import Compliance.Yaml.Cursor

/-!
Why a project cannot be loaded, or its rule set not be written.
-/

namespace Compliance

inductive ProjectFault where
  | io (error : IoError)
  | walk (fault : WalkFault)
  | yaml (fault : Yaml.Fault)
  | ruleFile (path reason : String)
  | noRulePaths (project : String)
  | noConfig (directory : String)
deriving DecidableEq, Repr

def configNames : List String := ["forensic.yaml", "forensic.yml"]

namespace ProjectFault

def message : ProjectFault → String
  | io error => "File System Error: " ++ error.message
  | walk fault => "Directory walk failed: " ++ fault.message
  | yaml fault => "YAML Parsing Error: " ++ fault.message
  | ruleFile path reason => "Rule file '" ++ path ++ "' could not be read: " ++ reason
  | noRulePaths project =>
      "Configuration Error: project '" ++ project ++ "' declares no rule paths"
  | noConfig directory =>
      let names := configNames.map fun name => "\"" ++ name ++ "\""
      "Project configuration not found at 'No configuration file found in " ++ directory ++
        ". Checked: [" ++ ", ".intercalate names ++ "]'"

def code? : ProjectFault → Option String
  | io _ => some "forensic::infra::io"
  | walk _ => some "forensic::infra::walk"
  | yaml _ => some "forensic::infra::yaml"
  | ruleFile _ _ => some "forensic::infra::rule_file"
  | noRulePaths _ => none
  | noConfig _ => some "forensic::infra::config_missing"

def help? : ProjectFault → Option String
  | io _ => some "Check file permissions or path validity."
  | walk _ => some "Check that every rule path exists and is readable."
  | yaml _ => some "Check your YAML syntax (indentation, types)."
  | ruleFile _ _ =>
      some "A rule file holds one rule definition or a list of them, in JSON or YAML."
  | noRulePaths _ | noConfig _ => none

def causes (fault : ProjectFault) : List String :=
  fault.message ::
    match fault with
    | io error => [error.message]
    | walk (.io path error) => [(WalkFault.io path error).message, error.message]
    | walk other => [other.message]
    | yaml fault => [fault.message]
    | _ => []

end ProjectFault

end Compliance
