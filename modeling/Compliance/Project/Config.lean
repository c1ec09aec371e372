import Compliance.EngineConfig

/-!
The settings of a project: its name, where its rule files are, and the settings of its engine.
-/

namespace Compliance

structure ProjectConfig where
  name : String := "forensic"
  rulePaths : List String := ["rules"]
  engine : EngineConfig := {}
deriving DecidableEq, Repr

namespace ProjectConfig

def standard : ProjectConfig := {}

def toJson (config : ProjectConfig) : Json :=
  .object [("name", .string config.name),
    ("rule-paths", .array (config.rulePaths.map Json.string)),
    ("engine", config.engine.toJson)]

def decode : Decoder ProjectConfig :=
  Decode.record "ProjectConfig"
    (ProjectConfig.mk <$> Fields.defaulted "name" Decode.text standard.name
      <*> Fields.defaulted "rule-paths" (Decode.list Decode.text) standard.rulePaths
      <*> Fields.defaulted "engine" EngineConfig.decode standard.engine)

end ProjectConfig

end Compliance
