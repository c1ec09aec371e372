import Compliance.Evidence
import Compliance.Severity

/-!
The settings of an engine: how much context evidence has, which severity counts as critical, and
whether evaluations are logged.
-/

namespace Compliance

structure EngineConfig where
  contextRadius : Nat := defaultRadius
  criticalSeverity : Severity := .critical
  recordHistory : Bool := true
deriving DecidableEq, Repr

namespace EngineConfig

def toJson (config : EngineConfig) : Json :=
  .object [("context_radius", .integer config.contextRadius),
    ("critical_severity", config.criticalSeverity.toJson),
    ("record_history", .bool config.recordHistory)]

def decode : Decoder EngineConfig :=
  Decode.record "EngineConfig"
    (EngineConfig.mk <$> Fields.defaulted "context_radius" Decode.count defaultRadius
      <*> Fields.defaulted "critical_severity" Severity.decode .critical
      <*> Fields.defaulted "record_history" Decode.bool true)

end EngineConfig

end Compliance
