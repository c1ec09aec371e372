import Compliance.Project.Rules
import Compliance.Proofs.Except
import Compliance.Proofs.Files.Tree
import Compliance.Proofs.Json.Payload
import Compliance.Proofs.Json.RoundTrip
import Compliance.Proofs.Project.Settings

/-!
Loading a rule set. The definitions are those of the rule files, one file after the other, and the
engine has the settings it is given and the rules that are registered from the definitions.
-/

namespace Compliance

namespace RuleSource

theorem parseAll_eq_concat (files : FileTree) (paths : List String) :
    parseAll files paths = Except.concat (parse files) paths := by
  induction paths with
  | nil => rfl
  | cons path rest ih => rw [parseAll, Except.concat, ih]

theorem load_eq_ok_iff (files : FileTree) (source : RuleSource) (definitions : List Json) :
    source.load files = .ok definitions ↔ ∃ paths parts,
      ruleFiles files source.paths = .ok paths ∧
        List.Forall₂ (fun path part => parse files path = .ok part) paths parts ∧
          parts.flatten = definitions := by
  rw [load, Except.bind_eq_ok_iff]
  simp only [parseAll_eq_concat, Except.concat_eq_ok_iff, exists_and_left]

theorem engine_eq_ok_iff (files : FileTree) (source : RuleSource) (config : EngineConfig)
    (engine : Engine) (summary : Summary) :
    source.engine files config = .ok (engine, summary) ↔ ∃ definitions,
      source.load files = .ok definitions ∧
        { config, registry := (Registry.empty.registerValues definitions).registry } = engine ∧
          (Registry.empty.registerValues definitions).summary = summary := by
  rw [RuleSource.engine, Except.bind_eq_ok_iff]
  refine exists_congr fun definitions => and_congr_right fun _ => ?_
  change Except.ok (_, _) = Except.ok (engine, summary) ↔ _
  rw [Except.ok.injEq, Prod.mk.injEq]
  rfl

theorem parse_pretty {files : FileTree} {path : String} {items : List Json}
    (json : Path.extension? path = some "json")
    (readable : files.readText path = .ok (Json.array items).pretty)
    (numberless : ∀ item ∈ items, item.Numberless)
    (fits : (Json.array items).height ≤ Json.nestingLimit) :
    parse files path = .ok (Json.sortedItems items) := by
  have listed := (Json.listOfText_pretty numberless).1 fits
  have whole : Json.ofText (Json.array items).pretty = .ok (.array (Json.sortedItems items)) := by
    rwa [Json.listOfText_eq_ok_iff, Json.items?_eq_some_iff] at listed
  have value : valueOf path (Json.array items).pretty = .ok (.array (Json.sortedItems items)) := by
    unfold valueOf
    rw [json, if_pos (by decide), whole]
  rw [parse, readable]
  dsimp only
  rw [value]
  rfl

theorem load_pretty {files : FileTree} {path : String} {location : Location} {items : List Json}
    (located : ∀ followLast, files.locate followLast path =
      .ok (location, .file (Json.array items).pretty.toUTF8))
    (readable : files.denies (.openAt location) = none)
    (json : Path.extension? path = some "json")
    (numberless : ∀ item ∈ items, item.Numberless)
    (fits : (Json.array items).height ≤ Json.nestingLimit) :
    load files ⟨[path]⟩ = .ok (Json.sortedItems items) := by
  have present : files.exists? path = true := by
    rw [FileTree.exists?, located]
    rfl
  have walked : files.walk path = .ok [path] := by
    rw [FileTree.walk, FileTree.visit, located]
  have isFile : isRuleFile path = true := by
    rw [isRuleFile, json]
    decide
  have found : ruleFiles files [path] = .ok [path] := by
    rw [ruleFiles, filesBelow, present, walked]
    simp [isFile, ruleFiles]
    rfl
  have parsed : parse files path = .ok (Json.sortedItems items) :=
    parse_pretty json (FileTree.readText_of_locate (located true) readable) numberless fits
  rw [load_eq_ok_iff]
  exact ⟨_, _, found, .cons parsed .nil, List.append_nil _⟩

end RuleSource

end Compliance
