import Compliance.Cli.Arguments
import Compliance.Cli.Table
import Compliance.Files.Write
import Compliance.Project.Rules
import Compliance.Report

/-!
The commands: what each of them writes to standard output and standard error, with which status it
ends, and which files there are afterwards.
-/

namespace Compliance.Cli

structure Output where
  status : Nat := 0
  stdout : String := ""
  stderr : String := ""
  files : FileTree

structure World where
  files : FileTree
  environment : Environment := {}
  refuses : Refuses := Refuses.never
  clock : Clock
  /-- In which order the rules of a document are evaluated. -/
  schedule : List EvaluationTask → List EvaluationTask := id

def line (text : String) : String := text ++ "\n"

def rightAligned (width number : Nat) : String :=
  let digits := toString number
  String.ofList (List.replicate (width - digits.length) ' ') ++ digits

def indented (first others text : String) : String :=
  first ++ ("\n" ++ others).intercalate (text.splitOn "\n")

def causeLines : List String → List String
  | [] => []
  | [cause] => ["", "Caused by:", indented "    " "    " cause]
  | causes =>
      ["", "Caused by:"] ++ causes.zipIdx.map fun (cause, index) =>
        indented (rightAligned 5 index ++ ": ") "       " cause

structure Failure where
  attempt : String
  causes : List String

def Failure.text (failure : Failure) : String :=
  String.join ((("Error: " ++ failure.attempt) :: causeLines failure.causes).map line)

structure Loaded where
  config : ProjectConfig
  engine : Engine
  summary : Summary

def load (world : World) (project : String) : Except Failure Loaded :=
  match ProjectConfig.loadOrStandard world.files world.environment project with
  | .error fault =>
      .error ⟨"Failed to load project configuration in " ++ quotedPath project, fault.causes⟩
  | .ok config =>
      match (RuleSource.ofConfig project config).engine world.files config.engine with
      | .error fault =>
          .error ⟨"Failed to load rules for project '" ++ config.name ++ "'", fault.causes⟩
      | .ok (engine, summary) => .ok { config, engine, summary }

def fail (world : World) (failure : Failure) (before : String := "") : Output :=
  { status := 1, stdout := before, stderr := failure.text, files := world.files }

def selectedRules (request : CheckRequest) (engine : Engine) : List String :=
  if request.rules.isEmpty then engine.registry.ids else request.rules

def checkHeading (request : CheckRequest) (config : ProjectConfig) (count : Nat) : String :=
  "⚖️  Checking " ++ request.document ++ " against " ++ toString count ++ " rule(s) of '" ++
    config.name ++ "'..."

def checkStdout (request : CheckRequest) (config : ProjectConfig) (aggregate : Aggregate) :
    String :=
  match request.format with
  | .json => line aggregate.toJson.pretty
  | .text =>
      line (checkHeading request config aggregate.total) ++ "\n" ++ line aggregate.report ++
        (if aggregate.overallCompliant then line "✨ Document is compliant." else "")

def checkStderr (request : CheckRequest) (aggregate : Aggregate) : String :=
  if aggregate.overallCompliant then ""
  else
    (match request.format with
      | .json => ""
      | .text =>
          line ("❌ " ++ toString aggregate.nonCompliant ++ " rule(s) not satisfied (" ++
            toString aggregate.criticalFailures.length ++ " critical).")) ++
    (if request.strict then
      line "\n💥 --check mode: Failing due to compliance failures." else "")

def check (world : World) (request : CheckRequest) : Output :=
  match world.files.readText request.document with
  | .error error =>
      fail world ⟨"Failed to read document " ++ quotedPath request.document, [error.message]⟩
  | .ok text =>
      match load world request.project with
      | .error failure => fail world failure
      | .ok loaded =>
          let ids := selectedRules request loaded.engine
          let (aggregate, _) := loaded.engine.evaluateConcurrently
            { ids, text, clock := world.clock } world.schedule
          { status := if request.strict && !aggregate.overallCompliant then 1 else 0
            stdout := checkStdout request loaded.config aggregate
            stderr := checkStderr request aggregate
            files := world.files }

def rejectionLine (rejection : Rejection) : String :=
  "   ❌ #" ++ toString rejection.index ++ " " ++ rejection.ruleId.getD "<unnamed>" ++ ": " ++
    rejection.reason

def validateStart : String := line "🔎 Validating rule definitions..."

def validate (world : World) (project : String) : Output :=
  match load world project with
  | .error failure => fail world failure validateStart
  | .ok loaded =>
      let summary := loaded.summary
      let stdout := validateStart ++ line ("   Project: " ++ loaded.config.name) ++
        line ("   Rules: " ++ toString summary.total ++ " total, " ++
          toString summary.successful ++ " valid, " ++ toString summary.failed ++ " rejected")
      if summary.isClean then
        { stdout := stdout ++ line "✅ All rule definitions are valid.", files := world.files }
      else
        { status := 1
          stdout
          stderr := line ("\n⚠️  " ++ toString summary.failed ++ " invalid rule definition(s):") ++
            String.join (summary.errors.map fun rejection => line (rejectionLine rejection))
          files := world.files }

def failureColumn (outcome : Outcome) : String :=
  match outcome.severity with
  | some severity => outcome.result ++ " (" ++ severity.name ++ ")"
  | none => outcome.result

def rulesTable (rules : List Rule) : Table where
  heading := ["ID", "Kind", "Source", "Condition", "Phrases", "On failure"]
  rows := rules.map fun rule =>
    [rule.id, rule.kind.name, rule.source, rule.condition.label,
      toString rule.condition.phraseCount, failureColumn rule.onFailure]

def list (world : World) (project : String) : Output :=
  match load world project with
  | .error failure => fail world failure
  | .ok loaded =>
      let registry := loaded.engine.registry
      let stdout :=
        if registry.isEmpty then line ("📭 No rules registered for '" ++ loaded.config.name ++ "'.")
        else
          line ("📚 Rules of '" ++ loaded.config.name ++ "' (" ++ toString registry.size ++ "):") ++
            line (rulesTable registry.toList).draw
      { stdout, files := world.files }

def writeFailure (output : String) (error : IoError) : Failure :=
  ⟨"Failed to write rule export to " ++ quotedPath output, (ProjectFault.io error).causes⟩

def save (world : World) (project output : String) : Output :=
  match load world project with
  | .error failure => fail world failure
  | .ok loaded =>
      let registry := loaded.engine.registry
      match world.files.writeExport world.refuses output registry.exportText.toUTF8 with
      | (.error error, files) =>
          { fail world (writeFailure output error) with files }
      | (.ok (), files) =>
          { stdout := line ("💾 Exported " ++ toString registry.size ++ " rule(s) to " ++ output ++
              " (" ++ toString loaded.summary.failed ++ " rejected definition(s) left out)")
            files }

def execute (world : World) : Command → Output
  | .check request => check world request
  | .validate project => validate world project
  | .list project => list world project
  | .save project output => save world project output

def versionText : String := line "forensic 0.1.0"

def helpText : String :=
  String.join (["Checks legal documents against statutory compliance rules", "",
    "Usage: forensic <COMMAND>", "", "Commands:",
    "  check     Evaluates a document against the project's rules",
    "  validate  Loads and validates every rule definition",
    "  rules     Lists the registered rules",
    "  export    Exports the validated rule set as JSON"].map line)

def run (world : World) (arguments : List String) : Output :=
  match Command.ofArguments arguments with
  | .ok command => execute world command
  | .error .help => { stdout := helpText, files := world.files }
  | .error .version => { stdout := versionText, files := world.files }
  | .error (.usage complaint) =>
      { status := 2, stderr := line ("error: " ++ complaint), files := world.files }

end Compliance.Cli
