/-!
The arguments of the command line. Reading them from left to right gives a command, or stops at
the first argument that asks for help or for the version, or that is at fault.
-/

namespace Compliance.Cli

inductive Format where
  | text
  | json
deriving DecidableEq, Repr

structure CheckRequest where
  document : String
  project : String := "."
  rules : List String := []
  format : Format := .text
  strict : Bool := false
deriving DecidableEq, Repr

inductive Command where
  | check (request : CheckRequest)
  | validate (project : String)
  | list (project : String)
  | save (project output : String)
deriving DecidableEq, Repr

inductive Stop where
  | help
  | version
  | usage (complaint : String)
deriving DecidableEq, Repr

inductive CommandName where
  | check
  | validate
  | list
  | save
deriving DecidableEq, Repr

def commandNames : List (String × CommandName) :=
  [("check", .check), ("validate", .validate), ("rules", .list), ("export", .save)]

inductive Switch where
  | project
  | rule
  | format
  | strict
  | output
deriving DecidableEq, Repr

namespace Switch

def longNames : List (String × Switch) :=
  [("project-dir", project), ("rule", rule), ("format", format), ("check", strict),
    ("output", output)]

def shortNames : List (Char × Switch) := [('r', rule), ('o', output)]

def belongsTo (name : CommandName) : Switch → Bool
  | project => true
  | rule | format | strict => name == .check
  | output => name == .save

def takesValue (switch : Switch) : Bool := switch != strict

def mayRepeat (switch : Switch) : Bool := switch == rule

def accepts (value : String) : Switch → Bool
  | project | output => !value.isEmpty
  | format => value == "text" || value == "json"
  | rule | strict => true

end Switch

structure Given where
  switches : List (Switch × String) := []
  document : Option String := none

namespace Given

def values (given : Given) (switch : Switch) : List String :=
  given.switches.filterMap fun (other, value) => if other == switch then some value else none

def value? (given : Given) (switch : Switch) : Option String := (given.values switch).head?

def addSwitch (given : Given) (switch : Switch) (value : String) : Except Stop Given :=
  if !switch.accepts value then .error (.usage ("invalid value '" ++ value ++ "'"))
  else if !switch.mayRepeat && (given.value? switch).isSome then
    .error (.usage "the argument cannot be used multiple times")
  else .ok { given with switches := given.switches ++ [(switch, value)] }

def addDocument (given : Given) (name : CommandName) (argument : String) : Except Stop Given :=
  if name != .check || given.document.isSome then
    .error (.usage ("unexpected argument '" ++ argument ++ "' found"))
  else if argument.isEmpty then .error (.usage "a value is required for '<DOCUMENT>'")
  else .ok { given with document := some argument }

def addDocuments (given : Given) (name : CommandName) : List String → Except Stop Given
  | [] => .ok given
  | argument :: rest => do (← given.addDocument name argument).addDocuments name rest

end Given

inductive Argument where
  | escape
  | long (name : String) (value : Option String)
  | short (name : Char) (rest : List Char)
  | plain (text : String)

def Argument.ofText (text : String) : Argument :=
  match text.toList with
  | ['-', '-'] => .escape
  | '-' :: '-' :: name =>
      let value := name.dropWhile (· != '=')
      .long (String.ofList (name.takeWhile (· != '=')))
        (if value.isEmpty then none else some (String.ofList value.tail))
  | '-' :: name :: rest => .short name rest
  | _ => .plain text

def unexpected (text : String) : Stop := .usage ("unexpected argument '" ++ text ++ "' found")

/-- Reads the arguments of a command. `pending` is a switch that still waits for its value. -/
def readGiven (name : CommandName) :
    (pending : Option Switch) → Given → List String → Except Stop Given
  | none, given, [] => .ok given
  | some _, _, [] => .error (.usage "a value is required but none was supplied")
  | pending, given, text :: rest =>
      match Argument.ofText text, pending with
      | .plain value, some switch => do readGiven name none (← given.addSwitch switch value) rest
      | _, some _ => .error (.usage "a value is required but none was supplied")
      | .plain document, none => do readGiven name none (← given.addDocument name document) rest
      | .escape, none => given.addDocuments name rest
      | .long long value, none =>
          match (Switch.longNames.lookup long).filter (Switch.belongsTo name), value with
          | some switch, some value =>
              if switch.takesValue then do
                readGiven name none (← given.addSwitch switch value) rest
              else .error (.usage ("unexpected value '" ++ value ++ "'"))
          | some switch, none =>
              if switch.takesValue then readGiven name (some switch) given rest
              else do readGiven name none (← given.addSwitch switch "") rest
          | none, none => if long == "help" then .error .help else .error (unexpected text)
          | none, some _ => .error (unexpected text)
      | .short short value, none =>
          match (Switch.shortNames.lookup short).filter (Switch.belongsTo name) with
          | some switch =>
              if value.isEmpty then readGiven name (some switch) given rest
              else
                let attached := if value.head? == some '=' then value.tail else value
                do readGiven name none (← given.addSwitch switch (String.ofList attached)) rest
          | none => if short == 'h' then .error .help else .error (unexpected text)

def missing (argument : String) : Stop :=
  .usage ("the following required arguments were not provided: " ++ argument)

def commandOf (name : CommandName) (given : Given) : Except Stop Command :=
  let project := (given.value? .project).getD "."
  match name with
  | .check =>
      match given.document with
      | none => .error (missing "<DOCUMENT>")
      | some document =>
          .ok (.check
            { document, project
              rules := given.values .rule
              format := if given.value? .format == some "json" then .json else .text
              strict := (given.value? .strict).isSome })
  | .validate => .ok (.validate project)
  | .list => .ok (.list project)
  | .save =>
      match given.value? .output with
      | none => .error (missing "--output <OUTPUT>")
      | some output => .ok (.save project output)

def helpFor : List String → Stop
  | [] => .help
  | [name] =>
      if name == "help" || (commandNames.lookup name).isSome then .help
      else .usage ("unrecognized subcommand '" ++ name ++ "'")
  | _ => .usage "unrecognized subcommand"

def Command.ofArguments : List String → Except Stop Command
  | [] => .error (.usage "a subcommand is required")
  | first :: rest =>
      match Argument.ofText first with
      | .plain text =>
          match commandNames.lookup text with
          | some name => do commandOf name (← readGiven name none {} rest)
          | none =>
              if text == "help" then .error (helpFor rest)
              else .error (.usage ("unrecognized subcommand '" ++ text ++ "'"))
      | .long "help" none => .error .help
      | .long "version" none => .error .version
      | .short 'h' _ => .error .help
      | .short 'V' _ => .error .version
      | _ => .error (unexpected first)

end Compliance.Cli
