import Compliance.Yaml.Lexer

/-!
From tokens to the nodes of a document. An anchor is numbered by how many names there were when it
was set, and an alias refers to the last node with the number that its name has.
-/

namespace Compliance.Yaml

inductive Node where
  | scalar (text : String) (style : ScalarStyle) (tag : Option (List Char)) (anchor : Option Nat)
  | reference (anchor : Nat)
  | sequence (items : List Node) (tag : Option (List Char)) (anchor : Option Nat)
  | mapping (entries : List (Node × Node)) (tag : Option (List Char)) (anchor : Option Nat)
deriving Inhabited

namespace Node

def empty : Node := .scalar "" .plain none none

def anchor? : Node → Option Nat
  | scalar _ _ _ anchor | sequence _ _ anchor | mapping _ _ anchor => anchor
  | reference _ => none

mutual

def all : Node → List Node
  | sequence items tag anchor => sequence items tag anchor :: allItems items
  | mapping entries tag anchor => mapping entries tag anchor :: allEntries entries
  | other => [other]

def allItems : List Node → List Node
  | [] => []
  | item :: rest => item.all ++ allItems rest

def allEntries : List (Node × Node) → List Node
  | [] => []
  | (key, value) :: rest => key.all ++ value.all ++ allEntries rest

end

mutual

def events : Node → Nat
  | sequence items _ _ => itemsEvents items + 2
  | mapping entries _ _ => entriesEvents entries + 2
  | _ => 1

def itemsEvents : List Node → Nat
  | [] => 0
  | item :: rest => item.events + itemsEvents rest

def entriesEvents : List (Node × Node) → Nat
  | [] => 0
  | (key, value) :: rest => key.events + value.events + entriesEvents rest

end

end Node

structure NodeInput where
  tokens : List Token
  anchors : List (List Char × Nat) := []

abbrev TagHandles := List (List Char × List Char)

def usualHandles : TagHandles := [(['!'], ['!']), (['!', '!'], "tag:yaml.org,2002:".toList)]

namespace NodeInput

def next (input : NodeInput) : Option Token := input.tokens.head?

def advance (input : NodeInput) : NodeInput := { input with tokens := input.tokens.tail }

def isAt (input : NodeInput) (tokens : List Token) : Bool :=
  input.next.any tokens.contains

def define (input : NodeInput) : Option (List Char) → Option Nat × NodeInput
  | none => (none, input)
  | some name =>
      let number := input.anchors.length
      let others := input.anchors.filter fun anchor => anchor.1 != name
      (some number, { input with anchors := (name, number) :: others })

def resolveTag (handles : TagHandles) (handle suffix : List Char) : Except Fault (List Char) :=
  if handle.isEmpty then .ok suffix
  else
    match handles.lookup handle with
    | some expansion => .ok (expansion ++ suffix)
    | none => .error .undefinedTag

def properties (handles : TagHandles) (input : NodeInput) :
    Except Fault (Option (List Char) × Option (List Char) × NodeInput) :=
  match input.tokens with
  | .anchor name :: .tag handle suffix :: rest | .tag handle suffix :: .anchor name :: rest => do
      let tag ← resolveTag handles handle suffix
      return (some name, some tag, { input with tokens := rest })
  | .anchor name :: rest => .ok (some name, none, { input with tokens := rest })
  | .tag handle suffix :: rest => do
      let tag ← resolveTag handles handle suffix
      return (none, some tag, { input with tokens := rest })
  | _ => .ok (none, none, input)

/-- A lone exclamation mark is no tag of a scalar. -/
def scalarTag (tag : Option (List Char)) : Option (List Char) :=
  if tag == some ['!'] then none else tag

mutual

/-- Reads a node. `block` tells whether blocks are allowed, `indentless` whether a sequence may
start without indentation. -/
def node (handles : TagHandles) : (fuel : Nat) → (block indentless : Bool) → NodeInput →
    Except Fault (Node × NodeInput)
  | 0, _, _, _ => .error .expectedContent
  | fuel + 1, block, indentless, input =>
      match input.next with
      | some (.reference name) =>
          match input.anchors.lookup name with
          | some number => .ok (.reference number, input.advance)
          | none => .error .unknownAnchor
      | _ => do
          let (name, tag, after) ← input.properties handles
          let (anchor, set) := after.define name
          match set.next with
          | some (.scalar text style) =>
              return (.scalar text style (scalarTag tag) anchor, set.advance)
          | some .flowSequence =>
              let (items, rest) ← flowItems handles fuel true [] set.advance
              return (.sequence items tag anchor, rest)
          | some .flowMapping =>
              let (entries, rest) ← flowEntries handles fuel true [] set.advance
              return (.mapping entries tag anchor, rest)
          | some token =>
              if indentless && token == .blockEntry then
                let (items, rest) ← indentlessItems handles fuel [] set
                return (.sequence items tag anchor, rest)
              else if block && token == .blockSequence then
                let (items, rest) ← blockItems handles fuel [] set.advance
                return (.sequence items tag anchor, rest)
              else if block && token == .blockMapping then
                let (entries, rest) ← blockEntries handles fuel [] set.advance
                return (.mapping entries tag anchor, rest)
              else if name.isSome || tag.isSome then return (.scalar "" .plain tag anchor, set)
              else throw .expectedContent
          | none =>
              if name.isSome || tag.isSome then return (.scalar "" .plain tag anchor, set)
              else throw .expectedContent

def nodeUnless (handles : TagHandles) : (fuel : Nat) → (ends : List Token) →
    (block indentless : Bool) → NodeInput → Except Fault (Node × NodeInput)
  | 0, _, _, _, _ => .error .expectedContent
  | fuel + 1, ends, block, indentless, input =>
      if input.isAt ends then .ok (.empty, input) else node handles fuel block indentless input

def blockItems (handles : TagHandles) : (fuel : Nat) → (done : List Node) → NodeInput →
    Except Fault (List Node × NodeInput)
  | 0, _, _ => .error .expectedEntry
  | fuel + 1, done, input =>
      match input.next with
      | some .blockEntry => do
          let (item, rest) ←
            nodeUnless handles fuel [.blockEntry, .blockEnd] true false input.advance
          blockItems handles fuel (item :: done) rest
      | some .blockEnd => .ok (done.reverse, input.advance)
      | _ => .error .expectedEntry

def indentlessItems (handles : TagHandles) : (fuel : Nat) → (done : List Node) → NodeInput →
    Except Fault (List Node × NodeInput)
  | 0, _, _ => .error .expectedEntry
  | fuel + 1, done, input =>
      if input.next == some .blockEntry then do
        let (item, rest) ← nodeUnless handles fuel [.blockEntry, .key, .value, .blockEnd] true false
          input.advance
        indentlessItems handles fuel (item :: done) rest
      else .ok (done.reverse, input)

def blockEntries (handles : TagHandles) : (fuel : Nat) → (done : List (Node × Node)) →
    NodeInput → Except Fault (List (Node × Node) × NodeInput)
  | 0, _, _ => .error .expectedKey
  | fuel + 1, done, input =>
      match input.next with
      | some .key => do
          let (key, after) ←
            nodeUnless handles fuel [.key, .value, .blockEnd] true true input.advance
          let (value, rest) ← entryValue handles fuel [.key, .value, .blockEnd] true after
          blockEntries handles fuel ((key, value) :: done) rest
      | some .blockEnd => .ok (done.reverse, input.advance)
      | _ => .error .expectedKey

def entryValue (handles : TagHandles) : (fuel : Nat) → (ends : List Token) → (block : Bool) →
    NodeInput → Except Fault (Node × NodeInput)
  | 0, _, _, _ => .error .expectedContent
  | fuel + 1, ends, block, input =>
      if input.next == some .value then nodeUnless handles fuel ends block block input.advance
      else .ok (.empty, input)

/-- The items of a sequence in brackets. An item may be a single entry of a mapping; the token
that stands in place of its key is passed over. -/
def flowItems (handles : TagHandles) : (fuel : Nat) → (first : Bool) → (done : List Node) →
    NodeInput → Except Fault (List Node × NodeInput)
  | 0, _, _, _ => .error .unclosedFlow
  | fuel + 1, first, done, input =>
      if input.next == some .flowSequenceEnd then .ok (done.reverse, input.advance)
      else if !first && input.next != some .flowEntry then .error .unclosedFlow
      else
        let start := if first then input else input.advance
        match start.next with
        | some .flowSequenceEnd => .ok (done.reverse, start.advance)
        | some .key => do
            let keyStart := start.advance
            let (key, after) ←
              if keyStart.isAt [.value, .flowEntry, .flowSequenceEnd]
              then pure (Node.empty, keyStart.advance)
              else node handles fuel false false keyStart
            let (value, rest) ← entryValue handles fuel [.flowEntry, .flowSequenceEnd] false after
            flowItems handles fuel false (.mapping [(key, value)] none none :: done) rest
        | _ => do
            let (item, rest) ← node handles fuel false false start
            flowItems handles fuel false (item :: done) rest

def flowEntries (handles : TagHandles) : (fuel : Nat) → (first : Bool) →
    (done : List (Node × Node)) → NodeInput → Except Fault (List (Node × Node) × NodeInput)
  | 0, _, _, _ => .error .unclosedFlow
  | fuel + 1, first, done, input =>
      if input.next == some .flowMappingEnd then .ok (done.reverse, input.advance)
      else if !first && input.next != some .flowEntry then .error .unclosedFlow
      else
        let start := if first then input else input.advance
        match start.next with
        | some .flowMappingEnd => .ok (done.reverse, start.advance)
        | some .key => do
            let (key, after) ← nodeUnless handles fuel [.value, .flowEntry, .flowMappingEnd]
              false false start.advance
            let (value, rest) ← entryValue handles fuel [.flowEntry, .flowMappingEnd] false after
            flowEntries handles fuel false ((key, value) :: done) rest
        | _ => do
            let (key, rest) ← node handles fuel false false start
            flowEntries handles fuel false ((key, .empty) :: done) rest

end

/-- Reads the directives before a document. There is at most one version, and each handle is
declared at most once. -/
def directives : (versioned : Bool) → (handles : TagHandles) → List Token →
    Except Fault (TagHandles × List Token)
  | versioned, handles, .version major minor :: rest =>
      if versioned || major != 1 || (minor != 1 && minor != 2) then .error .badDirective
      else directives true handles rest
  | versioned, handles, .tagHandle handle expansion :: rest =>
      if (handles.lookup handle).isSome then .error .badDirective
      else directives versioned ((handle, expansion) :: handles) rest
  | _, handles, tokens => .ok (handles, tokens)

def startsDocument : Token → Bool
  | .version _ _ | .tagHandle _ _ | .documentStart => true
  | _ => false

def endsDocument : Option Token → Bool
  | none => true
  | some token => token == .documentEnd || startsDocument token

def root (tokens : List Token) : Except Fault (Node × NodeInput) := do
  let fuel := 4 * tokens.length + 4
  if tokens.head?.any startsDocument then
    let (handles, rest) ← directives false [] tokens
    match rest with
    | .documentStart :: content =>
        if endsDocument content.head? then return (.empty, { tokens := content })
        else node (handles ++ usualHandles) fuel true false { tokens := content }
    | _ => throw .expectedDocumentStart
  else node usualHandles fuel true false { tokens }

end NodeInput

structure Tree where
  root : Node
  anchored : List (Nat × Node)

namespace Tree

def ofRoot (root : Node) : Tree where
  root := root
  anchored :=
    (root.all.filterMap fun node => node.anchor?.map fun number => (number, node)).reverse

def ofText? (text : String) : Except Fault (Option Tree) := do
  let tokens ← Token.ofText text.toList
  if tokens.isEmpty then return none
  let (root, rest) ← NodeInput.root tokens
  if rest.tokens.all (· == .documentEnd) then return some (ofRoot root)
  else throw .severalDocuments

def resolve (tree : Tree) : Node → Node
  | .reference number => (tree.anchored.lookup number).getD .empty
  | other => other

end Tree

end Compliance.Yaml
