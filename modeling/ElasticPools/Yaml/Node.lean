import ElasticPools.Yaml.Token
/-!
The tree of nodes that the tokens of a YAML text make up. Aliases stay in the tree as numbers of
anchors; a document says which node each number leads to.
-/
namespace ElasticPools.Yaml

inductive Node where
  | aliasOf (anchor : Nat)
  | scalar (text : String) (style : ScalarStyle) (tag : Option Tag)
  | sequence (items : List Node)
  | mapping (entries : List (Node × Node))

namespace Node

/-- A node of which nothing is written. -/
def blank : Node := scalar "" .plain none

mutual

/-- How many nodes and closing brackets a node is made of. -/
def weight : Node → Nat
  | aliasOf _ => 1
  | scalar .. => 1
  | sequence items => 2 + itemsWeight items
  | mapping entries => 2 + entriesWeight entries

def itemsWeight : List Node → Nat
  | [] => 0
  | item :: items => weight item + itemsWeight items

def entriesWeight : List (Node × Node) → Nat
  | [] => 0
  | (key, value) :: entries => weight key + weight value + entriesWeight entries

end

end Node

/-- An anchored node, with its number and its place in the order of the text. -/
structure Anchored where
  anchor : Nat
  place : Nat
  node : Node

/-- The anchors of a document so far. An anchor gets as its number how many names there were before
it, a name that comes again the number of all names. -/
structure Anchors where
  numbers : List (String × Nat)
  places : Nat
  nodes : List Anchored

namespace Anchors

def none : Anchors := ⟨[], 0, []⟩

/-- The number of a new anchor, and its place. -/
def declare (a : Anchors) (name : String) : Nat × Nat × Anchors :=
  let number := a.numbers.length
  (number, a.places,
    { a with numbers := (name, number) :: a.numbers.filter (·.1 != name), places := a.places + 1 })

def number? (a : Anchors) (name : String) : Option Nat := a.numbers.lookup name

/-- The node that a number leads to: of several the one that starts last. -/
def node? (a : Anchors) (number : Nat) : Option Node :=
  ((a.nodes.filter (·.anchor == number)).foldl
    (fun best n => match best with
      | Option.none => some n
      | some b => if b.place < n.place then some n else some b) Option.none).map (·.node)

end Anchors

/-- A document; without a root where the text holds nothing at all. -/
structure Document where
  root : Option Node
  anchors : Anchors

namespace Document

def weight (d : Document) : Nat := (d.root.map Node.weight).getD 1

/-- Replacements for tag handles. -/
abbrev Handles := List (String × List UInt8)

def standardHandles : Handles :=
  [("!", (Tag.ofText "!").bytes), ("!!", (Tag.ofText "tag:yaml.org,2002:").bytes)]

/-- What reading nodes works on. -/
structure State where
  tokens : List Token
  anchors : Anchors
  handles : Handles

abbrev Reader := StateT State Option

namespace Reader

def next? : Reader (Option Token) := return (← get).tokens.head?

def skip : Reader Unit := modify fun s => { s with tokens := s.tokens.tail }

/-- Passes a token, which must come next. -/
def expect (token : Token) : Reader Unit := do
  if (← next?) = some token then skip else failure

/-- Whether one of some tokens, or the end of the text, comes next. -/
def sees (p : Token → Bool) : Reader Bool := return (← next?).any p

end Reader

open Reader

def anchorProperty : Reader (Option String) := do
  match ← next? with
  | some (.anchor name) => skip; return some name
  | _ => return none

def tagProperty : Reader (Option TagName) := do
  match ← next? with
  | some (.tag name) => skip; return some name
  | _ => return none

/-- An anchor and a tag, in either order. -/
def properties : Reader (Option String × Option TagName) := do
  match ← anchorProperty with
  | some name => return (some name, ← tagProperty)
  | none =>
    match ← tagProperty with
    | none => return (none, none)
    | some tag => return (← anchorProperty, some tag)

/-- The tag that a name stands for. Its handle must be known. -/
def resolve (tag : TagName) : Reader Tag := do
  if tag.handle.isEmpty then return ⟨tag.suffix⟩
  else
    match (← get).handles.lookup tag.handle with
    | some replacement => return ⟨replacement ++ tag.suffix⟩
    | none => failure

/-- Gives an anchor its number before the node is read, and its node afterwards. -/
def anchored (name : Option String) (read : Reader Node) : Reader Node := do
  match name with
  | none => read
  | some name =>
    let (anchor, place, anchors) := (← get).anchors.declare name
    modify fun s => { s with anchors }
    let node ← read
    modify fun s =>
      { s with anchors := { s.anchors with nodes := ⟨anchor, place, node⟩ :: s.anchors.nodes } }
    return node

def endsKey : Token → Bool
  | .key | .value | .blockEnd => true
  | _ => false

def endsIndentlessEntry : Token → Bool
  | .blockEntry | .key | .value | .blockEnd => true
  | _ => false

def endsBlockEntry : Token → Bool
  | .blockEntry | .blockEnd => true
  | _ => false

def endsFlowEntry : Token → Bool
  | .flowEntry | .flowSequenceEnd => true
  | _ => false

def endsFlowKey : Token → Bool
  | .value | .flowEntry | .flowMappingEnd => true
  | _ => false

def endsFlowValue : Token → Bool
  | .flowEntry | .flowMappingEnd => true
  | _ => false

mutual

/-- A node. Block collections are nodes outside brackets only; a sequence no deeper than its key is
one where `indentless` says so. -/
def node (block indentless : Bool) : Nat → Reader Node
  | 0 => failure
  | fuel + 1 => do
    if let some (.aliasOf name) ← next? then
      match (← get).anchors.number? name with
      | some number => skip; return .aliasOf number
      | none => failure
    else
      let (anchor, tagName) ← properties
      let tag ← match tagName with
        | none => pure none
        | some name => some <$> resolve name
      let start ← next?
      match start with
      | some (.scalar text style) =>
        skip
        anchored anchor (return .scalar text style tag)
      | some .flowSequenceStart =>
        skip
        anchored anchor (.sequence <$> flowItems true fuel)
      | some .flowMappingStart =>
        skip
        anchored anchor (.mapping <$> flowEntries true fuel)
      | _ =>
        if indentless && start = some .blockEntry then
          anchored anchor (.sequence <$> indentlessItems fuel)
        else if block && start = some .blockSequenceStart then
          skip
          anchored anchor (.sequence <$> blockItems fuel)
        else if block && start = some .blockMappingStart then
          skip
          anchored anchor (.mapping <$> blockEntries fuel)
        else if anchor.isSome || tag.isSome then
          anchored anchor (return .scalar "" .plain tag)
        else failure

/-- A node, or a blank one where one of some tokens comes first. -/
def nodeUnless (blank : Token → Bool) (block indentless : Bool) : Nat → Reader Node
  | 0 => failure
  | fuel + 1 => do if ← sees blank then return .blank else node block indentless fuel

def blockItems : Nat → Reader (List Node)
  | 0 => failure
  | fuel + 1 => do
    if ← sees (· == .blockEntry) then
      skip
      let item ← nodeUnless endsBlockEntry true false fuel
      return item :: (← blockItems fuel)
    else
      expect .blockEnd
      return []

def indentlessItems : Nat → Reader (List Node)
  | 0 => failure
  | fuel + 1 => do
    if ← sees (· == .blockEntry) then
      skip
      let item ← nodeUnless endsIndentlessEntry true false fuel
      return item :: (← indentlessItems fuel)
    else return []

def blockEntries : Nat → Reader (List (Node × Node))
  | 0 => failure
  | fuel + 1 => do
    if ← sees (· == .blockEnd) then
      skip
      return []
    else
      expect .key
      let key ← nodeUnless endsKey true true fuel
      let value ←
        if ← sees (· == .value) then do
          skip
          nodeUnless endsKey true true fuel
        else pure .blank
      return (key, value) :: (← blockEntries fuel)

/-- The items of a sequence in brackets. An item may be a pair, which is a mapping of its own. -/
def flowItems (first : Bool) : Nat → Reader (List Node)
  | 0 => failure
  | fuel + 1 => do
    if ← sees (· == .flowSequenceEnd) then
      skip
      return []
    else
      if !first then expect .flowEntry
      if ← sees (· == .flowSequenceEnd) then
        skip
        return []
      else if ← sees (· == .key) then
        skip
        let pair ← flowPair fuel
        return .mapping [pair] :: (← flowItems false fuel)
      else
        let item ← node false false fuel
        return item :: (← flowItems false fuel)

/-- A single pair between brackets. A missing key swallows the token that it is missed at. -/
def flowPair : Nat → Reader (Node × Node)
  | 0 => failure
  | fuel + 1 => do
    let key ←
      if ← sees (fun t => t == .value || endsFlowEntry t) then do
        skip
        pure .blank
      else node false false fuel
    let value ←
      if ← sees (· == .value) then do
        skip
        nodeUnless endsFlowEntry false false fuel
      else pure .blank
    return (key, value)

def flowEntries (first : Bool) : Nat → Reader (List (Node × Node))
  | 0 => failure
  | fuel + 1 => do
    if ← sees (· == .flowMappingEnd) then
      skip
      return []
    else
      if !first then expect .flowEntry
      if ← sees (· == .flowMappingEnd) then
        skip
        return []
      else if ← sees (· == .key) then
        skip
        let key ← nodeUnless endsFlowKey false false fuel
        let value ←
          if ← sees (· == .value) then do
            skip
            nodeUnless endsFlowValue false false fuel
          else pure .blank
        return (key, value) :: (← flowEntries false fuel)
      else
        let key ← node false false fuel
        return (key, .blank) :: (← flowEntries false fuel)

end

/-- Collects the directives in front of a document; a handle or a version comes once. -/
def directives : List Token → Bool → Handles → Option (Handles × List Token)
  | .directive (.version major minor) :: rest, versioned, handles =>
    if !versioned && major = 1 && (minor = 1 || minor = 2) then directives rest true handles
    else none
  | .directive (.tag handle replacement) :: rest, versioned, handles =>
    if (handles.lookup handle).isSome then none
    else directives rest versioned ((handle, replacement) :: handles)
  | rest, _, handles => some (handles, rest)

def isDocumentEdge : Token → Bool
  | .directive _ | .documentStart | .documentEnd => true
  | _ => false

/-- The root of the first document. -/
def readRoot (fuel : Nat) : Reader Node := do
  match ← next? with
  | some (.directive _) | some .documentStart =>
    match directives (← get).tokens false [] with
    | none => failure
    | some (handles, tokens) =>
      modify fun s => { s with tokens, handles := handles ++ standardHandles }
      expect .documentStart
      match ← next? with
      | none => return .blank
      | some token => if isDocumentEdge token then return .blank else node true false fuel
  | _ => node true false fuel

/-- The one document of a list of tokens. -/
def ofTokens? (tokens : List Token) : Option Document :=
  if tokens.isEmpty then some ⟨none, .none⟩
  else
    match (readRoot (4 * tokens.length + 4)).run ⟨tokens, .none, standardHandles⟩ with
    | none => none
    | some (node, s) =>
      if (s.tokens.dropWhile (· == .documentEnd)).isEmpty then some ⟨some node, s.anchors⟩ else none

def ofText? (text : String) : Option Document := (Token.ofText? text).bind ofTokens?

end Document

end ElasticPools.Yaml
