import ElasticPools.Yaml.Scalar
import ElasticPools.Yaml.Tag
/-!
The tokens of a YAML text. Indentation opens and closes block collections here, so that what follows
deals with brackets of two sorts alone; and what turns out to be a key, once its colon is reached,
gets its mark inserted in front.
-/
namespace ElasticPools.Yaml

inductive Token where
  | directive (d : Directive)
  | documentStart
  | documentEnd
  | blockSequenceStart
  | blockMappingStart
  | blockEnd
  | flowSequenceStart
  | flowSequenceEnd
  | flowMappingStart
  | flowMappingEnd
  | blockEntry
  | flowEntry
  | key
  | value
  | aliasOf (name : String)
  | anchor (name : String)
  | tag (name : TagName)
  | scalar (text : String) (style : ScalarStyle)
deriving DecidableEq, Repr

/-- A token that is a key if a colon follows it soon enough. -/
structure PossibleKey where
  /-- Whether a missing colon is an error. -/
  required : Bool
  /-- How many tokens stand before it. -/
  position : Nat
  start : Cursor

/-- The state of reading tokens. -/
structure Tokenizer where
  cursor : Cursor
  tokens : Array Token
  /-- The column of the innermost block collection, -1 outside of all. -/
  indent : Int
  outerIndents : List Int
  keyAllowed : Bool
  /-- The possible key of the block level. -/
  blockKey : Option PossibleKey
  /-- Those of the open brackets, innermost first. -/
  flowKeys : List (Option PossibleKey)

namespace Tokenizer

def start (text : List Char) : Tokenizer :=
  ⟨.start text, #[], -1, [], true, none, []⟩

def inFlow (t : Tokenizer) : Bool := !t.flowKeys.isEmpty

def emit (t : Tokenizer) (token : Token) : Tokenizer := { t with tokens := t.tokens.push token }

def move (t : Tokenizer) (cursor : Cursor) : Tokenizer := { t with cursor }

def allowKey (t : Tokenizer) (keyAllowed : Bool) : Tokenizer := { t with keyAllowed }

/-- The possible key of the innermost level. -/
def possibleKey (t : Tokenizer) : Option PossibleKey :=
  match t.flowKeys with
  | [] => t.blockKey
  | key :: _ => key

def setKey (t : Tokenizer) (key : Option PossibleKey) : Tokenizer :=
  match t.flowKeys with
  | [] => { t with blockKey := key }
  | _ :: outer => { t with flowKeys := key :: outer }

/-- Gives up the possible key of the innermost level. -/
def dropKey (t : Tokenizer) : Option Tokenizer :=
  if t.possibleKey.any (·.required) then none else some (t.setKey none)

/-- The next token may be a key, where keys are allowed. -/
def saveKey (t : Tokenizer) : Option Tokenizer :=
  if t.keyAllowed then
    t.dropKey.map (·.setKey (some
      ⟨!t.inFlow && t.indent == (t.cursor.column : Int), t.tokens.size, t.cursor⟩))
  else some t

/-- How many bytes behind its start a key's colon may stand. -/
def keyReach : Nat := 1024

/-- A key ends on the line it starts on, and within reach. -/
def isStale (now : Cursor) (key : PossibleKey) : Bool :=
  key.start.line < now.line || key.start.offset + keyReach < now.offset

/-- Drops a possible key that has become impossible. -/
def refresh (now : Cursor) (key : Option PossibleKey) : Option (Option PossibleKey) :=
  match key with
  | none => some none
  | some k => if isStale now k then if k.required then none else some none else some (some k)

def dropStaleKeys (t : Tokenizer) : Option Tokenizer :=
  match refresh t.cursor t.blockKey, t.flowKeys.mapM (refresh t.cursor) with
  | some blockKey, some flowKeys => some { t with blockKey, flowKeys }
  | _, _ => none

/-- Opens a block collection at a column right of the innermost one, in front of the tokens from
`position` on. -/
def openBlock (t : Tokenizer) (column : Nat) (position : Nat) (token : Token) : Tokenizer :=
  if !t.inFlow && t.indent < (column : Int) then
    { t with
      tokens := t.tokens.insertIdxIfInBounds position token
      indent := column
      outerIndents := t.indent :: t.outerIndents }
  else t

/-- Closes the block collections right of a column, of those that `outer` lists from within. -/
def closeBlocksFrom (column : Int) (t : Tokenizer) : List Int → Tokenizer
  | [] => t
  | indent :: outer =>
    if column < t.indent then
      closeBlocksFrom column { t.emit .blockEnd with indent, outerIndents := outer } outer
    else t

def closeBlocks (t : Tokenizer) (column : Int) : Tokenizer :=
  if t.inFlow then t else closeBlocksFrom column t t.outerIndents

def byteOrderMark : Char := '\ufeff'

/-- Passes blanks, comments and line breaks. A new line may start a key, outside brackets. Tabs are
blanks only where no key may start. A byte order mark may stand at the beginning of each line. -/
def skipGap : Nat → Tokenizer → Tokenizer
  | 0, t => t
  | fuel + 1, t =>
    let c := t.cursor
    let c := if c.column = 0 && c.peek? = some byteOrderMark then c.skip 1 else c
    let tabs := t.inFlow || !t.keyAllowed
    let c := (c.skipWhile fun ch => ch == ' ' || (tabs && ch == '\t')).skipComment
    if c.sees isBreak then
      let t := t.move c.readBreak.2
      skipGap fuel (if t.inFlow then t else t.allowKey true)
    else t.move c

/-- A token of `size` characters. -/
def take (t : Tokenizer) (size : Nat) (token : Token) : Tokenizer :=
  (t.move (t.cursor.skip size)).emit token

/-- A mark between documents, or a directive: all blocks end here. -/
def endBlocks (t : Tokenizer) : Option Tokenizer :=
  (t.closeBlocks (-1)).dropKey.map (·.allowKey false)

def openFlow (t : Tokenizer) (token : Token) : Option Tokenizer :=
  t.saveKey.map fun t => ({ t with flowKeys := none :: t.flowKeys, keyAllowed := true }).take 1 token

def closeFlow (t : Tokenizer) (token : Token) : Option Tokenizer :=
  t.dropKey.map fun t => ({ t with flowKeys := t.flowKeys.tail, keyAllowed := false }).take 1 token

def takeFlowEntry (t : Tokenizer) : Option Tokenizer :=
  t.dropKey.map fun t => (t.allowKey true).take 1 .flowEntry

/-- The dash of a block sequence. -/
def takeBlockEntry (t : Tokenizer) : Option Tokenizer :=
  if !t.inFlow && !t.keyAllowed then none
  else
    (t.openBlock t.cursor.column t.tokens.size .blockSequenceStart).dropKey.map fun t =>
      (t.allowKey true).take 1 .blockEntry

/-- The question mark in front of a key. -/
def takeKey (t : Tokenizer) : Option Tokenizer :=
  if !t.inFlow && !t.keyAllowed then none
  else
    (t.openBlock t.cursor.column t.tokens.size .blockMappingStart).dropKey.map fun t =>
      (t.allowKey !t.inFlow).take 1 .key

/-- The colon behind a key. -/
def takeValue (t : Tokenizer) : Option Tokenizer :=
  match t.possibleKey with
  | some k =>
    let t := { t with tokens := t.tokens.insertIdxIfInBounds k.position .key }
    let t := (t.openBlock k.start.column k.position .blockMappingStart).setKey none
    some ((t.allowKey false).take 1 .value)
  | none =>
    if t.inFlow then some ((t.allowKey false).take 1 .value)
    else if !t.keyAllowed then none
    else
      let t := t.openBlock t.cursor.column t.tokens.size .blockMappingStart
      some ((t.allowKey true).take 1 .value)

/-- A token that may start a key, and after which no key may start. -/
def takeWord (t : Tokenizer) (read : Cursor → Option (Token × Cursor)) : Option Tokenizer :=
  match t.saveKey with
  | none => none
  | some t => (read t.cursor).map fun (token, c) => ((t.allowKey false).move c).emit token

/-- The name of an anchor or alias, which white space or one of few marks follows. -/
def anchorName (make : String → Token) (c : Cursor) : Option (Token × Cursor) :=
  let (name, c) := (c.skip 1).takeWhile isWordChar
  if name.isEmpty || !c.endsOr 0 fun ch => isGap ch || "?:,]\x7d%@`".toList.contains ch then none
  else some (make (String.ofList name), c)

def takePlain (t : Tokenizer) : Option Tokenizer :=
  match t.saveKey with
  | none => none
  | some t =>
    (Scalar.plain t.inFlow (t.indent + 1) t.cursor).map fun (text, broken, c) =>
      ((t.allowKey broken).move c).emit (.scalar text .plain)

def takeBlockScalar (t : Tokenizer) (folded : Bool) : Option Tokenizer :=
  match t.dropKey with
  | none => none
  | some t =>
    (Scalar.block folded t.indent t.cursor).map fun (text, c) =>
      ((t.allowKey true).move c).emit (.scalar text (if folded then .folded else .literal))

def takeQuoted (t : Tokenizer) (single : Bool) : Option Tokenizer :=
  t.takeWord fun c =>
    (Scalar.quoted single c).map fun (text, c) =>
      (.scalar text (if single then .singleQuoted else .doubleQuoted), c)

/-- Characters that no plain scalar starts with. -/
def isIndicator (c : Char) : Bool := "-?:,[]\x7b\x7d#&*!|>'\"%@`".toList.contains c

/-- Takes the token that starts with a character. -/
def takeAt (t : Tokenizer) (ch : Char) : Option Tokenizer :=
  let c := t.cursor
  let gapFollows := c.endsOr 1 isGap
  if c.column = 0 && ch == '%' then
    t.endBlocks.bind fun t =>
      (Directive.read c).map fun (d, c) => (t.move c).emit (.directive d)
  else if c.seesMark '-' then t.endBlocks.map (·.take 3 .documentStart)
  else if c.seesMark '.' then t.endBlocks.map (·.take 3 .documentEnd)
  else if ch == '[' then t.openFlow .flowSequenceStart
  else if ch == '\x7b' then t.openFlow .flowMappingStart
  else if ch == ']' then t.closeFlow .flowSequenceEnd
  else if ch == '\x7d' then t.closeFlow .flowMappingEnd
  else if ch == ',' then t.takeFlowEntry
  else if ch == '-' && gapFollows then t.takeBlockEntry
  else if ch == '?' && (t.inFlow || gapFollows) then t.takeKey
  else if ch == ':' && (t.inFlow || gapFollows) then t.takeValue
  else if ch == '*' then t.takeWord (anchorName .aliasOf)
  else if ch == '&' then t.takeWord (anchorName .anchor)
  else if ch == '!' then
    t.takeWord fun c => (TagName.read t.inFlow c).map fun (tag, c) => (.tag tag, c)
  else if ch == '|' && !t.inFlow then t.takeBlockScalar false
  else if ch == '>' && !t.inFlow then t.takeBlockScalar true
  else if ch == '\'' then t.takeQuoted true
  else if ch == '"' then t.takeQuoted false
  else if (!isGap ch && !isIndicator ch) || (ch == '-' && !(c.at? 1).any isBlank) ||
      (!t.inFlow && (ch == '?' || ch == ':') && !gapFollows) then
    t.takePlain
  else none

/-- Reads tokens to the end of the text. Every turn but the last passes a character. -/
def run : Nat → Tokenizer → Option (Array Token)
  | 0, _ => none
  | fuel + 1, t =>
    let t := skipGap (t.cursor.left + 1) t
    match t.dropStaleKeys with
    | none => none
    | some t =>
      let t := t.closeBlocks t.cursor.column
      match t.cursor.peek? with
      | none => (t.closeBlocks (-1)).dropKey.map (·.tokens)
      | some ch =>
        match t.takeAt ch with
        | none => none
        | some t => run fuel t

end Tokenizer

/-- The tokens of a text, unless it is malformed. -/
def Token.ofText? (text : String) : Option (List Token) :=
  let chars := text.toList
  if chars.all isAllowed then
    (Tokenizer.run (chars.length + 1) (.start chars)).map (·.toList)
  else none

end ElasticPools.Yaml
