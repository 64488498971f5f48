import ElasticPools.Yaml.Cursor
/-!
Scalars in their four ways of writing: plain, quoted (two sorts) and block (two sorts). Each reader
gives the text that a scalar stands for, or nothing where it is malformed.
-/
namespace ElasticPools.Yaml

inductive ScalarStyle where
  | plain
  | singleQuoted
  | doubleQuoted
  | literal
  | folded
deriving DecidableEq, Repr

/-- White space between two words of a scalar that may run over several lines. -/
structure Gap where
  blanks : String
  /-- Whether a line ended within the gap. -/
  broken : Bool
  firstBreak : String
  moreBreaks : String

namespace Gap

def none : Gap := ⟨"", false, "", ""⟩

/-- What a gap stands for: a single line break folds into a blank, further ones stay. -/
def text (g : Gap) : String :=
  if !g.broken then g.blanks
  else if g.firstBreak = "\n" then if g.moreBreaks.isEmpty then " " else g.moreBreaks
  else g.firstBreak ++ g.moreBreaks

/-- Reads on through white space. Where an indent is given, no tab may stand left of it on a new
line. -/
def read (indent : Option Int) : Nat → Gap → Cursor → Option (Gap × Cursor)
  | 0, g, c => some (g, c)
  | fuel + 1, g, c =>
    match c.peek? with
    | Option.none => some (g, c)
    | some ch =>
      if isBlank ch then
        if g.broken && ch == '\t' && indent.any ((c.column : Int) < ·) then Option.none
        else read indent fuel (if g.broken then g else { g with blanks := g.blanks.push ch }) (c.skip 1)
      else if isBreak ch then
        let (b, c) := c.readBreak
        read indent fuel
          (if g.broken then { g with moreBreaks := g.moreBreaks ++ b } else ⟨"", true, b, ""⟩) c
      else some (g, c)

end Gap

namespace Scalar

/-! ### Plain scalars -/

/-- Characters that end a plain scalar inside brackets. -/
def isFlowIndicator (c : Char) : Bool :=
  c == ',' || c == '[' || c == ']' || c == '\x7b' || c == '\x7d'

/-- Reads on in a plain scalar up to the next gap or indicator. -/
def plainWord (inFlow : Bool) (word : String) : List Char → Option String
  | [] => some word
  | ch :: rest =>
    if isGap ch then some word
    else if inFlow && ch == ':' && rest.head?.any (fun d => isFlowIndicator d || d == '?') then none
    else if (ch == ':' && rest.head?.all isGap) || (inFlow && isFlowIndicator ch) then some word
    else plainWord inFlow (word.push ch) rest

/-- Words and gaps in turn. The gap that follows the last word is given back. -/
def plainWords (inFlow : Bool) (indent : Int) :
    Nat → String → Gap → Cursor → Option (String × Gap × Cursor)
  | 0, text, g, c => some (text, g, c)
  | fuel + 1, text, g, c =>
    if c.seesDocumentMark || c.peek? = some '#' then some (text, g, c)
    else
      match plainWord inFlow "" c.rest with
      | none => none
      | some word =>
        let (text, g) := if word.isEmpty then (text, g) else (text ++ g.text ++ word, Gap.none)
        let c := c.skip word.length
        if !c.sees isGap then some (text, g, c)
        else
          match Gap.read (some indent) c.left g c with
          | none => none
          | some (g, c) =>
            if !inFlow && (c.column : Int) < indent then some (text, g, c)
            else plainWords inFlow indent fuel text g c

/-- A plain scalar, and whether lines ended behind it. -/
def plain (inFlow : Bool) (indent : Int) (c : Cursor) : Option (String × Bool × Cursor) :=
  (plainWords inFlow indent (c.left + 1) "" Gap.none c).map fun (text, g, c) => (text, g.broken, c)

/-! ### Quoted scalars -/

/-- What a character stands for behind a backslash. -/
def escaped? : Char → Option Char
  | '0' => some '\x00'
  | 'a' => some '\x07'
  | 'b' => some '\x08'
  | 't' | '\t' => some '\t'
  | 'n' => some '\n'
  | 'v' => some '\x0b'
  | 'f' => some '\x0c'
  | 'r' => some '\r'
  | 'e' => some '\x1b'
  | ' ' => some ' '
  | '"' => some '"'
  | '/' => some '/'
  | '\\' => some '\\'
  | 'N' => some '\u0085'
  | '_' => some '\u00a0'
  | 'L' => some '\u2028'
  | 'P' => some '\u2029'
  | _ => none

/-- How many hexadecimal digits follow a character behind a backslash. -/
def codeLength? : Char → Option Nat
  | 'x' => some 2
  | 'u' => some 4
  | 'U' => some 8
  | _ => none

/-- The character with a code of `length` hexadecimal digits. -/
def codeChar? (length : Nat) (digits : List Char) : Option Char :=
  let digits := digits.take length
  let code := digits.foldl (fun n d => n * 16 + hexValue d) 0
  if digits.length = length && digits.all isHex &&
      !(0xD800 ≤ code && code ≤ 0xDFFF) && code ≤ 0x10FFFF then
    some (Char.ofNat code)
  else none

/-- Characters up to a gap or the closing quote; `true` where a backslash ended the line. -/
def quotedWord (single : Bool) : Nat → String → Cursor → Option (String × Bool × Cursor)
  | 0, text, c => some (text, false, c)
  | fuel + 1, text, c =>
    match c.rest with
    | [] => some (text, false, c)
    | ch :: rest =>
      if isGap ch then some (text, false, c)
      else if single then
        if ch == '\'' then
          if rest.head? = some '\'' then quotedWord single fuel (text.push '\'') (c.skip 2)
          else some (text, false, c)
        else quotedWord single fuel (text.push ch) (c.skip 1)
      else if ch == '"' then some (text, false, c)
      else if ch == '\\' then
        match rest with
        | [] => none
        | d :: digits =>
          if isBreak d then some (text, true, (c.skip 1).readBreak.2)
          else
            match escaped? d, codeLength? d with
            | some e, _ => quotedWord single fuel (text.push e) (c.skip 2)
            | none, some length =>
              match codeChar? length digits with
              | some e => quotedWord single fuel (text.push e) (c.skip (2 + length))
              | none => none
            | none, none => none
      else quotedWord single fuel (text.push ch) (c.skip 1)

/-- Words and gaps in turn, up to and with the closing quote. -/
def quotedWords (single : Bool) : Nat → String → Cursor → Option (String × Cursor)
  | 0, _, _ => none
  | fuel + 1, text, c =>
    if c.seesDocumentMark || c.rest.isEmpty then none
    else
      match quotedWord single (c.left + 1) text c with
      | none => none
      | some (text, broken, c) =>
        if c.peek? = some (if single then '\'' else '"') then some (text, c.skip 1)
        else
          match Gap.read none c.left { Gap.none with broken } c with
          | none => none
          | some (g, c) => quotedWords single fuel (text ++ g.text) c

/-- A quoted scalar; the cursor is at its opening quote. -/
def quoted (single : Bool) (c : Cursor) : Option (String × Cursor) :=
  quotedWords single (c.left + 1) "" (c.skip 1)

/-! ### Block scalars -/

/-- What happens to the line breaks at the end of a block. -/
inductive Chomp where
  | strip
  | clip
  | keep
deriving DecidableEq, Repr

def chompOf? : Char → Option Chomp
  | '+' => some .keep
  | '-' => some .strip
  | _ => none

/-- The two optional parts of a block's header, in either order. The width is not zero. -/
def blockHeader (c : Cursor) : Option (Chomp × Option Nat × Cursor) :=
  let width (c : Cursor) : Option (Option Nat × Cursor) :=
    match c.peek? with
    | some d =>
      if d == '0' then none
      else if d.isDigit then some (some (d.toNat - '0'.toNat), c.skip 1)
      else some (none, c)
    | none => some (none, c)
  match c.peek?.bind chompOf? with
  | some chomp => (width (c.skip 1)).map fun (w, c) => (chomp, w, c)
  | none =>
    match width c with
    | none => none
    | some (none, c) => some (.clip, none, c)
    | some (some w, c) =>
      match c.peek?.bind chompOf? with
      | some chomp => some (chomp, some w, c.skip 1)
      | none => some (.clip, some w, c)

/-- Passes empty lines. While the indent is not known the widest run of blanks seen is kept. -/
def blockBreaks (indent : Option Nat) :
    Nat → Nat → String → Cursor → Option (Nat × String × Cursor)
  | 0, widest, breaks, c => some (widest, breaks, c)
  | fuel + 1, widest, breaks, c =>
    let blanks := (c.rest.takeWhile (· == ' ')).length
    let passed := match indent with
      | none => blanks
      | some n => min blanks (n - c.column)
    let c := c.skip passed
    let widest := max widest c.column
    if indent.all (c.column < ·) && c.peek? = some '\t' then none
    else if c.sees isBreak then
      let (b, c) := c.readBreak
      blockBreaks indent fuel widest (breaks ++ b) c
    else some (widest, breaks, c)

/-- What has been read of a block: its text, the break behind the last line, the empty lines after
that, and whether the last line began with a blank. -/
structure Block where
  text : String
  lineBreak : String
  emptyLines : String
  blankLine : Bool

/-- The lines of a block. -/
def blockLines (folded : Bool) (indent : Nat) : Nat → Block → Cursor → Option (Block × Cursor)
  | 0, b, c => some (b, c)
  | fuel + 1, b, c =>
    if c.column = indent && !c.rest.isEmpty then
      let blankLine := c.sees isBlank
      let joint :=
        if folded && b.lineBreak = "\n" && !b.blankLine && !blankLine then
          if b.emptyLines.isEmpty then " " else ""
        else b.lineBreak
      let (line, c) := c.takeWhile (!isBreak ·)
      let (lineBreak, c) := c.readBreak
      match blockBreaks (some indent) (c.left + 1) 0 "" c with
      | none => none
      | some (_, emptyLines, c) =>
        blockLines folded indent fuel
          ⟨b.text ++ joint ++ b.emptyLines ++ String.ofList line, lineBreak, emptyLines, blankLine⟩ c
    else some (b, c)

/-- A block scalar inside a collection with some indent; the cursor is at the indicator. -/
def block (folded : Bool) (parent : Int) (c : Cursor) : Option (String × Cursor) :=
  match blockHeader (c.skip 1) with
  | none => none
  | some (chomp, width, c) =>
    let c := (c.skipWhile isBlank).skipComment
    if !c.endsOr 0 isBreak then none
    else
      let c := c.readBreak.2
      let given := width.map fun w => (max parent 0).toNat + w
      match blockBreaks given (c.left + 1) 0 "" c with
      | none => none
      | some (widest, emptyLines, c) =>
        let indent := given.getD (max widest (max (parent + 1) 1).toNat)
        (blockLines folded indent (c.left + 1) ⟨"", "", emptyLines, false⟩ c).map
          fun (b, c) =>
            let ending := match chomp with
              | .strip => ""
              | .clip => b.lineBreak
              | .keep => b.lineBreak ++ b.emptyLines
            (b.text ++ ending, c)

end Scalar

end ElasticPools.Yaml
