import ElasticPools.Yaml.Cursor
/-!
Tags, tag handles and directives as they are written.
-/
namespace ElasticPools.Yaml

/-- A tag, as bytes, which need not be the UTF-8 of a text. -/
structure Tag where
  bytes : List UInt8
deriving DecidableEq, Repr

namespace Tag

def ofText (text : String) : Tag := ⟨text.toUTF8.toList⟩

/-- The name behind the exclamation mark of a local tag. -/
def localName? : Tag → Option String
  | ⟨0x21 :: name⟩ => String.fromUTF8? ⟨name.toArray⟩
  | _ => none

end Tag

/-- A tag by its handle and what follows it. -/
structure TagName where
  handle : String
  suffix : List UInt8
deriving DecidableEq, Repr

namespace TagName

/-- Characters of a tag's suffix; a tag in angle brackets may hold three more. -/
def isSuffixChar (verbatim : Bool) (c : Char) : Bool :=
  isWordChar c || ";/?:@&=+$.%!~*'()".toList.contains c || (verbatim && ",[]".toList.contains c)

/-- The byte of an ASCII character. -/
def asciiByte (c : Char) : UInt8 := UInt8.ofNat c.toNat

/-- The byte that a percent sign and two digits stand for. -/
def escapedByte? : List Char → Option (UInt8 × List Char)
  | '%' :: a :: b :: rest =>
    if isHex a && isHex b then some (UInt8.ofNat (hexValue a * 16 + hexValue b), rest) else none
  | _ => none

/-- How many bytes follow a first byte. -/
def following? (byte : UInt8) : Option Nat :=
  if byte < 0x80 then some 0
  else if 0xC0 ≤ byte && byte < 0xE0 then some 1
  else if 0xE0 ≤ byte && byte < 0xF0 then some 2
  else if 0xF0 ≤ byte && byte < 0xF8 then some 3
  else none

/-- `count` further escaped bytes of one character. -/
def trailingBytes? : Nat → List Char → Option (List UInt8)
  | 0, _ => some []
  | count + 1, text =>
    match escapedByte? text with
    | none => none
    | some (byte, rest) =>
      if 0x80 ≤ byte && byte < 0xC0 then (trailingBytes? count rest).map (byte :: ·) else none

/-- The escaped bytes of one character. Their number is that which the first of them asks for, and
nothing else is checked. -/
def escapedBytes? (text : List Char) : Option (List UInt8) :=
  match escapedByte? text with
  | none => none
  | some (byte, rest) =>
    (following? byte).bind fun count => (trailingBytes? count rest).map (byte :: ·)

/-- The bytes of a suffix. -/
def suffixBytes (verbatim : Bool) : Nat → List UInt8 → Cursor → Option (List UInt8 × Cursor)
  | 0, bytes, c => some (bytes, c)
  | fuel + 1, bytes, c =>
    match c.peek? with
    | none => some (bytes, c)
    | some ch =>
      if !isSuffixChar verbatim ch then some (bytes, c)
      else if ch == '%' then
        match escapedBytes? c.rest with
        | none => none
        | some more => suffixBytes verbatim fuel (bytes ++ more) (c.skip (3 * more.length))
      else suffixBytes verbatim fuel (bytes ++ [asciiByte ch]) (c.skip 1)

/-- A suffix behind what has already been read of it. It may be empty only if something was read. A
zero byte ends it. -/
def readSuffix (verbatim : Bool) (head : List Char) (c : Cursor) : Option (List UInt8 × Cursor) :=
  match suffixBytes verbatim (c.left + 1) [] c with
  | none => none
  | some (bytes, c) =>
    if head.isEmpty && bytes.isEmpty then none
    else some (((head.drop 1).map asciiByte ++ bytes).takeWhile (· != 0), c)

/-- An exclamation mark, a word, and perhaps another mark. -/
def handleChars (c : Cursor) : Option (List Char × Cursor) :=
  if c.peek? = some '!' then
    let (word, c) := (c.skip 1).takeWhile isWordChar
    if c.peek? = some '!' then some ('!' :: word ++ ['!'], c.skip 1) else some ('!' :: word, c)
  else none

/-- A tag in angle brackets, with a handle, or with the primary handle. -/
def parts (c : Cursor) : Option (TagName × Cursor) :=
  if c.at? 1 = some '<' then
    match readSuffix true [] (c.skip 2) with
    | none => none
    | some (bytes, c) => if c.peek? = some '>' then some (⟨"", bytes⟩, c.skip 1) else none
  else
    match handleChars c with
    | none => none
    | some (handle, c) =>
      if 1 < handle.length && handle.getLast? = some '!' then
        (readSuffix false [] c).map fun (bytes, c) => (⟨String.ofList handle, bytes⟩, c)
      else
        (readSuffix false handle c).map fun (bytes, c) =>
          (if bytes.isEmpty then ⟨"", [asciiByte '!']⟩ else ⟨"!", bytes⟩, c)

/-- Reads a tag. White space follows it, or a comma inside brackets. -/
def read (inFlow : Bool) (c : Cursor) : Option (TagName × Cursor) :=
  match parts c with
  | none => none
  | some (tag, c) =>
    if (inFlow && c.peek? = some ',') || c.endsOr 0 isGap then some (tag, c) else none

end TagName

inductive Directive where
  | version (major minor : Nat)
  | tag (handle : String) (replacement : List UInt8)
deriving DecidableEq, Repr

namespace Directive

/-- A number of a version, of at most nine digits. -/
def number (c : Cursor) : Option (Nat × Cursor) :=
  let (digits, c) := c.takeWhile Char.isDigit
  if digits.isEmpty || 9 < digits.length then none
  else some (digits.foldl (fun n d => n * 10 + (d.toNat - '0'.toNat)) 0, c)

def version? (c : Cursor) : Option (Directive × Cursor) :=
  match number (c.skipWhile isBlank) with
  | none => none
  | some (major, c) =>
    if c.peek? = some '.' then (number (c.skip 1)).map fun (minor, c) => (version major minor, c)
    else none

def tag? (c : Cursor) : Option (Directive × Cursor) :=
  match TagName.handleChars (c.skipWhile isBlank) with
  | none => none
  | some (handle, c) =>
    if (handle != ['!'] && handle.getLast? != some '!') || !c.sees isBlank then none
    else
      match TagName.readSuffix true [] (c.skipWhile isBlank) with
      | none => none
      | some (replacement, c) =>
        if c.endsOr 0 isGap then some (tag (String.ofList handle) replacement, c) else none

/-- Reads a directive; the cursor is at its percent sign. Nothing but a comment may follow it on
its line. -/
def read (c : Cursor) : Option (Directive × Cursor) :=
  let (name, c) := (c.skip 1).takeWhile isWordChar
  if name.isEmpty || !c.endsOr 0 isGap then none
  else
    let value := match String.ofList name with
      | "YAML" => version? c
      | "TAG" => tag? c
      | _ => none
    match value with
    | none => none
    | some (directive, c) =>
      let c := (c.skipWhile isBlank).skipComment
      if c.endsOr 0 isBreak then some (directive, c.readBreak.2) else none

end Directive

end ElasticPools.Yaml
