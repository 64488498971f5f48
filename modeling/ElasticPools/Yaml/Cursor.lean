/-!
Characters of YAML text, and a place in such text.
-/
namespace ElasticPools.Yaml

def isBlank (c : Char) : Bool := c == ' ' || c == '\t'

/-- Line feed, carriage return, next line, and the two Unicode separators. -/
def isBreak (c : Char) : Bool :=
  c == '\n' || c == '\r' || c == '\u0085' || c == '\u2028' || c == '\u2029'

def isGap (c : Char) : Bool := isBlank c || isBreak c

/-- Characters of anchors and tag handles. -/
def isWordChar (c : Char) : Bool := c.isAlphanum || c == '-' || c == '_'

def isHex (c : Char) : Bool :=
  c.isDigit || ('a' ≤ c && c ≤ 'f') || ('A' ≤ c && c ≤ 'F')

def hexValue (c : Char) : Nat :=
  if c.isDigit then c.toNat - '0'.toNat
  else if 'a' ≤ c then c.toNat - 'a'.toNat + 10
  else c.toNat - 'A'.toNat + 10

/-- Characters that may stand in a text at all. -/
def isAllowed (c : Char) : Bool :=
  let n := c.toNat
  n == 9 || n == 10 || n == 13 || (32 ≤ n && n ≤ 126) || n == 0x85 ||
    (0xA0 ≤ n && n ≤ 0xFFFD) || 0x10000 ≤ n

/-- What is left of a text, and where it starts. Columns count characters. -/
structure Cursor where
  rest : List Char
  /-- How many characters are left. -/
  left : Nat
  /-- How many bytes of UTF-8 have been passed. -/
  offset : Nat
  line : Nat
  column : Nat
  left_eq : left = rest.length := by simp

namespace Cursor

def start (text : List Char) : Cursor :=
  { rest := text, left := text.length, offset := 0, line := 0, column := 0 }

def peek? (c : Cursor) : Option Char := c.rest.head?

def at? (c : Cursor) (offset : Nat) : Option Char := c.rest[offset]?

/-- Whether the text at an offset ends, or has a character of a class. -/
def endsOr (c : Cursor) (offset : Nat) (p : Char → Bool) : Bool := (c.at? offset).all p

def sees (c : Cursor) (p : Char → Bool) : Bool := c.peek?.any p

/-- The length of some characters in bytes of UTF-8. -/
def byteLength (chars : List Char) : Nat := chars.foldl (fun length c => length + c.utf8Size) 0

/-- Passes characters that break no line. -/
def skip (c : Cursor) (count : Nat) : Cursor :=
  { rest := c.rest.drop count
    left := c.left - count
    offset := c.offset + byteLength (c.rest.take count)
    line := c.line
    column := c.column + count
    left_eq := by simp [c.left_eq] }

/-- Passes characters, the last of which ends the line. -/
def skipLine (c : Cursor) (count : Nat) : Cursor :=
  { c.skip count with line := c.line + 1, column := 0 }

/-- Takes a run of characters of a class that breaks no line. -/
def takeWhile (c : Cursor) (p : Char → Bool) : List Char × Cursor :=
  let taken := c.rest.takeWhile p
  (taken, c.skip taken.length)

def skipWhile (c : Cursor) (p : Char → Bool) : Cursor := (c.takeWhile p).2

/-- Passes a line break, if one is here, and gives the text it stands for. -/
def readBreak (c : Cursor) : String × Cursor :=
  match c.rest with
  | '\r' :: '\n' :: _ => ("\n", c.skipLine 2)
  | b :: _ =>
    if isBreak b then
      (if b == '\u2028' || b == '\u2029' then b.toString else "\n", c.skipLine 1)
    else ("", c)
  | [] => ("", c)

/-- A comment, up to the end of its line. -/
def skipComment (c : Cursor) : Cursor :=
  if c.peek? = some '#' then c.skipWhile (!isBreak ·) else c

/-- Whether one of the marks `---` and `...` stands at the beginning of the line here. -/
def seesMark (c : Cursor) (mark : Char) : Bool :=
  c.column == 0 && c.rest.take 3 == [mark, mark, mark] && c.endsOr 3 isGap

def seesDocumentMark (c : Cursor) : Bool := c.seesMark '-' || c.seesMark '.'

end Cursor

end ElasticPools.Yaml
