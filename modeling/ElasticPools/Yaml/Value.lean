import ElasticPools.Decimal.Reading
import ElasticPools.Yaml.Node
/-!
Values read from YAML nodes: truth values, numbers, texts, lists and records. Only scalars without
quotes are numbers or truth values; a scalar of which nothing is written is an empty list or record.
-/
namespace ElasticPools.Yaml

/-- Readers of values, with the number of aliases that they may still follow. -/
abbrev Decoder := StateT Nat Option

namespace Value

/-- How many aliases may be followed for each part of a document. -/
def aliasesPerPart : Nat := 100

/-- The node that an alias leads to, or the node itself. -/
def follow (anchors : Anchors) (n : Node) : Decoder Node :=
  match n with
  | .aliasOf number => do
    let left ← get
    if left = 0 then failure
    set (left - 1)
    match anchors.node? number with
    | some target => return target
    | none => failure
  | n => return n

def isNull (text : String) : Bool := ["null", "Null", "NULL", "~"].contains text

/-- The tag of one of the sorts of values that the format itself knows. -/
def coreTag (sort : String) : Tag := .ofText ("tag:yaml.org,2002:" ++ sort)

/-- Reads an optional value. The spellings of null leave it out, unless they are quoted or have a
tag of their own. -/
def optional {β : Type} (anchors : Anchors) (read : Node → Decoder β) (n : Node) :
    Decoder (Option β) := do
  let n ← follow anchors n
  match n with
  | .scalar text .plain none => if text.isEmpty || isNull text then return none else some <$> read n
  | .scalar text .plain (some tag) =>
    if tag = coreTag "null" then if isNull text then return none else failure
    else some <$> read n
  | n => some <$> read n

/-- The text of a scalar that may be a value of a sort. Besides plain scalars these are literal
blocks with the tag of that sort. -/
def bareText (anchors : Anchors) (tag : Tag) (n : Node) : Decoder String := do
  match ← follow anchors n with
  | .scalar text .plain _ => return text
  | .scalar text .literal (some t) => if t = tag then return text else failure
  | _ => failure

def truth (anchors : Anchors) (n : Node) : Decoder Bool := do
  let text ← bareText anchors (coreTag "bool") n
  if ["true", "True", "TRUE"].contains text then return true
  else if ["false", "False", "FALSE"].contains text then return false
  else failure

/-- A whole number in digits of a base, below a bound. -/
def digitsNat? (bound base : Nat) (digits : List Char) : Option Nat :=
  if digits.isEmpty || !digits.all (fun d => isHex d && hexValue d < base) then none
  else
    let n := Decimal.natOfDigits base hexValue digits
    if n < bound then some n else none

/-- One past the greatest whole number. -/
def wordRange : Nat := 0x10000000000000000

def startsWithSign : List Char → Bool
  | '+' :: _ | '-' :: _ => true
  | _ => false

/-- A whole number: decimal without leading zeros, or in a base that its first two characters name,
and perhaps behind a plus sign. -/
def readNat? (text : List Char) : Option Nat :=
  let unsigned := match text with
    | '+' :: rest => rest
    | rest => rest
  let based := match unsigned with
    | '0' :: 'x' :: rest => some (16, rest)
    | '0' :: 'o' :: rest => some (8, rest)
    | '0' :: 'b' :: rest => some (2, rest)
    | _ => none
  match based with
  | some (base, rest) => digitsNat? wordRange base rest
  | none =>
    if 1 < unsigned.length && unsigned.head? = some '0' then none
    else digitsNat? wordRange 10 unsigned

/-- A whole number below a bound. -/
def nat (anchors : Anchors) (bound : Nat) (n : Node) : Decoder Nat := do
  match readNat? (← bareText anchors (coreTag "int") n).toList with
  | some value => if value < bound then return value else failure
  | none => failure

def infinity : Float := Float.ofBits 0x7FF0000000000000

def undefined : Float := Float.ofBits 0x7FF8000000000000

/-- A number with a fraction or an exponent, or one of the words for what is no number. A number
beyond all finite ones is none. -/
def readFloat? (text : String) : Option Float :=
  if ["-.inf", "-.Inf", "-.INF"].contains text then some (-infinity)
  else if [".nan", ".NaN", ".NAN"].contains text then some undefined
  else
    let unsigned := match text.toList with
      | '+' :: rest => if startsWithSign rest then none else some rest
      | rest => some rest
    unsigned.bind fun digits =>
      if [".inf", ".Inf", ".INF"].contains (String.ofList digits) then some infinity
      else (Decimal.readFloat? digits).filter Float.isFinite

def float (anchors : Anchors) (n : Node) : Decoder Float := do
  match readFloat? (← bareText anchors (coreTag "float") n) with
  | some value => return value
  | none => failure

/-- The text of any scalar. -/
def text (anchors : Anchors) (n : Node) : Decoder String := do
  match ← follow anchors n with
  | .scalar text _ _ => return text
  | _ => failure

/-- One of several names: a scalar's text, or its local tag where nothing else is written. -/
def choice {β : Type} (anchors : Anchors) (ofName? : String → Option β) (n : Node) :
    Decoder β := do
  match ← follow anchors n with
  | .scalar text style tag =>
    let name := match tag.bind Tag.localName? with
      | some name =>
        if style = ScalarStyle.plain && (text.isEmpty || isNull text) then some name else none
      | none => some text
    match name.bind ofName? with
    | some value => return value
    | none => failure
  | _ => failure

def list {β : Type} (anchors : Anchors) (read : Node → Decoder β) (n : Node) :
    Decoder (List β) := do
  match ← follow anchors n with
  | .sequence items => items.mapM read
  | .scalar text .plain _ => if text.isEmpty then return [] else failure
  | _ => failure

/-- What to do with fields of unknown names. -/
inductive Unknown where
  | refused
  | ignored
deriving DecidableEq, Repr

/-- The fields of a record by name. No known name comes twice. -/
def fields (anchors : Anchors) (known : List String) (unknown : Unknown) :
    List (Node × Node) → Decoder (List (String × Node))
  | [] => return []
  | (key, value) :: entries => do
    let name ← text anchors key
    let rest ← fields anchors known unknown entries
    if known.contains name then
      if (rest.lookup name).isSome then failure else return (name, value) :: rest
    else
      match unknown with
      | .refused => failure
      | .ignored => return rest

/-- A record. -/
def record (anchors : Anchors) (known : List String) (unknown : Unknown) (n : Node) :
    Decoder (List (String × Node)) := do
  match ← follow anchors n with
  | .mapping entries => fields anchors known unknown entries
  | .scalar text .plain _ => if text.isEmpty then return [] else failure
  | _ => failure

/-- A field that must be there. -/
def required {β : Type} (record : List (String × Node)) (name : String)
    (read : Node → Decoder β) : Decoder β :=
  match record.lookup name with
  | some n => read n
  | none => failure

/-- A field that may be missing. -/
def withDefault {β : Type} (record : List (String × Node)) (name : String) (default : β)
    (read : Node → Decoder β) : Decoder β :=
  match record.lookup name with
  | some n => read n
  | none => return default

end Value

end ElasticPools.Yaml
