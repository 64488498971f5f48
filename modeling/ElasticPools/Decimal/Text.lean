import ElasticPools.Decimal.Shortest
/-!
Written forms of binary numbers: the shortest form that reads back, and a form with a fixed number
of places.
-/
namespace ElasticPools.Decimal

def padLeft (width : Nat) (pad : Char) (text : String) : String :=
  "".pushn pad (width - text.length) ++ text

def padRight (width : Nat) (pad : Char) (text : String) : String :=
  text.pushn pad (width - text.length)

/-- How the shortest form of a number is laid out. -/
structure Style where
  tie : Tie
  /-- Powers of ten of the first digit that are written without an exponent; all of them if none
  is given. -/
  positional : Option (Int × Int)
  /-- Whether a whole number shows that it is one, as in `1.0`. -/
  wholeMark : Bool
deriving Repr

namespace Style

/-- Numbers inside sentences are written out in full. -/
def sentence : Style := ⟨.up, none, false⟩

/-- Numbers in documents have an exponent when they are very small or very large. -/
def document : Style := ⟨.even, some (-5, 15), true⟩

def isPositional (style : Style) (power : Int) : Bool :=
  match style.positional with
  | none => true
  | some (least, greatest) => least ≤ power && power ≤ greatest

end Style

/-- Digits with a point at its place: `coefficient * 10 ^ exponent`. -/
def positionalText (wholeMark : Bool) (d : Scaled) : String :=
  let digits := toString d.coefficient
  if 0 ≤ d.exponent then
    digits.pushn '0' d.exponent.toNat ++ (if wholeMark then ".0" else "")
  else
    let places := (-d.exponent).toNat
    let padded := (padLeft (places + 1) '0' digits).toList
    let whole := padded.length - places
    String.ofList (padded.take whole) ++ "." ++ String.ofList (padded.drop whole)

/-- One digit, a point, the other digits and the power of ten. -/
def scientificText (d : Scaled) : String :=
  let digits := (toString d.coefficient).toList
  let power := d.exponent + (digits.length - 1 : Nat)
  let mantissa := match digits with
    | first :: second :: rest => String.ofList (first :: '.' :: second :: rest)
    | few => String.ofList few
  mantissa ++ "e" ++ toString power

def Style.write (style : Style) (x : Float) : String :=
  let (negative, magnitude) := split x
  let sign := if negative then "-" else ""
  match magnitude with
  | .undefined => "NaN"
  | .infinite => sign ++ "inf"
  | .finite b =>
    let d := shortest style.tie b
    let power := d.exponent + digitCount d.coefficient - 1
    if d.coefficient = 0 || style.isPositional power then sign ++ positionalText style.wholeMark d
    else sign ++ scientificText d

/-- The exact value rounded to some places, ties to the even neighbour. -/
def writeFixed (places : Nat) (x : Float) : String :=
  let (negative, magnitude) := split x
  let sign := if negative then "-" else ""
  match magnitude with
  | .undefined => "NaN"
  | .infinite => sign ++ "inf"
  | .finite b =>
    let (num, den) := powerRatio 2 b.exponent
    let units := roundHalfEven (b.mantissa * num * Nat.pow 10 places) den
    sign ++ positionalText false ⟨units, -places⟩

end ElasticPools.Decimal
