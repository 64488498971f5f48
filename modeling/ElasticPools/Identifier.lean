import ElasticPools.Identifier.Letters
import Std.Data.ExtTreeMap
/-!
Names of workload kinds and of workers. A name is checked once, when it enters the program; after
that it is an opaque key, compared and ordered by the code points of its text.
-/
namespace ElasticPools

namespace Identifier

/-- What a name stands for. Names of different roles never meet in one table. -/
inductive Role where
  | kind
  | worker
deriving DecidableEq, Repr

/-- The longest name, in bytes of UTF-8. -/
def maxBytes : Nat := 64

def isAdmissible (c : Char) : Bool :=
  isLetterOrDigit c || c == '-' || c == '_' || c == '.'

/-- Why a text is not a name. -/
inductive Fault where
  | empty
  | tooLong (bytes : Nat)
  | character
deriving DecidableEq, Repr

/-- The first rule that `text` breaks. -/
def fault? (text : String) : Option Fault :=
  if text.isEmpty then some .empty
  else if maxBytes < text.utf8ByteSize then some (.tooLong text.utf8ByteSize)
  else if text.toList.all isAdmissible then none
  else some .character

def Fault.reason : Fault → String
  | .empty => "Identifier cannot be empty"
  | .tooLong bytes => s!"Identifier too long: {bytes} chars (max {maxBytes})"
  | .character =>
    "Identifier must contain only alphanumeric characters, hyphens, underscores, and dots"

/-- A text refused as a name. -/
structure Rejection where
  role : Role
  text : String
  fault : Fault
deriving DecidableEq, Repr

end Identifier

/-- A text that breaks no rule for names. -/
structure Identifier (role : Identifier.Role) where
  text : String
  sound : Identifier.fault? text = none
deriving DecidableEq

abbrev Kind := Identifier .kind
abbrev WorkerId := Identifier .worker

namespace Identifier

variable {role : Role}

theorem ext_text {a b : Identifier role} (h : a.text = b.text) : a = b := by
  cases a; cases b; simp_all

instance : Ord (Identifier role) := ⟨fun a b => compare a.text b.text⟩

theorem compare_def (a b : Identifier role) : compare a b = compare a.text b.text := rfl

instance : Std.TransOrd (Identifier role) where
  eq_swap := @fun a b => @Std.OrientedCmp.eq_swap String compare _ a.text b.text
  isLE_trans := @fun a b c => @Std.TransCmp.isLE_trans String compare _ a.text b.text c.text

instance : Std.LawfulEqOrd (Identifier role) where
  compare_self := @fun a => @Std.ReflCmp.compare_self String compare _ a.text
  eq_of_compare := @fun a b h => ext_text (@Std.LawfulEqCmp.eq_of_compare String compare _ a.text b.text h)

/-- Checks a text and makes it a name. -/
def parse (role : Role) (text : String) : Except Rejection (Identifier role) :=
  match h : fault? text with
  | none => .ok ⟨text, h⟩
  | some fault => .error ⟨role, text, fault⟩

theorem parse_text (id : Identifier role) : parse role id.text = .ok id := by
  unfold parse
  split
  · rfl
  · next h => simp [id.sound] at h

theorem parse_eq_error_iff {text : String} {r : Rejection} :
    parse role text = .error r ↔ ∃ fault, fault? text = some fault ∧ r = ⟨role, text, fault⟩ := by
  unfold parse
  split
  · next h => simp [h]
  · next f h => simp [h, eq_comm]

end Identifier

end ElasticPools
