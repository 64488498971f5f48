import ElasticPools.Json
import ElasticPools.Policy
import ElasticPools.Text.Visible
import ElasticPools.Worker
/-!
Names, workers, states, decisions and profiles read from JSON values.
-/
namespace ElasticPools

/-- Why a JSON value stands for nothing of the wanted sort. -/
inductive DecodeFailure where
  | shape
  | rejected (rejection : Identifier.Rejection)
  /-- A text where a worker was wanted. -/
  | textForWorker (text : String)
deriving DecidableEq

namespace DecodeFailure

/-- A character in a quoted text. What does not show is written by its code point. -/
def escape (c : Char) : String :=
  match c with
  | '"' => "\\\""
  | '\\' => "\\\\"
  | '\n' => "\\n"
  | '\r' => "\\r"
  | '\t' => "\\t"
  | '\x00' => "\\0"
  | c =>
    if Text.isVisible c then c.toString
    else "\\u\x7b" ++ String.ofList (Nat.toDigits 16 c.toNat) ++ "\x7d"

def message? : DecodeFailure → Option String
  | shape => none
  | rejected r => some (Violation.ofRejection r)
  | textForWorker text =>
    some ("invalid type: string \"" ++ String.join (text.toList.map escape) ++
      "\", expected struct WorkerHandle")

end DecodeFailure

/-- Only texts are names. -/
def Identifier.ofJson (role : Identifier.Role) : Json → Except DecodeFailure (Identifier role)
  | .string text =>
    match Identifier.parse role text with
    | .ok id => .ok id
    | .error rejection => .error (.rejected rejection)
  | _ => .error .shape

namespace Worker

def ofParts : Json → Json → Except DecodeFailure Worker
  | id, .bool busy =>
    match Identifier.ofJson .worker id with
    | .ok id => .ok ⟨id, busy⟩
    | .error _ => .error .shape
  | _, _ => .error .shape

/-- A worker is an object with a name and a flag, or an array of just these two. -/
def ofJson : Json → Except DecodeFailure Worker
  | .array [id, busy] => ofParts id busy
  | .object fields =>
    match fields.lookup "id", fields.lookup "active_work" with
    | some id, some busy => ofParts id busy
    | _, _ => .error .shape
  | .string text => .error (.textForWorker text)
  | _ => .error .shape

end Worker

/-- The name in a value that stands for one of several names: the text itself, or an object whose
only field has that name and holds nothing. -/
def Json.choice? : Json → Option String
  | .string text => some text
  | .object [(name, .null)] => some name
  | _ => none

def PoolState.ofJson? (v : Json) : Option PoolState := v.choice?.bind PoolState.ofName?

def Growth.ofJson? (v : Json) : Option Growth := v.choice?.bind Growth.ofName?

def Profile.ofJson? (v : Json) : Option Profile := v.choice?.bind Profile.ofName?

end ElasticPools
