import ElasticPools.Identifier
/-!
Numbered names for machines: `vm-` and 32 hexadecimal digits.
-/
namespace ElasticPools.Identifier

def hexDigit (n : Nat) : Char :=
  if n < 10 then Char.ofNat (48 + n) else Char.ofNat (87 + n)

/-- The last `width` hexadecimal digits of a number, leading zeros included. -/
def hexDigits : Nat → Nat → List Char
  | 0, _ => []
  | width + 1, n => hexDigits width (n / 16) ++ [hexDigit (n % 16)]

def serialText (n : Nat) : String := "vm-" ++ String.ofList (hexDigits 32 n)

theorem length_hexDigits (width n : Nat) : (hexDigits width n).length = width := by
  induction width generalizing n with
  | zero => rfl
  | succ w ih => simp [hexDigits, ih]

theorem hexDigit_sound : ∀ n < 16, isAdmissible (hexDigit n) = true ∧ (hexDigit n).utf8Size = 1 := by
  decide

theorem hexDigits_sound (width n : Nat) :
    ∀ c ∈ hexDigits width n, isAdmissible c = true ∧ c.utf8Size = 1 := by
  induction width generalizing n with
  | zero => simp [hexDigits]
  | succ w ih =>
    intro c h
    rcases List.mem_append.mp h with h | h
    · exact ih _ c h
    · rw [List.mem_singleton.mp h]
      exact hexDigit_sound _ (Nat.mod_lt _ (by decide))

theorem utf8ByteSize_ofList_of_ascii (cs : List Char) (h : ∀ c ∈ cs, c.utf8Size = 1) :
    (String.ofList cs).utf8ByteSize = cs.length := by
  induction cs with
  | nil => rfl
  | cons c cs ih =>
    rw [String.ofList_cons, String.utf8ByteSize_append, ih fun d hd => h d (List.mem_cons_of_mem _ hd)]
    simp [h c List.mem_cons_self, Nat.add_comm]

theorem serialText_sound (n : Nat) : fault? (serialText n) = none := by
  have size : (serialText n).utf8ByteSize = 35 := by
    rw [serialText, String.utf8ByteSize_append,
      utf8ByteSize_ofList_of_ascii _ fun c h => (hexDigits_sound _ _ c h).2, length_hexDigits]
    rfl
  have chars : (serialText n).toList.all isAdmissible = true := by
    simp only [serialText, String.toList_append, String.toList_ofList, List.all_append,
      Bool.and_eq_true]
    exact ⟨by decide, List.all_eq_true.mpr fun c h => (hexDigits_sound _ _ c h).1⟩
  have filled : (serialText n).isEmpty = false := by
    simp [serialText]
  simp [fault?, filled, size, chars, maxBytes]

/-- The name of the machine with a number. -/
def serial (n : Nat) : WorkerId := ⟨serialText n, serialText_sound n⟩

end ElasticPools.Identifier
