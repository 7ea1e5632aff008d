import Relink.Text.Utf8

/-! Texts stand in the order of the octets that spell them. Of two characters the lower has the lower octet where
their octets first differ, and neither is spelled by the beginning of the other. -/

namespace Relink.Text.Utf8

theorem encode_eq_flatMap (s : String) : encode s = s.toList.flatMap String.utf8EncodeChar := by
  have spelled : s.toByteArray = s.toList.utf8Encode := by
    rw [← String.toByteArray_ofList, String.ofList_toList]
  rw [encode, String.toUTF8_eq_toByteArray, spelled, List.utf8Encode, List.data_toByteArray]

theorem cons_lt_cons_iff_toNat {a b : UInt8} {l₁ l₂ : Octets} :
    a :: l₁ < b :: l₂ ↔ a.toNat < b.toNat ∨ a.toNat = b.toNat ∧ l₁ < l₂ := by
  rw [List.cons_lt_cons_iff, UInt8.lt_iff_toNat_lt, UInt8.toNat_inj]

/-- The lower of two code points has the lower digit where their digits to the base 64 first differ. -/
theorem digits_lt {m n : Nat} (lower : m < n) (bound : n < 1114112) :
    m / 262144 % 8 < n / 262144 % 8 ∨ m / 262144 % 8 = n / 262144 % 8 ∧
      (m / 4096 % 64 < n / 4096 % 64 ∨ m / 4096 % 64 = n / 4096 % 64 ∧
        (m / 64 % 64 < n / 64 % 64 ∨ m / 64 % 64 = n / 64 % 64 ∧ m % 64 < n % 64)) := by
  rw [Nat.mod_eq_of_lt (show m / 262144 < 8 by omega), Nat.mod_eq_of_lt (show n / 262144 < 8 by omega)]
  omega

/-- Whatever follows, a lower character comes first. -/
theorem append_lt_append_of_lt {c d : Char} (lower : c < d) (rest further : Octets) :
    String.utf8EncodeChar c ++ rest < String.utf8EncodeChar d ++ further := by
  have order : c.val.toNat < d.val.toNat := lower
  have bound : d.val.toNat < 1114112 := by
    rcases d.valid with low | high <;> omega
  have digits := digits_lt order bound
  have later (n : Nat) : (n % 64 + 128) % 256 = n % 64 + 128 := Nat.mod_eq_of_lt (by omega)
  have leading (n : Nat) : (n % 8 + 240) % 256 = n % 8 + 240 := Nat.mod_eq_of_lt (by omega)
  unfold String.utf8EncodeChar
  generalize c.val.toNat = m at order digits
  generalize d.val.toNat = n at order bound digits
  simp only []
  repeat' split
  all_goals simp only [List.cons_append, List.nil_append, cons_lt_cons_iff_toNat, UInt8.toNat_ofNat', later,
    leading]
  all_goals omega

/-- A text that goes on comes after its beginning, and of two others the first characters that differ decide. -/
theorem flatMap_lt_flatMap {l₁ l₂ : List Char} (lower : l₁ < l₂) :
    l₁.flatMap String.utf8EncodeChar < l₂.flatMap String.utf8EncodeChar := by
  induction lower with
  | @nil c l =>
    rw [List.flatMap_cons]
    cases spelled : String.utf8EncodeChar c with
    | nil => exact absurd spelled String.utf8EncodeChar_ne_nil
    | cons octet octets => exact List.nil_lt_cons _ _
  | rel first =>
    rw [List.flatMap_cons, List.flatMap_cons]
    exact append_lt_append_of_lt first _ _
  | cons _ ih =>
    rw [List.flatMap_cons, List.flatMap_cons]
    exact List.append_left_lt ih

/-- The order of texts is the order of the octets that spell them. -/
theorem encode_lt_encode {s t : String} (lower : s < t) : encode s < encode t := by
  rw [encode_eq_flatMap, encode_eq_flatMap]
  exact flatMap_lt_flatMap (String.lt_iff.mp lower)

end Relink.Text.Utf8
