import Mathlib.Data.List.Basic
import Relink.Proofs.Text.ByteOrder
import Relink.Shell.Chars
import Relink.Shell.Quote

/-! Quoting octet by octet. What a shell needs a backslash for are single octets, and no octet of a longer character is
one of them, so that a text may be quoted before or after it is taken apart. -/

namespace Relink.Shell

namespace Chars

def ofChar (c : Char) : Chars :=
  ofOctets (String.utf8EncodeChar c)

theorem ofString_eq_flatMap (text : String) : ofString text = text.toList.flatMap ofChar := by
  rw [ofString, Text.Utf8.encode_eq_flatMap, ofOctets, List.map_flatMap]
  rfl

theorem ofString_append (first second : String) : ofString (first ++ second) = ofString first ++ ofString second := by
  simp [ofString_eq_flatMap]

theorem toNat_ofNat_octet (octet : UInt8) : (Char.ofNat octet.toNat).toNat = octet.toNat := by
  have valid : octet.toNat.isValidChar := .inl (by have := octet.toNat_lt; omega)
  rw [Char.ofNat, dif_pos valid]
  rfl

theorem ofChar_of_lt {c : Char} (low : c.toNat < 128) : ofChar c = [c] := by
  have single : String.utf8EncodeChar c = [UInt8.ofNat c.toNat] := by
    have : c.val.toNat < 128 := low
    unfold String.utf8EncodeChar
    simp only []
    rw [if_pos (by omega)]
    rfl
  rw [ofChar, single, ofOctets, List.map_singleton, UInt8.toNat_ofNat', Nat.mod_eq_of_lt (by omega), Char.ofNat_toNat]

/-- The octets of a longer character are all above those of a single one. -/
theorem le_toNat_of_mem_ofChar {c d : Char} (high : 128 ≤ c.toNat) (member : d ∈ ofChar c) : 128 ≤ d.toNat := by
  obtain ⟨octet, spells, rfl⟩ := List.mem_map.mp member
  rw [toNat_ofNat_octet]
  have : 128 ≤ c.val.toNat := high
  have bound : c.val.toNat < 1114112 := by
    rcases c.valid with low | high <;> omega
  unfold String.utf8EncodeChar at spells
  simp only [] at spells
  generalize c.val.toNat = n at *
  split at spells
  · omega
  repeat' split at spells
  all_goals
    simp only [List.mem_cons, List.not_mem_nil, or_false] at spells
    rcases spells with rfl | rfl | rfl | rfl <;> simp only [UInt8.toNat_ofNat'] <;> omega

theorem toNat_lt_of_needsEscape {c : Char} (special : needsEscape c = true) : c.toNat < 128 := by
  simp only [needsEscape, Bool.or_eq_true, beq_iff_eq] at special
  rcases special with (((rfl | rfl) | rfl) | rfl) | rfl <;> decide

theorem needsEscape_of_mem_ofChar {c d : Char} (high : 128 ≤ c.toNat) (member : d ∈ ofChar c) :
    needsEscape d = false := by
  rw [← Bool.not_eq_true]
  intro special
  have low := toNat_lt_of_needsEscape special
  have := le_toNat_of_mem_ofChar high member
  omega

/-- Escaping comes to the same before and after a text is taken apart into octets. -/
theorem flatMap_ofChar_escape (cs : List Char) : (escape cs).flatMap ofChar = escape (cs.flatMap ofChar) := by
  rw [escape, escape, List.flatMap_assoc, List.flatMap_assoc]
  refine List.flatMap_congr fun c _ => ?_
  by_cases low : c.toNat < 128
  · have backslash : ofChar '\\' = ['\\'] := by decide
    cases special : needsEscape c <;> simp [special, ofChar_of_lt low, backslash]
  · have high : 128 ≤ c.toNat := by omega
    have ordinary : needsEscape c = false := by
      rw [← Bool.not_eq_true]
      exact fun special => low (toNat_lt_of_needsEscape special)
    have each : ∀ d ∈ ofChar c, (if needsEscape d then ['\\', d] else [d]) = [d] := fun d member => by
      rw [needsEscape_of_mem_ofChar high member, if_neg Bool.false_ne_true]
    rw [ordinary, if_neg Bool.false_ne_true, List.flatMap_singleton, List.flatMap_congr each, List.flatMap_singleton']

theorem ofString_quote (text : String) : ofString (quote text) = '"' :: escape (ofString text) ++ ['"'] := by
  have mark : ofChar '"' = ['"'] := by decide
  rw [ofString_eq_flatMap, ofString_eq_flatMap, ← flatMap_ofChar_escape]
  simp [quote, mark]

/-- A text without its ends of lines. -/
def joined (text : String) : String :=
  String.ofList (text.toList.filter (· ≠ '\n'))

theorem joined_eq_self {text : String} (single : '\n' ∉ text.toList) : joined text = text := by
  have kept : text.toList.filter (· ≠ '\n') = text.toList :=
    List.filter_eq_self.mpr fun c member => decide_eq_true fun same => single (same ▸ member)
  rw [joined, kept, String.ofList_toList]

theorem filter_ofChar (c : Char) : (ofChar c).filter (· ≠ '\n') = if c ≠ '\n' then ofChar c else [] := by
  by_cases ends : c = '\n'
  · subst ends
    rfl
  rw [if_pos ends, List.filter_eq_self]
  intro d member
  by_cases low : c.toNat < 128
  · rw [ofChar_of_lt low, List.mem_singleton] at member
    simpa [member] using ends
  · have high := le_toNat_of_mem_ofChar (by omega) member
    refine decide_eq_true ?_
    rintro rfl
    exact absurd high (by decide)

theorem ofString_joined (text : String) : ofString (joined text) = (ofString text).filter (· ≠ '\n') := by
  rw [joined, ofString_eq_flatMap, ofString_eq_flatMap, String.toList_ofList, List.filter_flatMap]
  simp only [filter_ofChar]
  induction text.toList with
  | nil => rfl
  | cons c cs ih =>
    rw [List.filter_cons, List.flatMap_cons, ← ih]
    by_cases ends : c = '\n' <;> simp [ends]

end Chars

end Relink.Shell
