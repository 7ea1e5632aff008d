import Relink.Proofs.Yaml.Scalar
import Relink.Yaml.Resolve

namespace Relink.Yaml

/-- The words that begin with a letter and are read as something else than a text: null and the truth values. -/
def valueWords : List String :=
  ["null", "Null", "NULL", "true", "True", "TRUE", "false", "False", "FALSE"]

variable {first : Char} {rest : List Char} {word : String}

theorem ne_of_isAlpha {c : Char} (letter : first.isAlpha = true) (other : c.isAlpha = false) : first ≠ c := by
  rintro rfl
  cases letter.symm.trans other

namespace Number

variable (letter : first.isAlpha = true)
include letter

theorem not_le_nine_of_isAlpha : ¬first ≤ '9' := by
  have code := isAlpha_eq_true_iff.mp letter
  rw [Char.le_def, UInt32.le_iff_toNat_le]
  change ¬first.toNat ≤ 57
  omega

theorem isDigit_of_isAlpha : first.isDigit = false := by
  rw [← Bool.not_eq_true, Char.isDigit_iff_toNat]
  exact fun digit => not_le_nine_of_isAlpha letter digit.2

theorem digit?_of_isAlpha : Text.digit? 10 first = none := by
  rw [Text.digit?, Option.filter_eq_none_iff]
  intro value found
  rw [Text.digitValue?, if_neg fun digit => not_le_nine_of_isAlpha letter digit.2] at found
  have large : 10 ≤ value := by
    split at found
    · cases found
      omega
    · split at found
      · cases found
        omega
      · cases found
  simp [large]

theorem isPaddedDigits_of_isAlpha : isPaddedDigits (first :: rest) = false := by
  have apart (c : Char) : c.isAlpha = false → first ≠ c := ne_of_isAlpha letter
  have bare : unsigned (first :: rest) = first :: rest := by
    unfold unsigned
    split <;> simp_all
  rw [isPaddedDigits, bare]
  split
  · rename_i same
    cases same
    cases letter
  · rfl

theorem number?_of_isAlpha : Text.number? 10 (first :: rest) = none := by
  simp [Text.number?, Text.extendNumber?, digit?_of_isAlpha letter]

theorem integer?_of_isAlpha : integer? (first :: rest) = none := by
  have apart (c : Char) : c.isAlpha = false → first ≠ c := ne_of_isAlpha letter
  have bare : withoutPlus (first :: rest) = first :: rest := by
    unfold withoutPlus
    split <;> simp_all
  have magnitude : magnitude? (first :: rest) = none := by
    unfold magnitude?
    split
    all_goals first | exact number?_of_isAlpha letter | simp_all
  unfold integer?
  rw [isPaddedDigits_of_isAlpha letter, if_neg Bool.false_ne_true]
  split
  · rename_i same
    cases same
    cases letter
  · rw [bare, magnitude]
    rfl

theorem decimal?_of_isAlpha (negative : Bool) : decimal? negative (first :: rest) = none := by
  have point : first ≠ '.' := ne_of_isAlpha letter rfl
  have whole : (first :: rest).takeWhile Char.isDigit = [] := by simp [isDigit_of_isAlpha letter]
  have remaining : (first :: rest).dropWhile Char.isDigit = first :: rest := by simp [isDigit_of_isAlpha letter]
  rw [decimal?, whole, remaining]
  simp [point, Text.number?]

theorem finite?_of_isAlpha : finite? (first :: rest) = none := by
  unfold finite?
  split
  · rename_i same
    cases same
    cases letter
  · rw [decimal?_of_isAlpha letter]
    rfl

theorem float?_of_isAlpha : float? (first :: rest) = none := by
  have apart (text : String) (other : text.toList.head?.any Char.isAlpha = false) :
      String.ofList (first :: rest) ≠ text := by
    rintro rfl
    rw [String.toList_ofList] at other
    cases letter.symm.trans other
  unfold float?
  split
  case h_13 =>
    split
    · rename_i same
      cases same
      cases letter
    · exact finite?_of_isAlpha letter
  all_goals
    rename_i same
    exact absurd same (apart _ (by decide))

end Number

/-- A word that begins with a letter is read as itself, unless it stands for a value. -/
theorem Tree.ofPlain?_of_isAlpha (spelled : word.toList = first :: rest) (letter : first.isAlpha = true)
    (proper : word ∉ valueWords) : ofPlain? word = some (.text word) := by
  have filled : word.isEmpty = false := by
    rw [← Bool.not_eq_true, String.isEmpty_iff]
    rintro rfl
    cases spelled
  have tilde : word ≠ "~" := by
    rintro rfl
    cases spelled
    cases letter
  simp only [valueWords, List.mem_cons, List.not_mem_nil, or_false, not_or] at proper
  simp [ofPlain?, filled, isNullWord, bool?, integer?, proper, tilde, spelled, Number.integer?_of_isAlpha letter,
    Number.isPaddedDigits_of_isAlpha letter, Number.float?_of_isAlpha letter]

end Relink.Yaml
