import Relink.Yaml.Scalar.Plain
import Relink.Yaml.Scalar.Quoted

namespace Relink.Yaml

/-- A visible character of ASCII. -/
def isVisible (c : Char) : Bool :=
  0x21 ≤ c.toNat && c.toNat ≤ 0x7E

/-- A visible character of ASCII, a blank or a line feed. -/
def isPrinted (c : Char) : Bool :=
  isVisible c || c == ' ' || c == '\n'

theorem isAlpha_eq_true_iff {c : Char} :
    c.isAlpha = true ↔ 65 ≤ c.toNat ∧ c.toNat ≤ 90 ∨ 97 ≤ c.toNat ∧ c.toNat ≤ 122 := by
  have spelled : c.isAlpha = (decide ('A'.val ≤ c.val ∧ c.val ≤ 'Z'.val) ||
    decide ('a'.val ≤ c.val) && decide (c.val ≤ 'z'.val)) := rfl
  simp only [spelled, Bool.or_eq_true, Bool.and_eq_true, decide_eq_true_eq, UInt32.le_iff_toNat_le]
  rfl

namespace Scalar

/-- A word: a letter or a digit, with letters, digits, hyphens and underscores behind it. -/
structure IsWord (word : List Char) : Prop where
  head : ∃ c rest, word = c :: rest ∧ c.isAlphanum = true
  names : ∀ c ∈ word, isNameChar c = true

/-- A visible character that stands between double quotes as it is. -/
def isHeld (c : Char) : Bool :=
  isVisible c && c != '"' && c != '\\'

variable {c : Char} {word rest text : List Char} {position : Position} {indent : Int} {flow : Bool}

section Characters

/-- Letters, digits, hyphens and underscores are told from any other character by what they are. -/
theorem ne_of_isNameChar {d : Char} (name : isNameChar c = true) (other : isNameChar d = false) : c ≠ d := by
  rintro rfl
  cases name.symm.trans other

theorem isVisible_of_isNameChar (name : isNameChar c = true) : isVisible c = true := by
  simp only [isNameChar, Char.isAlphanum, Bool.or_eq_true, isAlpha_eq_true_iff, Char.isDigit_iff_toNat, beq_iff_eq] at name
  simp only [isVisible, Bool.and_eq_true, decide_eq_true_eq]
  rcases name with ((letter | ⟨low, high⟩) | rfl) | rfl
  · omega
  · exact ⟨Nat.le_trans (by decide) low, Nat.le_trans high (by decide)⟩
  · decide
  · decide

theorem utf8Size_of_isVisible (visible : isVisible c = true) : c.utf8Size = 1 := by
  simp only [isVisible, Bool.and_eq_true, decide_eq_true_eq] at visible
  have small : c.val ≤ 0x7F := UInt32.le_iff_toNat_le.mpr (Nat.le_succ_of_le visible.2)
  exact if_pos small

theorem isSpace_of_isVisible (visible : isVisible c = true) : isSpace c = false := by
  have apart (d : Char) (other : isVisible d = false) : c ≠ d := by
    rintro rfl
    cases visible.symm.trans other
  simp [isSpace, isGap, isBreak, apart ' ' rfl, apart '\t' rfl, apart '\n' rfl, apart '\u2028' rfl, apart '\u2029' rfl]

end Characters

section Plain

theorem endsAfterGap_empty (cs : List Char) : endsAfterGap flow indent .empty position cs = false := rfl

theorem plainFrom_word (names : ∀ c ∈ word, isNameChar c = true) (text rest : List Char) (position : Position) :
    plainFrom flow indent text .empty position (word ++ rest) =
      plainFrom flow indent (word.reverse ++ text) .empty (position.forward word.length) rest := by
  induction word generalizing text position with
  | nil => rfl
  | cons c word ih =>
    obtain ⟨here, later⟩ := List.forall_mem_cons.mp names
    have apart (d : Char) : isNameChar d = false → c ≠ d := ne_of_isNameChar here
    have colon : c ≠ ':' := apart ':' rfl
    have flowing : isFlowIndicator c = false := by
      simp [isFlowIndicator, apart ',' rfl, apart '[' rfl, apart ']' rfl, apart '\x7b' rfl, apart '\x7d' rfl]
    obtain ⟨gap, ends⟩ := Bool.or_eq_false_iff.mp (isSpace_of_isVisible (isVisible_of_isNameChar here))
    have place : (position.forward 1).forward word.length = position.forward (c :: word).length := by
      simp [Position.forward, Nat.add_assoc, Nat.add_comm 1]
    rw [List.cons_append, plainFrom, endsAfterGap_empty]
    simp only [ends, gap, isStrayColon, endsBefore, flowing, beq_eq_false_iff_ne.mpr colon, Bool.and_false, Bool.false_and,
      Bool.or_self, Bool.false_eq_true, if_false]
    rw [ih later, place, List.reverse_cons, List.append_assoc]
    rfl

/-- A word ends before a visible character that no word takes in. -/
theorem plain?_before (names : ∀ c ∈ word, isNameChar c = true) (visible : isSpace c = false)
    (ends : endsBefore flow c rest = true) (proper : isStrayColon flow c rest = false) :
    plain? flow indent position (word ++ c :: rest) =
      some ⟨String.ofList word, position.forward word.length, c :: rest, false⟩ := by
  obtain ⟨gap, inLine⟩ := Bool.or_eq_false_iff.mp visible
  rw [plain?, plainFrom_word names, plainFrom, endsAfterGap_empty]
  simp [inLine, gap, proper, ends, textOf, Gap.empty, Gap.hasBreak]

/-- After a line end blanks are passed over that a word's own lines would have before them. -/
theorem plainFrom_blanks (blanks : Nat) (further text rest : List Char) (position : Position) :
    plainFrom flow indent text (.breaks (some '\n') further) position (List.replicate blanks ' ' ++ rest) =
      plainFrom flow indent text (.breaks (some '\n') further) (position.forward blanks) rest := by
  induction blanks generalizing position with
  | zero => rfl
  | succ blanks ih =>
    have place : (position.forward 1).forward blanks = position.forward (blanks + 1) := by
      simp [Position.forward, Nat.add_assoc, Nat.add_comm 1]
    rw [List.replicate_succ, List.cons_append, plainFrom, if_neg (by decide), if_pos (by decide), if_neg (by simp), ← place]
    exact ih (position.forward 1)

/-- Before a line that is not as far in as a word's own would be there is nothing more of the word. -/
theorem plain?_lineFeed {blanks : Nat} (names : ∀ c ∈ word, isNameChar c = true) (within : (blanks : Int) < indent)
    (visible : isSpace c = false) :
    plain? false indent position (word ++ '\n' :: (List.replicate blanks ' ' ++ c :: rest)) =
      some ⟨String.ofList word, ⟨position.line + 1, blanks⟩, c :: rest, true⟩ := by
  obtain ⟨gap, inLine⟩ := Bool.or_eq_false_iff.mp visible
  rw [plain?, plainFrom_word names, plainFrom, if_pos (by decide)]
  have read : Gap.empty.read '\n' = .breaks (some '\n') [] := rfl
  rw [read, plainFrom_blanks, plainFrom]
  simp [inLine, gap, endsAfterGap, Gap.isEmpty, within, textOf, Gap.hasBreak, Position.forward, Position.nextLine]

theorem plain?_finish (names : ∀ c ∈ word, isNameChar c = true) :
    plain? false indent position (word ++ ['\n']) = some ⟨String.ofList word, ⟨position.line + 1, 0⟩, [], true⟩ := by
  rw [plain?, plainFrom_word names, plainFrom, if_pos (by decide)]
  simp [plainFrom, textOf, Gap.hasBreak, Gap.empty, Gap.read, isBreak, Position.forward, Position.nextLine]

end Plain

section Quoted

/-- A mark between documents stands at the beginning of a line only. -/
theorem atDocumentMark_inLine (inLine : 0 < position.column) (cs : List Char) : atDocumentMark position cs = false := by
  have unmarked (mark : Char) : isDocumentMark mark position cs = false := by
    unfold isDocumentMark
    split
    · simp [Nat.ne_of_gt inLine]
    · rfl
  rw [atDocumentMark, unmarked, unmarked, Bool.or_self]

/-- A text of visible characters is read on to its closing quote, if it does not begin a line. -/
theorem doubleFrom_held (held : ∀ c ∈ word, isHeld c = true) (inLine : 0 < position.column) (text : List Char) :
    doubleFrom none text .empty position (word ++ '"' :: rest) =
      some ⟨textOf (word.reverse ++ text), position.forward (word.length + 1), rest, false⟩ := by
  induction word generalizing text position with
  | nil =>
    rw [List.nil_append, doubleFrom.eq_def]
    simp [isBreak, isGap, atDocumentMark_inLine inLine, Gap.flush, Gap.empty]
  | cons c word ih =>
    obtain ⟨here, later⟩ := List.forall_mem_cons.mp held
    simp only [isHeld, Bool.and_eq_true, bne_iff_ne] at here
    obtain ⟨⟨visible, quote⟩, backslash⟩ := here
    obtain ⟨gap, ends⟩ := Bool.or_eq_false_iff.mp (isSpace_of_isVisible visible)
    have place : (position.forward 1).forward (word.length + 1) = position.forward ((c :: word).length + 1) := by
      simp [Position.forward, Nat.add_assoc, Nat.add_comm 1]
    rw [List.cons_append, doubleFrom.eq_def]
    simp only [ends, gap, atDocumentMark_inLine inLine, Bool.false_eq_true, if_false, if_neg quote, if_neg backslash]
    rw [ih later (Nat.lt_of_lt_of_le inLine (Nat.le_add_right _ _)), place, List.reverse_cons, List.append_assoc]
    rfl

theorem quoted?_held (held : ∀ c ∈ word, isHeld c = true) (inLine : 0 < position.column) :
    quoted? '"' position (word ++ '"' :: rest) =
      some ⟨String.ofList word, position.forward (word.length + 1), rest, false⟩ := by
  rw [quoted?, if_neg (by decide), doubleFrom_held held inLine]
  simp [textOf]

end Quoted

end Scalar

section Source

/-- A text of visible characters, blanks and line feeds is read as it stands. -/
theorem source?_eq_some {cs : List Char} (printed : cs.all isPrinted = true) : source? cs = some cs := by
  have range : ∀ c ∈ cs, (0x20 ≤ c.toNat ∧ c.toNat ≤ 0x7E) ∨ c.toNat = 0x0A := by
    intro c member
    have here := List.all_eq_true.mp printed c member
    simp only [isPrinted, isVisible, Bool.or_eq_true, Bool.and_eq_true, decide_eq_true_eq, beq_iff_eq] at here
    rcases here with (visible | rfl) | rfl
    · omega
    · decide
    · decide
  have allowed : cs.all isAllowed = true := by
    rw [List.all_eq_true]
    intro c member
    rcases range c member with ⟨low, high⟩ | feed
    · simp [isAllowed, low, high]
    · simp [isAllowed, feed]
  have unified : unifyLineEnds cs = cs := by
    clear allowed printed
    induction cs with
    | nil => rfl
    | cons c rest ih =>
      obtain ⟨here, later⟩ := List.forall_mem_cons.mp range
      have plain : c ≠ '\r' ∧ c ≠ '\x85' := by
        constructor <;> rintro rfl <;> revert here <;> decide
      rw [unifyLineEnds, if_neg (by simp [plain]), ih later]
      rintro _ same
      exact absurd same plain.1
  rw [source?, if_pos allowed, unified]

end Source

end Relink.Yaml
