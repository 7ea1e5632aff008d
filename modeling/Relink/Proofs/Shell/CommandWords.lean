import Mathlib.Data.List.TakeWhile
import Relink.Proofs.Shell.Octets
import Relink.Proofs.Shell.Reading

/-! Commands that are written word by word. A line of words that are bare or quoted is read as the one simple command
that has these words. -/

namespace Relink.Shell

open Chars (joined ofString)

/-- How a word of a command is written: as it stands, or quoted. -/
inductive Spelling where
  | bare (text : String)
  | quoted (text : String)

namespace Spelling

def written : Spelling → String
  | bare text => text
  | quoted text => quote text

/-- The text that the word is. Between quotes the ends of lines are lost. -/
def meaning : Spelling → String
  | bare text => text
  | quoted text => joined text

def word : Spelling → Word
  | bare text => Word.bare (ofString text)
  | quoted text => Word.quoted (ofString (joined text))

def script (spelling : Spelling) : Chars :=
  ofString spelling.written

theorem script_quoted (text : String) : (quoted text).script = '"' :: escape (ofString text) ++ ['"'] :=
  Chars.ofString_quote text

variable {cursor : Cursor} {fuel : Nat} {tail : Chars}

open Reader

/-- A character without any meaning of its own, at the beginning of a word too. -/
def isPlain (c : Char) : Bool :=
  isOrdinary c && !(Expansion.isSpecial c || c == '~' || c == '=' || c == '#')

theorem ordinary_of_plain {c : Char} (plain : isPlain c = true) : isOrdinary c = true :=
  (Bool.and_eq_true_iff.mp plain).1

/-- A word that is written as it stands needs characters without a meaning of their own. -/
def IsProper : Spelling → Prop
  | bare text => ofString text ≠ [] ∧ (ofString text).all isPlain = true
  | quoted _ => True

instance : (spelling : Spelling) → Decidable spelling.IsProper
  | bare text => inferInstanceAs (Decidable (ofString text ≠ [] ∧ (ofString text).all isPlain = true))
  | quoted _ => .isTrue trivial

variable {spelling : Spelling}

theorem word_means (proper : spelling.IsProper) : spelling.word.Means (ofString spelling.meaning) := by
  cases spelling with
  | quoted text => exact Expansion.means_quoted
  | bare text =>
    obtain ⟨nonempty, plain⟩ := proper
    refine Expansion.means_bare (.inr fun c member => ?_) nonempty ?_
    · have := List.all_eq_true.mp plain c member
      simp_all [isPlain]
    · intro tilde
      exact absurd (List.all_eq_true.mp plain '~' (List.mem_of_mem_head? tilde)) (by decide)

theorem skipBlanks_blank (rest : Chars) (line : Nat) : skipBlanks (' ' :: rest) line = skipBlanks rest line := by
  simp [skipBlanks]

theorem unfold_of_head {rest : Chars} (unjoined : ∀ c ∈ rest.head?, c ≠ '\\') : Token.unfold rest = (0, rest) := by
  rw [Token.unfold]
  rintro after rfl
  exact unjoined '\\' rfl rfl

/-- No operator begins with an ordinary character before a blank or another such character. -/
theorem operator?_of_ordinary {c : Char} {rest : Chars} (ordinary : isOrdinary c = true)
    (next : ∀ d ∈ rest.head?, d = ' ' ∨ isOrdinary d = true) : Token.operator? (c :: rest) = none := by
  have unjoined : Token.unfold rest = (0, rest) := unfold_of_head fun d member => by
    rintro rfl
    exact absurd (next '\\' member) (by decide)
  have apart (d : Char) (special : isOrdinary d = false) : c ≠ d := by
    rintro rfl
    rw [ordinary] at special
    cases special
  rw [Token.operator?]
  · simp only [unjoined]
    split
    · split
      · exact absurd (next '<' rfl) (by decide)
      · exact absurd (next '>' rfl) (by decide)
      · rfl
    · rfl
  all_goals exact apart _ rfl

/-- Nothing is passed before a character that is none of those that blanks, comments and joined lines begin with. -/
theorem skipBlanks_of_head {c : Char} {rest : Chars} (line : Nat) (apart : c ≠ ' ' ∧ c ≠ '\t' ∧ c ≠ '#' ∧ c ≠ '\\') :
    skipBlanks (c :: rest) line = (c :: rest, line) := by
  obtain ⟨notBlank, notTab, notComment, notBackslash⟩ := apart
  rw [skipBlanks]
  · simp [notBlank, notTab, notComment]
  · intro after escape
    exact absurd escape notBackslash

/-- A word begins with a character that is neither passed nor begins an operator. -/
theorem starts (proper : spelling.IsProper) (blank : Blank tail) :
    Token.operator? (spelling.script ++ tail) = none ∧
      ∀ line, skipBlanks (spelling.script ++ tail) line = (spelling.script ++ tail, line) := by
  cases spelling with
  | quoted text =>
    rw [script_quoted]
    exact ⟨rfl, fun line => rfl⟩
  | bare text =>
    obtain ⟨nonempty, plain⟩ := proper
    obtain ⟨c, cs, begins⟩ := List.exists_cons_of_ne_nil nonempty
    rw [begins, List.all_eq_true] at plain
    obtain ⟨here, later⟩ := List.forall_mem_cons.mp plain
    rw [script, written, begins]
    constructor
    · refine operator?_of_ordinary (ordinary_of_plain here) fun d member => ?_
      rcases cs with - | ⟨e, cs⟩
      · exact .inl (blank d member)
      · cases member
        exact .inr (ordinary_of_plain (later d List.mem_cons_self))
    · intro line
      refine skipBlanks_of_head line ⟨?_, ?_, ?_, ?_⟩
      all_goals
        rintro rfl
        exact absurd here (by decide)

theorem token_script (proper : spelling.IsProper) (blank : Blank tail) (unaliased : cursor.Unaliased)
    (here : cursor.rest = spelling.script ++ tail ∨ cursor.rest = ' ' :: (spelling.script ++ tail))
    (enough : cursor.rest.length + 2 ≤ fuel) : Reads (token fuel) cursor (.word spelling.word) tail := by
  obtain ⟨fuel, rfl⟩ : ∃ less, fuel = less + 1 := ⟨fuel - 1, by omega⟩
  obtain ⟨starts, passes⟩ := starts proper blank
  have skipped : skipBlanks cursor.rest cursor.line = (spelling.script ++ tail, cursor.line) := by
    rcases here with here | here
    · rw [here, passes]
    · rw [here, skipBlanks_blank, passes]
  have long : spelling.script.length + tail.length ≤ cursor.rest.length := by
    rcases here with here | here <;> simp [here]
  refine token_word unaliased starts skipped ?_
  cases spelling with
  | quoted text =>
    have read := readQuoted_escape (ofString text) tail
    rw [← Chars.ofString_joined] at read
    refine pieces_quoted ?_ read blank ?_
    · simp [script_quoted]
    · simp only [script_quoted, List.length_cons, List.length_append, List.length_nil] at long ⊢
      omega
  | bare text =>
    obtain ⟨nonempty, plain⟩ := proper
    have positive : 0 < (bare text).script.length := List.length_pos_iff.mpr nonempty
    obtain ⟨fuel, rfl⟩ : ∃ less, fuel = less + 2 := ⟨fuel - 2, by omega⟩
    exact pieces_bare rfl nonempty (fun c member => ordinary_of_plain (List.all_eq_true.mp plain c member)) blank

/-- Words with a blank before each. -/
def tailOf (spellings : List Spelling) : Chars :=
  spellings.flatMap fun spelling => ' ' :: spelling.script

theorem tailOf_eq (spellings : List Spelling) :
    ofString (String.join (spellings.map fun spelling => " " ++ spelling.written)) = tailOf spellings := by
  induction spellings with
  | nil => rfl
  | cons spelling spellings ih =>
    have blank : ofString " " = [' '] := by decide
    rw [List.map_cons, String.join_cons, Chars.ofString_append, Chars.ofString_append, ih, blank, tailOf, tailOf,
      List.flatMap_cons, script, List.singleton_append]

theorem blank_tailOf (spellings : List Spelling) : Blank (tailOf spellings) := by
  cases spellings with
  | nil => exact fun c member => by cases member
  | cons spelling spellings =>
    intro c member
    cases member
    rfl

end Spelling

namespace Reader

variable {cursor : Cursor} {fuel line : Nat} {assignments : List (String × Word)} {words : List Word}
  {redirects : List Redirect} {spellings : List Spelling}

open Spelling (tailOf)

/-- A command takes in the words that are written after those it has, up to the end of the text. -/
theorem simple_spellings (proper : ∀ spelling ∈ spellings, spelling.IsProper) (unaliased : cursor.Unaliased)
    (idle : cursor.ahead = none) (here : cursor.rest = tailOf spellings) (nonempty : words ≠ [])
    (enough : cursor.rest.length + 4 ≤ fuel) :
    ∃ after, simple fuel line assignments words redirects cursor =
        .ok (.simple line assignments (words.reverse ++ spellings.map Spelling.word) redirects, after) ∧
      after.rest = [] ∧ after.ahead = some .finish := by
  -- A word takes one level of depth and, with its blank, more than one character.
  induction spellings generalizing cursor fuel words with
  | nil =>
    obtain ⟨fuel, rfl⟩ : ∃ less, fuel = less + 3 := ⟨fuel - 3, by omega⟩
    obtain ⟨last, looked⟩ : ∃ last, peek (fuel + 2) cursor =
        .ok (.finish, (cursor.moved [] last).holding (some .finish)) :=
      peek_of_reads idle (token_finish unaliased here)
    refine ⟨(cursor.moved [] last).holding (some .finish), ?_, rfl, rfl⟩
    rw [simple_of_peek looked (peek_of_ahead rfl), simple_finish ((unaliased.moved _ _).holding _) rfl nonempty,
      List.map_nil, List.append_nil]
  | cons spelling spellings ih =>
    obtain ⟨fuel, rfl⟩ : ∃ less, fuel = less + 3 := ⟨fuel - 3, by omega⟩
    obtain ⟨first, others⟩ := List.forall_mem_cons.mp proper
    have written : cursor.rest = ' ' :: (spelling.script ++ tailOf spellings) := by
      rw [here, tailOf, List.flatMap_cons]
      rfl
    have shorter : (tailOf spellings).length < cursor.rest.length := by
      rw [written]
      simp only [List.length_cons, List.length_append]
      omega
    obtain ⟨last, looked⟩ : ∃ last, peek (fuel + 2) cursor =
        .ok (.word spelling.word, (cursor.moved (tailOf spellings) last).holding (some (.word spelling.word))) :=
      peek_of_reads idle
        (Spelling.token_script first (Spelling.blank_tailOf spellings) unaliased (.inr written) (by omega))
    have moved := (unaliased.moved (tailOf spellings) last).holding (some (.word spelling.word))
    obtain ⟨after, done, ended⟩ := ih others (moved.holding none) rfl rfl (List.cons_ne_nil spelling.word words)
      (Nat.le_of_lt_succ (Nat.lt_of_lt_of_le (Nat.add_lt_add_right shorter 4) enough))
    refine ⟨after, ?_, ended⟩
    rw [simple_of_peek looked (peek_of_ahead rfl), simple_word moved rfl fun none => absurd none nonempty, done]
    simp

theorem assignment?_word {spelling : Spelling} (proper : spelling.IsProper) : assignment? spelling.word = none := by
  cases spelling with
  | quoted text => rfl
  | bare text =>
    have whole : (ofString text).takeWhile (· ≠ '=') = ofString text := by
      rw [List.takeWhile_eq_self_iff]
      rintro c member
      refine decide_eq_true ?_
      rintro rfl
      exact absurd (List.all_eq_true.mp proper.2 '=' member) (by decide)
    rw [Spelling.word, Word.bare, assignment?]
    simp only [whole, List.drop_length]

/-- A line of words is one simple command, unless it begins with a keyword. -/
theorem readLine_spellings {first : Spelling} (begins : first.IsProper)
    (notKeyword : (Token.word first.word).keyword? = none) (proper : ∀ spelling ∈ spellings, spelling.IsProper) :
    ∃ line after, Command.readLine (Cursor.start (first.script ++ tailOf spellings)) =
        .ok (some (.simple line [] (first.word :: spellings.map Spelling.word) []), after) ∧ after.rest = [] := by
  generalize text : first.script ++ tailOf spellings = script
  have unaliased := Cursor.unaliased_start script
  have long : (tailOf spellings).length ≤ script.length := by
    rw [← text, List.length_append]
    omega
  obtain ⟨fuel, deep, enough⟩ : ∃ fuel, (Cursor.start script).fuel = fuel + 7 ∧ script.length + 2 ≤ fuel :=
    ⟨16 * (script.length + 4) - 7, by simp [Cursor.fuel, Cursor.start]; omega, by omega⟩
  obtain ⟨line, peeked⟩ : ∃ line, peek (fuel + 7) (Cursor.start script) =
      .ok (.word first.word, ((Cursor.start script).moved (tailOf spellings) line).holding (some (.word first.word))) :=
    peek_of_reads rfl (Spelling.token_script begins (Spelling.blank_tailOf spellings) unaliased (.inl text.symm)
      (enough.trans (Nat.le_add_right fuel 6)))
  have moved := (unaliased.moved (tailOf spellings) line).holding (some (.word first.word))
  obtain ⟨after, done, ended, finished⟩ : ∃ after, simple (fuel + 2) line [] [first.word] []
        ((((Cursor.start script).moved (tailOf spellings) line).holding (some (.word first.word))).holding none) =
        .ok (.simple line [] (first.word :: spellings.map Spelling.word) [], after) ∧
      after.rest = [] ∧ after.ahead = some .finish :=
    simple_spellings proper (moved.holding none) rfl rfl (List.cons_ne_nil _ _)
      (Nat.add_le_add_right ((Nat.add_le_add_right long 2).trans enough) 2)
  have whole := (simple_word moved rfl fun _ => ⟨.inl rfl, assignment?_word begins⟩).trans done
  rw [← deep] at peeked
  refine ⟨line, after, readLine_of_list peeked ?_, ended⟩
  rw [deep]
  exact list_of_simple rfl notKeyword (.inl rfl) whole finished

end Reader

end Relink.Shell
