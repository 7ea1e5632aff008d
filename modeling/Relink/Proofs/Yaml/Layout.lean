import Relink.Proofs.Yaml.Layering
import Relink.Proofs.Yaml.Lexer
import Relink.Yaml.Document

/-! Documents laid out in lines: mappings in blocks, whose entries have words for keys and begin in lines of their own, and
within a line words, texts between quotes, words between brackets, and empty mappings. -/

namespace Relink.Yaml

/-- A value that can be laid out: in the line of its key, or as a block of entries in the lines after it. -/
inductive Layout where
  | bare (word : String)
  | quoted (text : String)
  | list (words : List String)
  | empty
  | block (entries : List (String × Layout))

namespace Layout

/-- How a value is written in the line of its key. -/
def inline : Layout → String
  | bare word => word
  | quoted text => "\"" ++ text ++ "\""
  | list words => "[" ++ ", ".intercalate words ++ "]"
  | empty => "\x7b\x7d"
  | block _ => ""

def indentation (column : Nat) : String :=
  String.ofList (List.replicate column ' ')

mutual

/-- The lines of an entry at a column. Those of a block lie two columns further in. -/
def entryLines (column : Nat) (key : String) : Layout → List String
  | block entries => (indentation column ++ key ++ ":") :: lines (column + 2) entries
  | value => [indentation column ++ key ++ ": " ++ value.inline]

def lines (column : Nat) : List (String × Layout) → List String
  | [] => []
  | (key, value) :: rest => entryLines column key value ++ lines column rest

end

def toText (entries : List (String × Layout)) : String :=
  String.join ((lines 0 entries).map (· ++ "\n"))

def characters (lines : List String) : List Char :=
  lines.flatMap fun line => line.toList ++ ['\n']

/-- What is written after the colon of a key at a column. -/
def body (column : Nat) : Layout → List Char
  | block entries => '\n' :: characters (lines (column + 2) entries)
  | value => ' ' :: (value.inline.toList ++ ['\n'])

/-- The words after the first one between brackets, as they are written. -/
def furtherItems (words : List String) : List Char :=
  words.flatMap fun word => ',' :: ' ' :: word.toList

mutual

def tree : Layout → Tree
  | bare word => (Tree.ofPlain? word).getD .null
  | quoted text => .text text
  | list words => .sequence (words.map Tree.text)
  | empty => .mapping []
  | block entries => Tree.record (trees entries)

def trees : List (String × Layout) → List (String × Tree)
  | [] => []
  | (key, value) :: rest => (key, value.tree) :: trees rest

end

/-- A word that is read as itself. -/
structure IsName (word : String) : Prop where
  spelled : Scalar.IsWord word.toList
  reads : Tree.ofPlain? word = some (.text word)

/-- A word that is read as a key: its colon must not be too far away. -/
structure IsKey (key : String) : Prop extends IsName key where
  short : key.length ≤ KeyCandidate.greatestLength

/-- A layout that can be read where `depth` further collections may nest. -/
inductive Legible : Nat → Layout → Prop where
  | bare {depth : Nat} {word : String} {value : Tree} (spelled : Scalar.IsWord word.toList)
    (reads : Tree.ofPlain? word = some value) : Legible depth (bare word)
  | quoted {depth : Nat} {text : String} (held : ∀ c ∈ text.toList, Scalar.isHeld c = true) : Legible depth (quoted text)
  | list {depth : Nat} {words : List String} (names : ∀ word ∈ words, IsName word) : Legible (depth + 1) (list words)
  | empty {depth : Nat} : Legible (depth + 1) empty
  | block {depth : Nat} {entries : List (String × Layout)} (nonempty : entries ≠ [])
    (distinct : (entries.map Prod.fst).Nodup) (keys : ∀ entry ∈ entries, IsKey entry.1)
    (values : ∀ entry ∈ entries, Legible depth entry.2) : Legible (depth + 1) (block entries)

section Text

variable {column depth : Nat} {layout : Layout} {entries : List (String × Layout)}

theorem toList_toText (entries : List (String × Layout)) : (toText entries).toList = characters (lines 0 entries) := by
  simp [toText, characters, String.toList_join, List.flatMap_map]

theorem trees_eq_map (entries : List (String × Layout)) :
    trees entries = entries.map fun entry => (entry.1, entry.2.tree) := by
  induction entries with
  | nil => rfl
  | cons entry rest ih => rw [trees, ih, List.map_cons]

theorem characters_lines_cons (column : Nat) (key : String) (value : Layout) (rest : List (String × Layout)) :
    characters (lines column ((key, value) :: rest)) =
      List.replicate column ' ' ++ key.toList ++ ':' :: (value.body column ++ characters (lines column rest)) := by
  rw [lines, characters, List.flatMap_append, ← characters, ← characters]
  cases value with
  | block entries => simp [entryLines, characters, body, indentation]
  | _ => simp [entryLines, characters, body, indentation]

theorem toList_intercalate (word : String) (rest : List String) :
    (", ".intercalate (word :: rest)).toList = word.toList ++ furtherItems rest := by
  rw [String.toList_intercalate, furtherItems]
  induction rest generalizing word with
  | nil => simp
  | cons next rest ih =>
    rw [List.map_cons, List.map_cons, List.intercalate_cons_cons, ← List.map_cons, ih, List.flatMap_cons]
    simp

theorem all_isPrinted_of_isWord {word : List Char} (isWord : Scalar.IsWord word) : word.all isPrinted = true := by
  rw [List.all_eq_true]
  intro c member
  simp [isPrinted, Scalar.isVisible_of_isNameChar (isWord.names c member)]

theorem all_isPrinted_of_isHeld {text : List Char} (held : ∀ c ∈ text, Scalar.isHeld c = true) :
    text.all isPrinted = true := by
  rw [List.all_eq_true]
  intro c member
  have visible : isVisible c = true := by
    have here := held c member
    simp only [Scalar.isHeld, Bool.and_eq_true] at here
    exact here.1.1
  simp [isPrinted, visible]

theorem all_isPrinted_furtherItems {words : List String} (names : ∀ word ∈ words, IsName word) :
    (furtherItems words).all isPrinted = true := by
  rw [furtherItems, List.all_flatMap, List.all_eq_true]
  intro word member
  rw [List.all_cons, List.all_cons, all_isPrinted_of_isWord (names word member).spelled]
  rfl

theorem all_isPrinted_characters (keys : ∀ entry ∈ entries, IsKey entry.1)
    (values : ∀ entry ∈ entries, (entry.2.body column).all isPrinted = true) :
    (characters (lines column entries)).all isPrinted = true := by
  induction entries with
  | nil => rfl
  | cons entry rest ih =>
    obtain ⟨key, keys⟩ := List.forall_mem_cons.mp keys
    obtain ⟨value, values⟩ := List.forall_mem_cons.mp values
    have blanks : (List.replicate column ' ').all isPrinted = true := by simp [isPrinted]
    rw [characters_lines_cons, List.all_append, List.all_append, List.all_cons, List.all_append, blanks,
      all_isPrinted_of_isWord key.spelled, value, ih keys values]
    rfl

/-- Layouts are written in visible characters, blanks and line feeds. -/
theorem Legible.all_isPrinted (legible : Legible depth layout) (column : Nat) :
    (layout.body column).all isPrinted = true := by
  have inLine {text : List Char} (printed : text.all isPrinted = true) :
      (' ' :: (text ++ ['\n'])).all isPrinted = true := by
    rw [List.all_cons, List.all_append, printed]
    rfl
  induction legible generalizing column with
  | bare spelled reads => exact inLine (all_isPrinted_of_isWord spelled)
  | quoted held =>
    refine inLine ?_
    rw [inline, String.toList_append, String.toList_append, List.all_append, List.all_append, all_isPrinted_of_isHeld held]
    rfl
  | @list depth words names =>
    refine inLine ?_
    cases words with
    | nil => rfl
    | cons word rest =>
      obtain ⟨name, names⟩ := List.forall_mem_cons.mp names
      rw [inline, String.toList_append, String.toList_append, toList_intercalate, List.all_append, List.all_append,
        List.all_append, all_isPrinted_of_isWord name.spelled, all_isPrinted_furtherItems names]
      rfl
  | empty => rfl
  | block nonempty distinct keys values ih =>
    rw [body, List.all_cons, all_isPrinted_characters keys fun entry member => ih entry member (column + 2)]
    rfl

end Text

end Layout

end Relink.Yaml
