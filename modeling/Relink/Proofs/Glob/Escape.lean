import Relink.Glob.Search

/-! Patterns with an escaped text are always patterns: no text of a directory makes a search below it fail. An escaped
character reads as a choice of that one, and escaping keeps the slashes where they are. -/

namespace Relink.Glob

namespace Pattern

/-- The characters that stand for one character alone. -/
def escapedChar (c : Char) : List Char :=
  if c == '?' || c == '*' || c == '[' || c == ']' then ['[', c, ']'] else [c]

theorem escapedChar_cases (c : Char) : escapedChar c = ['[', c, ']'] ∨ escapedChar c = [c] := by
  unfold escapedChar
  split <;> simp

def escaped (cs : List Char) : List Char :=
  cs.flatMap escapedChar

theorem escaped_cons (c : Char) (cs : List Char) : escaped (c :: cs) = escapedChar c ++ escaped cs :=
  List.flatMap_cons

theorem escape_toList (text : String) : (escape text).toList = escaped text.toList := by
  rw [escape, String.toList_ofList, escaped]
  rfl

/-- A text that can be read from anywhere in a pattern. -/
def Readable (cs : List Char) : Prop :=
  ∀ fuel before position last, ∃ pattern, parseFrom fuel before position last cs = .ok pattern

theorem Readable.nil : Readable [] := fun fuel before _ _ =>
  ⟨before.reverse, by cases fuel <;> rfl⟩

theorem Readable.cons {c : Char} {cs : List Char} (readable : Readable cs) (plain : c ≠ '?' ∧ c ≠ '*' ∧ c ≠ '[') :
    Readable (c :: cs) := by
  intro fuel before position last
  cases fuel with
  | zero => exact ⟨before.reverse, rfl⟩
  | succ fuel =>
    rw [parseFrom, if_neg plain.1, if_neg plain.2.1, if_neg plain.2.2]
    exact readable fuel _ _ _

theorem Readable.star {cs : List Char} (readable : Readable cs) (alone : cs.head? ≠ some '*') :
    Readable ('*' :: cs) := by
  intro fuel before position last
  cases fuel with
  | zero => exact ⟨before.reverse, rfl⟩
  | succ fuel =>
    have one : cs.takeWhile (· = '*') = [] := by
      cases cs with
      | nil => rfl
      | cons c cs =>
        have other : c ≠ '*' := by simpa using alone
        simp [other]
    rw [parseFrom, if_neg (by decide), if_pos rfl, one]
    exact readable fuel _ _ _

/-- A choice of one character ends at the first bracket after that, even if the character is one. -/
theorem Readable.choice {c : Char} {cs : List Char} (readable : Readable cs) (positive : c ≠ '!') :
    Readable ('[' :: c :: ']' :: cs) := by
  intro fuel before position last
  cases fuel with
  | zero => exact ⟨before.reverse, rfl⟩
  | succ fuel =>
    have token : bracket? (c :: ']' :: cs) = some (.within [(c, c)], cs) := by
      simp [bracket?, untilBracket?, positive, ranges]
    rw [parseFrom, if_neg (by decide), if_neg (by decide), if_pos rfl, token]
    exact readable fuel _ _ _

theorem Readable.escapedChar {cs : List Char} (readable : Readable cs) (c : Char) :
    Readable (escapedChar c ++ cs) := by
  unfold Pattern.escapedChar
  split
  case isTrue special =>
    refine readable.choice ?_
    rintro rfl
    simp at special
  case isFalse plain =>
    simp only [Bool.or_eq_true, beq_iff_eq, not_or] at plain
    exact readable.cons ⟨plain.1.1.1, plain.1.1.2, plain.1.2⟩

theorem Readable.escaped {rest : List Char} (readable : Readable rest) (cs : List Char) :
    Readable (escaped cs ++ rest) := by
  induction cs with
  | nil => exact readable
  | cons c cs ih =>
    rw [escaped_cons, List.append_assoc]
    exact ih.escapedChar c

theorem Readable.parse {text : String} (readable : Readable text.toList) : ∃ pattern, parse text = .ok pattern :=
  readable _ _ _ _

end Pattern

def anyDocument : List Char := ['*', '.', 'y', 'a', 'm', 'l']

theorem readable_anyDocument : Pattern.Readable anyDocument := by
  refine Pattern.Readable.star ?_ (by decide)
  iterate 5 refine Pattern.Readable.cons ?_ (by decide)
  exact .nil

theorem splitOn_cons (c : Char) (cs : List Char) :
    (c :: cs).splitOn '/' = if c = '/' then [] :: cs.splitOn '/' else (cs.splitOn '/').modifyHead (c :: ·) := by
  rw [List.splitOn, List.splitOnP_cons_eq_if_modifyHead]
  by_cases slash : c = '/' <;> simp [slash, List.splitOn]

/-- Escaping puts no slash anywhere, and takes none away. -/
theorem splitOn_escaped (cs : List Char) {rest : List Char} (whole : rest.splitOn '/' = [rest]) :
    (Pattern.escaped cs ++ '/' :: rest).splitOn '/' = (cs.splitOn '/').map Pattern.escaped ++ [rest] := by
  induction cs with
  | nil =>
    rw [Pattern.escaped, List.flatMap_nil, List.nil_append, splitOn_cons, if_pos rfl, whole]
    rfl
  | cons c cs ih =>
    obtain ⟨first, others, split⟩ := List.exists_cons_of_ne_nil (List.splitOn_ne_nil '/' cs)
    rw [Pattern.escaped_cons, List.append_assoc, splitOn_cons c]
    rw [split] at ih ⊢
    by_cases slash : c = '/'
    · subst slash
      have itself : Pattern.escapedChar '/' = ['/'] := by decide
      rw [itself, List.singleton_append, splitOn_cons, if_pos rfl, ih, if_pos rfl]
      rfl
    · rw [if_neg slash]
      rcases Pattern.escapedChar_cases c with spelled | spelled <;>
        simp [splitOn_cons, slash, ih, Pattern.escaped_cons, spelled]

theorem pieces_escaped (cs : List Char) :
    Query.pieces (Pattern.escaped cs ++ '/' :: anyDocument) =
      (cs.splitOn '/').map (fun piece => String.ofList (Pattern.escaped piece)) ++ [String.ofList anyDocument] := by
  have last : String.ofList anyDocument ≠ "" := by decide
  rw [Query.pieces, splitOn_escaped cs (by decide), List.map_append, List.map_map]
  simp [last]

theorem exists_mapM_parse {texts : List String} (each : ∀ text ∈ texts, Pattern.Readable text.toList) :
    ∃ patterns, texts.mapM Pattern.parse = .ok patterns := by
  induction texts with
  | nil => exact ⟨[], rfl⟩
  | cons text rest ih =>
    obtain ⟨readable, others⟩ := List.forall_mem_cons.mp each
    obtain ⟨pattern, parsed⟩ := readable.parse
    obtain ⟨patterns, all⟩ := ih others
    exact ⟨pattern :: patterns, by rw [List.mapM_cons, parsed, all]; rfl⟩

theorem readable_of_mem_pieces {cs : List Char} {text : String}
    (member : text ∈ Query.pieces (Pattern.escaped cs ++ '/' :: anyDocument)) : Pattern.Readable text.toList := by
  rw [pieces_escaped] at member
  rcases List.mem_append.mp member with escaped | last
  · obtain ⟨piece, _, rfl⟩ := List.mem_map.mp escaped
    rw [String.toList_ofList, ← List.append_nil (Pattern.escaped piece)]
    exact Pattern.Readable.nil.escaped piece
  · rw [List.mem_singleton.mp last, String.toList_ofList]
    exact readable_anyDocument

/-- The first slash of a text from the root on belongs to no step. -/
theorem readable_of_mem_pieces_drop {cs : List Char} {text : String}
    (absolute : (Pattern.escaped cs ++ '/' :: anyDocument).head? = some '/')
    (member : text ∈ Query.pieces ((Pattern.escaped cs ++ '/' :: anyDocument).drop 1)) :
    Pattern.Readable text.toList := by
  cases cs with
  | nil =>
    have alone : Query.pieces anyDocument = [String.ofList anyDocument] := by decide
    have last : text ∈ Query.pieces anyDocument := member
    rw [alone] at last
    rw [List.mem_singleton.mp last, String.toList_ofList]
    exact readable_anyDocument
  | cons c cs =>
    obtain rfl : c = '/' := by
      rw [Pattern.escaped_cons] at absolute
      rcases Pattern.escapedChar_cases c with itself | itself <;> simp [itself] at absolute
      exact absolute
    exact readable_of_mem_pieces member

/-- A search for the documents of a directory begins, whatever the directory's text is. -/
theorem exists_paths_escape (files : Files.Tree) (here : Files.Place) (directory : String) :
    ∃ found, paths files here (Pattern.escape directory ++ "/*.yaml") = .ok found := by
  have characters : (Pattern.escape directory ++ "/*.yaml").toList =
      Pattern.escaped directory.toList ++ '/' :: anyDocument := by
    rw [String.toList_append, Pattern.escape_toList]
    rfl
  have readable : Pattern.Readable (Pattern.escape directory ++ "/*.yaml").toList := by
    rw [characters]
    exact (readable_anyDocument.cons (by decide)).escaped _
  obtain ⟨whole, parsed⟩ := readable.parse
  have steps : ∃ patterns,
      (Query.pieces (if (Pattern.escaped directory.toList ++ '/' :: anyDocument).head? = some '/'
        then (Pattern.escaped directory.toList ++ '/' :: anyDocument).drop 1
        else Pattern.escaped directory.toList ++ '/' :: anyDocument)).mapM Pattern.parse = .ok patterns := by
    refine exists_mapM_parse fun text member => ?_
    split at member
    case isTrue absolute => exact readable_of_mem_pieces_drop absolute member
    case isFalse => exact readable_of_mem_pieces member
  obtain ⟨patterns, read⟩ := steps
  simp only [paths, Query.parse, parsed, characters, bind, Except.bind, read]
  exact ⟨_, rfl⟩

end Relink.Glob
