import Relink.Shell.Expansion

/-! Words without expansions. Such a word is one field, the same wherever and whenever it is expanded. -/

namespace Relink.Shell

namespace Word

/-- The word of characters that are not quoted. -/
def bare (text : Chars) : Word :=
  [.chars text false]

/-- What stands between double quotes in which nothing is expanded: nothing, if the text is empty. -/
def between (text : Chars) : Word :=
  if text.isEmpty then [] else [.chars text true]

/-- The word of a text between double quotes in which nothing is expanded. -/
def quoted (text : Chars) : Word :=
  .quotes :: between text

/-- A word is one field, whatever the shell's condition and however a command's output is taken. -/
def Means (word : Word) (text : Chars) : Prop :=
  ∀ capture, Expansion.fieldsOfWord capture word = pure [text]

end Word

namespace Fields

theorem ofSegments_of_never (separators : Chars) {segments : List Segment}
    (never : ∀ segment ∈ segments, segment.splitting = .never) (nonempty : segments.flatMap (·.marks) ≠ []) :
    ofSegments separators none segments = [characters (segments.flatMap (·.marks))] := by
  have taken (fields : Fields) : segments.foldl (takeSegment separators) fields =
      { fields with current := (segments.flatMap (·.marks)).reverse ++ fields.current } := by
    clear nonempty
    induction segments generalizing fields with
    | nil => rfl
    | cons segment segments ih =>
      obtain ⟨here, later⟩ := List.forall_mem_cons.mp never
      rw [List.foldl_cons, ih later, takeSegment, here]
      simp
  rw [ofSegments, taken]
  simp [finish, nonempty]

end Fields

namespace Expansion

/-- The characters of a field that are all quoted, or all not. -/
def marked (quoted : Bool) (text : Chars) : Marked :=
  text.map fun c => (c, quoted)

/-- A character that may stand for others where it is not quoted, or that quotes the next one there. -/
def isSpecial (c : Char) : Bool :=
  c == '*' || c == '?' || c == '[' || c == '\\'

/-- A text in which every character stands for itself: all are quoted, or none has a meaning of its own. -/
def IsLiteral (quoted : Bool) (text : Chars) : Prop :=
  quoted = true ∨ ∀ c ∈ text, isSpecial c = false

section Literal

variable {quoted : Bool} {text : Chars}

theorem plain_marked : plain (marked quoted text) = text := by
  simp [plain, marked, Function.comp_def]

theorem characters_map : Fields.characters (text.map fun c => .char c quoted) = marked quoted text := by
  induction text with
  | nil => rfl
  | cons c text ih => exact congrArg ((c, quoted) :: ·) ih

theorem unescaped_marked (literal : IsLiteral quoted text) : unescaped (marked quoted text) = marked quoted text := by
  induction text with
  | nil => rfl
  | cons c text ih =>
    have rest := ih (literal.imp_right fun each => (List.forall_mem_cons.mp each).2)
    have fixed : ¬(c = '\\' ∧ quoted = false) := by
      rintro ⟨rfl, rfl⟩
      rcases literal with quoted | each
      · cases quoted
      · cases each '\\' List.mem_cons_self
    rw [marked, List.map_cons, ← marked, unescaped.eq_2, rest]
    exact fun _ _ _ _ escape bare => fixed ⟨escape, bare⟩

theorem isPattern_marked (literal : IsLiteral quoted text) : isPattern (marked quoted text) = false := by
  rcases literal with rfl | each
  · simp [isPattern, marked]
  · simp only [isPattern, marked, List.any_map, List.any_eq_false]
    intro c member
    have := each c member
    simp_all [isSpecial]

/-- A text in which every character stands for itself stands for no path but itself. -/
theorem paths_marked (session : Session) (literal : IsLiteral quoted text) :
    paths session (marked quoted text) = [text] := by
  rw [paths, unescaped_marked literal, isPattern_marked literal, plain_marked]
  simp

/-- A word that makes parts that are split nowhere is the one text that their characters spell. -/
theorem means_of_pieces {word : Word} {segments : List Segment}
    (made : ∀ capture, pieces capture ⟨true, false⟩ false true word = pure segments)
    (never : ∀ segment ∈ segments, segment.splitting = .never) (nonempty : segments.flatMap (·.marks) ≠ [])
    (spells : Fields.characters (segments.flatMap (·.marks)) = marked quoted text) (literal : IsLiteral quoted text) :
    word.Means text := by
  intro capture
  have fields (session : Session) :
      (Fields.ofSegments (separators session) none segments).flatMap (paths session) = [text] := by
    rw [Fields.ofSegments_of_never _ never nonempty, spells, List.flatMap_singleton, paths_marked session literal]
  rw [fieldsOfWord, made, pure_bind]
  simp only [fields]
  rfl

theorem means_quoted : (Word.quoted text).Means text := by
  rw [Word.quoted, Word.between]
  split
  · rename_i empty
    obtain rfl := List.isEmpty_iff.mp empty
    exact means_of_pieces (fun capture => rfl) (by simp) (by simp) rfl (.inl rfl)
  · have made (capture : Command → Activity Chars) :
        pieces capture ⟨true, false⟩ false true [.quotes, .chars text true] =
          pure [⟨.never, [.quotes]⟩, ⟨.never, text.map fun c => .char c true⟩] := rfl
    refine means_of_pieces made (by simp) (by simp) ?_ (.inl rfl)
    simpa [Fields.characters] using characters_map

/-- Where no tilde stands at the beginning, characters that are not quoted are one part. -/
theorem literal_of_noTilde (session : Session) (noTilde : text.head? ≠ some '~') :
    literal session ⟨true, false⟩ false true true text = [⟨.never, text.map fun c => .char c false⟩] := by
  have whole : withHomes session false true (2 * text.length + 2) true text = [(text, false)] := by
    rw [withHomes]
    · simp
    · rintro rest - rfl
      exact noTilde rfl
  simp [literal, whole]

theorem means_bare (fixed : IsLiteral false text) (nonempty : text ≠ []) (noTilde : text.head? ≠ some '~') :
    (Word.bare text).Means text := by
  have made (capture : Command → Activity Chars) :
      pieces capture ⟨true, false⟩ false true (Word.bare text) = pure [⟨.never, text.map fun c => .char c false⟩] := by
    rw [Word.bare, pieces]
    simp only [List.isEmpty_nil, literal_of_noTilde _ noTilde]
    rfl
  refine means_of_pieces made (by simp) (by simpa using nonempty) ?_ fixed
  simpa using characters_map

end Literal

end Expansion

end Relink.Shell
