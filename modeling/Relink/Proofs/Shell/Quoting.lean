import Relink.Shell.Lexeme
import Relink.Shell.Quote

/-! Quoted words read back. Between double quotes a quoted text is read to its end, nothing in it is expanded, and it
means itself but for its ends of lines: those are lost, since a backslash before one joins two lines. -/

namespace Relink.Shell

/-- A reading with some characters before it. -/
def before (cs : Chars) (reading : Option (Chars × Chars)) : Option (Chars × Chars) :=
  reading.map fun (text, after) => (cs ++ text, after)

/-- Reads on after an opening double quote: the text up to the closing one, and what follows that. A backslash takes the
meaning from a character that has one there, joins two lines, and else stands for itself. There is no reading if
something is to be expanded or the closing quote lacks. -/
def readQuoted : Chars → Option (Chars × Chars)
  | [] => none
  | '\\' :: c :: rest =>
    if c = '\n' then readQuoted rest
    else if c = '$' ∨ c = '\x60' ∨ c = '"' ∨ c = '\\' then before [c] (readQuoted rest)
    else before ['\\', c] (readQuoted rest)
  | c :: rest =>
    if c = '"' then some ([], rest)
    else if c = '$' ∨ c = '\x60' then none
    else before [c] (readQuoted rest)

/-- Reads a word that begins with a double quote: its text, and what follows it. -/
def unquote : Chars → Option (Chars × Chars)
  | '"' :: rest => readQuoted rest
  | _ => none

section Reading

variable {c : Char}

theorem before_append (first second : Chars) (reading : Option (Chars × Chars)) :
    before (first ++ second) reading = before first (before second reading) := by
  cases reading <;> simp [before]

theorem escapable_eq_false_iff : Lexeme.escapable c = false ↔ c ≠ '$' ∧ c ≠ '\x60' ∧ c ≠ '"' ∧ c ≠ '\\' := by
  simp [Lexeme.escapable, and_assoc]

theorem readQuoted_close (rest : Chars) : readQuoted ('"' :: rest) = some ([], rest) := by
  simp [readQuoted]

theorem readQuoted_joined (rest : Chars) : readQuoted ('\\' :: '\n' :: rest) = readQuoted rest := by
  simp [readQuoted]

theorem readQuoted_escaped (special : Lexeme.escapable c = true) (rest : Chars) :
    readQuoted ('\\' :: c :: rest) = before [c] (readQuoted rest) := by
  have meant : c = '$' ∨ c = '\x60' ∨ c = '"' ∨ c = '\\' := by
    simpa [Lexeme.escapable, or_assoc] using special
  have inline : c ≠ '\n' := by
    rintro rfl
    simp at meant
  simp [readQuoted, meant, inline]

theorem readQuoted_of_ordinary (ordinary : Lexeme.escapable c = false) (rest : Chars) :
    readQuoted (c :: rest) = before [c] (readQuoted rest) := by
  obtain ⟨notDollar, notBackquote, notQuote, notBackslash⟩ := escapable_eq_false_iff.mp ordinary
  rw [readQuoted]
  · simp [notQuote, notDollar, notBackquote]
  · simp [notBackslash]

/-- A run of characters without a meaning of their own stands for itself. -/
theorem readQuoted_run (run rest : Chars) (ordinary : ∀ c ∈ run, Lexeme.escapable c = false) :
    readQuoted (run ++ rest) = before run (readQuoted rest) := by
  induction run with
  | nil =>
    rw [List.nil_append]
    cases readQuoted rest <;> rfl
  | cons c run ih =>
    rw [List.cons_append, readQuoted_of_ordinary (ordinary c List.mem_cons_self),
      ih fun d member => ordinary d (List.mem_cons_of_mem c member), ← before_append]
    rfl

def readingOf : Lexeme → Option (Chars × Chars)
  | .stop rest => some ([], rest)
  | .skip rest => readQuoted rest
  | .chars run _ rest => before run (readQuoted rest)
  | _ => none

theorem readQuoted_backslash (rest : Chars) :
    readQuoted ('\\' :: rest) = readingOf (Lexeme.escapedAmong Lexeme.escapable rest) := by
  rcases rest with - | ⟨c, rest⟩
  · rfl
  by_cases joined : c = '\n'
  · subst joined
    exact readQuoted_joined rest
  cases special : Lexeme.escapable c with
  | true => simpa [Lexeme.escapedAmong, special, readingOf] using readQuoted_escaped special rest
  | false =>
    obtain ⟨notDollar, notBackquote, notQuote, notBackslash⟩ := escapable_eq_false_iff.mp special
    have doubled : readQuoted ('\\' :: c :: rest) = before ['\\', c] (readQuoted rest) := by
      simp [readQuoted, joined, notDollar, notBackquote, notQuote, notBackslash]
    have next : Lexeme.escapedAmong Lexeme.escapable (c :: rest) = .chars ['\\'] true (c :: rest) := by
      simp [Lexeme.escapedAmong, special]
    rw [doubled, next, readingOf, readQuoted_of_ordinary special, ← before_append]
    rfl

theorem next_quoted {c : Char} (notDollar : c ≠ '$') (notBackquote : c ≠ '\x60') (rest : Chars) :
    Lexeme.next (.quoted false) (c :: rest) =
      if c == '"' then .stop rest
      else if c == '\\' then Lexeme.escapedAmong Lexeme.escapable rest
      else Lexeme.run true Lexeme.escapable c rest := by
  unfold Lexeme.next
  split <;> simp_all

/-- Double quotes mean here what they mean to the shell, lexeme by lexeme. -/
theorem readQuoted_eq_next (cs : Chars) : readQuoted cs = readingOf (Lexeme.next (.quoted false) cs) := by
  rcases cs with - | ⟨c, rest⟩
  · rfl
  cases special : Lexeme.escapable c with
  | false =>
    have ordinary : ∀ d ∈ c :: rest.takeWhile (!Lexeme.escapable ·), Lexeme.escapable d = false := by
      intro d member
      rcases List.mem_cons.mp member with rfl | later
      · exact special
      · simpa using List.all_eq_true.mp List.all_takeWhile d later
    have run : Lexeme.next (.quoted false) (c :: rest) = Lexeme.run true Lexeme.escapable c rest := by
      obtain ⟨notDollar, notBackquote, notQuote, notBackslash⟩ := escapable_eq_false_iff.mp special
      simp [next_quoted notDollar notBackquote, notQuote, notBackslash]
    have parts : c :: rest = (c :: rest.takeWhile (!Lexeme.escapable ·)) ++ rest.dropWhile (!Lexeme.escapable ·) := by
      rw [List.cons_append, List.takeWhile_append_dropWhile]
    rw [run, Lexeme.run, readingOf, ← readQuoted_run _ _ ordinary, ← parts]
  | true =>
    have meant : c = '$' ∨ c = '\x60' ∨ c = '"' ∨ c = '\\' := by
      simpa [Lexeme.escapable, or_assoc] using special
    rcases meant with rfl | rfl | rfl | rfl
    · rfl
    · rfl
    · exact readQuoted_close rest
    · rw [next_quoted (by decide) (by decide)]
      exact readQuoted_backslash rest

end Reading

theorem readQuoted_escape (cs rest : Chars) :
    readQuoted (escape cs ++ '"' :: rest) = some (cs.filter (· ≠ '\n'), rest) := by
  induction cs with
  | nil => exact readQuoted_close rest
  | cons c cs ih =>
    have split : escape (c :: cs) ++ '"' :: rest =
        (if needsEscape c then ['\\', c] else [c]) ++ (escape cs ++ '"' :: rest) := by
      simp [escape]
    rw [split]
    by_cases ends : c = '\n'
    · subst ends
      exact (readQuoted_joined _).trans ih
    · have kept : (c :: cs).filter (· ≠ '\n') = c :: cs.filter (· ≠ '\n') := by simp [ends]
      have special : needsEscape c = Lexeme.escapable c := by simp [needsEscape, Lexeme.escapable, ends]
      rw [special, kept]
      cases escaped : Lexeme.escapable c with
      | false =>
        rw [if_neg Bool.false_ne_true, List.singleton_append, readQuoted_of_ordinary escaped, ih]
        rfl
      | true =>
        rw [if_pos rfl, List.cons_append, List.singleton_append, readQuoted_escaped escaped, ih]
        rfl

/-- A quoted text is read to the end of its quotes, whatever follows, and nothing in it is expanded. It means the text
without its ends of lines, so it means the text itself exactly if that has none. -/
theorem unquote_quote (text : String) (rest : Chars) :
    unquote ((quote text).toList ++ rest) = some (text.toList.filter (· ≠ '\n'), rest) ∧
      (unquote ((quote text).toList ++ rest) = some (text.toList, rest) ↔ '\n' ∉ text.toList) := by
  have read : unquote ((quote text).toList ++ rest) = some (text.toList.filter (· ≠ '\n'), rest) := by
    simpa [quote, unquote] using readQuoted_escape text.toList rest
  refine ⟨read, ?_⟩
  rw [read]
  constructor
  · intro same member
    have kept : text.toList.filter (· ≠ '\n') = text.toList := congrArg Prod.fst (Option.some.inj same)
    exact absurd rfl (of_decide_eq_true (List.filter_eq_self.mp kept '\n' member))
  · intro absent
    have kept : text.toList.filter (· ≠ '\n') = text.toList :=
      List.filter_eq_self.mpr fun c member => decide_eq_true fun same => absent (same ▸ member)
    rw [kept]

/-- A quoted end of line is lost: the two lines are read as one. -/
theorem unquote_quote_loses_line_end :
    ¬∀ (text : String) (rest : Chars), '\x00' ∉ text.toList →
      unquote ((quote text).toList ++ rest) = some (text.toList, rest) := by
  intro kept
  have same := kept "a\nb" [] (by decide)
  revert same
  decide

end Relink.Shell
