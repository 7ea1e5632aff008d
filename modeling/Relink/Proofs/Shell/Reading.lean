import Relink.Proofs.Shell.Quoting
import Relink.Proofs.Shell.Words
import Relink.Shell.Command.Reader

/-! Reading the words of a simple command. A word is taken to the blank after it, whatever is quoted in it; it is added
to the command, and the end of the text ends the command, its pipeline and its line. -/

namespace Relink.Shell

namespace Cursor

/-- A cursor moved to what is left of a script, in some line of it. -/
def moved (cursor : Cursor) (rest : Chars) (line : Nat) : Cursor :=
  { cursor with rest := rest, line := line }

/-- A cursor with another token ahead, or with none. -/
def holding (cursor : Cursor) (token : Option Token) : Cursor :=
  { cursor with ahead := token }

/-- Nothing of an alias is being read, so that the next word is none because of one before it. -/
structure Unaliased (cursor : Cursor) : Prop where
  active : cursor.active = []
  chained : cursor.chained = false

@[simp] theorem moved_rest (cursor : Cursor) (rest : Chars) (line : Nat) : (cursor.moved rest line).rest = rest := rfl

variable {cursor : Cursor}

theorem Unaliased.moved (unaliased : cursor.Unaliased) (rest : Chars) (line : Nat) :
    (cursor.moved rest line).Unaliased :=
  ⟨unaliased.active, unaliased.chained⟩

theorem Unaliased.holding (unaliased : cursor.Unaliased) (token : Option Token) : (cursor.holding token).Unaliased :=
  ⟨unaliased.active, unaliased.chained⟩

theorem unaliased_start (script : Chars) : (start script).Unaliased :=
  ⟨rfl, rfl⟩

end Cursor

namespace Reader

variable {α β : Type} {cursor after : Cursor} {fuel : Nat} {setting : Setting} {found : List Piece}
  {cs text rest tail run : Chars}

/-- A reader gives a value and moves a cursor to what is left, whatever line that is in. -/
def Reads (reader : Reader α) (cursor : Cursor) (value : α) (rest : Chars) : Prop :=
  ∃ line, reader cursor = .ok (value, cursor.moved rest line)

theorem bind_of_eq_ok {reader : Reader α} {next : α → Reader β} {value : α}
    (read : reader cursor = .ok (value, after)) : (reader >>= next) cursor = next value after := by
  simp only [bind, StateT.bind, read, Except.bind]

theorem get_eq (cursor : Cursor) : (get : Reader Cursor) cursor = .ok (cursor, cursor) := rfl

theorem drop_eq (cursor : Cursor) : drop cursor = .ok ((), cursor.holding none) := rfl

theorem advance_eq (passed rest : Chars) (cursor : Cursor) :
    advance passed rest cursor = .ok ((), cursor.moved rest (cursor.line + passed.count '\n')) := rfl

section Pieces

theorem pieces_stop (next : Lexeme.next setting cursor.rest = .stop rest) :
    pieces (fuel + 1) setting found cursor = .ok (Word.ofReversed found, cursor.moved rest cursor.line) := by
  rw [pieces.eq_def]
  refine (bind_of_eq_ok rfl).trans ?_
  rw [next]
  rfl

theorem pieces_skip (next : Lexeme.next setting cursor.rest = .skip rest) :
    pieces (fuel + 1) setting found cursor = pieces fuel setting found (cursor.moved rest (cursor.line + 1)) := by
  rw [pieces.eq_def]
  refine (bind_of_eq_ok rfl).trans ?_
  rw [next]
  rfl

theorem pieces_chars {quoted : Bool} (next : Lexeme.next setting cursor.rest = .chars run quoted rest)
    (nonempty : run ≠ []) :
    pieces (fuel + 1) setting found cursor =
      pieces fuel setting (.chars run quoted :: found) (cursor.moved rest (cursor.line + run.count '\n')) := by
  rw [pieces.eq_def]
  refine (bind_of_eq_ok rfl).trans ?_
  rw [next]
  refine (bind_of_eq_ok (advance_eq _ _ _)).trans ?_
  simp [nonempty]

theorem pieces_doubleQuote {inner : List Piece} (next : Lexeme.next setting cursor.rest = .doubleQuote rest)
    (read : pieces fuel (.quoted setting.isInBraces) [] (cursor.moved rest cursor.line) = .ok (inner, after))
    (expanded : isAllArguments inner = false) :
    pieces (fuel + 1) setting found cursor = pieces fuel setting ((Piece.quotes :: inner).reverse ++ found) after := by
  rw [pieces.eq_def]
  refine (bind_of_eq_ok rfl).trans ?_
  rw [next]
  refine (bind_of_eq_ok (advance_eq _ _ _)).trans ((bind_of_eq_ok read).trans ?_)
  simp [expanded]

theorem cons_between {run : Chars} (nonempty : run ≠ []) :
    Word.cons (.chars run true) (Word.between text) = Word.between (run ++ text) := by
  cases text <;> simp [Word.between, Word.cons, nonempty]

/-- A lexeme between double quotes takes something of the text, and its characters come quoted. -/
def Takes (cs : Chars) : Lexeme → Prop
  | .skip rest => rest.length < cs.length
  | .chars run quoted rest => quoted = true ∧ run ≠ [] ∧ rest.length < cs.length
  | _ => True

theorem takes_escapedAmong (admitted : Char → Bool) (c : Char) (rest : Chars) :
    Takes (c :: rest) (Lexeme.escapedAmong admitted rest) := by
  rcases rest with - | ⟨d, rest⟩
  · exact ⟨rfl, by simp, by simp⟩
  by_cases ends : d = '\n'
  · subst ends
    exact Nat.lt_of_succ_lt (Nat.lt_succ_self _)
  · rw [Lexeme.escapedAmong]
    · split
      · exact ⟨rfl, by simp, Nat.lt_of_succ_lt (Nat.lt_succ_self _)⟩
      · exact ⟨rfl, by simp, Nat.lt_succ_self _⟩
    · exact ends

theorem takes_next_quoted (cs : Chars) : Takes cs (Lexeme.next (.quoted false) cs) := by
  rcases cs with - | ⟨c, rest⟩
  · trivial
  by_cases dollar : c = '$'
  · subst dollar
    trivial
  by_cases backquote : c = '\x60'
  · subst backquote
    trivial
  rw [next_quoted dollar backquote]
  split
  · trivial
  · split
    · exact takes_escapedAmong _ c rest
    · have shorter := (rest.dropWhile_sublist (!Lexeme.escapable ·)).length_le
      exact ⟨rfl, by simp, Nat.lt_succ_of_le shorter⟩

/-- Between double quotes a text is read in which nothing is expanded. -/
theorem pieces_between (cursor : Cursor) (found : List Piece) (read : readQuoted cursor.rest = some (text, rest))
    (enough : cursor.rest.length < fuel) :
    Reads (pieces fuel (.quoted false) found) cursor
      (found.foldl (fun word piece => Word.cons piece word) (Word.between text)) rest := by
  -- Each lexeme takes something of the text, so that what is left always has fewer characters than there is fuel.
  induction fuel generalizing text cursor found with
  | zero => omega
  | succ fuel ih =>
    have takes := takes_next_quoted cursor.rest
    rw [readQuoted_eq_next] at read
    cases next : Lexeme.next (.quoted false) cursor.rest with
    | stop after =>
      rw [next] at read
      cases read
      exact ⟨_, pieces_stop next⟩
    | skip after =>
      rw [next] at read takes
      rw [Reads, pieces_skip next]
      exact ih _ found read (Nat.lt_of_lt_of_le takes (Nat.le_of_lt_succ enough))
    | chars run quoted after =>
      rw [next] at read takes
      obtain ⟨rfl, nonempty, shorter⟩ := takes
      obtain ⟨⟨more, _⟩, later, same⟩ := Option.map_eq_some_iff.mp read
      cases same
      rw [Reads, pieces_chars next nonempty, ← cons_between nonempty]
      exact ih _ (_ :: found) later (Nat.lt_of_lt_of_le shorter (Nat.le_of_lt_succ enough))
    | _ =>
      rw [next] at read
      cases read

/-- What may follow a word: nothing, or a blank. -/
def Blank (tail : Chars) : Prop :=
  ∀ c ∈ tail.head?, c = ' '

theorem Blank.next_word (blank : Blank tail) : Lexeme.next .word tail = .stop tail := by
  rcases tail with - | ⟨c, tail⟩
  · rfl
  · obtain rfl := blank c rfl
    rfl

theorem ofReversed_between (text : Chars) :
    Word.ofReversed ((Piece.quotes :: Word.between text).reverse ++ []) = Word.quoted text := by
  cases text <;> rfl

theorem pieces_quoted (opens : cursor.rest = '"' :: cs) (read : readQuoted cs = some (text, tail))
    (blank : Blank tail) (enough : cs.length + 1 < fuel) :
    Reads (pieces fuel .word []) cursor (Word.quoted text) tail := by
  obtain ⟨fuel, rfl⟩ : ∃ less, fuel = less + 2 := ⟨fuel - 2, by omega⟩
  have first : Lexeme.next .word cursor.rest = .doubleQuote cs := by
    rw [opens]
    rfl
  obtain ⟨line, inner⟩ := pieces_between (cursor.moved cs cursor.line) [] read (Nat.lt_of_succ_lt_succ enough)
  have expanded : isAllArguments (Word.between text) = false := by
    cases text <;> rfl
  refine ⟨line, (pieces_doubleQuote first inner expanded).trans ?_⟩
  rw [pieces_stop blank.next_word, List.foldl_nil, ofReversed_between]
  rfl

/-- A character that neither ends a word nor begins a piece of another kind. -/
def isOrdinary (c : Char) : Bool :=
  !(Lexeme.endsWord c || Lexeme.beginsPiece c)

theorem next_word_of_ordinary {c : Char} (ordinary : isOrdinary c = true) (rest : Chars) :
    Lexeme.next .word (c :: rest) = .chars (c :: rest.takeWhile isOrdinary) false (rest.dropWhile isOrdinary) := by
  simp only [isOrdinary, Lexeme.beginsPiece, Bool.not_eq_true', Bool.or_eq_false_iff, beq_eq_false_iff_ne] at ordinary
  obtain ⟨notEnd, ⟨⟨⟨notBackslash, notDouble⟩, notSingle⟩, notDollar⟩, notBackquote⟩ := ordinary
  have run : Lexeme.next .word (c :: rest) =
      Lexeme.run false (fun c => Lexeme.endsWord c || Lexeme.beginsPiece c) c rest := by
    unfold Lexeme.next
    split <;> simp_all
  exact run

theorem Blank.next_run {c : Char} (blank : Blank tail) (ordinary : ∀ d ∈ c :: cs, isOrdinary d = true) :
    Lexeme.next .word (c :: cs ++ tail) = .chars (c :: cs) false tail := by
  obtain ⟨here, later⟩ := List.forall_mem_cons.mp ordinary
  have stops : tail.takeWhile isOrdinary = [] ∧ tail.dropWhile isOrdinary = tail := by
    rcases tail with - | ⟨d, tail⟩
    · exact ⟨rfl, rfl⟩
    · obtain rfl := blank d rfl
      exact ⟨rfl, rfl⟩
  rw [List.cons_append, next_word_of_ordinary here, List.takeWhile_append_of_pos later,
    List.dropWhile_append_of_pos later, stops.1, stops.2, List.append_nil]

theorem pieces_bare (here : cursor.rest = text ++ tail) (nonempty : text ≠ [])
    (ordinary : ∀ c ∈ text, isOrdinary c = true) (blank : Blank tail) :
    Reads (pieces (fuel + 2) .word []) cursor (Word.bare text) tail := by
  obtain ⟨c, cs, rfl⟩ := List.exists_cons_of_ne_nil nonempty
  have next : Lexeme.next .word cursor.rest = .chars (c :: cs) false tail := by
    rw [here, blank.next_run ordinary]
  exact ⟨_, (pieces_chars next nonempty).trans (pieces_stop blank.next_word)⟩

end Pieces

section Tokens

theorem peek_of_token {token : Token} (idle : cursor.ahead = none)
    (read : Reader.token fuel cursor = .ok (token, after)) :
    peek (fuel + 1) cursor = .ok (token, after.holding (some token)) := by
  rw [peek.eq_def]
  refine (bind_of_eq_ok rfl).trans ?_
  rw [idle]
  exact (bind_of_eq_ok read).trans rfl

theorem peek_of_ahead {token : Token} (looked : cursor.ahead = some token) :
    peek (fuel + 1) cursor = .ok (token, cursor) := by
  rw [peek.eq_def]
  refine (bind_of_eq_ok rfl).trans ?_
  rw [looked]
  rfl

/-- A word is left as it is where there are no aliases, and if something in it is quoted. -/
theorem unalias_of_word {word : Word} (looked : cursor.ahead = some (.word word))
    (notAlias : cursor.aliases = [] ∨ word.bare? = none) : unalias (fuel + 2) cursor = .ok ((), cursor) := by
  rw [unalias.eq_def]
  refine (bind_of_eq_ok (peek_of_ahead looked)).trans ((bind_of_eq_ok rfl).trans ?_)
  cases keyword : (Token.word word).keyword? with
  | some keyword => rfl
  | none =>
    simp only []
    cases bare : word.bare?.map String.ofList with
    | none => rfl
    | some name =>
      have none : cursor.aliases = [] := notAlias.resolve_right fun quoted => by simp [quoted] at bare
      simp [none]
      rfl

theorem token_eq {lines : Nat} (unaliased : cursor.Unaliased)
    (skipped : skipBlanks cursor.rest cursor.line = (cs, lines)) :
    token (fuel + 1) cursor =
      (match Token.operator? cs with
      | some (token, lines, after) => do
        if token matches .newline then endLine cs after
        else modify fun cursor => { cursor with rest := after, line := cursor.line + lines }
        return token
      | none => return .word (← pieces fuel .word []) : Reader Token) (cursor.moved cs lines) := by
  -- A token decides anew whether the word before it ended in a blank of an alias.
  have unchained : (cursor.active.any fun entry => entry.endsInBlank && decide (cs.length ≤ entry.follow) &&
      decide (entry.follow < cursor.rest.length)) = cursor.chained := by
    rw [unaliased.active, unaliased.chained]
    rfl
  rw [token.eq_def]
  refine (bind_of_eq_ok rfl).trans ?_
  simp only [skipped, unchained]
  exact bind_of_eq_ok rfl

theorem token_word {word : Word} (unaliased : cursor.Unaliased) (starts : Token.operator? cs = none)
    (skipped : skipBlanks cursor.rest cursor.line = (cs, cursor.line))
    (read : Reads (pieces fuel .word []) (cursor.moved cs cursor.line) word rest) :
    Reads (token (fuel + 1)) cursor (.word word) rest := by
  obtain ⟨line, read⟩ := read
  refine ⟨line, ?_⟩
  rw [token_eq unaliased skipped, starts]
  exact (bind_of_eq_ok read).trans rfl

theorem token_finish (unaliased : cursor.Unaliased) (ended : cursor.rest = []) :
    Reads (token (fuel + 1)) cursor .finish [] := by
  have skipped : skipBlanks cursor.rest cursor.line = ([], cursor.line) := by
    rw [ended, skipBlanks]
  exact ⟨cursor.line, (token_eq unaliased skipped).trans rfl⟩

theorem peek_of_reads {token : Token} (idle : cursor.ahead = none)
    (read : Reads (Reader.token fuel) cursor token rest) :
    ∃ line, peek (fuel + 1) cursor = .ok (token, (cursor.moved rest line).holding (some token)) := by
  obtain ⟨line, read⟩ := read
  exact ⟨line, peek_of_token idle read⟩

end Tokens

section Simple

variable {line : Nat} {assignments : List (String × Word)} {words : List Word} {redirects : List Redirect}

/-- A command goes on in the same way once its next token has been looked at. -/
theorem simple_of_peek {token : Token} (looked : peek fuel cursor = .ok (token, after))
    (again : peek fuel after = .ok (token, after)) :
    simple (fuel + 1) line assignments words redirects cursor =
      simple (fuel + 1) line assignments words redirects after := by
  rw [simple.eq_def]
  refine (bind_of_eq_ok looked).trans (Eq.symm ?_)
  exact bind_of_eq_ok again

/-- A word is added to a command if it can be neither an alias nor an assignment where it stands. -/
theorem simple_word {word : Word} (unaliased : cursor.Unaliased) (looked : cursor.ahead = some (.word word))
    (plain : words = [] → (cursor.aliases = [] ∨ word.bare? = none) ∧ assignment? word = none) :
    simple (fuel + 3) line assignments words redirects cursor =
      simple (fuel + 2) line assignments (word :: words) redirects (cursor.holding none) := by
  rw [simple.eq_def]
  simp only []
  rw [bind_of_eq_ok (peek_of_ahead looked), bind_of_eq_ok (get_eq cursor)]
  cases words with
  | nil =>
    obtain ⟨notAlias, notAssignment⟩ := plain rfl
    rw [if_pos (by simp), bind_of_eq_ok (unalias_of_word looked notAlias), bind_of_eq_ok (peek_of_ahead looked)]
    refine (bind_of_eq_ok (drop_eq cursor)).trans ?_
    simp only [List.isEmpty_nil, if_true, notAssignment]
  | cons first others =>
    rw [if_neg (by simp [unaliased.chained]), bind_of_eq_ok (peek_of_ahead looked)]
    exact bind_of_eq_ok (drop_eq cursor)

theorem simple_finish (unaliased : cursor.Unaliased) (looked : cursor.ahead = some .finish) (nonempty : words ≠ []) :
    simple (fuel + 2) line assignments words redirects cursor =
      .ok (.simple line assignments words.reverse redirects, cursor) := by
  rw [simple.eq_def]
  simp only []
  rw [bind_of_eq_ok (peek_of_ahead looked), bind_of_eq_ok (get_eq cursor),
    if_neg (by simp [unaliased.chained, nonempty]), bind_of_eq_ok (peek_of_ahead looked)]
  rfl

end Simple

section Lines

variable {word : Word} {read : Command}

theorem command_of_word (looked : cursor.ahead = some (.word word)) (notKeyword : (Token.word word).keyword? = none) :
    command (fuel + 2) cursor = simple (fuel + 1) cursor.line [] [] [] cursor := by
  rw [command.eq_def]
  simp only []
  rw [bind_of_eq_ok (peek_of_ahead looked)]
  refine (bind_of_eq_ok (get_eq cursor)).trans ?_
  simp only [notKeyword]

theorem stages_finish (ended : cursor.ahead = some .finish) : stages (fuel + 2) cursor = .ok ([], cursor) := by
  rw [stages.eq_def]
  simp only []
  rw [bind_of_eq_ok (peek_of_ahead ended)]
  rfl

theorem andOrRest_finish (left : Command) (ended : cursor.ahead = some .finish) :
    andOrRest (fuel + 2) left cursor = .ok (left, cursor) := by
  rw [andOrRest.eq_def]
  simp only []
  rw [bind_of_eq_ok (peek_of_ahead ended)]
  rfl

theorem pipeline_of_command (looked : cursor.ahead = some (.word word)) (notKeyword : (Token.word word).keyword? = none)
    (done : command (fuel + 2) cursor = .ok (read, after)) (ended : after.ahead = some .finish) :
    pipeline (fuel + 3) cursor = .ok (read, after) := by
  rw [pipeline.eq_def]
  simp only []
  rw [bind_of_eq_ok (peek_of_ahead looked)]
  simp only [notKeyword, reduceCtorEq, if_false]
  rw [bind_of_eq_ok done, bind_of_eq_ok (stages_finish ended)]
  rfl

theorem andOr_of_pipeline (done : pipeline (fuel + 2) cursor = .ok (read, after)) (ended : after.ahead = some .finish) :
    andOr (fuel + 3) cursor = .ok (read, after) := by
  rw [andOr.eq_def]
  simp only []
  rw [bind_of_eq_ok done, andOrRest_finish read ended]

theorem list_of_andOr (looked : cursor.ahead = some (.word word)) (notAlias : cursor.aliases = [] ∨ word.bare? = none)
    (done : andOr (fuel + 2) cursor = .ok (read, after)) (ended : after.ahead = some .finish) :
    list (fuel + 3) true false .nothing cursor = .ok (read, after) := by
  rw [list.eq_def]
  simp only [Bool.not_true, Bool.false_eq_true, if_false]
  rw [bind_of_eq_ok (unalias_of_word looked notAlias), bind_of_eq_ok (peek_of_ahead looked)]
  simp only [Bool.false_and, Bool.false_eq_true, if_false]
  rw [bind_of_eq_ok done, bind_of_eq_ok (peek_of_ahead ended)]
  rfl

/-- A line that begins with a word is the simple command from there on, if that is all there is. -/
theorem list_of_simple (looked : cursor.ahead = some (.word word)) (notKeyword : (Token.word word).keyword? = none)
    (notAlias : cursor.aliases = [] ∨ word.bare? = none)
    (done : simple (fuel + 1) cursor.line [] [] [] cursor = .ok (read, after)) (ended : after.ahead = some .finish) :
    list (fuel + 5) true false .nothing cursor = .ok (read, after) :=
  have commanded := (command_of_word looked notKeyword).trans done
  have piped := pipeline_of_command looked notKeyword commanded ended
  list_of_andOr looked notAlias (andOr_of_pipeline piped ended) ended

theorem readLine_of_list {looked : Cursor} (first : peek cursor.fuel cursor = .ok (.word word, looked))
    (done : list cursor.fuel true false .nothing looked = .ok (read, after)) :
    Command.readLine cursor = .ok (some read, after) := by
  rw [Command.readLine]
  refine (bind_of_eq_ok first).trans ?_
  exact (bind_of_eq_ok done).trans rfl

end Lines

end Reader

end Relink.Shell
