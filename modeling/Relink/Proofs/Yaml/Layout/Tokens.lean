import Relink.Proofs.Yaml.Layout

/-! The tokens of layouts. A lexer that stands behind the colon of a key comes to the line after the value, with the tokens
of the value read and the blocks closed that the value has opened. -/

namespace Relink.Yaml.Layout

open Lexer (Reaches Follows inBlock beforeItem BehindItem)

def itemTokens : List String → List Token
  | [] => []
  | word :: rest => .scalar word true :: rest.flatMap fun word => [.flowEntry, .scalar word true]

mutual

def tokens : Layout → List Token
  | bare word => [.scalar word true]
  | quoted text => [.scalar text false]
  | list words => .flowSequenceStart :: (itemTokens words ++ [.flowSequenceEnd])
  | empty => [.flowMappingStart, .flowMappingEnd]
  | block entries => .blockMappingStart :: (entryTokens entries ++ [.blockEnd])

def entryTokens : List (String × Layout) → List Token
  | [] => []
  | (key, value) :: rest => .key :: .scalar key true :: .value :: (value.tokens ++ entryTokens rest)

end

/-- The tokens of a value are read from behind its key, and the lexer then stands at the beginning of a later line. -/
def Lexes (layout : Layout) : Prop :=
  ∀ ⦃column : Nat⦄ ⦃position : Position⦄ ⦃outer : List Int⦄ ⦃read : List Token⦄ ⦃rest : List Char⦄,
    (column : Int) ≤ position.column → Follows column rest →
      ∃ line, Reaches (inBlock (layout.body column ++ rest) position column outer false read)
        (inBlock rest ⟨line, 0⟩ column outer true (layout.tokens.reverse ++ read))

variable {column depth : Nat} {position : Position} {indent : Int} {outer : List Int} {read : List Token}
  {rest : List Char} {layout : Layout} {entries : List (String × Layout)} {lexer : Lexer}

section Lines

theorem reaches_blank (text : List Char) : Reaches (inBlock (' ' :: text) position indent outer false read)
    (inBlock text (position.forward 1) indent outer false read) :=
  .of_settled (Lexer.settled_blank rfl) (Nat.le_succ _)

theorem reaches_lineFeed : Reaches (inBlock ('\n' :: rest) position indent outer false read)
    (inBlock rest position.nextLine indent outer true read) :=
  .of_settled Lexer.settled_lineFeed (Nat.le_succ _)

/-- A word between brackets is read up to the comma before the next one, or to the closing bracket. -/
theorem reaches_listed {word : String} (name : IsName word) (words : List String) :
    ∃ later, BehindItem later (furtherItems words ++ ']' :: rest) indent outer (.scalar word true :: read) ∧
      Reaches (beforeItem (word.toList ++ (furtherItems words ++ ']' :: rest)) position indent outer read) later := by
  obtain ⟨c, text, ends, limit⟩ : ∃ c text, furtherItems words ++ ']' :: rest = c :: text ∧
      Scalar.isFlowIndicator c = true := by
    cases words with
    | nil => exact ⟨']', rest, rfl, rfl⟩
    | cons next words => exact ⟨',', _, rfl, rfl⟩
  have item : ∃ later, BehindItem later (c :: text) indent outer (.scalar (String.ofList word.toList) true :: read) ∧
      Reaches (beforeItem (word.toList ++ c :: text) position indent outer read) later :=
    Lexer.reaches_item name.spelled limit
  rwa [String.ofList_toList, ← ends] at item

theorem reaches_furtherItems {words : List String} (names : ∀ word ∈ words, IsName word)
    (behind : BehindItem lexer (furtherItems words ++ ']' :: rest) indent outer read) :
    ∃ place, Reaches lexer (inBlock rest place indent outer false
      (.flowSequenceEnd :: ((words.flatMap fun word => [.flowEntry, .scalar word true]).reverse ++ read))) := by
  induction words generalizing lexer read with
  | nil => exact behind.reaches_close (by decide) fun _ => Lexer.fetch?_closeBracket
  | cons word words ih =>
    obtain ⟨name, names⟩ := List.forall_mem_cons.mp names
    have further : furtherItems (word :: words) ++ ']' :: rest =
        ',' :: ' ' :: (word.toList ++ (furtherItems words ++ ']' :: rest)) := by
      simp [furtherItems]
    rw [further] at behind
    obtain ⟨place, next⟩ := behind.reaches_next
    obtain ⟨later, item, reached⟩ := reaches_listed name words
    obtain ⟨last, closed⟩ := ih names item
    refine ⟨last, ?_⟩
    simpa using next.trans (reached.trans closed)

/-- Behind a key and a blank the column of the key lies further back. -/
theorem within_forward (within : (column : Int) ≤ position.column) : (column : Int) ≤ (position.forward 1).column := by
  simp only [Position.forward]
  omega

theorem lexes_bare {word : String} (spelled : Scalar.IsWord word.toList) : (bare word).Lexes := by
  intro column position outer read rest within follows
  have text : body column (bare word) ++ rest = ' ' :: (word.toList ++ '\n' :: rest) := by simp [body, inline]
  have reached : Reaches (inBlock (word.toList ++ '\n' :: rest) (position.forward 1) column outer false read)
      (inBlock rest ⟨position.line + 1, 0⟩ column outer true (.scalar (String.ofList word.toList) true :: read)) :=
    Lexer.reaches_word spelled (within_forward within) follows
  rw [String.ofList_toList] at reached
  rw [text]
  exact ⟨_, (reaches_blank _).trans reached⟩

/-- A value in the line of its key is read if its characters are. -/
theorem lexes_inline
    (reads : ∀ ⦃column : Nat⦄ ⦃position : Position⦄ ⦃outer : List Int⦄ ⦃read : List Token⦄ ⦃rest : List Char⦄,
      (column : Int) ≤ position.column →
        ∃ place, Reaches (inBlock (layout.inline.toList ++ '\n' :: rest) position column outer false read)
          (inBlock ('\n' :: rest) place column outer false (layout.tokens.reverse ++ read)))
    (written : ∀ column, layout.body column = ' ' :: (layout.inline.toList ++ ['\n'])) : layout.Lexes := by
  intro column position outer read rest within _
  obtain ⟨place, reached⟩ : ∃ place, Reaches
      (inBlock (layout.inline.toList ++ '\n' :: rest) (position.forward 1) column outer false read)
      (inBlock ('\n' :: rest) place column outer false (layout.tokens.reverse ++ read)) := reads (within_forward within)
  refine ⟨place.line + 1, ?_⟩
  rw [written, List.cons_append, List.append_assoc]
  exact (reaches_blank _).trans (reached.trans reaches_lineFeed)

theorem lexes_quoted {text : String} (held : ∀ c ∈ text.toList, Scalar.isHeld c = true) : (quoted text).Lexes := by
  refine lexes_inline (fun column position outer read rest within => ?_) fun _ => rfl
  obtain ⟨place, reached⟩ := Lexer.reaches_quoted held within
  rw [String.ofList_toList] at reached
  refine ⟨place, ?_⟩
  simpa [inline, tokens] using reached

theorem lexes_empty : empty.Lexes := by
  refine lexes_inline (fun column position outer read rest within => ?_) fun _ => rfl
  have opened : Reaches (inBlock ('\x7b' :: '\x7d' :: '\n' :: rest) position column outer false read)
      (beforeItem ('\x7d' :: '\n' :: rest) (position.forward 1) column outer (.flowMappingStart :: read)) :=
    Lexer.reaches_open (by decide) within fun _ => Lexer.fetch?_openBrace
  obtain ⟨place, closed⟩ := Lexer.behindItem_beforeItem.reaches_close (by decide) fun _ => Lexer.fetch?_closeBrace
  exact ⟨place, opened.trans closed⟩

theorem lexes_list {words : List String} (names : ∀ word ∈ words, IsName word) : (list words).Lexes := by
  refine lexes_inline (fun column position outer read rest within => ?_) fun _ => rfl
  have opened (items : List Char) : Reaches (inBlock ('[' :: items) position column outer false read)
      (beforeItem items (position.forward 1) column outer (.flowSequenceStart :: read)) :=
    Lexer.reaches_open (by decide) within fun _ => Lexer.fetch?_openBracket
  cases words with
  | nil =>
    obtain ⟨place, closed⟩ := Lexer.behindItem_beforeItem.reaches_close (by decide) fun _ => Lexer.fetch?_closeBracket
    exact ⟨place, (opened _).trans closed⟩
  | cons word words =>
    obtain ⟨name, names⟩ := List.forall_mem_cons.mp names
    obtain ⟨later, item, reached⟩ := reaches_listed name words
    obtain ⟨place, closed⟩ := reaches_furtherItems names item
    refine ⟨place, ?_⟩
    have text : (list (word :: words)).inline.toList ++ '\n' :: rest =
        '[' :: (word.toList ++ (furtherItems words ++ ']' :: '\n' :: rest)) := by
      simp only [inline, String.toList_append, toList_intercalate]
      simp
    rw [text]
    simpa [tokens, itemTokens] using (opened _).trans (reached.trans closed)

end Lines

section Blocks

/-- What may follow the lines of an entry may follow further entries at its column, too. -/
theorem follows_lines (keys : ∀ entry ∈ entries, IsKey entry.1) (follows : Follows column rest) :
    Follows column (characters (lines column entries) ++ rest) := by
  cases entries with
  | nil => exact follows
  | cons entry further =>
    obtain ⟨c, text, word, alphanum⟩ := (keys entry List.mem_cons_self).spelled.head
    rw [characters_lines_cons, word, List.append_assoc, List.append_assoc]
    exact .line (Nat.le_refl _) alphanum

/-- The value begins behind the colon with a blank or a line end. -/
theorem atWordEnd_body (layout : Layout) (column : Nat) (rest : List Char) :
    atWordEnd (layout.body column ++ rest) = true := by
  cases layout <;> rfl

theorem entryTokens_cons (entry : String × Layout) (rest : List (String × Layout)) :
    entryTokens (entry :: rest) = entryTokens [entry] ++ entryTokens rest := by
  simp [entryTokens]

/-- An entry is read. Where it lies further in than those of the innermost block, it begins a block. -/
theorem reaches_entry (line : Nat) (outer : List Int) (read : List Token) {key : String} (isKey : IsKey key)
    (lexes : layout.Lexes) (within : indent ≤ column) (follows : Follows column rest) :
    ∃ later, Reaches
      (inBlock (List.replicate column ' ' ++ key.toList ++ ':' :: (layout.body column ++ rest)) ⟨line, 0⟩ indent outer true
        read)
      (inBlock rest ⟨later, 0⟩ column (if indent < column then indent :: outer else outer) true
        ((entryTokens [(key, layout)]).reverse ++ (if indent < column then .blockMappingStart :: read else read))) := by
  have place : (column : Int) ≤ (⟨line, column + key.toList.length + 1⟩ : Position).column := by
    dsimp only
    omega
  have ends : atWordEnd (layout.body column ++ rest) = true := atWordEnd_body layout column rest
  have before := (Lexer.reaches_behindWord line outer read isKey.spelled within ends).trans
    (Lexer.behindWord_reaches line outer read isKey.spelled isKey.short within ends)
  obtain ⟨later, value⟩ := lexes place follows
  rw [String.ofList_toList] at before
  refine ⟨later, ?_⟩
  simpa [entryTokens] using before.trans value

theorem reaches_entries (line : Nat) (outer : List Int) (read : List Token) (keys : ∀ entry ∈ entries, IsKey entry.1)
    (lexes : ∀ entry ∈ entries, entry.2.Lexes) (follows : Follows column rest) :
    ∃ later, Reaches (inBlock (characters (lines column entries) ++ rest) ⟨line, 0⟩ column outer true read)
      (inBlock rest ⟨later, 0⟩ column outer true ((entryTokens entries).reverse ++ read)) := by
  induction entries generalizing line read with
  | nil => exact ⟨line, .of_settled rfl (Nat.le_refl _)⟩
  | cons entry entries ih =>
    obtain ⟨key, keys⟩ := List.forall_mem_cons.mp keys
    obtain ⟨here, lexes⟩ := List.forall_mem_cons.mp lexes
    obtain ⟨next, first⟩ := reaches_entry line outer read key here (Int.le_refl column) (follows_lines keys follows)
    rw [if_neg (Int.lt_irrefl _), if_neg (Int.lt_irrefl _)] at first
    obtain ⟨last, others⟩ := ih next ((entryTokens [entry]).reverse ++ read) keys lexes
    refine ⟨last, ?_⟩
    rw [characters_lines_cons, entryTokens_cons, List.reverse_append, List.append_assoc]
    simpa using first.trans others

/-- The entries of a block are read from where none of them has begun it. -/
theorem reaches_block (line : Nat) (outer : List Int) (read : List Token) (nonempty : entries ≠ [])
    (keys : ∀ entry ∈ entries, IsKey entry.1) (lexes : ∀ entry ∈ entries, entry.2.Lexes) (within : indent < column)
    (follows : Follows column rest) :
    ∃ later, Reaches (inBlock (characters (lines column entries) ++ rest) ⟨line, 0⟩ indent outer true read)
      (inBlock rest ⟨later, 0⟩ column (indent :: outer) true
        ((entryTokens entries).reverse ++ .blockMappingStart :: read)) := by
  cases entries with
  | nil => cases nonempty rfl
  | cons entry entries =>
    obtain ⟨key, keys⟩ := List.forall_mem_cons.mp keys
    obtain ⟨here, lexes⟩ := List.forall_mem_cons.mp lexes
    obtain ⟨next, first⟩ := reaches_entry line outer read key here (Int.le_of_lt within) (follows_lines keys follows)
    rw [if_pos within, if_pos within] at first
    obtain ⟨last, others⟩ := reaches_entries next (indent :: outer)
      ((entryTokens [entry]).reverse ++ .blockMappingStart :: read) keys lexes follows
    refine ⟨last, ?_⟩
    rw [characters_lines_cons, entryTokens_cons, List.reverse_append, List.append_assoc]
    simpa using first.trans others

theorem lexes_block (nonempty : entries ≠ []) (keys : ∀ entry ∈ entries, IsKey entry.1)
    (lexes : ∀ entry ∈ entries, entry.2.Lexes) : (block entries).Lexes := by
  intro column position outer read rest within follows
  have further : (column : Int) < ((column + 2 : Nat) : Int) := by omega
  obtain ⟨later, inner⟩ := reaches_block (position.line + 1) outer read nonempty keys lexes further
    (follows.mono (Nat.le_add_right column 2))
  -- What follows is not as far in as the entries of the block, which ends before it.
  have close : Reaches
      (inBlock rest ⟨later, 0⟩ (column + 2 : Nat) (column :: outer) true
        ((entryTokens entries).reverse ++ .blockMappingStart :: read))
      (inBlock rest ⟨later, 0⟩ column outer true
        (.blockEnd :: ((entryTokens entries).reverse ++ .blockMappingStart :: read))) :=
    .of_settled (follows.settled_close further) (Nat.le_refl _)
  refine ⟨later, ?_⟩
  have whole := reaches_lineFeed.trans (inner.trans close)
  simpa [body, tokens] using whole

end Blocks

theorem Legible.lexes (legible : Legible depth layout) : layout.Lexes := by
  induction legible with
  | bare spelled reads => exact lexes_bare spelled
  | quoted held => exact lexes_quoted held
  | list names => exact lexes_list names
  | empty => exact lexes_empty
  | block nonempty distinct keys values ih => exact lexes_block nonempty keys ih

/-- The document of a legible block has the tokens of the block. -/
theorem tokens?_toText (legible : Legible depth (block entries)) :
    tokens? (toText entries) = some ((block entries).tokens ++ [.streamEnd]) := by
  obtain _ | _ | _ | _ | ⟨nonempty, distinct, keys, values⟩ := legible
  have printed : (characters (lines 0 entries)).all isPrinted = true :=
    all_isPrinted_characters keys fun entry member => (values entry member).all_isPrinted 0
  have outside : (-1 : Int) < (0 : Nat) := by decide
  obtain ⟨later, steps, shorter, run⟩ := reaches_block 0 [] [] nonempty keys
    (fun entry member => (values entry member).lexes) outside .finish
  have stays : characters (lines 0 entries) ++ [] = characters (lines 0 entries) := List.append_nil _
  rw [stays] at shorter run
  obtain ⟨fuel, enough⟩ : ∃ fuel, (characters (lines 0 entries)).length + 1 = steps + (fuel + 1) := by
    refine ⟨(characters (lines 0 entries)).length - steps, ?_⟩
    simp only [inBlock] at shorter
    omega
  calc tokens? (toText entries)
      = Lexer.run? ((characters (lines 0 entries)).length + 1) (.ofSource (characters (lines 0 entries))) := by
        rw [tokens?, toList_toText, source?_eq_some printed, Option.bind_some]
    _ = Lexer.run? (fuel + 1)
        (inBlock [] ⟨later, 0⟩ 0 [-1] true ((entryTokens entries).reverse ++ [.blockMappingStart])) := by
        rw [enough]
        exact run (fuel + 1)
    _ = some ((block entries).tokens ++ [.streamEnd]) := by
        rw [Lexer.run?_finish]
        simp [tokens]

end Relink.Yaml.Layout
