import Mathlib.Data.List.Forall2
import Relink.Proofs.Yaml.Layout.Tokens

/-! The tree of a layout, which a document of its lines is read as: from its tokens its events are read, and from them the
tree. -/

namespace Relink.Yaml.Layout

open Yaml.Event (Handles Place)

mutual

def events : Layout → List Event
  | bare word => [.scalar .none word true]
  | quoted text => [.scalar .none text false]
  | list words => .sequenceStart .none :: (words.map (Event.scalar .none · true) ++ [.sequenceEnd])
  | empty => [.mappingStart .none, .mappingEnd]
  | block entries => .mappingStart .none :: (entryEvents entries ++ [.mappingEnd])

def entryEvents : List (String × Layout) → List Event
  | [] => []
  | (key, value) :: rest => .scalar .none key true :: (value.events ++ entryEvents rest)

end

/-- The events of a value are read where a value of a block may stand. -/
def Parses (layout : Layout) : Prop :=
  ∀ ⦃handles : Handles⦄ ⦃fuel : Nat⦄ ⦃place : Place⦄ ⦃read : List Event⦄ ⦃rest : List Token⦄,
    place ≠ .flow → layout.tokens.length ≤ fuel →
      Event.node? handles fuel place read (layout.tokens ++ rest) = some (layout.events.reverse ++ read, rest)

mutual

def steps : Layout → List Step
  | bare word => [.scalar none word true]
  | quoted text => [.scalar none text false]
  | list words => .sequenceStart none :: (words.map (Step.scalar none · true) ++ [.sequenceEnd])
  | empty => [.mappingStart none, .mappingEnd]
  | block entries => .mappingStart none :: (entrySteps entries ++ [.mappingEnd])

def entrySteps : List (String × Layout) → List Step
  | [] => []
  | (key, value) :: rest => .scalar none key true :: (value.steps ++ entrySteps rest)

end

variable {handles : Handles} {fuel depth : Nat} {place : Place} {read : List Event} {rest : List Token} {layout : Layout}
  {entries : List (String × Layout)}

section Events

theorem node?_scalar (text : String) (plain : Bool) :
    Event.node? handles (fuel + 1) place read (.scalar text plain :: rest) =
      some (.scalar .none text plain :: read, rest) := by
  simp [Event.node?, Event.properties?]

theorem parses_scalar {text : String} {plain : Bool} (tokens : layout.tokens = [.scalar text plain])
    (events : layout.events = [.scalar .none text plain]) : layout.Parses := by
  intro handles fuel place read rest _ enough
  simp only [tokens, List.length_singleton] at enough
  obtain ⟨fuel, rfl⟩ := Nat.exists_eq_add_of_le' (show 1 ≤ fuel by omega)
  rw [tokens, events]
  exact node?_scalar text plain

theorem flowSequence?_further {words : List String}
    (enough : (words.flatMap fun word => [Token.flowEntry, .scalar word true]).length < fuel) :
    Event.flowSequence? handles fuel false read
        ((words.flatMap fun word => [.flowEntry, .scalar word true]) ++ .flowSequenceEnd :: rest) =
      some (.sequenceEnd :: ((words.map (Event.scalar .none · true)).reverse ++ read), rest) := by
  induction words generalizing fuel read with
  | nil =>
    obtain ⟨fuel, rfl⟩ := Nat.exists_eq_add_of_le' (show 1 ≤ fuel by omega)
    simp [Event.flowSequence?]
  | cons word words ih =>
    simp only [List.flatMap_cons, List.length_append, List.length_cons, List.length_nil] at enough
    obtain ⟨fuel, rfl⟩ := Nat.exists_eq_add_of_le' (show 2 ≤ fuel by omega)
    have others := @ih (fuel + 1) (.scalar .none word true :: read) (by omega)
    simpa [Event.flowSequence?, node?_scalar] using others

theorem parses_list (words : List String) : (list words).Parses := by
  intro handles fuel place read rest _ enough
  simp only [tokens, List.length_cons, List.length_append, List.length_nil] at enough
  obtain ⟨fuel, rfl⟩ := Nat.exists_eq_add_of_le' (show 2 ≤ fuel by omega)
  cases words with
  | nil => simp [tokens, itemTokens, events, Event.node?, Event.properties?, Event.flowSequence?]
  | cons word words =>
    simp only [itemTokens, List.length_cons] at enough
    have further := @flowSequence?_further handles fuel (.scalar .none word true :: .sequenceStart .none :: read) rest words
      (by omega)
    obtain ⟨fuel, rfl⟩ := Nat.exists_eq_add_of_le' (show 1 ≤ fuel by omega)
    simpa [tokens, itemTokens, events, Event.node?, Event.properties?, Event.flowSequence?] using further

theorem parses_empty : empty.Parses := by
  intro handles fuel place read rest _ enough
  simp only [tokens, List.length_cons] at enough
  obtain ⟨fuel, rfl⟩ := Nat.exists_eq_add_of_le' (show 2 ≤ fuel by omega)
  simp [tokens, events, Event.node?, Event.properties?, Event.flowMapping?]

theorem endsBlockPart_tokens (layout : Layout) (rest : List Token) :
    Event.endsBlockPart (layout.tokens ++ rest) = false := by
  cases layout <;> rfl

theorem blockMapping?_entry {key : String} (parses : layout.Parses) (enough : layout.tokens.length ≤ fuel + 1) :
    Event.blockMapping? handles (fuel + 2) read (.key :: .scalar key true :: .value :: (layout.tokens ++ rest)) =
      Event.blockMapping? handles (fuel + 1) (layout.events.reverse ++ .scalar .none key true :: read) rest := by
  have value := @parses handles (fuel + 1) .mappingPart (.scalar .none key true :: read) rest (by decide) enough
  have written : Event.endsBlockPart (Token.scalar key true :: .value :: (layout.tokens ++ rest)) = false := rfl
  rw [Event.blockMapping?, written]
  simp only [Bool.false_eq_true, if_false, node?_scalar, Option.bind_eq_bind, Option.bind_some, endsBlockPart_tokens, value]

theorem blockMapping?_entries (parses : ∀ entry ∈ entries, entry.2.Parses) (enough : (entryTokens entries).length < fuel) :
    Event.blockMapping? handles fuel read (entryTokens entries ++ .blockEnd :: rest) =
      some (.mappingEnd :: ((entryEvents entries).reverse ++ read), rest) := by
  induction entries generalizing fuel read with
  | nil =>
    obtain ⟨fuel, rfl⟩ := Nat.exists_eq_add_of_le' (show 1 ≤ fuel by omega)
    simp [entryTokens, entryEvents, Event.blockMapping?]
  | cons entry entries ih =>
    obtain ⟨here, parses⟩ := List.forall_mem_cons.mp parses
    simp only [entryTokens, List.length_cons, List.length_append] at enough
    obtain ⟨fuel, rfl⟩ := Nat.exists_eq_add_of_le' (show 2 ≤ fuel by omega)
    rw [entryTokens, List.cons_append, List.cons_append, List.cons_append, List.append_assoc,
      blockMapping?_entry here (by omega), ih parses (by omega)]
    simp [entryEvents]

theorem parses_block (parses : ∀ entry ∈ entries, entry.2.Parses) : (block entries).Parses := by
  intro handles fuel place read rest outside enough
  simp only [tokens, List.length_cons, List.length_append, List.length_nil] at enough
  obtain ⟨fuel, rfl⟩ := Nat.exists_eq_add_of_le' (show 1 ≤ fuel by omega)
  have inner := @blockMapping?_entries handles fuel (.mappingStart .none :: read) rest entries parses (by omega)
  cases place with
  | flow => cases outside rfl
  | block | mappingPart => simpa [tokens, events, Event.node?, Event.properties?] using inner

end Events

theorem Legible.parses (legible : Legible depth layout) : layout.Parses := by
  induction legible with
  | bare | quoted => exact parses_scalar rfl rfl
  | list names => exact parses_list _
  | empty => exact parses_empty
  | block nonempty distinct keys values ih => exact parses_block ih

theorem ofTokens?_block (legible : Legible depth (block entries)) :
    Event.ofTokens? ((block entries).tokens ++ [.streamEnd]) = some (block entries).events := by
  have parsed (fuel : Nat) (enough : (block entries).tokens.length ≤ fuel) :
      Event.node? Event.defaultHandles fuel .block [] ((block entries).tokens ++ [.streamEnd]) =
        some ((block entries).events.reverse ++ [], [.streamEnd]) := legible.parses (by decide) enough
  have unmarked : Event.beginsMarked ((block entries).tokens ++ [.streamEnd]) = false := rfl
  have proper : (block entries).tokens ++ [.streamEnd] ≠ [.streamEnd] := by simp [tokens]
  rw [Event.ofTokens?, if_neg proper, unmarked]
  simp only [Bool.false_eq_true, if_false]
  rw [parsed _ (by simp only [List.length_append]; omega)]
  simp [Event.atStreamEnd]

section Steps

/-- What an event without properties is as a step. -/
inductive Shows : Event → Step → Prop where
  | scalar (text : String) (plain : Bool) : Shows (.scalar .none text plain) (.scalar none text plain)
  | sequenceStart : Shows (.sequenceStart .none) (.sequenceStart none)
  | sequenceEnd : Shows .sequenceEnd .sequenceEnd
  | mappingStart : Shows (.mappingStart .none) (.mappingStart none)
  | mappingEnd : Shows .mappingEnd .mappingEnd

/-- Where nothing is named the steps follow the events one by one. -/
theorem ofEventsFrom?_of_shows {events : List Event} {steps : List Step} (shown : List.Forall₂ Shows events steps)
    (anchors : Document.Anchors) (index : Nat) (before : List Step) :
    Document.ofEventsFrom? anchors index before events = some ⟨before.reverse ++ steps, anchors.targets⟩ := by
  induction shown generalizing index before with
  | nil => simp [Document.ofEventsFrom?]
  | cons first rest ih =>
    cases first <;> simp [Document.ofEventsFrom?, Document.Anchors.note, Properties.none, ih]

theorem shows_entries (shown : ∀ entry ∈ entries, List.Forall₂ Shows entry.2.events entry.2.steps) :
    List.Forall₂ Shows (entryEvents entries) (entrySteps entries) := by
  induction entries with
  | nil => exact .nil
  | cons entry entries ih =>
    obtain ⟨here, shown⟩ := List.forall_mem_cons.mp shown
    exact .cons (.scalar _ _) (List.rel_append here (ih shown))

theorem Legible.shows (legible : Legible depth layout) : List.Forall₂ Shows layout.events layout.steps := by
  induction legible with
  | bare | quoted => exact .cons (.scalar _ _) .nil
  | @list depth words names =>
    have items : List.Forall₂ Shows (words.map (Event.scalar .none · true)) (words.map (Step.scalar none · true)) := by
      rw [List.forall₂_map_left_iff, List.forall₂_map_right_iff, List.forall₂_same]
      exact fun word _ => .scalar word true
    exact .cons .sequenceStart (List.rel_append items (.cons .sequenceEnd .nil))
  | empty => exact .cons .mappingStart (.cons .mappingEnd .nil)
  | block nonempty distinct keys values ih =>
    exact .cons .mappingStart (List.rel_append (shows_entries ih) (.cons .mappingEnd .nil))

end Steps

section Trees

variable {document : Document} {followed : Nat} {after : List Step}

/-- The tree of a value is read from its steps where `depth` further collections may nest. -/
def Reads (depth : Nat) (layout : Layout) : Prop :=
  ∀ ⦃document : Document⦄ ⦃fuel followed : Nat⦄ ⦃rest : List Step⦄, layout.steps.length ≤ fuel →
    document.node? fuel depth followed (layout.steps ++ rest) = some ⟨layout.tree, followed, rest⟩

theorem items?_words {words : List String} (names : ∀ word ∈ words, IsName word) (enough : words.length < fuel) :
    document.items? fuel depth followed (words.map (Step.scalar none · true) ++ .sequenceEnd :: after) =
      some ⟨words.map Tree.text, followed, after⟩ := by
  induction words generalizing fuel with
  | nil =>
    obtain ⟨fuel, rfl⟩ := Nat.exists_eq_add_of_le' (show 1 ≤ fuel by omega)
    simp [Document.items?]
  | cons word words ih =>
    obtain ⟨name, names⟩ := List.forall_mem_cons.mp names
    simp only [List.length_cons] at enough
    obtain ⟨fuel, rfl⟩ := Nat.exists_eq_add_of_le' (show 2 ≤ fuel by omega)
    have others := @ih (fuel + 1) names (by omega)
    simp [Document.items?, Document.node?, Tree.ownTag?, Tree.ofScalar?, name.reads, others]

/-- An entry of a mapping is read; its key must be new. -/
theorem entries?_entry {key : String} (isKey : IsKey key) (reads : Reads depth layout) {before : List (Tree × Tree)}
    (fresh : ∀ other ∈ before, other.1 ≠ .text key) (enough : layout.steps.length ≤ fuel + 1) :
    document.entries? (fuel + 2) depth followed before (.scalar none key true :: (layout.steps ++ after)) =
      document.entries? (fuel + 1) depth followed ((.text key, layout.tree) :: before) after := by
  have keyRead : document.node? (fuel + 1) depth followed (.scalar none key true :: (layout.steps ++ after)) =
      some ⟨.text key, followed, layout.steps ++ after⟩ := by
    simp [Document.node?, Tree.ownTag?, Tree.ofScalar?, isKey.reads]
  have new : (before.any fun other => other.1.same (.text key)) = false := by
    rw [List.any_eq_false]
    intro other member
    rw [Tree.same_text]
    exact fresh other member
  rw [Document.entries?]
  · simp only [Option.bind_eq_bind, keyRead, Option.bind_some, new, Bool.false_eq_true, if_false, reads enough]
  · rintro rest ⟨⟩

theorem entries?_trees (keys : ∀ entry ∈ entries, IsKey entry.1) (reads : ∀ entry ∈ entries, Reads depth entry.2)
    (distinct : (entries.map Prod.fst).Nodup) {before : List (Tree × Tree)}
    (apart : ∀ entry ∈ entries, ∀ other ∈ before, other.1 ≠ .text entry.1) (enough : (entrySteps entries).length < fuel) :
    document.entries? fuel depth followed before (entrySteps entries ++ .mappingEnd :: after) =
      some ⟨before.reverse ++ Tree.named (trees entries), followed, after⟩ := by
  induction entries generalizing fuel before with
  | nil =>
    obtain ⟨fuel, rfl⟩ := Nat.exists_eq_add_of_le' (show 1 ≤ fuel by omega)
    simp [entrySteps, trees, Document.entries?]
  | cons entry entries ih =>
    obtain ⟨key, keys⟩ := List.forall_mem_cons.mp keys
    obtain ⟨here, reads⟩ := List.forall_mem_cons.mp reads
    obtain ⟨fresh, apart⟩ := List.forall_mem_cons.mp apart
    obtain ⟨unique, distinct⟩ := List.nodup_cons.mp distinct
    simp only [entrySteps, List.length_cons, List.length_append] at enough
    obtain ⟨fuel, rfl⟩ := Nat.exists_eq_add_of_le' (show 2 ≤ fuel by omega)
    have later : ∀ other ∈ entries, ∀ earlier ∈ (.text entry.1, entry.2.tree) :: before, earlier.1 ≠ .text other.1 := by
      intro other member earlier known
      rcases List.mem_cons.mp known with rfl | known
      · intro same
        rw [Tree.text.injEq] at same
        exact unique (List.mem_map.mpr ⟨other, member, same.symm⟩)
      · exact apart other member earlier known
    rw [entrySteps, List.cons_append, List.append_assoc, entries?_entry key here fresh (by omega),
      ih keys reads distinct later (by omega)]
    simp [trees]

theorem reads_scalar {text : String} {plain : Bool} (steps : layout.steps = [.scalar none text plain])
    (reads : Tree.ofScalar? none text plain = some layout.tree) : Reads depth layout := by
  intro document fuel followed rest enough
  simp only [steps, List.length_singleton] at enough
  obtain ⟨fuel, rfl⟩ := Nat.exists_eq_add_of_le' (show 1 ≤ fuel by omega)
  simp [steps, Document.node?, Tree.ownTag?, reads]

theorem reads_list {words : List String} (names : ∀ word ∈ words, IsName word) : Reads (depth + 1) (list words) := by
  intro document fuel followed rest enough
  simp only [steps, List.length_cons, List.length_append, List.length_map, List.length_nil] at enough
  obtain ⟨fuel, rfl⟩ := Nat.exists_eq_add_of_le' (show 1 ≤ fuel by omega)
  have items := @items?_words fuel depth document followed rest words names (by omega)
  simp [steps, tree, Document.node?, Tree.ownTag?, items]

theorem reads_empty : Reads (depth + 1) empty := by
  intro document fuel followed rest enough
  simp only [steps, List.length_cons] at enough
  obtain ⟨fuel, rfl⟩ := Nat.exists_eq_add_of_le' (show 2 ≤ fuel by omega)
  simp [steps, tree, Document.node?, Document.entries?, Tree.ownTag?]

theorem reads_block (distinct : (entries.map Prod.fst).Nodup) (keys : ∀ entry ∈ entries, IsKey entry.1)
    (reads : ∀ entry ∈ entries, Reads depth entry.2) : Reads (depth + 1) (block entries) := by
  intro document fuel followed rest enough
  simp only [steps, List.length_cons, List.length_append, List.length_nil] at enough
  obtain ⟨fuel, rfl⟩ := Nat.exists_eq_add_of_le' (show 1 ≤ fuel by omega)
  have inner := @entries?_trees fuel depth entries document followed rest keys reads distinct [] (by simp) (by omega)
  simp [steps, tree, Document.node?, Tree.ownTag?, inner]

theorem Legible.reads (legible : Legible depth layout) : Reads depth layout := by
  induction legible with
  | bare spelled reads => exact reads_scalar rfl (by simp [Tree.ofScalar?, tree, reads])
  | quoted held => exact reads_scalar rfl rfl
  | list names => exact reads_list names
  | empty => exact reads_empty
  | block nonempty distinct keys values ih => exact reads_block distinct keys ih

end Trees

/-- A legible block that is nested no deeper than may be is read from its document. -/
theorem parse?_toText (legible : Legible Document.greatestDepth (block entries)) :
    Tree.parse? (toText entries) = some (Tree.record (trees entries)) := by
  let document : Document := ⟨(block entries).steps, []⟩
  have numbered : Document.ofEvents? (block entries).events = some document := ofEventsFrom?_of_shows legible.shows _ _ _
  have read : document.tree? = some (Tree.record (trees entries)) := by
    have enough : document.steps.length ≤
        2 * (document.steps.length + 1) * (document.steps.length * Document.aliasesPerStep + 2) :=
      calc document.steps.length ≤ 2 * (document.steps.length + 1) := by omega
        _ ≤ _ := Nat.le_mul_of_pos_right _ (Nat.succ_pos _)
    have node : document.node? _ Document.greatestDepth 0 (document.steps ++ []) =
        some ⟨(block entries).tree, 0, []⟩ := legible.reads enough
    rw [List.append_nil] at node
    have filled : document.steps = .mappingStart none :: (entrySteps entries ++ [.mappingEnd]) := rfl
    rw [Document.tree?]
    split
    · rename_i nothing
      cases filled.symm.trans nothing
    · dsimp only
      rw [node]
      rfl
  rw [Tree.parse?, tokens?_toText legible]
  simp [ofTokens?_block legible, numbered, read]

end Relink.Yaml.Layout
