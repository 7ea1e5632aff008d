import Relink.Proofs.Attempt
import Relink.Proofs.Yaml.Layering
import Relink.Yaml.Mismatch

/-! Reading records from plain trees. A record can be read if each of its fields can, and each field comes from what the
tree has under its name; null, and a name that is missing, say the same. -/

namespace Relink.Yaml.Tree

/-- A tree that is a text, or says nothing. -/
inductive IsText : Tree → Prop where
  | null : IsText null
  | text (value : String) : IsText (text value)

/-- A tree that lists texts, or says nothing. -/
inductive IsTexts : Tree → Prop where
  | null : IsTexts null
  | sequence {items : List Tree} (each : ∀ item ∈ items, ∃ value, item = text value) : IsTexts (sequence items)

def texts : Tree → List String
  | sequence items => items.filterMap text?
  | _ => []

/-- What a tree says under a name, tags aside. Null stands for nothing. -/
def said (tree : Tree) (name : String) : Tree :=
  (tree.untagged.namedEntries.lookup name).getD null

section Values

variable {tree : Tree}

theorem Plain.said_eq_under (plain : tree.Plain) (name : String) : tree.said name = tree.under name := by
  cases plain with
  | mapping distinct each =>
    rw [said, untagged, namedEntries_named, under_named]
    rintro tag value ⟨⟩
  | _ => rfl

theorem text?_of_readText {content : String} (done : tree.readText = .ok content) : tree.text? = some content := by
  rw [readText] at done
  split at done
  · rename_i found
    cases done
    exact found
  · cases done

theorem readOption_of_ne_null {α : Type} (read : Tree → Except Mismatch α) (proper : tree ≠ null) :
    tree.readOption read = (read tree).map some := by
  cases tree <;> first | rfl | exact absurd rfl proper

/-- A text that may be left out is read as the text of its tree, tags aside. -/
theorem eq_text?_of_readOption {content : Option String} (done : tree.readOption readText = .ok content) :
    content = tree.text? := by
  by_cases empty : tree = null
  · subst empty
    cases done
    rfl
  · rw [readOption_of_ne_null _ empty] at done
    obtain ⟨found, spelled, rfl⟩ := Except.map_eq_ok_iff.mp done
    exact (text?_of_readText spelled).symm

/-- Texts are read as those that a tree lists, tags aside. -/
theorem eq_texts_of_readTexts {contents : List String} (done : tree.readTexts = .ok contents) :
    contents = tree.untagged.texts := by
  rw [readTexts] at done
  split at done
  · rename_i items shape
    rw [shape, texts]
    exact Except.eq_filterMap_of_mapM_eq_ok (fun _ _ => text?_of_readText) done
  · rename_i shape
    cases done
    rw [shape]
    rfl
  · cases done

theorem IsText.ne_mapping (fits : tree.IsText) (entries : List (Tree × Tree)) : tree ≠ mapping entries := by
  rintro rfl
  cases fits

theorem IsTexts.ne_mapping (fits : tree.IsTexts) (entries : List (Tree × Tree)) : tree ≠ mapping entries := by
  rintro rfl
  cases fits

theorem IsText.map_text (fits : tree.IsText) (proper : tree.isNull = false) : tree.text?.map Tree.text = some tree := by
  cases fits with
  | null => cases proper
  | text value => rfl

theorem map_text? {items : List Tree} (fit : ∀ item ∈ items, ∃ value, item = text value) :
    items.map (fun item => item.text?.getD "") = (sequence items).texts := by
  induction items with
  | nil => rfl
  | cons item rest ih =>
    obtain ⟨value, rfl⟩ := fit item List.mem_cons_self
    simpa [texts, text?, untagged] using ih fun item member => fit item (List.mem_cons_of_mem _ member)

theorem Plain.text?_eq_some_iff (plain : tree.Plain) {value : String} :
    tree.text? = some value ↔ tree = Tree.text value := by
  cases plain <;> simp [text?, untagged]

theorem Plain.mem_texts_iff (plain : tree.Plain) {value : String} :
    value ∈ tree.texts ↔ ∃ items, tree = Tree.sequence items ∧ Tree.text value ∈ items := by
  cases plain with
  | @sequence items each =>
    simp only [texts, List.mem_filterMap, Tree.sequence.injEq, exists_eq_left']
    constructor
    · rintro ⟨item, member, found⟩
      rwa [← (each item member).text?_eq_some_iff.mp found]
    · exact fun member => ⟨_, member, rfl⟩
  | _ => simp [texts]

theorem Plain.isNull_iff (plain : tree.Plain) : tree.isNull = true ↔ tree = Tree.null := by
  cases plain <;> simp [isNull, untagged]

theorem Plain.isNull_eq_false (plain : tree.Plain) (proper : tree ≠ Tree.null) : tree.isNull = false :=
  Bool.eq_false_iff.mpr (mt plain.isNull_iff.mp proper)

theorem Plain.readText_yields (plain : tree.Plain) :
    tree.readText.Yields (∃ value, tree = Tree.text value) (tree.text?.getD "") := by
  cases plain with
  | text value => exact .ok ⟨value, rfl⟩
  | null | bool | number | sequence | mapping =>
    -- Neither side holds.
    refine .of_parts (fun result done => ?_) fun fits => ?_
    · cases done
    · obtain ⟨value, same⟩ := fits
      cases same

theorem Plain.readOption_yields (plain : tree.Plain) :
    (tree.readOption readText).Yields tree.IsText tree.text? := by
  cases plain with
  | null => exact .ok .null
  | text value => exact .ok (.text value)
  | bool | number | sequence | mapping =>
    -- Neither side holds.
    refine .of_parts (fun result done => ?_) fun fits => ?_
    · cases done
    · cases fits

theorem Plain.readTexts_yields (plain : tree.Plain) : tree.readTexts.Yields tree.IsTexts tree.texts := by
  cases plain with
  | null => exact .ok .null
  | @sequence items each =>
    have read := Except.Yields.mapM fun item member => (each item member).readText_yields
    intro result
    refine (read result).trans ⟨?_, ?_⟩
    · rintro ⟨fit, rfl⟩
      exact ⟨.sequence fit, map_text? fit⟩
    · rintro ⟨fit, rfl⟩
      cases fit with
      | sequence fit => exact ⟨fit, (map_text? fit).symm⟩
  | bool | number | text | mapping =>
    refine .of_parts (fun result done => ?_) fun fits => ?_
    · cases done
    · cases fits

end Values

section Fields

variable {α β : Type} {field : String → Option (Tree → α → Except Mismatch α)} {name : String}
variable {read : Tree → Except Mismatch β} {get : α → β} {record start result : α} {seen : List String}
variable {entries : List (String × Tree)} {tree : Tree} {expected : String}

/-- A part of a record that is read from one field, while the other fields leave it as it is. -/
structure Component (field : String → Option (Tree → α → Except Mismatch α)) (name : String)
    (read : Tree → Except Mismatch β) (get : α → β) : Prop where
  own : ∃ take, field name = some take ∧ ∀ value record, (take value record).map get = read value
  others : ∀ other take, other ≠ name → field other = some take →
    ∀ value record next, take value record = .ok next → get next = get record

theorem map_get_of_put {put : α → β → α} (get_put : ∀ record part, get (put record part) = part) (value : Tree)
    (record : α) : ((read value).map (put record)).map get = read value := by
  cases read value <;> simp [Except.map, get_put]

theorem get_of_put {γ : Type} {other : Tree → Except Mismatch γ} {put : α → γ → α}
    (get_put : ∀ record part, get (put record part) = get record) (value : Tree) (record next : α)
    (done : (other value).map (put record) = .ok next) : get next = get record := by
  obtain ⟨part, -, rfl⟩ := Except.map_eq_ok_iff.mp done
  exact get_put record part

/-- An entry is skipped if its field is not known, and is taken in if the field has not been met before. -/
theorem readFields_cons_eq_ok_iff {key value : Tree} {rest : List (Tree × Tree)} :
    readFields field seen record ((key, value) :: rest) = .ok result ↔
      ∃ name, key.text? = some name ∧
        ((field name = none ∧ readFields field seen record rest = .ok result) ∨
          ∃ take next, field name = some take ∧ name ∉ seen ∧ take value record = .ok next ∧
            readFields field (name :: seen) next rest = .ok result) := by
  rw [readFields]
  cases key.text? with
  | none => simp
  | some name =>
    simp only [Option.some.injEq, exists_eq_left']
    cases field name with
    | none => simp
    | some take =>
      by_cases before : name ∈ seen
      · simp [before]
      · cases taken : take value record <;> simp [before, taken]

theorem readFields_named_cons_eq_ok_iff {key : String} {value : Tree} {rest : List (String × Tree)} :
    readFields field seen record (named ((key, value) :: rest)) = .ok result ↔
      (field key = none ∧ readFields field seen record (named rest) = .ok result) ∨
      ∃ take next, field key = some take ∧ key ∉ seen ∧ take value record = .ok next ∧
        readFields field (key :: seen) next (named rest) = .ok result := by
  simp [readFields_cons_eq_ok_iff, text?, untagged]

/-- A part of a record that has been read is that of its only entry, or is left as it was where there is none. -/
theorem get_readFields {entries : List (Tree × Tree)} (component : Component field name read get)
    (done : readFields field seen record entries = .ok result) :
    match (mapping entries).namedEntries.lookup name with
    | some value => name ∉ seen ∧ read value = .ok (get result)
    | none => get result = get record := by
  induction entries generalizing seen record with
  | nil =>
    cases done
    rfl
  | cons entry rest ih =>
    obtain ⟨key, value⟩ := entry
    obtain ⟨other, spelled, done⟩ := readFields_cons_eq_ok_iff.mp done
    have entries : (mapping ((key, value) :: rest)).namedEntries = (other, value) :: (mapping rest).namedEntries := by
      simp [namedEntries, spelled]
    rw [entries]
    by_cases here : name = other
    · subst here
      obtain ⟨take, known, reads⟩ := component.own
      rcases done with ⟨unknown, _⟩ | ⟨taken, next, same, fresh, took, later⟩
      · cases known.symm.trans unknown
      · cases known.symm.trans same
        -- The name is among those met from here on, so that what was taken here is left as it is.
        have kept := ih later
        have own := reads value record
        simp only [List.lookup_cons, beq_self_eq_true]
        refine ⟨fresh, ?_⟩
        split at kept
        · exact absurd List.mem_cons_self kept.1
        · rw [← own, took, kept]
          rfl
    · simp only [List.lookup_cons, beq_eq_false_iff_ne.mpr here]
      rcases done with ⟨_, later⟩ | ⟨take, next, known, _, took, later⟩
      · exact ih later
      · have kept := ih later
        rw [← component.others other take (Ne.symm here) known value record next took]
        split at kept
        · rename_i found
          rw [found]
          exact ⟨fun before => kept.1 (List.mem_cons_of_mem other before), kept.2⟩
        · rename_i found
          rwa [found]

/-- A record that has been read from a tree has each part from what the tree says under its name. -/
theorem get_readRecord (component : Component field name read get) (absent : read null = .ok (get start))
    (done : tree.readEntries expected >>= readFields field [] start = .ok result) :
    read (tree.said name) = .ok (get result) := by
  obtain ⟨entries, shape, done⟩ := Except.bind_eq_ok_iff.mp done
  rw [readEntries] at shape
  rw [said]
  split at shape
  · rename_i shown
    cases shape
    have parted := get_readFields component done
    rw [shown]
    split at parted
    · rename_i found
      rw [found]
      exact parted.2
    · rename_i found
      rw [found, parted]
      exact absent
  · rename_i shown
    cases shape
    cases done
    rw [shown]
    exact absent
  · cases shape

theorem exists_readFields (distinct : (entries.map Prod.fst).Nodup) (fresh : ∀ name ∈ seen, name ∉ entries.map Prod.fst)
    (ready : ∀ entry ∈ entries, ∀ take, field entry.1 = some take → ∀ record, ∃ next, take entry.2 record = .ok next) :
    ∃ result, readFields field seen record (named entries) = .ok result := by
  induction entries generalizing seen record with
  | nil => exact ⟨record, rfl⟩
  | cons entry rest ih =>
    obtain ⟨key, value⟩ := entry
    obtain ⟨unrepeated, others⟩ := List.nodup_cons.mp distinct
    have readyLater := fun entry member => ready entry (List.mem_cons_of_mem (key, value) member)
    have freshLater : ∀ name ∈ seen, name ∉ rest.map Prod.fst :=
      fun name before later => fresh name before (List.mem_cons_of_mem key later)
    simp only [readFields_named_cons_eq_ok_iff]
    cases known : field key with
    | none =>
      obtain ⟨result, done⟩ := ih others freshLater readyLater
      exact ⟨result, .inl ⟨rfl, done⟩⟩
    | some take =>
      have unseen : key ∉ seen := fun before => fresh key before List.mem_cons_self
      obtain ⟨next, taken⟩ := ready (key, value) List.mem_cons_self take known record
      have freshStill : ∀ name ∈ key :: seen, name ∉ rest.map Prod.fst :=
        List.forall_mem_cons.mpr ⟨unrepeated, freshLater⟩
      obtain ⟨result, done⟩ := ih others freshStill readyLater
      exact ⟨result, .inr ⟨take, next, rfl, unseen, taken, done⟩⟩

theorem Plain.get_readRecord (plain : tree.Plain) (component : Component field name read get)
    (absent : read Tree.null = .ok (get start))
    (done : tree.readEntries expected >>= readFields field [] start = .ok result) :
    tree.IsLayer ∧ read (tree.under name) = .ok (get result) := by
  refine ⟨?_, plain.said_eq_under name ▸ Tree.get_readRecord component absent done⟩
  cases plain with
  | null => exact .null
  | mapping => exact .mapping _
  | bool | number | text | sequence => cases done

theorem Plain.exists_readRecord (plain : tree.Plain) (layer : tree.IsLayer)
    (ready : ∀ name take, field name = some take → ∀ record, ∃ next, take (tree.under name) record = .ok next) :
    ∃ result, tree.readEntries expected >>= readFields field [] start = .ok result := by
  cases plain with
  | null => exact ⟨start, rfl⟩
  | @mapping entries distinct each =>
    refine exists_readFields distinct (by simp) fun entry member take known record => ?_
    have here := (Plain.mapping distinct each).under_eq_of_mem (by simpa using member)
    rw [← here]
    exact ready entry.1 take known record
  | bool | number | text | sequence => cases layer

end Fields

end Relink.Yaml.Tree
