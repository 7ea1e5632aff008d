import Relink.Proofs.Yaml.Same
import Relink.Yaml.Document

/-! What documents are read as. A scalar has no mapping in it, and a mapping is read only if each of its keys is new, so
that no mapping of a tree that is read has a key twice. -/

namespace Relink.Yaml

namespace Tree

variable {content : String} {tree : Tree}

theorem wellFormed_of_integer? (read : integer? content = some (some tree)) : tree.WellFormed := by
  rw [integer?] at read
  split at read
  · split at read
    · cases read
      exact .number _
    · split at read <;> cases read
  · cases read

theorem wellFormed_of_ofPlain? (done : ofPlain? content = some tree) : tree.WellFormed := by
  rw [ofPlain?] at done
  split at done
  · cases done; exact .null
  split at done
  · cases done; exact .bool _
  split at done
  · cases done
  · rename_i read
    cases done
    exact wellFormed_of_integer? read
  · split at done
    · cases done; exact .text _
    · split at done
      · cases done; exact .number _
      · cases done; exact .text _

theorem wellFormed_of_plain {plain : Bool}
    (done : (if plain then ofPlain? content else some (text content)) = some tree) :
    tree.WellFormed := by
  split at done
  · exact wellFormed_of_ofPlain? done
  · cases done
    exact .text _

theorem wellFormed_of_ofScalar? {tag : Option Text.Octets} {plain : Bool}
    (done : ofScalar? tag content plain = some tree) : tree.WellFormed := by
  rw [ofScalar?.eq_def] at done
  split at done
  · exact wellFormed_of_plain done
  · split at done
    · obtain ⟨value, _, rfl⟩ := Option.map_eq_some_iff.mp done
      exact .bool _
    split at done
    · obtain ⟨_, read, rfl⟩ := Option.bind_eq_some_iff.mp done
      exact wellFormed_of_integer? read
    split at done
    · obtain ⟨value, _, rfl⟩ := Option.map_eq_some_iff.mp done
      exact .number _
    split at done
    · split at done
      · cases done
        exact .null
      · cases done
    · split at done
      · exact wellFormed_of_ofPlain? done
      · cases done
        exact .text _

theorem WellFormed.owned (well : tree.WellFormed) (tag : Option String) :
    (tag.elim tree (Tree.tagged · tree)).WellFormed := by
  cases tag with
  | none => exact well
  | some tag => exact .tagged tag well

end Tree

namespace Document

open Relink.Yaml.Tree

/-- That whatever is read with an amount of fuel is well-formed. -/
structure ReadsWell (document : Document) (fuel : Nat) : Prop where
  node : ∀ {depth followed steps progress}, node? document fuel depth followed steps = some progress →
    progress.value.WellFormed
  items : ∀ {depth followed steps progress}, items? document fuel depth followed steps = some progress →
    ∀ item ∈ progress.value, item.WellFormed
  entries : ∀ {depth followed before steps progress}, (mapping before.reverse).WellFormed →
    entries? document fuel depth followed before steps = some progress → (mapping progress.value).WellFormed

namespace ReadsWell

variable {document : Document} {fuel depth followed : Nat} {steps : List Step} (reads : ReadsWell document fuel)
include reads

theorem node_succ {progress : Progress Tree} (done : node? document (fuel + 1) depth followed steps = some progress) :
    progress.value.WellFormed := by
  cases steps with
  | nil => simp [node?] at done
  | cons step rest =>
    rw [node?.eq_def] at done
    dsimp only at done
    split at done
    · split at done
      · cases done
      split at done
      · cases done
      · obtain ⟨progress, read, rfl⟩ := Option.map_eq_some_iff.mp done
        have well := reads.node read
        exact well
    · obtain ⟨tree, read, rfl⟩ := Option.map_eq_some_iff.mp done
      split at read
      · obtain ⟨inner, plain, rfl⟩ := Option.map_eq_some_iff.mp read
        exact .tagged _ (wellFormed_of_plain plain)
      · exact wellFormed_of_ofScalar? read
    · split at done
      · cases done
      · obtain ⟨progress, read, done⟩ := Option.bind_eq_some_iff.mp done
        cases done
        exact (WellFormed.sequence (reads.items read)).owned _
    · split at done
      · cases done
      · obtain ⟨progress, read, done⟩ := Option.bind_eq_some_iff.mp done
        cases done
        exact (reads.entries (.mapping .nil (by simp) (by simp)) read).owned _
    · cases done
    · cases done

theorem items_succ {progress : Progress (List Tree)}
    (done : items? document (fuel + 1) depth followed steps = some progress) :
    ∀ item ∈ progress.value, item.WellFormed := by
  rw [items?.eq_def] at done
  split at done
  · cases done
  · cases done
    simp
  · obtain ⟨item, read, done⟩ := Option.bind_eq_some_iff.mp done
    obtain ⟨more, later, done⟩ := Option.bind_eq_some_iff.mp done
    cases done
    obtain rfl := Nat.succ.inj ‹fuel + 1 = Nat.succ _›
    exact List.forall_mem_cons.mpr ⟨reads.node read, reads.items later⟩

theorem entries_succ {before : List (Tree × Tree)} {progress : Progress (List (Tree × Tree))}
    (well : (mapping before.reverse).WellFormed)
    (done : entries? document (fuel + 1) depth followed before steps = some progress) :
    (mapping progress.value).WellFormed := by
  rw [entries?.eq_def] at done
  split at done
  · cases done
  · cases done
    exact well
  · obtain ⟨key, readKey, done⟩ := Option.bind_eq_some_iff.mp done
    obtain rfl := Nat.succ.inj ‹fuel + 1 = Nat.succ _›
    dsimp only at done
    split at done
    · cases done
    · rename_i fresh
      obtain ⟨value, readValue, done⟩ := Option.bind_eq_some_iff.mp done
      refine reads.entries ?_ done
      rw [List.reverse_cons]
      refine well.append_entry (reads.node readKey) (reads.node readValue) fun entry member => ?_
      simpa using List.any_eq_false.mp (Bool.eq_false_iff.mpr fresh) entry (List.mem_reverse.mp member)

end ReadsWell

theorem readsWell (document : Document) (fuel : Nat) : ReadsWell document fuel := by
  induction fuel with
  | zero => constructor <;> simp [node?, items?, entries?]
  | succ fuel ih => exact ⟨ih.node_succ, ih.items_succ, ih.entries_succ⟩

end Document

/-- No mapping of a tree that a text writes has a key twice. -/
theorem Tree.wellFormed_of_parse? {text : String} {tree : Tree} (read : parse? text = some tree) : tree.WellFormed := by
  obtain ⟨tokens, _, read⟩ := Option.bind_eq_some_iff.mp read
  obtain ⟨events, _, read⟩ := Option.bind_eq_some_iff.mp read
  obtain ⟨document, _, read⟩ := Option.bind_eq_some_iff.mp read
  rw [Document.tree?] at read
  split at read
  · cases read
    exact .null
  · dsimp only at read
    split at read
    · cases read
      exact (document.readsWell _).node ‹_›
    · cases read

end Relink.Yaml
