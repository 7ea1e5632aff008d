import Relink.Yaml.Resolve

/-! Reading the tree of a document from its events. An alias is read where its anchor begins, and two limits
keep that finite: on depth, and on aliases followed. -/

namespace Relink.Yaml

/-- The events of a document, its aliases known by the number of what they name. -/
inductive Step where
  | alias (target : Nat)
  | scalar (tag : Option Text.Octets) (text : String) (plain : Bool)
  | sequenceStart (tag : Option Text.Octets)
  | sequenceEnd
  | mappingStart (tag : Option Text.Octets)
  | mappingEnd

/-- A document to be read: its steps, and where the steps begin that a number names. A number is given out for
each anchor and is the count of the different names before it, so that a name that is used anew can lead to
one number twice; the later node then has it. -/
structure Document where
  steps : List Step
  targets : List (Nat × Nat)

namespace Document

/-- The anchors seen so far, by name, and the nodes that their numbers lead to, latest first. -/
structure Anchors where
  numbers : List (String × Nat)
  targets : List (Nat × Nat)

namespace Anchors

/-- Notes the anchor of a node, if it has one, that begins at a step. -/
def note (anchors : Anchors) (step : Nat) : Option String → Anchors
  | none => anchors
  | some name =>
    let number := anchors.numbers.length
    ⟨(name, number) :: anchors.numbers.filter (·.1 ≠ name), (number, step) :: anchors.targets⟩

end Anchors

/-- Numbers the aliases of events from a step on; each must name an anchor before it. -/
def ofEventsFrom? (anchors : Anchors) (index : Nat) (steps : List Step) : List Event → Option Document
  | [] => some ⟨steps.reverse, anchors.targets⟩
  | event :: rest =>
    match event with
    | .alias name =>
      match anchors.numbers.lookup name with
      | some number => ofEventsFrom? anchors (index + 1) (.alias number :: steps) rest
      | none => none
    | .scalar properties text plain =>
      ofEventsFrom? (anchors.note index properties.anchor) (index + 1)
        (.scalar properties.tag text plain :: steps) rest
    | .sequenceStart properties =>
      ofEventsFrom? (anchors.note index properties.anchor) (index + 1)
        (.sequenceStart properties.tag :: steps) rest
    | .mappingStart properties =>
      ofEventsFrom? (anchors.note index properties.anchor) (index + 1)
        (.mappingStart properties.tag :: steps) rest
    | .sequenceEnd => ofEventsFrom? anchors (index + 1) (.sequenceEnd :: steps) rest
    | .mappingEnd => ofEventsFrom? anchors (index + 1) (.mappingEnd :: steps) rest

def ofEvents? (events : List Event) : Option Document :=
  ofEventsFrom? ⟨[], []⟩ 0 [] events

/-- How deep collections may be nested. -/
def greatestDepth : Nat := 128

/-- How many aliases may be followed for each step of the document. -/
def aliasesPerStep : Nat := 100

/-- What was read, the number of aliases followed so far, and the steps left. -/
structure Progress (α : Type) where
  value : α
  followed : Nat
  rest : List Step

mutual

/-- Reads a node at which `depth` further collections may nest. -/
def node? (document : Document) : Nat → Nat → Nat → List Step → Option (Progress Tree)
  | 0, _, _, _ => none
  | _ + 1, _, _, [] => none
  | fuel + 1, depth, followed, step :: rest =>
    match step with
    | .alias number =>
      if document.steps.length * aliasesPerStep < followed + 1 then none
      else
        match document.targets.lookup number with
        | none => none
        | some index =>
          (node? document fuel depth (followed + 1) (document.steps.drop index)).map fun progress =>
            { progress with rest := rest }
    | .scalar tag text plain =>
      let tree :=
        match Tree.ownTag? tag with
        | some name =>
          (if plain then Tree.ofPlain? text else some (.text text)).map (Tree.tagged name)
        | none => Tree.ofScalar? tag text plain
      tree.map fun tree => ⟨tree, followed, rest⟩
    | .sequenceStart tag =>
      match depth with
      | 0 => none
      | depth + 1 => do
        let progress ← items? document fuel depth followed rest
        let tree := Tree.sequence progress.value
        let tree := (Tree.ownTag? tag).elim tree (Tree.tagged · tree)
        return ⟨tree, progress.followed, progress.rest⟩
    | .mappingStart tag =>
      match depth with
      | 0 => none
      | depth + 1 => do
        let progress ← entries? document fuel depth followed [] rest
        let tree := Tree.mapping progress.value
        let tree := (Tree.ownTag? tag).elim tree (Tree.tagged · tree)
        return ⟨tree, progress.followed, progress.rest⟩
    | .sequenceEnd => none
    | .mappingEnd => none

def items? (document : Document) : Nat → Nat → Nat → List Step → Option (Progress (List Tree))
  | 0, _, _, _ => none
  | _ + 1, _, followed, .sequenceEnd :: rest => some ⟨[], followed, rest⟩
  | fuel + 1, depth, followed, steps => do
    let item ← node? document fuel depth followed steps
    let more ← items? document fuel depth item.followed item.rest
    return { more with value := item.value :: more.value }

/-- Reads the entries of a mapping to its end, after those in `before`; no key may be the same as an
earlier one. -/
def entries? (document : Document) :
    Nat → Nat → Nat → List (Tree × Tree) → List Step → Option (Progress (List (Tree × Tree)))
  | 0, _, _, _, _ => none
  | _ + 1, _, followed, before, .mappingEnd :: rest => some ⟨before.reverse, followed, rest⟩
  | fuel + 1, depth, followed, before, steps => do
    let key ← node? document fuel depth followed steps
    if before.any fun entry => entry.1.same key.value then none
    let value ← node? document fuel depth key.followed key.rest
    entries? document fuel depth value.followed ((key.value, value.value) :: before) value.rest

end

/-- The tree of a document. A document without steps is null. The fuel covers every step of the nodes that
the allowed number of aliases lead to. -/
def tree? (document : Document) : Option Tree :=
  match document.steps with
  | [] => some .null
  | steps =>
    let count := steps.length
    let fuel := 2 * (count + 1) * (count * aliasesPerStep + 2)
    match document.node? fuel greatestDepth 0 steps with
    | some ⟨tree, _, []⟩ => some tree
    | _ => none

end Document

/-- The tree that a document text writes. -/
def Tree.parse? (text : String) : Option Tree := do
  let tokens ← tokens? text
  let events ← Event.ofTokens? tokens
  let document ← Document.ofEvents? events
  document.tree?

end Relink.Yaml
