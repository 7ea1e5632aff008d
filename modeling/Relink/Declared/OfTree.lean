import Relink.Declared.Basic
import Relink.Failure
import Relink.Yaml.Document
import Relink.Yaml.Mismatch

/-! Reading a configuration from the tree of a document. A definition that is repeated under another section
goes where the first one stood. -/

namespace Relink

open Yaml (Tree Mismatch)

inductive Declared.Problem where
  | unreadable
  | topLevel
  | network
  | sectionKind (name : String)
  | sectionKeys (name : String)
  | definition (id : String) (mismatch : Mismatch)
  | composite (group id : String) (mismatch : Mismatch)

namespace Declared

/-- The wording of a problem. What a reader of documents says of a text that it cannot read is no part of it. -/
def Problem.message : Problem → String
  | unreadable => "invalid YAML"
  | topLevel => "top level must be a mapping"
  | network => "'network' must be a mapping"
  | sectionKind name => "'" ++ name ++ "' must be a mapping"
  | sectionKeys name => name ++ " keys must be strings"
  | definition id mismatch => "invalid definition " ++ id ++ ": " ++ mismatch.message
  | composite name id mismatch =>
    "invalid " ++ name ++ " definition " ++ id ++ ": " ++ mismatch.message

/-- The failure that a problem of the configuration is reported as. -/
def Problem.toFailure (problem : Problem) : Failure :=
  .configuration problem.message

/-- What the definition of a physical link may say. -/
structure Settings where
  criteria : Option Criteria
  target : Option String

def criteriaField : String → Option (Tree → Criteria → Except Mismatch Criteria)
  | "driver" => some fun value criteria =>
    (value.readOption Tree.readText).map fun driver => { criteria with driver := driver }
  | "macaddress" => some fun value criteria =>
    (value.readOption Tree.readText).map fun address => { criteria with address := address }
  | _ => none

/-- Reads what a link is recognised by. -/
def readCriteria (tree : Tree) : Except Mismatch Criteria := do
  let entries ← tree.readEntries "struct MatchCriteria"
  Tree.readFields criteriaField [] ⟨none, none⟩ entries

/-- The fields of the definition of a physical link. -/
def settingsField : String → Option (Tree → Settings → Except Mismatch Settings)
  | "match" => some fun value settings =>
    (value.readOption readCriteria).map fun criteria => { settings with criteria := criteria }
  | "set-name" => some fun value settings =>
    (value.readOption Tree.readText).map fun target => { settings with target := target }
  | _ => none

def readSettings (tree : Tree) : Except Mismatch Settings := do
  let entries ← tree.readEntries "struct PhysicalSettings"
  Tree.readFields settingsField [] ⟨none, none⟩ entries

def membersField : String → Option (Tree → List String → Except Mismatch (List String))
  | "interfaces" => some fun value _ => value.readTexts
  | _ => none

def readMembers (tree : Tree) : Except Mismatch (List String) := do
  let entries ← tree.readEntries "struct CompositeSettings"
  Tree.readFields membersField [] [] entries

def sectionEntries (network : List (Tree × Tree)) (name : String) :
    Except Problem (List (String × Tree)) :=
  match Tree.valueOf? name network with
  | none | some .null => .ok []
  | some (.mapping entries) =>
    entries.mapM fun (key, value) =>
      match key.text? with
      | some id => .ok (id, value)
      | none => .error (.sectionKeys name)
  | some _ => .error (.sectionKind name)

/-- The rule of a definition. The renderer's key and an empty definition say nothing. -/
def readRule (id : String) (settings : Tree) : Except Problem Rule :=
  if id = rendererKey || settings.isNull then .ok ⟨id, none, none⟩
  else
    match readSettings settings with
    | .ok settings => .ok ⟨id, settings.target, settings.criteria⟩
    | .error mismatch => .error (.definition id mismatch)

/-- Puts a rule in the place of the one with its id, or else at the end. -/
def putRule (rule : Rule) : List Rule → List Rule
  | [] => [rule]
  | first :: rest => if first.id = rule.id then rule :: rest else first :: putRule rule rest

/-- Reads the definitions of a section of physical links over those of the sections before. -/
def readRules (rules : List Rule) : List (String × Tree) → Except Problem (List Rule)
  | [] => .ok rules
  | (id, settings) :: rest =>
    match readRule id settings with
    | .ok rule => readRules (putRule rule rules) rest
    | .error problem => .error problem

/-- Reads the definitions of a section of composites; the renderer's key is none. -/
def readComposites (name : String) : List (String × Tree) → Except Problem (List Composite)
  | [] => .ok []
  | (id, settings) :: rest => do
    if id = rendererKey then readComposites name rest
    else
      let members ←
        if settings.isNull then .ok []
        else
          match readMembers settings with
          | .ok members => .ok members
          | .error mismatch => .error (.composite name id mismatch)
      let more ← readComposites name rest
      return ⟨id, NameSet.ofNames members⟩ :: more

/-- Reads the sections of the network in order: links by cable, links by radio, bridges, bonds. -/
def ofNetwork (network : List (Tree × Tree)) : Except Problem Declared := do
  let rules ← readRules [] (← sectionEntries network "ethernets")
  let rules ← readRules rules (← sectionEntries network "wifis")
  let bridges ← readComposites "bridges" (← sectionEntries network "bridges")
  let bonds ← readComposites "bonds" (← sectionEntries network "bonds")
  return ⟨rules, bridges ++ bonds⟩

/-- Reads a document's tree. One that says nothing of the network declares nothing. -/
def ofTree (tree : Tree) : Except Problem Declared :=
  match tree with
  | .null => .ok empty
  | .mapping entries =>
    match Tree.valueOf? "network" entries with
    | none | some .null => .ok empty
    | some (.mapping network) => ofNetwork network
    | some _ => .error .network
  | _ => .error .topLevel

def ofText (text : String) : Except Problem Declared :=
  match Tree.parse? text with
  | some tree => ofTree tree
  | none => .error .unreadable

end Declared

end Relink
