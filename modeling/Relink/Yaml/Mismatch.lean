import Relink.Text.Literal
import Relink.Yaml.Tree

namespace Relink.Yaml

/-- Why a tree is not of the shape that is looked for. -/
inductive Mismatch where
  | wrongKind (found : Tree) (expected : String)
  | repeated (field : String)

namespace Mismatch

/-- The kind of a tree, with its value where that is short. -/
def kindOf : Tree → String
  | .null => "unit value"
  | .bool value => "boolean \x60" ++ (if value then "true" else "false") ++ "\x60"
  | .number (.integer value) => "integer \x60" ++ toString value ++ "\x60"
  | .number (.float value) => "floating point \x60" ++ value.toMessageText ++ "\x60"
  | .text value => "string " ++ Text.literal value
  | .sequence _ => "sequence"
  | .mapping _ => "map"
  | .tagged .. => "enum"

def message : Mismatch → String
  | wrongKind found expected =>
    "invalid type: " ++ kindOf found.untagged ++ ", expected " ++ expected
  | repeated field => "duplicate field \x60" ++ field ++ "\x60"

end Mismatch

namespace Tree

def readText (tree : Tree) : Except Mismatch String :=
  match tree.text? with
  | some content => .ok content
  | none => .error (.wrongKind tree "a string")

/-- What a tree says that may be left out: a plain null says nothing. -/
def readOption {α : Type} (read : Tree → Except Mismatch α) : Tree → Except Mismatch (Option α)
  | null => .ok none
  | tree => (read tree).map some

/-- The texts of a sequence; null stands for an empty one. -/
def readTexts (tree : Tree) : Except Mismatch (List String) :=
  match tree.untagged with
  | sequence items => items.mapM readText
  | null => .ok []
  | _ => .error (.wrongKind tree "a sequence")

/-- The entries of a mapping by the texts of their keys; null stands for an empty mapping. -/
def readEntries (expected : String) (tree : Tree) : Except Mismatch (List (Tree × Tree)) :=
  match tree.untagged with
  | mapping entries => .ok entries
  | null => .ok []
  | _ => .error (.wrongKind tree expected)

/-- Takes in the entries of a mapping one after the other. A field that the record knows may come once; fields
that it does not know are skipped. -/
def readFields {α : Type} (field : String → Option (Tree → α → Except Mismatch α))
    (seen : List String) (record : α) : List (Tree × Tree) → Except Mismatch α
  | [] => .ok record
  | (key, value) :: rest =>
    match key.text? with
    | none => .error (.wrongKind key "field identifier")
    | some name =>
      match field name with
      | none => readFields field seen record rest
      | some take =>
        if name ∈ seen then .error (.repeated name)
        else
          match take value record with
          | .error mismatch => .error mismatch
          | .ok record => readFields field (name :: seen) record rest

end Tree

end Relink.Yaml
