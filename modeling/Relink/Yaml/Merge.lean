import Relink.Yaml.Tree

namespace Relink.Yaml.Tree

/-- Puts another value under a key that entries hold. -/
def replace (key value : Tree) : List (Tree × Tree) → List (Tree × Tree)
  | [] => []
  | entry :: rest =>
    if same entry.1 key then (entry.1, value) :: rest else entry :: replace key value rest

mutual

/-- Lays a tree over another: mappings go together key by key, a null changes nothing, and anything else
takes the place of what was there. -/
def merge : Tree → Tree → Tree
  | base, null => base
  | mapping entries, mapping overlay => mapping (mergeEntries entries overlay)
  | _, overlay => overlay

/-- Lays entries over others: those of a new key come last. -/
def mergeEntries : List (Tree × Tree) → List (Tree × Tree) → List (Tree × Tree)
  | entries, [] => entries
  | entries, (key, value) :: rest =>
    match lookup key entries with
    | some existing => mergeEntries (replace key (merge existing value) entries) rest
    | none => mergeEntries (entries ++ [(key, value)]) rest

end

/-- Lays trees one after the other over a first one. -/
def mergeAll (base : Tree) (overlays : List Tree) : Tree :=
  overlays.foldl merge base

end Relink.Yaml.Tree
