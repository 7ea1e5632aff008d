import Relink.Toml.Scalar
import Relink.Toml.Text

/-! Values of settings documents, and how keys and headers put them into tables. The way in which a table came
about decides what may still be added to it. -/

namespace Relink.Toml

/-- How a table came about: under a header; written out as a value; in passing, as a step of a header; or in
passing, as a step of a key with dots. -/
inductive Origin where
  | explicit
  | inline
  | byHeader
  | byKey
  deriving DecidableEq

/-- A value of a settings document. The arrays that headers fill are told from those that are written out. -/
inductive Value where
  | text (value : String)
  | integer (value : Int)
  | float (value : Binary64)
  | bool (value : Bool)
  | moment
  | array (items : List Value)
  | tables (items : List Value)
  | table (origin : Origin) (entries : List (String × Value))

abbrev Entries := List (String × Value)

namespace Entries

def get? (entries : Entries) (key : String) : Option Value :=
  entries.lookup key

/-- Puts another value under a key, or adds one at the end. -/
def set (key : String) (value : Value) : Entries → Entries
  | [] => [(key, value)]
  | entry :: rest => if entry.1 = key then (key, value) :: rest else entry :: set key value rest

/-- Changes the entries of the table that a path leads to, with its origin. Tables that lack on the way come
about in passing; of tables that headers fill the last one is meant. A key with dots may not lead into a
table that is written out. -/
def change? (passing : Origin) (f : Origin → Entries → Option (Origin × Entries)) (origin : Origin) :
    List String → Entries → Option (Origin × Entries)
  | [], entries => f origin entries
  | step :: path, entries =>
    match entries.get? step with
    | none =>
      (change? passing f passing path []).map fun (o, inner) =>
        (origin, entries.set step (.table o inner))
    | some (.table o inner) =>
      if o = .inline ∨ (passing = .byKey ∧ o = .explicit) then none
      else
        (change? passing f o path inner).map fun (o, inner) =>
          (origin, entries.set step (.table o inner))
    | some (.tables items) =>
      match items.reverse with
      | .table o inner :: earlier =>
        (change? passing f o path inner).map fun (o, inner) =>
          (origin, entries.set step (.tables (earlier.reverse ++ [.table o inner])))
      | _ => none
    | some _ => none

/-- Adds a value under a key with dots. The table it goes into must have come about the same way. -/
def assign? (path : List String) (key : String) (value : Value) (origin : Origin) (entries : Entries) :
    Option (Origin × Entries) :=
  let add (o : Origin) (inner : Entries) : Option (Origin × Entries) :=
    if (o == .byKey) == path.isEmpty then none
    else
      match inner.get? key with
      | none => some (o, inner.set key value)
      | some _ => none
  change? .byKey add origin path entries

/-- Begins the table of a header. One that came about in passing, by a header, is meant. -/
def openTable? (path : List String) (key : String) (entries : Entries) : Option Entries :=
  let begin (o : Origin) (inner : Entries) : Option (Origin × Entries) :=
    match inner.get? key with
    | none => some (o, inner.set key (.table .explicit []))
    | some (.table .byHeader earlier) => some (o, inner.set key (.table .explicit earlier))
    | some _ => none
  (change? .byHeader begin .explicit path entries).map Prod.snd

/-- Begins the next one of the tables of a header in double brackets. -/
def openNext? (path : List String) (key : String) (entries : Entries) : Option Entries :=
  let begin (o : Origin) (inner : Entries) : Option (Origin × Entries) :=
    match inner.get? key with
    | none => some (o, inner.set key (.tables [.table .explicit []]))
    | some (.tables items) => some (o, inner.set key (.tables (items ++ [.table .explicit []])))
    | some _ => none
  (change? .byHeader begin .explicit path entries).map Prod.snd

end Entries

end Relink.Toml
