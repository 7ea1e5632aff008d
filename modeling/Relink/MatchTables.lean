import Relink.Declared.Basic
import Relink.Link.Mac

namespace Relink

open Link (Mac)

/-- The names that the rules give to drivers and to addresses, the latest first. -/
structure MatchTables where
  byDriver : List (String × String)
  byAddress : List (Mac × String)
  deriving DecidableEq

namespace MatchTables

def empty : MatchTables := ⟨[], []⟩

/-- Notes what a rule gives its name to. An address that cannot be read gets none. -/
def note (tables : MatchTables) (target : String) (criteria : Criteria) : MatchTables where
  byDriver :=
    match criteria.driver with
    | some driver => (driver, target) :: tables.byDriver
    | none => tables.byDriver
  byAddress :=
    match criteria.address.map Mac.parse with
    | some (.ok address) => (address, target) :: tables.byAddress
    | _ => tables.byAddress

/-- Adds a rule; only one that names a target and has criteria, and is not the renderer's, counts. -/
def add (tables : MatchTables) (rule : Rule) : MatchTables :=
  if rule.isRenderer then tables
  else
    match rule.target, rule.criteria with
    | some target, some criteria => tables.note target criteria
    | _, _ => tables

/-- The tables of a list of rules, later ones prevailing. -/
def ofRules (rules : List Rule) : MatchTables :=
  rules.foldl add empty

def forDriver? (tables : MatchTables) (driver : String) : Option String :=
  tables.byDriver.lookup driver

def forAddress? (tables : MatchTables) (address : Mac) : Option String :=
  tables.byAddress.lookup address

def isEmpty (tables : MatchTables) : Bool :=
  tables.byDriver.isEmpty && tables.byAddress.isEmpty

end MatchTables

end Relink
