namespace Relink

structure Draft.Link where
  id : String
  driver : Option String := none
  address : Option String := none
  target : Option String := none
  emptyCriteria : Bool := false
  deriving DecidableEq

/-- A configuration to be written down as a document. Composites come with their members. -/
structure Draft where
  renderer : Option String := none
  ethernetsRenderer : Option String := none
  ethernets : List Draft.Link := []
  wifis : List Draft.Link := []
  bridges : List (String × List String) := []
  bonds : List (String × List String) := []
  deriving DecidableEq

namespace Draft

def Link.byDriver (id driver target : String) : Link where
  id := id
  driver := some driver
  target := some target

def Link.byAddress (id address target : String) : Link where
  id := id
  address := some address
  target := some target

/-- The lines on what a link is recognised by. -/
def Link.criteriaLines (link : Link) : List String :=
  if link.driver.isSome || link.address.isSome then
    ["      match:"] ++
      (link.driver.map fun driver => "        driver: " ++ driver).toList ++
      (link.address.map fun address => "        macaddress: \"" ++ address ++ "\"").toList
  else if link.emptyCriteria then ["      match: \x7b\x7d"]
  else []

def Link.targetLines (link : Link) : List String :=
  (link.target.map fun target => "      set-name: " ++ target).toList

/-- The lines of a link; one that says nothing is an empty mapping. -/
def Link.lines (link : Link) : List String :=
  match link.criteriaLines ++ link.targetLines with
  | [] => ["    " ++ link.id ++ ": \x7b\x7d"]
  | body => ("    " ++ link.id ++ ":") :: body

/-- The lines of a section of links, which may begin with a renderer. -/
def linkSection (name : String) (renderer : Option String) (links : List Link) : List String :=
  match (renderer.map fun renderer => "    renderer: " ++ renderer).toList ++ links.flatMap Link.lines with
  | [] => []
  | body => ("  " ++ name ++ ":") :: body

def compositeSection (name : String) (composites : List (String × List String)) : List String :=
  match composites with
  | [] => []
  | composites =>
    ("  " ++ name ++ ":") :: composites.flatMap fun (id, members) =>
      ["    " ++ id ++ ":", "      interfaces: [" ++ ", ".intercalate members ++ "]"]

def lines (draft : Draft) : List String :=
  ["network:", "  version: 2"] ++
    (draft.renderer.map fun renderer => "  renderer: " ++ renderer).toList ++
    linkSection "ethernets" draft.ethernetsRenderer draft.ethernets ++
    linkSection "wifis" none draft.wifis ++
    compositeSection "bridges" draft.bridges ++
    compositeSection "bonds" draft.bonds

def toText (draft : Draft) : String :=
  String.join (draft.lines.map (· ++ "\n"))

end Draft

end Relink
