import Relink.Table

namespace Relink

/-- What a device must show to be meant by a rule. -/
structure Criteria where
  driver : Option String
  address : Option String
  deriving DecidableEq

/-- What is declared of one physical link: the name it shall have, and by what it is recognised. -/
structure Rule where
  id : String
  target : Option String
  criteria : Option Criteria
  deriving DecidableEq

/-- The key among the links of a section that selects a renderer instead of naming a link. -/
def rendererKey : String := "renderer"

def Rule.isRenderer (rule : Rule) : Bool :=
  rule.id == rendererKey

/-- A declared bridge or bond with the links it is made of. -/
structure Composite where
  id : String
  members : NameSet

/-- The declared configuration: physical links and composites, each in order of declaration. -/
structure Declared where
  rules : List Rule
  composites : List Composite

namespace Declared

def empty : Declared := ⟨[], []⟩

instance : EmptyCollection Declared := ⟨empty⟩

def isPhysical (declared : Declared) (name : String) : Bool :=
  name != rendererKey && declared.rules.any (·.id == name)

end Declared

namespace Composite

/-- The first composite that has a link as a member. -/
def parentOf? (composites : List Composite) (name : String) : Option Composite :=
  composites.find? (·.members.contains name)

def isMember (composites : List Composite) (name : String) : Bool :=
  (parentOf? composites name).isSome

end Composite

end Relink
