import Relink.Yaml.Number

namespace Relink.Yaml

/-- The value of a document. A mapping keeps its entries in order. -/
inductive Tree where
  | null
  | bool (value : Bool)
  | number (value : Number)
  | text (value : String)
  | sequence (items : List Tree)
  | mapping (entries : List (Tree × Tree))
  | tagged (tag : String) (value : Tree)

namespace Tree

instance : Inhabited Tree := ⟨null⟩

mutual

/-- Whether two trees count as the same key: mappings do in whatever order their entries are. -/
def same : Tree → Tree → Bool
  | null, null => true
  | bool a, bool b => a == b
  | number a, number b => a.same b
  | text a, text b => a == b
  | sequence a, sequence b => sameItems a b
  | mapping a, mapping b => a.length == b.length && allFound a b
  | tagged s a, tagged t b => s == t && same a b
  | _, _ => false

/-- Whether two lists of trees are the same item by item. -/
def sameItems : List Tree → List Tree → Bool
  | [], [] => true
  | a :: as, b :: bs => same a b && sameItems as bs
  | _, _ => false

/-- Whether each of some entries is found among others. -/
def allFound : List (Tree × Tree) → List (Tree × Tree) → Bool
  | [], _ => true
  | (key, value) :: rest, others => found key value others && allFound rest others

/-- Whether an entry is found among others: the one with the same key has the same value. -/
def found (key value : Tree) : List (Tree × Tree) → Bool
  | [] => false
  | (k, v) :: rest => if same key k then same value v else found key value rest

end

/-- The tree inside of all tags. -/
def untagged : Tree → Tree
  | tagged _ value => untagged value
  | tree => tree

/-- Whether a tree is null, tags aside. -/
def isNull (tree : Tree) : Bool :=
  match tree.untagged with
  | null => true
  | _ => false

/-- The text of a tree, tags aside. -/
def text? (tree : Tree) : Option String :=
  match tree.untagged with
  | text value => some value
  | _ => none

/-- The value under a key among the entries of a mapping. -/
def lookup (key : Tree) (entries : List (Tree × Tree)) : Option Tree :=
  (entries.find? fun entry => same entry.1 key).map Prod.snd

/-- The value under a name among the entries of a mapping. -/
def valueOf? (name : String) : List (Tree × Tree) → Option Tree
  | [] => none
  | (text key, value) :: rest => if key = name then some value else valueOf? name rest
  | _ :: rest => valueOf? name rest

end Tree

end Relink.Yaml
