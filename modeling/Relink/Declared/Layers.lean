import Relink.Declared.OfTree
import Relink.Glob.Search
import Relink.Yaml.Merge

/-! Documents from several directories as one configuration. Of two documents with one name the one in the
later directory counts, and documents are laid over each other in the order of their names. -/

namespace Relink.Declared

open Yaml (Tree)

inductive LayerFailure where
  | file (path : String) (cause : SystemError)
  | text (path : String)

/-- The failure that is reported. Where and why a text cannot be read is not told. -/
def LayerFailure.toFailure : LayerFailure → Failure
  | file path cause => .file path cause
  | text path => .configuration ("invalid YAML in " ++ path)

def documentsIn (files : Files.Tree) (here : Files.Place) (directory : String) : List String :=
  (Glob.paths files here (Glob.Pattern.escape directory ++ "/*.yaml")).toOption.getD []

/-- The documents that count, by their names: of two with the same name the one in the later directory. -/
def effective (files : Files.Tree) (here : Files.Place) (directories : List String) : Table String :=
  (directories.flatMap (documentsIn files here)).foldl (fun table path =>
    match Files.Path.fileName? path with
    | some name => table.insert name path
    | none => table) ∅

/-- The paths of the documents that count, in the order of their names. -/
def documents (files : Files.Tree) (here : Files.Place) (directories : List String) : List String :=
  (effective files here directories).entries.map Prod.snd

/-- Lays a document over those before it. The first that says anything stands as it is. -/
def layer (base overlay : Tree) : Tree :=
  if base.isNull then overlay else base.merge overlay

def layerAll (files : Files.Tree) (here : Files.Place) (base : Tree) :
    List String → Except LayerFailure Tree
  | [] => .ok base
  | path :: rest =>
    match files.readText here path with
    | .error cause => .error (.file path cause)
    | .ok text =>
      match Tree.parse? text with
      | none => .error (.text path)
      | some tree => layerAll files here (layer base tree) rest

/-- The tree of the documents in some directories, those of the lowest precedence first. -/
def merged (files : Files.Tree) (here : Files.Place) (directories : List String) :
    Except LayerFailure Tree :=
  layerAll files here .null (documents files here directories)

def load (files : Files.Tree) (here : Files.Place) (directories : List String) :
    Except Failure Declared :=
  match merged files here directories with
  | .error failure => .error failure.toFailure
  | .ok tree =>
    match ofTree tree with
    | .ok declared => .ok declared
    | .error problem => .error problem.toFailure

end Relink.Declared
