import Mathlib
import Relink.Declared.Layers
import Relink.Proofs.Files.Outline
import Relink.Proofs.Glob.Escape
import Relink.Proofs.Table
import Relink.Proofs.Text.ByteOrder
import Relink.Proofs.Yaml.Layering

/-! Which documents count, and what reading them one after the other gives. A directory takes the documents of its names
from those before it, the first document that cannot be taken in ends the reading, and what a document that does not
count holds is never read. -/

namespace Relink.Declared

open Yaml (Tree)

/-- The names of the documents in a directory: those of its entries that end as a document's does. -/
def documentNames (files : Files.Tree) (here : Files.Place) (directory : String) : List String :=
  ((files.list here directory).toOption.getD []).filter fun name => ".yaml".toList.isSuffixOf name.toList

/-- A path that leads where a name in a directory does, however it is spelled. -/
structure LeadsTo (files : Files.Tree) (here : Files.Place) (directory name path : String) : Prop where
  named : Files.Path.fileName? path = some name
  target : files.resolve true here path = files.resolve true here (Files.Path.join directory name)

/-- A directory in which the documents found are those that it lists. -/
structure ListsDocuments (files : Files.Tree) (here : Files.Place) (directory : String) : Prop where
  complete : ∀ name ∈ documentNames files here directory,
    ∃ path ∈ documentsIn files here directory, LeadsTo files here directory name path
  sound : ∀ path ∈ documentsIn files here directory,
    ∃ name ∈ documentNames files here directory, LeadsTo files here directory name path

/-- A document that can be read, as a tree. -/
def Reads (files : Files.Tree) (here : Files.Place) (path : String) (tree : Tree) : Prop :=
  ∃ text, files.readText here path = .ok text ∧ Tree.parse? text = some tree

/-- A document that cannot be read, with the failure that tells of it. -/
inductive Refuses (files : Files.Tree) (here : Files.Place) (path : String) : Failure → Prop where
  | file {cause : SystemError} : files.readText here path = .error cause → Refuses files here path (.file path cause)
  | text {text : String} : files.readText here path = .ok text → Tree.parse? text = none →
    Refuses files here path (.configuration ("invalid YAML in " ++ path))

/-- The failure of the first of some documents that cannot be read. -/
def FirstRefuses (files : Files.Tree) (here : Files.Place) (paths : List String) (failure : Failure) : Prop :=
  ∃ before path after, paths = before ++ path :: after ∧
    (∀ earlier ∈ before, ∃ tree, Reads files here earlier tree) ∧ Refuses files here path failure

/-- A name that the last of some directories that has it gives to a path. -/
def LastGives (files : Files.Tree) (here : Files.Place) (directories : List String) (name path : String) : Prop :=
  ∃ earlier directory later, directories = earlier ++ directory :: later ∧
    name ∈ documentNames files here directory ∧ path ∈ documentsIn files here directory ∧
    LeadsTo files here directory name path ∧ ∀ other ∈ later, name ∉ documentNames files here other

variable {files other : Files.Tree} {here : Files.Place} {directories : List String} {name path : String}

def entriesOf (paths : List String) : List (String × String) :=
  paths.filterMap fun path => (Files.Path.fileName? path).map fun name => (name, path)

theorem mem_entriesOf {paths : List String} :
    (name, path) ∈ entriesOf paths ↔ path ∈ paths ∧ Files.Path.fileName? path = some name := by
  simp only [entriesOf, List.mem_filterMap, Option.map_eq_some_iff, Prod.mk.injEq]
  constructor
  · rintro ⟨path, member, name, named, rfl, rfl⟩
    exact ⟨member, named⟩
  · rintro ⟨member, named⟩
    exact ⟨path, member, name, named, rfl, rfl⟩

theorem effective_eq (files : Files.Tree) (here : Files.Place) (directories : List String) :
    effective files here directories = Table.ofList (entriesOf (directories.flatMap (documentsIn files here))) := by
  rw [effective, Table.ofList, entriesOf]
  generalize (∅ : Table String) = table
  induction directories.flatMap (documentsIn files here) generalizing table with
  | nil => rfl
  | cons path rest ih =>
    cases named : Files.Path.fileName? path with
    | none => simp [named, ih]
    | some name => simp [named, ih]

theorem effective_concat (files : Files.Tree) (here : Files.Place) (directories : List String) (directory : String) :
    effective files here (directories ++ [directory]) =
      (effective files here directories).insertAll (entriesOf (documentsIn files here directory)) := by
  rw [effective_eq, effective_eq, List.flatMap_append, entriesOf, List.filterMap_append, Table.ofList_eq,
    Table.insertAll_append, ← Table.ofList_eq, List.flatMap_singleton]
  rfl

namespace ListsDocuments

variable {directory : String} (listed : ListsDocuments files here directory)
include listed

theorem leadsTo (found : path ∈ documentsIn files here directory) (named : Files.Path.fileName? path = some name) :
    name ∈ documentNames files here directory ∧ LeadsTo files here directory name path := by
  obtain ⟨name', member, leads⟩ := listed.sound path found
  obtain rfl : name' = name := Option.some.inj (leads.named.symm.trans named)
  exact ⟨member, leads⟩

theorem mem_documentNames_iff :
    name ∈ documentNames files here directory ↔
      ∃ path ∈ documentsIn files here directory, Files.Path.fileName? path = some name := by
  constructor
  · intro member
    obtain ⟨path, found, leads⟩ := listed.complete name member
    exact ⟨path, found, leads.named⟩
  · rintro ⟨path, found, named⟩
    exact (listed.leadsTo found named).1

theorem of_lookup (given : (entriesOf (documentsIn files here directory)).reverse.lookup name = some path) :
    name ∈ documentNames files here directory ∧ path ∈ documentsIn files here directory ∧
      LeadsTo files here directory name path := by
  obtain ⟨before, after, split, _⟩ := List.lookup_eq_some_iff.mp given
  have among : (name, path) ∈ entriesOf (documentsIn files here directory) :=
    List.mem_reverse.mp (by simp [split])
  obtain ⟨found, named⟩ := mem_entriesOf.mp among
  obtain ⟨member, leads⟩ := listed.leadsTo found named
  exact ⟨member, found, leads⟩

theorem not_mem_of_lookup (none : (entriesOf (documentsIn files here directory)).reverse.lookup name = none) :
    name ∉ documentNames files here directory := by
  intro member
  obtain ⟨path, found, leads⟩ := listed.complete name member
  have among : (name, path) ∈ (entriesOf (documentsIn files here directory)).reverse :=
    List.mem_reverse.mpr (mem_entriesOf.mpr ⟨found, leads.named⟩)
  have differs := List.lookup_eq_none_iff.mp none _ among
  simp at differs

end ListsDocuments

/-- A directory that does not have the name changes nothing about who gives it last. -/
theorem LastGives.concat {directory : String} (gives : LastGives files here directories name path)
    (absent : name ∉ documentNames files here directory) :
    LastGives files here (directories ++ [directory]) name path := by
  obtain ⟨earlier, owner, later, rfl, member, found, leads, last⟩ := gives
  refine ⟨earlier, owner, later ++ [directory], by simp, member, found, leads, ?_⟩
  intro other given
  rcases List.mem_append.mp given with before | final
  · exact last other before
  · obtain rfl := List.mem_singleton.mp final
    exact absent

/-- The names of the documents that count are those that some directory lists. -/
theorem mem_names_effective_iff (listed : ∀ directory ∈ directories, ListsDocuments files here directory) :
    name ∈ (effective files here directories).names ↔
      ∃ directory ∈ directories, name ∈ documentNames files here directory := by
  rw [effective_eq, Table.mem_names_ofList]
  constructor
  · intro member
    obtain ⟨⟨name, path⟩, among, rfl⟩ := List.mem_map.mp member
    obtain ⟨found, named⟩ := mem_entriesOf.mp among
    obtain ⟨directory, given, found⟩ := List.mem_flatMap.mp found
    exact ⟨directory, given, (listed directory given).mem_documentNames_iff.mpr ⟨path, found, named⟩⟩
  · rintro ⟨directory, given, member⟩
    obtain ⟨path, found, named⟩ := (listed directory given).mem_documentNames_iff.mp member
    exact List.mem_map.mpr ⟨(name, path), mem_entriesOf.mpr ⟨List.mem_flatMap.mpr ⟨directory, given, found⟩, named⟩, rfl⟩

/-- By induction on the directories from the last on: it gives the path if it has the name, and leaves the path of those
before it if not. -/
theorem lastGives_of_get?_effective (listed : ∀ directory ∈ directories, ListsDocuments files here directory)
    (found : (effective files here directories).get? name = some path) :
    LastGives files here directories name path := by
  induction directories using List.reverseRecOn with
  | nil => simp [effective, Table.get?_empty] at found
  | append_singleton directories directory ih =>
    have lists := listed directory (by simp)
    rw [effective_concat, Table.get?_insertAll] at found
    cases given : (entriesOf (documentsIn files here directory)).reverse.lookup name with
    | some other =>
      obtain rfl : other = path := by simpa [given] using found
      obtain ⟨member, inside, leads⟩ := lists.of_lookup given
      exact ⟨directories, directory, [], rfl, member, inside, leads, by simp⟩
    | none =>
      rw [given, Option.none_or] at found
      exact (ih (fun directory given => listed directory (by simp [given])) found).concat (lists.not_mem_of_lookup given)

section Reading

variable {base tree : Tree} {trees : List Tree} {paths : List String} {failure : Failure}

theorem Reads.unique {first second : Tree} (reads : Reads files here path first) (again : Reads files here path second) :
    first = second := by
  obtain ⟨text, read, parsed⟩ := reads
  obtain ⟨text', read', parsed'⟩ := again
  obtain rfl : text = text' := Except.ok.inj (read.symm.trans read')
  exact Option.some.inj (parsed.symm.trans parsed')

theorem Refuses.not_reads (refuses : Refuses files here path failure) : ¬ Reads files here path tree := by
  rintro ⟨text, read, parsed⟩
  cases refuses with
  | file refused => cases read.symm.trans refused
  | text given none =>
    obtain rfl := Except.ok.inj (given.symm.trans read)
    cases parsed.symm.trans none

theorem Refuses.unique {first second : Failure} (refuses : Refuses files here path first)
    (again : Refuses files here path second) : first = second := by
  cases refuses with
  | file refused =>
    cases again with
    | file refused' => rw [Except.error.inj (refused.symm.trans refused')]
    | text given => cases given.symm.trans refused
  | text given =>
    cases again with
    | file refused => cases given.symm.trans refused
    | text => rfl

theorem layerAll_cons (files : Files.Tree) (here : Files.Place) (path : String) :
    (∃ tree, Reads files here path tree ∧
      ∀ base rest, layerAll files here base (path :: rest) = layerAll files here (layer base tree) rest) ∨
    ∃ failure : LayerFailure, Refuses files here path failure.toFailure ∧
      ∀ base rest, layerAll files here base (path :: rest) = .error failure := by
  cases read : files.readText here path with
  | error cause =>
    right
    exact ⟨.file path cause, .file read, fun base rest => by simp [layerAll, read]⟩
  | ok text =>
    cases parsed : Tree.parse? text with
    | none =>
      right
      exact ⟨.text path, .text read parsed, fun base rest => by simp [layerAll, read, parsed]⟩
    | some tree =>
      left
      exact ⟨tree, ⟨text, read, parsed⟩, fun base rest => by simp [layerAll, read, parsed]⟩

theorem layerAll_eq_ok_iff :
    layerAll files here base paths = .ok tree ↔
      ∃ trees, paths.Forall₂ (Reads files here) trees ∧ tree = trees.foldl layer base := by
  induction paths generalizing base with
  | nil => simp [layerAll, eq_comm]
  | cons path rest ih =>
    obtain ⟨first, reads, goesOn⟩ | ⟨failure, refuses, ends⟩ := layerAll_cons files here path
    · rw [goesOn, ih]
      constructor
      · rintro ⟨trees, each, rfl⟩
        exact ⟨first :: trees, .cons reads each, rfl⟩
      · rintro ⟨trees, each, rfl⟩
        cases each with
        | cons again each =>
          obtain rfl := reads.unique again
          exact ⟨_, each, rfl⟩
    · rw [ends]
      constructor
      · intro wrong
        cases wrong
      · rintro ⟨trees, each, rfl⟩
        cases each with
        | cons reads each => exact absurd reads refuses.not_reads

theorem exists_reads_of_mem (each : paths.Forall₂ (Reads files here) trees) (member : tree ∈ trees) :
    ∃ path ∈ paths, Reads files here path tree := by
  induction each with
  | nil => cases member
  | cons reads _ ih =>
    rcases List.mem_cons.mp member with rfl | later
    · exact ⟨_, List.mem_cons_self, reads⟩
    · obtain ⟨path, among, reads⟩ := ih later
      exact ⟨path, List.mem_cons_of_mem _ among, reads⟩

theorem firstRefuses_cons_iff :
    FirstRefuses files here (path :: paths) failure ↔
      Refuses files here path failure ∨ (∃ tree, Reads files here path tree) ∧ FirstRefuses files here paths failure := by
  constructor
  · rintro ⟨before, refused, after, split, each, refuses⟩
    cases before with
    | nil =>
      obtain ⟨rfl, rfl⟩ := List.cons.inj split
      exact .inl refuses
    | cons earlier before =>
      obtain ⟨rfl, rfl⟩ := List.cons.inj split
      obtain ⟨reads, each⟩ := List.forall_mem_cons.mp each
      exact .inr ⟨reads, before, refused, after, rfl, each, refuses⟩
  · rintro (refuses | ⟨reads, before, refused, after, rfl, each, refuses⟩)
    · exact ⟨[], path, paths, rfl, by simp, refuses⟩
    · exact ⟨path :: before, refused, after, rfl, List.forall_mem_cons.mpr ⟨reads, each⟩, refuses⟩

theorem layerAll_fails_iff :
    (layerAll files here base paths).mapError LayerFailure.toFailure = .error failure ↔
      FirstRefuses files here paths failure := by
  induction paths generalizing base with
  | nil => simp [layerAll, Except.mapError, FirstRefuses]
  | cons path rest ih =>
    rw [firstRefuses_cons_iff]
    obtain ⟨tree, reads, goesOn⟩ | ⟨cause, refuses, ends⟩ := layerAll_cons files here path
    · rw [goesOn, ih]
      constructor
      · exact fun refuses => .inr ⟨⟨tree, reads⟩, refuses⟩
      · rintro (refuses | ⟨_, refuses⟩)
        · exact absurd reads refuses.not_reads
        · exact refuses
    · rw [ends, Except.mapError, Except.error.injEq]
      constructor
      · rintro rfl
        exact .inl refuses
      · rintro (again | ⟨⟨tree, reads⟩, _⟩)
        · exact refuses.unique again
        · exact absurd reads refuses.not_reads

/-- Only null without tags is null: what is laid over it stands as it is, as in a merge. -/
theorem layer_eq_merge (proper : base.isNull = true → base = .null) (overlay : Tree) :
    layer base overlay = base.merge overlay := by
  unfold layer
  split
  · rw [proper ‹_›, Tree.null_merge]
  · rfl

theorem proper_merge {overlay : Tree} (proper : base.isNull = true → base = .null)
    (laid : overlay.isNull = true → overlay = .null) :
    (base.merge overlay).isNull = true → base.merge overlay = .null := by
  cases overlay with
  | null => rwa [Tree.merge_null]
  | mapping entries => cases base <;> simp [Tree.merge, Tree.isNull, Tree.untagged]
  | _ => simpa [Tree.merge] using laid

theorem foldl_layer (proper : base.isNull = true → base = .null)
    (each : ∀ tree ∈ trees, tree.isNull = true → tree = .null) : trees.foldl layer base = base.mergeAll trees := by
  induction trees generalizing base with
  | nil => rfl
  | cons tree rest ih =>
    obtain ⟨first, others⟩ := List.forall_mem_cons.mp each
    rw [List.foldl_cons, layer_eq_merge proper, ih (proper_merge proper first) others]
    rfl

/-- A null document can be left out, wherever it stands. -/
theorem layerAll_filter {kept : String → Bool} (proper : base.isNull = true → base = .null)
    (untagged : ∀ path ∈ paths, ∀ tree, Reads files here path tree → tree.isNull = true → tree = .null)
    (dropped : ∀ path ∈ paths, kept path = false → ∃ tree, Reads files here path tree ∧ tree.isNull = true) :
    layerAll files here base (paths.filter kept) = layerAll files here base paths := by
  induction paths generalizing base with
  | nil => rfl
  | cons path rest ih =>
    obtain ⟨proper_first, untagged⟩ := List.forall_mem_cons.mp untagged
    obtain ⟨dropped_first, dropped⟩ := List.forall_mem_cons.mp dropped
    obtain ⟨tree, reads, goesOn⟩ | ⟨failure, refuses, ends⟩ := layerAll_cons files here path
    · cases stays : kept path with
      | true =>
        rw [List.filter_cons_of_pos stays, goesOn, goesOn, layer_eq_merge proper]
        exact ih (proper_merge proper (proper_first tree reads)) untagged dropped
      | false =>
        obtain ⟨tree', again, null⟩ := dropped_first stays
        obtain rfl := reads.unique again
        rw [List.filter_cons_of_neg (by simp [stays]), goesOn, layer_eq_merge proper, proper_first tree reads null,
          Tree.merge_null]
        exact ih proper untagged dropped
    · cases stays : kept path with
      | true => rw [List.filter_cons_of_pos stays, ends, ends]
      | false =>
        obtain ⟨tree, reads, _⟩ := dropped_first stays
        exact absurd reads refuses.not_reads

theorem layerAll_congr (same : ∀ path ∈ paths, other.readText here path = files.readText here path) (base : Tree) :
    layerAll other here base paths = layerAll files here base paths := by
  induction paths generalizing base with
  | nil => rfl
  | cons path rest ih =>
    obtain ⟨first, others⟩ := List.forall_mem_cons.mp same
    simp only [layerAll, first, ih others]

end Reading

section Contents

theorem documentsIn_outline (files : Files.Tree) (here : Files.Place) (directory : String) :
    documentsIn files.outline here directory = documentsIn files here directory := by
  rw [documentsIn, documentsIn, Glob.paths_outline]

theorem documents_outline (files : Files.Tree) (here : Files.Place) (directories : List String) :
    documents files.outline here directories = documents files here directories := by
  rw [documents, documents, effective, effective, funext (documentsIn_outline files here)]

/-- What stands where no document that counts leads does not matter, so long as it stays of its kind. -/
theorem merged_congr (shape : other.outline = files.outline)
    (agree : ∀ path ∈ documents files here directories, ∀ place entry,
      files.find here path = .ok (place, entry) → other.at? place = files.at? place) :
    merged other here directories = merged files here directories := by
  have found : documents other here directories = documents files here directories := by
    rw [← documents_outline, shape, documents_outline]
  rw [merged, merged, found]
  exact layerAll_congr (fun path member => Files.Tree.readText_congr shape (agree path member)) _

end Contents

theorem paths_eq_documentsIn (files : Files.Tree) (here : Files.Place) (directory : String) :
    Glob.paths files here (Glob.Pattern.escape directory ++ "/*.yaml") = .ok (documentsIn files here directory) := by
  obtain ⟨found, searched⟩ := Glob.exists_paths_escape files here directory
  rw [documentsIn, searched]
  rfl

theorem ListsDocuments.of_eq {directory : String}
    (found : documentsIn files here directory = (documentNames files here directory).map (Files.Path.join directory))
    (named : ∀ name ∈ documentNames files here directory,
      Files.Path.fileName? (Files.Path.join directory name) = some name) : ListsDocuments files here directory where
  complete name member := by
    rw [found]
    exact ⟨_, List.mem_map_of_mem member, named name member, rfl⟩
  sound path member := by
    rw [found] at member
    obtain ⟨name, among, rfl⟩ := List.mem_map.mp member
    exact ⟨name, among, named name among, rfl⟩

section Overridden

/-- A directory of which the first document, with some content, is overridden by an empty one in another directory. -/
def overridden (content : Text.Octets) : Files.Tree where
  entries :=
    [(["lib"], .directory), (["lib", "a.yaml"], .file content false),
      (["lib", "b.yaml"], .file [0x61, 0x3A, 0x20, 0x62] false),
      (["etc"], .directory), (["etc", "a.yaml"], .file [] false)]

def documentPattern : Glob.Pattern := [.anySequence, .char '.', .char 'y', .char 'a', .char 'm', .char 'l']

variable (content : Text.Octets)

theorem list_overridden :
    (overridden content).list [] "/lib" = .ok ["a.yaml", "b.yaml"] ∧
      (overridden content).list [] "/etc" = .ok ["a.yaml"] ∧
      (overridden content).list [] "/run" = .error .notFound :=
  ⟨by cbv, by cbv, by cbv⟩

theorem follow_overridden :
    Glob.follow (overridden content) [] [[.char 'l', .char 'i', .char 'b'], documentPattern] "/" true =
        [⟨"/lib/a.yaml", false, [documentPattern]⟩, ⟨"/lib/b.yaml", false, [documentPattern]⟩] ∧
      Glob.follow (overridden content) [] [[.char 'e', .char 't', .char 'c'], documentPattern] "/" true =
        [⟨"/etc/a.yaml", false, [documentPattern]⟩] ∧
      Glob.follow (overridden content) [] [[.char 'r', .char 'u', .char 'n'], documentPattern] "/" true = [] := by
  have directories : Glob.below "/" "lib" = "/lib" ∧ Glob.below "/" "etc" = "/etc" ∧ Glob.below "/" "run" = "/run" := by
    decide
  have files : Glob.below "/lib" "a.yaml" = "/lib/a.yaml" ∧ Glob.below "/lib" "b.yaml" = "/lib/b.yaml" ∧
      Glob.below "/etc" "a.yaml" = "/etc/a.yaml" := by decide
  have exist : (overridden content).exists_ [] "/lib" = true ∧ (overridden content).exists_ [] "/etc" = true ∧
      (overridden content).exists_ [] "/run" = false := ⟨by cbv, by cbv, by cbv⟩
  have enter : (overridden content).isDirectoryAt [] "/lib" = true ∧ (overridden content).isDirectoryAt [] "/etc" = true :=
    ⟨by cbv, by cbv⟩
  have stay : (overridden content).isDirectoryAt [] "/lib/a.yaml" = false ∧
      (overridden content).isDirectoryAt [] "/lib/b.yaml" = false ∧
      (overridden content).isDirectoryAt [] "/etc/a.yaml" = false := ⟨by cbv, by cbv, by cbv⟩
  simp [Glob.follow, Glob.Pattern.literal?, documentPattern, Except.toOption, directories, files, list_overridden,
    exist, enter, stay]

theorem documentsIn_overridden :
    documentsIn (overridden content) [] "/lib" = ["/lib/a.yaml", "/lib/b.yaml"] ∧
      documentsIn (overridden content) [] "/etc" = ["/etc/a.yaml"] ∧
      documentsIn (overridden content) [] "/run" = [] := by
  obtain ⟨fuel, enough⟩ :
      ∃ fuel, Nat.pow ((overridden content).entries.length + 3) (Files.Tree.greatestLinkCount + 4) = fuel + 3 :=
    Nat.exists_eq_add_of_le' (Nat.le_trans (Nat.le_add_left 3 _) (Nat.le_self_pow (by decide) _))
  have lib : Glob.Query.parse (Glob.Pattern.escape "/lib" ++ "/*.yaml") =
      .ok ⟨"/", [[.char 'l', .char 'i', .char 'b'], documentPattern], false⟩ := by rfl
  have etc : Glob.Query.parse (Glob.Pattern.escape "/etc" ++ "/*.yaml") =
      .ok ⟨"/", [[.char 'e', .char 't', .char 'c'], documentPattern], false⟩ := by rfl
  have run : Glob.Query.parse (Glob.Pattern.escape "/run" ++ "/*.yaml") =
      .ok ⟨"/", [[.char 'r', .char 'u', .char 'n'], documentPattern], false⟩ := by rfl
  have root : (overridden content).isDirectoryAt [] "/" = true := by cbv
  simp only [documentsIn, Glob.paths, enough, lib, etc, run, root, bind, Except.bind, follow_overridden]
  exact ⟨by cbv, by cbv, by cbv⟩

theorem listsDocuments_overridden :
    ∀ directory ∈ ["/lib", "/etc", "/run"], ListsDocuments (overridden content) [] directory := by
  obtain ⟨inLib, inEtc, inRun⟩ := documentsIn_overridden content
  have libNames : documentNames (overridden content) [] "/lib" = ["a.yaml", "b.yaml"] := by
    rw [documentNames, (list_overridden content).1]
    decide
  have etcNames : documentNames (overridden content) [] "/etc" = ["a.yaml"] := by
    rw [documentNames, (list_overridden content).2.1]
    decide
  have runNames : documentNames (overridden content) [] "/run" = [] := by
    rw [documentNames, (list_overridden content).2.2]
    rfl
  simp only [List.forall_mem_cons, List.not_mem_nil, false_implies, implies_true, and_true]
  refine ⟨.of_eq ?_ ?_, .of_eq ?_ ?_, .of_eq ?_ ?_⟩
  · rw [inLib, libNames]; decide
  · rw [libNames]; decide
  · rw [inEtc, etcNames]; decide
  · rw [etcNames]; decide
  · rw [inRun, runNames]; rfl
  · rw [runNames]; simp

end Overridden

/-- Every directory can be searched. The documents that count are one for each name that some directory lists, that of
the last, in the order of the names' octets. Reading them fails as the first fails that cannot be taken in, and else lays
their trees over each other, to which those that are null add nothing. What is in a file that no document that counts
leads to does not matter. -/
theorem merged_documents (listed : ∀ directory ∈ directories, ListsDocuments files here directory)
    (untagged : ∀ path ∈ documents files here directories, ∀ tree, Reads files here path tree →
      tree.isNull = true → tree = .null) :
    (∀ directory ∈ directories,
      Glob.paths files here (Glob.Pattern.escape directory ++ "/*.yaml") = .ok (documentsIn files here directory)) ∧
    (∃ names : List String,
      names.Pairwise (fun first second => Text.Utf8.encode first < Text.Utf8.encode second) ∧
      (∀ name, name ∈ names ↔ ∃ directory ∈ directories, name ∈ documentNames files here directory) ∧
      List.Forall₂ (LastGives files here directories) names (documents files here directories)) ∧
    (∀ tree, merged files here directories = .ok tree ↔
      ∃ trees, (documents files here directories).Forall₂ (Reads files here) trees ∧ tree = Tree.null.mergeAll trees) ∧
    (∀ failure, (merged files here directories).mapError LayerFailure.toFailure = .error failure ↔
      FirstRefuses files here (documents files here directories) failure) ∧
    (∀ kept : String → Bool,
      (∀ path ∈ documents files here directories, kept path = false →
        ∃ tree, Reads files here path tree ∧ tree.isNull = true) →
      layerAll files here .null ((documents files here directories).filter kept) = merged files here directories) ∧
    ∀ other : Files.Tree, other.outline = files.outline →
      (∀ path ∈ documents files here directories, ∀ place entry, files.find here path = .ok (place, entry) →
        other.at? place = files.at? place) →
      load other here directories = load files here directories := by
  refine ⟨fun directory _ => paths_eq_documentsIn files here directory,
    ⟨(effective files here directories).names, ?_, ?_, ?_⟩, ?_, fun failure => layerAll_fails_iff, ?_, ?_⟩
  · exact (effective files here directories).names_ordered.imp Text.Utf8.encode_lt_encode
  · exact fun name => mem_names_effective_iff listed
  · rw [Table.names, documents, List.forall₂_map_left_iff, List.forall₂_map_right_iff, List.forall₂_same]
    exact fun entry among => lastGives_of_get?_effective listed ((Table.get?_eq_some_iff _).mpr among)
  · intro tree
    rw [merged, layerAll_eq_ok_iff]
    refine exists_congr fun trees => and_congr_right fun each => ?_
    rw [foldl_layer (fun _ => rfl)]
    intro tree member
    obtain ⟨path, among, reads⟩ := exists_reads_of_mem each member
    exact untagged path among tree reads
  · exact fun kept dropped => layerAll_filter (fun _ => rfl) untagged dropped
  · intro other shape agree
    rw [load, load, merged_congr shape agree]

theorem merged_documents_overridden :
    (∀ directory ∈ ["/lib", "/etc", "/run"], ListsDocuments (overridden [0x5D]) [] directory) ∧
      documents (overridden [0x5D]) [] ["/lib", "/etc", "/run"] = ["/etc/a.yaml", "/lib/b.yaml"] ∧
      merged (overridden [0x5D]) [] ["/lib", "/etc", "/run"] = .ok (.mapping [(.text "a", .text "b")]) ∧
      load (overridden []) [] ["/lib", "/etc", "/run"] = load (overridden [0x5D]) [] ["/lib", "/etc", "/run"] := by
  have counted : documents (overridden [0x5D]) [] ["/lib", "/etc", "/run"] = ["/etc/a.yaml", "/lib/b.yaml"] := by
    obtain ⟨inLib, inEtc, inRun⟩ := documentsIn_overridden [0x5D]
    simp only [documents, effective, List.flatMap_cons, inLib, inEtc, inRun]
    rfl
  have leadsFirst : (overridden [0x5D]).find [] "/etc/a.yaml" = .ok (["etc", "a.yaml"], .file [] false) := by cbv
  have leadsSecond : (overridden [0x5D]).find [] "/lib/b.yaml" =
      .ok (["lib", "b.yaml"], .file [0x61, 0x3A, 0x20, 0x62] false) := by cbv
  have first : Reads (overridden [0x5D]) [] "/etc/a.yaml" .null := ⟨"", by cbv, by cbv⟩
  have second : Reads (overridden [0x5D]) [] "/lib/b.yaml" (.mapping [(.text "a", .text "b")]) :=
    ⟨"a: b", by cbv, by cbv⟩
  have untagged : ∀ path ∈ documents (overridden [0x5D]) [] ["/lib", "/etc", "/run"], ∀ tree,
      Reads (overridden [0x5D]) [] path tree → tree.isNull = true → tree = .null := by
    rw [counted]
    simp only [List.forall_mem_cons, List.not_mem_nil, false_implies, implies_true, and_true]
    refine ⟨fun tree again _ => again.unique first, fun tree again null => ?_⟩
    obtain rfl := again.unique second
    cases null
  have listed := listsDocuments_overridden [0x5D]
  obtain ⟨_, _, reads, _, _, blind⟩ := merged_documents listed untagged
  rw [counted] at reads blind
  refine ⟨listed, counted, (reads _).mpr ⟨_, .cons first (.cons second .nil), by cbv⟩, blind (overridden []) rfl ?_⟩
  simp only [List.forall_mem_cons, List.not_mem_nil, false_implies, implies_true, and_true]
  constructor
  · rintro place entry led
    cases led.symm.trans leadsFirst
    decide
  · rintro place entry led
    cases led.symm.trans leadsSecond
    decide

end Relink.Declared
