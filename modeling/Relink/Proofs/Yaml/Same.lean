import Mathlib.Data.List.Forall2
import Mathlib.Data.List.Pairwise
import Relink.Yaml.Tree

/-! Keys that count as the same. Among trees whose mappings have no key twice they do so as equals do: each is the same
as itself, and what is the same as a third is the same. -/

namespace List

variable {α β : Type}

/-- A relation that leads from each member of a list to one of another that is not longer, and from no two members to
one, leads to all of them. -/
theorem exists_related_of_pairwise {related : α → β → Prop} {first : List α} {second : List β}
    (enough : second.length ≤ first.length) (total : ∀ a ∈ first, ∃ b ∈ second, related a b)
    (apart : first.Pairwise fun a other => ∀ b ∈ second, related a b → ¬related other b) :
    ∀ b ∈ second, ∃ a ∈ first, related a b := by
  induction first generalizing second with
  | nil =>
    rw [eq_nil_of_length_eq_zero (Nat.le_zero.mp enough)]
    exact nofun
  | cons a rest ih =>
    obtain ⟨unique, others⟩ := pairwise_cons.mp apart
    obtain ⟨image, among, here⟩ := total a mem_cons_self
    obtain ⟨before, after, rfl⟩ := append_of_mem among
    -- The rest leads to what is left without the image of its head.
    have kept : ∀ b, b ∈ before ++ after → b ∈ before ++ image :: after := by grind
    have further := @ih (before ++ after) (by simp at enough ⊢; omega) ?_ ?_
    · intro b member
      rcases mem_append.mp member with earlier | later
      · obtain ⟨origin, inRest, leads⟩ := further b (mem_append_left _ earlier)
        exact ⟨origin, mem_cons_of_mem _ inRest, leads⟩
      · rcases mem_cons.mp later with rfl | later
        · exact ⟨a, mem_cons_self, here⟩
        · obtain ⟨origin, inRest, leads⟩ := further b (mem_append_right _ later)
          exact ⟨origin, mem_cons_of_mem _ inRest, leads⟩
    · intro other inRest
      obtain ⟨b, member, leads⟩ := total other (mem_cons_of_mem _ inRest)
      have differs : b ≠ image := by
        rintro rfl
        exact unique other inRest b among here leads
      refine ⟨b, ?_, leads⟩
      simpa [differs] using member
    · exact others.imp fun separate b member => separate b (kept b member)

end List

namespace Relink.Binary64

variable {a b c : Binary64}

theorem same_refl (a : Binary64) : a.same a = true := by
  cases a <;> simp [same]

theorem same_euclid (first : a.same b = true) (second : c.same b = true) : a.same c = true := by
  cases a <;> cases b <;> cases c <;> simp_all [same]
  grind

end Relink.Binary64

namespace Relink.Yaml

namespace Number

variable {a b c : Number}

theorem same_refl (a : Number) : a.same a = true := by
  cases a <;> simp [same, Binary64.same_refl]

theorem same_euclid (first : a.same b = true) (second : c.same b = true) : a.same c = true := by
  cases a <;> cases b <;> cases c <;> simp_all [same]
  exact Binary64.same_euclid first second

end Number

namespace Tree

/-- A tree whose mappings, wherever they are, have no key twice. -/
inductive WellFormed : Tree → Prop where
  | null : WellFormed null
  | bool (value : Bool) : WellFormed (bool value)
  | number (value : Number) : WellFormed (number value)
  | text (value : String) : WellFormed (text value)
  | sequence {items : List Tree} (each : ∀ item ∈ items, WellFormed item) : WellFormed (sequence items)
  | mapping {entries : List (Tree × Tree)}
      (distinct : entries.Pairwise fun earlier later => same earlier.1 later.1 = false)
      (keys : ∀ entry ∈ entries, WellFormed entry.1) (values : ∀ entry ∈ entries, WellFormed entry.2) :
      WellFormed (mapping entries)
  | tagged (tag : String) {value : Tree} (inner : WellFormed value) : WellFormed (tagged tag value)

attribute [simp] WellFormed.null WellFormed.bool WellFormed.number WellFormed.text

section WellFormed

variable {entries : List (Tree × Tree)}

@[simp] theorem wellFormed_sequence_iff {items : List Tree} :
    (sequence items).WellFormed ↔ ∀ item ∈ items, item.WellFormed :=
  ⟨fun | .sequence each => each, .sequence⟩

@[simp] theorem wellFormed_tagged_iff {tag : String} {value : Tree} : (tagged tag value).WellFormed ↔ value.WellFormed :=
  ⟨fun | .tagged _ inner => inner, .tagged tag⟩

@[simp] theorem wellFormed_mapping_iff : (mapping entries).WellFormed ↔
    entries.Pairwise (fun earlier later => same earlier.1 later.1 = false) ∧
      ∀ entry ∈ entries, entry.1.WellFormed ∧ entry.2.WellFormed :=
  ⟨fun | .mapping distinct keys values => ⟨distinct, fun entry member => ⟨keys entry member, values entry member⟩⟩,
    fun ⟨distinct, each⟩ =>
      .mapping distinct (fun entry member => (each entry member).1) fun entry member => (each entry member).2⟩

theorem WellFormed.distinct (well : (Tree.mapping entries).WellFormed) :
    entries.Pairwise fun earlier later => same earlier.1 later.1 = false :=
  (wellFormed_mapping_iff.mp well).1

theorem WellFormed.key_of_mem (well : (Tree.mapping entries).WellFormed) : ∀ entry ∈ entries, entry.1.WellFormed :=
  fun entry member => ((wellFormed_mapping_iff.mp well).2 entry member).1

theorem WellFormed.value_of_mem (well : (Tree.mapping entries).WellFormed) : ∀ entry ∈ entries, entry.2.WellFormed :=
  fun entry member => ((wellFormed_mapping_iff.mp well).2 entry member).2

theorem WellFormed.append_entry {key value : Tree} (well : (Tree.mapping entries).WellFormed) (wellKey : key.WellFormed)
    (wellValue : value.WellFormed) (fresh : ∀ entry ∈ entries, same entry.1 key = false) :
    (Tree.mapping (entries ++ [(key, value)])).WellFormed := by
  refine .mapping (List.pairwise_append.mpr ⟨well.distinct, List.pairwise_singleton _ _, ?_⟩) ?_ ?_
  · exact fun entry member => List.forall_mem_singleton.mpr (fresh entry member)
  · exact List.forall_mem_append.mpr ⟨well.key_of_mem, List.forall_mem_singleton.mpr wellKey⟩
  · exact List.forall_mem_append.mpr ⟨well.value_of_mem, List.forall_mem_singleton.mpr wellValue⟩

end WellFormed

/-- A tree that `same` has been seen to be an equivalence for, by its size. -/
structure Fits (bound : Nat) (tree : Tree) : Prop where
  well : tree.WellFormed
  small : sizeOf tree < bound

/-- That each of the trees below a bound is the same as itself, and what is the same as a third is the same. -/
structure SameBelow (bound : Nat) : Prop where
  refl : ∀ {a}, Fits bound a → same a a = true
  euclid : ∀ {a b c}, Fits bound a → Fits bound b → Fits bound c → same a b = true → same c b = true → same a c = true

theorem sameItems_iff {as bs : List Tree} :
    sameItems as bs = true ↔ List.Forall₂ (fun a b => same a b = true) as bs := by
  induction as generalizing bs with
  | nil => cases bs <;> simp [sameItems]
  | cons a as ih => cases bs <;> simp [sameItems, ih]

theorem allFound_iff {entries others : List (Tree × Tree)} :
    allFound entries others = true ↔ ∀ entry ∈ entries, found entry.1 entry.2 others = true := by
  induction entries with
  | nil => simp [allFound]
  | cons entry rest ih =>
    obtain ⟨key, value⟩ := entry
    rw [allFound, Bool.and_eq_true, ih, List.forall_mem_cons]

theorem exists_of_found {key value : Tree} {others : List (Tree × Tree)} (is : found key value others = true) :
    ∃ other ∈ others, same key other.1 = true ∧ same value other.2 = true := by
  induction others with
  | nil => simp [found] at is
  | cons other rest ih =>
    rw [found] at is
    split at is
    · exact ⟨other, List.mem_cons_self, ‹_›, is⟩
    · obtain ⟨other, member, here⟩ := ih is
      exact ⟨other, List.mem_cons_of_mem _ member, here⟩

theorem found_of_mem {key value : Tree} {others : List (Tree × Tree)} {other : Tree × Tree} (member : other ∈ others)
    (only : ∀ next ∈ others, same key next.1 = true → next = other) (keys : same key other.1 = true)
    (values : same value other.2 = true) : found key value others = true := by
  induction others with
  | nil => cases member
  | cons head rest ih =>
    rw [found]
    split
    · rename_i here
      rwa [only head List.mem_cons_self here]
    · rename_i elsewhere
      rcases List.mem_cons.mp member with rfl | later
      · exact absurd keys elsewhere
      · exact ih later fun next among => only next (List.mem_cons_of_mem _ among)

section Below

variable {bound : Nat} {a b : Tree} {items others : List Tree} {entries counterparts more : List (Tree × Tree)}

theorem Fits.entry (fits : Fits (bound + 1) (mapping entries)) {entry : Tree × Tree} (member : entry ∈ entries) :
    Fits bound entry.1 ∧ Fits bound entry.2 := by
  obtain ⟨well, small⟩ := fits
  have inside := List.sizeOf_lt_of_mem member
  have parts := (wellFormed_mapping_iff.mp well).2 entry member
  obtain ⟨key, value⟩ := entry
  simp at inside small ⊢
  exact ⟨⟨parts.1, by omega⟩, ⟨parts.2, by omega⟩⟩

theorem Fits.item (fits : Fits (bound + 1) (sequence items)) {item : Tree} (member : item ∈ items) :
    Fits bound item := by
  obtain ⟨well, small⟩ := fits
  have inside := List.sizeOf_lt_of_mem member
  simp at small
  exact ⟨wellFormed_sequence_iff.mp well item member, by omega⟩

theorem Fits.inner {tag : String} (fits : Fits (bound + 1) (tagged tag a)) : Fits bound a := by
  obtain ⟨well, small⟩ := fits
  simp at small
  exact ⟨wellFormed_tagged_iff.mp well, by omega⟩

namespace SameBelow

variable (laws : SameBelow bound)
include laws

theorem symm (fitsA : Fits bound a) (fitsB : Fits bound b) (is : same a b = true) : same b a = true :=
  laws.euclid fitsB fitsB fitsA (laws.refl fitsB) is

/-- Entries are told by their keys. -/
theorem eq_of_same (fits : Fits (bound + 1) (mapping entries)) :
    ∀ first ∈ entries, ∀ second ∈ entries, same first.1 second.1 = true → first = second := by
  have distinct := fits.well.distinct
  refine List.Pairwise.forall_of_forall_of_flip (fun _ _ _ => rfl) (distinct.imp ?_) (distinct.imp_of_mem ?_)
  · intro earlier later apart is
    cases apart.symm.trans is
  · intro earlier later among also apart is
    cases apart.symm.trans (laws.symm (fits.entry also).1 (fits.entry among).1 is)

theorem euclid_sameItems (fits : ∀ item ∈ items, Fits bound item) {first second : List Tree}
    (fitsFirst : ∀ item ∈ first, Fits bound item) (fitsSecond : ∀ item ∈ second, Fits bound item)
    (is : sameItems first items = true) (also : sameItems second items = true) : sameItems first second = true := by
  rw [sameItems_iff] at *
  induction is generalizing second with
  | nil =>
    cases also
    exact .nil
  | cons here later ih =>
    cases also with
    | cons alsoHere alsoLater =>
      obtain ⟨fit, fits⟩ := List.forall_mem_cons.mp fits
      obtain ⟨fitFirst, fitsFirst⟩ := List.forall_mem_cons.mp fitsFirst
      obtain ⟨fitSecond, fitsSecond⟩ := List.forall_mem_cons.mp fitsSecond
      exact .cons (laws.euclid fitFirst fit fitSecond here alsoHere) (ih fits fitsFirst fitsSecond alsoLater)

/-- What an entry is found as among the entries of a third mapping, one of the second mapping is found as too: there are
as many of them, and no two are found as one. -/
theorem euclid_mapping (fits : Fits (bound + 1) (mapping entries)) (fitsThird : Fits (bound + 1) (mapping counterparts))
    (fitsMore : Fits (bound + 1) (mapping more)) (is : same (mapping entries) (mapping counterparts) = true)
    (also : same (mapping more) (mapping counterparts) = true) : same (mapping entries) (mapping more) = true := by
  simp only [same, Bool.and_eq_true, beq_iff_eq, allFound_iff] at is also ⊢
  refine ⟨is.1.trans also.1.symm, fun entry member => ?_⟩
  obtain ⟨third, among, key, value⟩ := exists_of_found (is.2 entry member)
  have onto : ∀ third ∈ counterparts, ∃ other ∈ more, same other.1 third.1 = true ∧ same other.2 third.2 = true := by
    refine List.exists_related_of_pairwise (Nat.le_of_eq also.1.symm)
      (fun other inMore => exists_of_found (also.2 other inMore)) ?_
    refine fitsMore.well.distinct.imp_of_mem fun inMore alsoInMore apart third among both alsoBoth => ?_
    have joined := laws.euclid (fitsMore.entry inMore).1 (fitsThird.entry among).1 (fitsMore.entry alsoInMore).1 both.1
      alsoBoth.1
    cases apart.symm.trans joined
  obtain ⟨other, inMore, otherKey, otherValue⟩ := onto third among
  obtain ⟨fitKey, fitValue⟩ := fits.entry member
  obtain ⟨fitThirdKey, fitThirdValue⟩ := fitsThird.entry among
  obtain ⟨fitOtherKey, fitOtherValue⟩ := fitsMore.entry inMore
  have keyed := laws.euclid fitKey fitThirdKey fitOtherKey key otherKey
  refine found_of_mem inMore (fun next alsoInMore isNext => ?_) keyed
    (laws.euclid fitValue fitThirdValue fitOtherValue value otherValue)
  refine laws.eq_of_same fitsMore next alsoInMore other inMore ?_
  have fitNextKey := (fitsMore.entry alsoInMore).1
  exact laws.euclid fitNextKey fitKey fitOtherKey (laws.symm fitKey fitNextKey isNext)
    (laws.symm fitKey fitOtherKey keyed)

end SameBelow

theorem sameBelow (bound : Nat) : SameBelow bound := by
  induction bound with
  | zero => exact ⟨fun fits => absurd fits.small (Nat.not_lt_zero _), fun fits => absurd fits.small (Nat.not_lt_zero _)⟩
  | succ bound laws =>
    constructor
    · intro a fits
      cases a with
      | null | bool | text => simp [same]
      | number value => simpa [same] using value.same_refl
      | sequence items =>
        rw [same, sameItems_iff]
        exact List.forall₂_same.mpr fun item member => laws.refl (fits.item member)
      | mapping entries =>
        simp only [same, Bool.and_eq_true, beq_iff_eq, allFound_iff, true_and]
        intro entry member
        obtain ⟨fitKey, fitValue⟩ := fits.entry member
        refine found_of_mem member (fun next among is => ?_) (laws.refl fitKey) (laws.refl fitValue)
        exact (laws.eq_of_same fits entry member next among is).symm
      | tagged tag value => simpa [same] using laws.refl fits.inner
    · intro a b c fitsA fitsB fitsC is also
      -- Trees of two kinds are never the same.
      cases a <;> cases b <;> simp only [same, Bool.false_eq_true] at is <;>
        cases c <;> simp only [same, Bool.false_eq_true] at also
      case null | bool | text => simp_all [same]
      case number => simpa only [same] using Number.same_euclid is also
      case sequence =>
        rw [same]
        exact laws.euclid_sameItems (fun _ => fitsB.item) (fun _ => fitsA.item) (fun _ => fitsC.item) is also
      case mapping =>
        exact laws.euclid_mapping fitsA fitsB fitsC (by simpa only [same] using is) (by simpa only [same] using also)
      case tagged =>
        simp only [Bool.and_eq_true, beq_iff_eq] at is also
        simp only [same, Bool.and_eq_true, beq_iff_eq]
        exact ⟨is.1.trans also.1.symm, laws.euclid fitsA.inner fitsB.inner fitsC.inner is.2 also.2⟩

end Below

section Laws

variable {a b c : Tree}

theorem WellFormed.same_refl (well : a.WellFormed) : same a a = true :=
  (sameBelow _).refl ⟨well, Nat.lt_succ_self _⟩

theorem WellFormed.same_euclid (wellA : a.WellFormed) (wellB : b.WellFormed) (wellC : c.WellFormed)
    (is : same a b = true) (also : same c b = true) : same a c = true :=
  (sameBelow (sizeOf a + sizeOf b + sizeOf c + 1)).euclid ⟨wellA, by omega⟩ ⟨wellB, by omega⟩ ⟨wellC, by omega⟩ is also

theorem WellFormed.same_comm (wellA : a.WellFormed) (wellB : b.WellFormed) : same a b = same b a :=
  Bool.eq_iff_iff.mpr ⟨wellB.same_euclid wellB wellA wellB.same_refl, wellA.same_euclid wellA wellB wellA.same_refl⟩

theorem WellFormed.same_trans (wellA : a.WellFormed) (wellB : b.WellFormed) (wellC : c.WellFormed)
    (is : same a b = true) (also : same b c = true) : same a c = true :=
  wellA.same_euclid wellB wellC is (wellB.same_comm wellC ▸ also)

theorem WellFormed.eq_of_same {entries : List (Tree × Tree)} (well : (Tree.mapping entries).WellFormed) :
    ∀ first ∈ entries, ∀ second ∈ entries, same first.1 second.1 = true → first = second :=
  (sameBelow _).eq_of_same ⟨well, Nat.lt_succ_self _⟩

end Laws

end Tree

end Relink.Yaml
