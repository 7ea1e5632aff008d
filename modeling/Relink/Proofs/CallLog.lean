import Relink.CallLog

/-! Statements about a call log, settled by two positions. That all calls of one kind come before all of another is
what the last of the one and the first of the other show, and a refutation names just these two. -/

namespace Relink.CallLog

variable {log : CallLog} {wanted first second : Call → Bool} {position : Nat} {call : Call}

/-- A call at a position of a log that satisfies a predicate. -/
structure HasAt (log : CallLog) (wanted : Call → Bool) (position : Nat) (call : Call) : Prop where
  here : log[position]? = some call
  fits : wanted call = true

/-- The earliest call that satisfies a predicate. -/
structure IsFirst (log : CallLog) (wanted : Call → Bool) (position : Nat) (call : Call) : Prop where
  among : log.HasAt wanted position call
  least : ∀ other otherCall, log.HasAt wanted other otherCall → position ≤ other

/-- The latest call that satisfies a predicate. -/
structure IsLast (log : CallLog) (wanted : Call → Bool) (position : Nat) (call : Call) : Prop where
  among : log.HasAt wanted position call
  greatest : ∀ other otherCall, log.HasAt wanted other otherCall → other ≤ position

/-- That there are calls of two kinds, and each of the first comes before each of the second. -/
structure InOrder (log : CallLog) (first second : Call → Bool) : Prop where
  someFirst : ∃ position call, log.HasAt first position call
  someSecond : ∃ position call, log.HasAt second position call
  ordered : ∀ {earlier call later next}, log.HasAt first earlier call → log.HasAt second later next → earlier < later

/-- Why calls of two kinds are not in order. That there is none of the first kind counts before there being none of
the second. -/
inductive OutOfOrder (log : CallLog) (first second : Call → Bool) : Refutation → Prop where
  | missingFirst (none : ∀ position call, ¬log.HasAt first position call) : OutOfOrder log first second .missingFirst
  | missingSecond (some : ∃ position call, log.HasAt first position call)
      (none : ∀ position call, ¬log.HasAt second position call) : OutOfOrder log first second .missingSecond
  | disorder {late early : Nat} {call next : Call} (last : log.IsLast first late call)
      (earliest : log.IsFirst second early next) (wrong : ¬late < early) :
      OutOfOrder log first second (.disorder call late next early)

theorem exists_hasAt_iff : (∃ position call, log.HasAt wanted position call) ↔ ∃ call ∈ log, wanted call = true := by
  constructor
  · rintro ⟨position, call, here, fits⟩
    exact ⟨call, List.mem_of_getElem? here, fits⟩
  · rintro ⟨call, member, fits⟩
    obtain ⟨position, here⟩ := List.getElem?_of_mem member
    exact ⟨position, call, here, fits⟩

theorem hasAt_cons_zero {head : Call} {rest : CallLog} :
    HasAt (head :: rest) wanted 0 call ↔ head = call ∧ wanted call = true := by
  constructor
  · rintro ⟨here, fits⟩
    exact ⟨by simpa using here, fits⟩
  · rintro ⟨rfl, fits⟩
    exact ⟨rfl, fits⟩

theorem hasAt_cons_succ {head : Call} {rest : CallLog} :
    HasAt (head :: rest) wanted (position + 1) call ↔ HasAt rest wanted position call := by
  constructor
  · rintro ⟨here, fits⟩
    exact ⟨by simpa using here, fits⟩
  · rintro ⟨here, fits⟩
    exact ⟨by simpa using here, fits⟩

/-- A position counted from the other end. -/
theorem hasAt_reverse (inside : position < log.length) :
    HasAt log.reverse wanted position call ↔ HasAt log wanted (log.length - 1 - position) call := by
  constructor
  · rintro ⟨here, fits⟩
    exact ⟨by rwa [List.getElem?_reverse inside] at here, fits⟩
  · rintro ⟨here, fits⟩
    exact ⟨by rwa [List.getElem?_reverse inside], fits⟩

theorem HasAt.lt_length (found : log.HasAt wanted position call) : position < log.length :=
  (List.getElem?_eq_some_iff.mp found.here).1

theorem IsFirst.unique {other : Nat} {otherCall : Call} (found : log.IsFirst wanted position call)
    (also : log.IsFirst wanted other otherCall) : position = other ∧ call = otherCall := by
  have same : position = other :=
    Nat.le_antisymm (found.least other otherCall also.among) (also.least position call found.among)
  subst same
  exact ⟨rfl, Option.some.inj (found.among.here.symm.trans also.among.here)⟩

theorem IsLast.unique {other : Nat} {otherCall : Call} (found : log.IsLast wanted position call)
    (also : log.IsLast wanted other otherCall) : position = other ∧ call = otherCall := by
  have same : position = other :=
    Nat.le_antisymm (also.greatest position call found.among) (found.greatest other otherCall also.among)
  subst same
  exact ⟨rfl, Option.some.inj (found.among.here.symm.trans also.among.here)⟩

/-- A search from one end gives the call that is met first, or there is none at all. -/
theorem firstFrom?_cases (wanted : Call → Bool) (start : Nat) (log : CallLog) :
    (∃ offset call, firstFrom? wanted start log = some (start + offset, call) ∧ log.IsFirst wanted offset call) ∨
      (firstFrom? wanted start log = none ∧ ∀ position call, ¬log.HasAt wanted position call) := by
  induction log generalizing start with
  | nil =>
    refine .inr ⟨rfl, ?_⟩
    rintro position call ⟨here, -⟩
    cases here
  | cons head rest ih =>
    rw [firstFrom?]
    by_cases fits : wanted head = true
    · rw [if_pos fits]
      exact .inl ⟨0, head, rfl, hasAt_cons_zero.mpr ⟨rfl, fits⟩, fun _ _ _ => Nat.zero_le _⟩
    · rw [if_neg fits]
      -- A call that satisfies the predicate is not the head, so that it has its position in the rest.
      have beyond : ∀ position call, HasAt (head :: rest) wanted position call →
          ∃ before, position = before + 1 ∧ HasAt rest wanted before call := by
        rintro (_ | before) call found
        · obtain ⟨rfl, holds⟩ := hasAt_cons_zero.mp found
          exact absurd holds fits
        · exact ⟨before, rfl, hasAt_cons_succ.mp found⟩
      obtain ⟨offset, call, same, found⟩ | ⟨same, none⟩ := ih (start + 1)
      · refine .inl ⟨offset + 1, call, ?_, hasAt_cons_succ.mpr found.among, fun other otherCall also => ?_⟩
        · rw [same, Nat.add_right_comm, Nat.add_assoc]
        · obtain ⟨before, rfl, inRest⟩ := beyond other otherCall also
          exact Nat.succ_le_succ (found.least before otherCall inRest)
      · refine .inr ⟨same, fun position call found => ?_⟩
        obtain ⟨before, -, inRest⟩ := beyond position call found
        exact none before call inRest

theorem first?_cases (log : CallLog) (wanted : Call → Bool) :
    (∃ position call, log.first? wanted = some (position, call) ∧ log.IsFirst wanted position call) ∨
      (log.first? wanted = none ∧ ∀ position call, ¬log.HasAt wanted position call) := by
  simpa [first?] using firstFrom?_cases wanted 0 log

theorem last?_cases (log : CallLog) (wanted : Call → Bool) :
    (∃ position call, log.last? wanted = some (position, call) ∧ log.IsLast wanted position call) ∨
      (log.last? wanted = none ∧ ∀ position call, ¬log.HasAt wanted position call) := by
  have across : ∀ {position call}, log.HasAt wanted position call →
      HasAt log.reverse wanted (log.length - 1 - position) call := by
    intro position call found
    have inside := found.lt_length
    refine (hasAt_reverse (by omega)).mpr ?_
    rwa [Nat.sub_sub_self (by omega)]
  obtain ⟨position, call, same, found⟩ | ⟨same, none⟩ := first?_cases log.reverse wanted
  · have inside : position < log.length := by simpa using found.among.lt_length
    refine .inl ⟨log.length - 1 - position, call, ?_, (hasAt_reverse inside).mp found.among, ?_⟩
    · rw [last?, ← first?, same]
      rfl
    · intro other otherCall also
      have bound := found.least _ otherCall (across also)
      have within := also.lt_length
      omega
  · refine .inr ⟨?_, fun position call found => none _ call (across found)⟩
    rw [last?, ← first?, same]
    rfl

theorem first?_eq_some_iff : log.first? wanted = some (position, call) ↔ log.IsFirst wanted position call := by
  obtain ⟨earliest, earliestCall, same, found⟩ | ⟨same, none⟩ := first?_cases log wanted
  · rw [same]
    constructor
    · rintro ⟨⟩
      exact found
    · intro also
      obtain ⟨rfl, rfl⟩ := found.unique also
      rfl
  · rw [same]
    exact iff_of_false nofun fun found => none position call found.among

theorem first?_eq_none_iff : log.first? wanted = none ↔ ∀ position call, ¬log.HasAt wanted position call := by
  obtain ⟨earliest, earliestCall, same, found⟩ | ⟨same, none⟩ := first?_cases log wanted
  · exact iff_of_false (by simp [same]) fun none => none _ _ found.among
  · exact iff_of_true same none

theorem position?_eq_none_iff : log.position? wanted = none ↔ ∀ position call, ¬log.HasAt wanted position call := by
  rw [position?, Option.map_eq_none_iff, first?_eq_none_iff]

theorem count_eq_zero_iff : log.count wanted = 0 ↔ ∀ position call, ¬log.HasAt wanted position call := by
  have some := @exists_hasAt_iff log wanted
  rw [count, List.countP_eq_zero]
  grind

theorem absent_eq_ok_iff : log.absent wanted = .ok () ↔ ∀ position call, ¬log.HasAt wanted position call := by
  rw [← first?_eq_none_iff, absent]
  split <;> simp_all

theorem absent_eq_error_iff {refutation : Refutation} :
    log.absent wanted = .error refutation ↔
      ∃ position call, log.IsFirst wanted position call ∧ refutation = .unexpected call position := by
  simp only [← first?_eq_some_iff]
  rw [absent]
  cases log.first? wanted with
  | none => simp
  | some found =>
    obtain ⟨earliest, call⟩ := found
    simp [and_assoc, eq_comm]

theorem InOrder.not_outOfOrder {refutation : Refutation} (order : log.InOrder first second) :
    ¬log.OutOfOrder first second refutation := by
  obtain ⟨⟨earlier, call, found⟩, ⟨later, next, foundNext⟩, ordered⟩ := order
  rintro (none | ⟨-, none⟩ | ⟨last, earliest, wrong⟩)
  · exact none earlier call found
  · exact none later next foundNext
  · exact wrong (ordered last.among earliest.among)

theorem OutOfOrder.unique {refutation other : Refutation} (refuted : log.OutOfOrder first second refutation)
    (also : log.OutOfOrder first second other) : refutation = other := by
  cases refuted with
  | missingFirst none =>
    cases also with
    | missingFirst => rfl
    | missingSecond some _ => exact (some.elim fun _ ⟨_, found⟩ => none _ _ found).elim
    | disorder last _ _ => exact (none _ _ last.among).elim
  | missingSecond some none =>
    cases also with
    | missingFirst none => exact (some.elim fun _ ⟨_, found⟩ => none _ _ found).elim
    | missingSecond => rfl
    | disorder _ earliest _ => exact (none _ _ earliest.among).elim
  | disorder last earliest wrong =>
    cases also with
    | missingFirst none => exact (none _ _ last.among).elim
    | missingSecond _ none => exact (none _ _ earliest.among).elim
    | disorder alsoLast alsoEarliest _ =>
      obtain ⟨rfl, rfl⟩ := last.unique alsoLast
      obtain ⟨rfl, rfl⟩ := earliest.unique alsoEarliest
      rfl

/-- The last call of one kind and the first of the other show whether all of one come before all of the other. -/
theorem before_cases (log : CallLog) (first second : Call → Bool) :
    (log.before first second = .ok () ∧ log.InOrder first second) ∨
      ∃ refutation, log.before first second = .error refutation ∧ log.OutOfOrder first second refutation := by
  obtain ⟨late, call, foundLast, last⟩ | ⟨foundLast, noFirst⟩ := last?_cases log first
  · obtain ⟨early, next, foundFirst, earliest⟩ | ⟨foundFirst, noSecond⟩ := first?_cases log second
    · by_cases ordered : late < early
      · refine .inl ⟨by simp [before, foundLast, foundFirst, ordered], ⟨late, call, last.among⟩,
          ⟨early, next, earliest.among⟩, fun {earlier _ later _} found foundNext => ?_⟩
        calc earlier ≤ late := last.greatest _ _ found
          _ < early := ordered
          _ ≤ later := earliest.least _ _ foundNext
      · exact .inr ⟨_, by simp [before, foundLast, foundFirst, ordered], .disorder last earliest ordered⟩
    · exact .inr ⟨_, by simp [before, foundLast, foundFirst], .missingSecond ⟨late, call, last.among⟩ noSecond⟩
  · exact .inr ⟨_, by simp [before, foundLast], .missingFirst noFirst⟩

theorem before_eq_ok_iff : log.before first second = .ok () ↔ log.InOrder first second := by
  obtain ⟨same, order⟩ | ⟨refutation, same, refuted⟩ := before_cases log first second
  · exact iff_of_true same order
  · exact iff_of_false (by simp [same]) fun order => order.not_outOfOrder refuted

theorem before_eq_error_iff {refutation : Refutation} :
    log.before first second = .error refutation ↔ log.OutOfOrder first second refutation := by
  obtain ⟨same, order⟩ | ⟨other, same, refuted⟩ := before_cases log first second
  · exact iff_of_false (by simp [same]) order.not_outOfOrder
  · rw [same, Except.error.injEq]
    constructor
    · rintro rfl
      exact refuted
    · exact refuted.unique

/-- Statements about a log are settled for every log and all kinds of calls: that one kind comes before another by
the two positions that a refutation names, and that a kind is absent by its number or by its first position. -/
theorem statements_settled (log : CallLog) (first second unwanted : Call → Bool) :
    (log.before first second = .ok () ↔ log.InOrder first second) ∧
      (∀ refutation, log.before first second = .error refutation ↔ log.OutOfOrder first second refutation) ∧
      (log.absent unwanted = .ok () ↔ log.count unwanted = 0) ∧
      (log.count unwanted = 0 ↔ log.position? unwanted = none) ∧
      ∀ refutation, log.absent unwanted = .error refutation ↔
        ∃ position call, log.IsFirst unwanted position call ∧ refutation = .unexpected call position :=
  ⟨before_eq_ok_iff, fun _ => before_eq_error_iff, absent_eq_ok_iff.trans count_eq_zero_iff.symm,
    count_eq_zero_iff.trans position?_eq_none_iff.symm, fun _ => absent_eq_error_iff⟩

/-- A call of both kinds is not before itself. -/
example : before [.generate, .settle, .generate] (· == .settle) (· != .generate) =
    .error (.disorder .settle 1 .settle 1) := rfl

end Relink.CallLog
