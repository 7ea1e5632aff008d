import Mathlib.Data.List.Shortlex
import Relink.Proofs.Link.Mac

/-! The order of addresses. The field of an address that has been made is its octets with zeros behind them, so that
comparing whole fields comes to comparing octets: shorter addresses first, and those of one length octet by octet. -/

namespace List

variable {α : Type} [LT α]

/-- Lists of one length compare as they do with the same items behind both. -/
theorem append_lt_append_right_iff [Std.Irrefl fun a b : α => a < b] {first second : List α}
    (same : first.length = second.length) (more : List α) : first ++ more < second ++ more ↔ first < second := by
  induction first generalizing second with
  | nil =>
    obtain rfl : second = [] := List.eq_nil_of_length_eq_zero same.symm
    simp [List.lt_irrefl]
  | cons a rest ih =>
    cases second with
    | nil => cases same
    | cons b others =>
      simp only [cons_append, cons_lt_cons_iff, ih (Nat.succ.inj same)]

theorem Shortlex.trans [Trans (fun a b : α => a < b) (fun a b : α => a < b) fun a b : α => a < b]
    {first second third : List α} (lower : Shortlex (· < ·) first second) (upper : Shortlex (· < ·) second third) :
    Shortlex (· < ·) first third := by
  rw [shortlex_def, lex_lt] at lower upper ⊢
  rcases lower with shorter | ⟨same, before⟩
  · exact .inl (upper.elim (Nat.lt_trans shorter) fun level => level.1 ▸ shorter)
  · rcases upper with shorter | ⟨level, further⟩
    · exact .inl (same ▸ shorter)
    · exact .inr ⟨same.trans level, List.lt_trans before further⟩

end List

namespace Relink.Link.Mac

/-- An address that has been made of octets or read from a text. -/
inductive Made (address : Mac) : Prop where
  | ofOctets {octets : List UInt8} (made : ofOctets? octets = some address)
  | ofText {text : String} (read : parse text = .ok address)

variable {a b : Mac}

theorem Made.ofOctets?_octets (made : a.Made) : ofOctets? a.octets = some a := by
  cases made with
  | ofOctets made => rwa [octets_of_ofOctets? made]
  | ofText read => exact (parse_eq_ok_iff.mp read).2

theorem Made.length_octets (made : a.Made) : a.octets.length = a.length := by
  obtain ⟨-, same⟩ := ofOctets?_eq_some_iff.mp made.ofOctets?_octets
  exact (congrArg Mac.length same).symm

theorem Made.bounds (made : a.Made) : 1 ≤ a.length ∧ a.length ≤ 32 :=
  made.length_octets ▸ (ofOctets?_eq_some_iff.mp made.ofOctets?_octets).1

theorem Made.toList_field (made : a.Made) :
    a.field.toList = a.octets ++ List.replicate (32 - a.length) 0 := by
  obtain ⟨⟨-, most⟩, same⟩ := ofOctets?_eq_some_iff.mp made.ofOctets?_octets
  have field := congrArg (Vector.toList ∘ Mac.field) same
  rw [made.length_octets] at most
  refine field.trans (List.ext_getElem ?_ fun i here there => ?_)
  · simp [made.length_octets, most]
  · by_cases within : i < a.octets.length
    · simp [List.getElem_append_left within, within]
    · simp [List.getElem_append_right (Nat.le_of_not_lt within), Nat.le_of_not_lt within]

theorem Made.getElem_field_eq_zero (made : a.Made) (i : Fin 32) (behind : a.length ≤ i) : a.field[i] = 0 := by
  have past : a.octets.length ≤ i := made.length_octets ▸ behind
  have listed : a.field.toList[i.val]? = some a.field[i] := by simp
  rw [made.toList_field, List.getElem?_append_right past] at listed
  exact List.eq_of_mem_replicate (List.mem_of_getElem? listed)

theorem Made.eq_iff (madeA : a.Made) (madeB : b.Made) : a = b ↔ a.octets = b.octets := by
  refine ⟨congrArg Mac.octets, fun same => ?_⟩
  have made := madeA.ofOctets?_octets
  rw [same, madeB.ofOctets?_octets] at made
  exact (Option.some.inj made).symm

section Order

theorem ext_toList (length : a.length = b.length) (field : a.field.toList = b.field.toList) : a = b := by
  cases a
  cases b
  simp_all [Vector.toList_inj]

theorem order_eq_lt_iff : order a b = .lt ↔
    a.length < b.length ∨ a.length = b.length ∧ a.field.toList < b.field.toList := by
  rw [order, Ordering.then_eq_lt, compareOfLessAndEq_eq_lt, Nat.compare_eq_lt, Nat.compare_eq_eq]

/-- The order tells all addresses apart, also those that nothing makes. -/
theorem order_eq_eq_iff : order a b = .eq ↔ a = b := by
  constructor
  · intro even
    obtain ⟨length, fields⟩ := Ordering.then_eq_eq.mp even
    have field := (compareOfLessAndEq_eq_eq List.le_refl List.not_le).mp fields
    exact ext_toList (Nat.compare_eq_eq.mp length) field
  · rintro rfl
    have field : compareOfLessAndEq a.field.toList a.field.toList = .eq :=
      (compareOfLessAndEq_eq_eq List.le_refl List.not_le).mpr rfl
    rw [order, field, Nat.compare_eq_eq.mpr rfl]
    rfl

theorem order_swap : (order a b).swap = order b a := by
  have field : compareOfLessAndEq b.field.toList a.field.toList =
      (compareOfLessAndEq a.field.toList b.field.toList).swap :=
    compareOfLessAndEq_eq_swap List.le_antisymm List.le_total List.not_le
  rw [order, order, field, Ordering.swap_then, Nat.compare_swap]

theorem order_eq_gt_iff : order a b = .gt ↔ order b a = .lt := by
  rw [← order_swap]
  cases order a b <;> simp

/-- Where the padding is zero, the fields of addresses of one length compare as their octets do. -/
theorem Made.order_eq_lt_iff (madeA : a.Made) (madeB : b.Made) :
    order a b = .lt ↔ List.Shortlex (· < ·) a.octets b.octets := by
  rw [Mac.order_eq_lt_iff, List.shortlex_def, List.lex_lt, madeA.length_octets, madeB.length_octets]
  refine or_congr_right (and_congr_right fun same => ?_)
  have level : a.octets.length = b.octets.length := by rw [madeA.length_octets, madeB.length_octets, same]
  rw [madeA.toList_field, madeB.toList_field, same, List.append_lt_append_right_iff level]

/-- More zeros behind the octets change nothing of the field but make another, later address. -/
theorem Made.of_octets_append_zeros {count : Nat} (madeA : a.Made) (madeB : b.Made)
    (extended : b.octets = a.octets ++ List.replicate (count + 1) 0) :
    a.field = b.field ∧ a ≠ b ∧ order a b = .lt := by
  have longer : b.length = a.length + (count + 1) := by
    rw [← madeB.length_octets, extended, List.length_append, List.length_replicate, madeA.length_octets]
  have most := madeB.bounds.2
  refine ⟨?_, fun same => ?_, (madeA.order_eq_lt_iff madeB).mpr (.of_length_lt ?_)⟩
  · apply Vector.toList_inj.mp
    rw [madeA.toList_field, madeB.toList_field, extended, List.append_assoc, List.replicate_append_replicate]
    congr 2
    omega
  · rw [same] at longer
    omega
  · rw [madeA.length_octets, madeB.length_octets, longer]
    omega

end Order

/-- Of addresses that have been made of octets or read, equality and order are those of their octets, shorter ones first:
the octets past the length are zero, the order is total, and zeros behind the octets make another address although
they change nothing of the field. -/
theorem compared_by_octets :
    (∀ address : Mac, address.Made → address.octets.length = address.length ∧ 1 ≤ address.length ∧
      address.length ≤ 32 ∧ ∀ i : Fin 32, address.length ≤ i → address.field[i] = 0) ∧
    (∀ a b : Mac, a.Made → b.Made →
      (a = b ↔ a.octets = b.octets) ∧
      (order a b = .eq ↔ a = b) ∧
      (order a b = .lt ↔ List.Shortlex (· < ·) a.octets b.octets) ∧
      (order a b = .gt ↔ List.Shortlex (· < ·) b.octets a.octets)) ∧
    (∀ a b c : Mac, a.Made → b.Made → c.Made → order a b = .lt → order b c = .lt → order a c = .lt) ∧
    ∀ (a b : Mac) (count : Nat), a.Made → b.Made → b.octets = a.octets ++ List.replicate (count + 1) 0 →
      a.field = b.field ∧ a ≠ b ∧ order a b = .lt := by
  refine ⟨fun address made => ?_, fun a b madeA madeB => ?_, fun a b c madeA madeB madeC lower upper => ?_,
    fun a b count madeA madeB => madeA.of_octets_append_zeros madeB⟩
  · exact ⟨made.length_octets, made.bounds.1, made.bounds.2, made.getElem_field_eq_zero⟩
  · refine ⟨madeA.eq_iff madeB, order_eq_eq_iff, madeA.order_eq_lt_iff madeB, ?_⟩
    rw [order_eq_gt_iff, madeB.order_eq_lt_iff madeA]
  · rw [madeA.order_eq_lt_iff madeB] at lower
    rw [madeB.order_eq_lt_iff madeC] at upper
    exact (madeA.order_eq_lt_iff madeC).mpr (lower.trans upper)

/-- An address read from a text, the same with two zeros behind it made of octets, and one that comes after the first but
before the second. -/
theorem compared_by_octets_padded :
    ∃ short long other, parse "0:a" = .ok short ∧ ofOctets? [0, 10, 0, 0] = some long ∧ parse "0-b" = .ok other ∧
      short.field = long.field ∧ short ≠ long ∧ order short other = .lt ∧ order other long = .lt ∧
      order short long = .lt ∧ short.field[(2 : Fin 32)] = 0 := by
  obtain ⟨padded, compared, transitive, extended⟩ := compared_by_octets
  obtain ⟨short, readShort⟩ : ∃ short, parse "0:a" = .ok short := ⟨_, rfl⟩
  obtain ⟨other, readOther⟩ : ∃ other, parse "0-b" = .ok other := ⟨_, rfl⟩
  obtain ⟨long, madeLong⟩ : ∃ long, ofOctets? [0, 10, 0, 0] = some long := ⟨_, rfl⟩
  have madeShort : short.Made := .ofText readShort
  have madeOther : other.Made := .ofText readOther
  have octetsShort : short.octets = [0, 10] := by
    cases readShort
    decide
  have octetsOther : other.octets = [0, 11] := by
    cases readOther
    decide
  have octetsLong := octets_of_ofOctets? madeLong
  have beforeOther : order short other = .lt := by
    refine (compared _ _ madeShort madeOther).2.2.1.mpr ?_
    rw [octetsShort, octetsOther]
    exact .of_lex rfl (.cons (.rel (by decide)))
  have beforeLong : order other long = .lt := by
    refine (compared _ _ madeOther (.ofOctets madeLong)).2.2.1.mpr (.of_length_lt ?_)
    rw [octetsOther, octetsLong]
    decide
  have behind := extended short long 1 madeShort (.ofOctets madeLong) (by rw [octetsShort, octetsLong]; rfl)
  have length := (padded short madeShort).1
  rw [octetsShort] at length
  exact ⟨short, long, other, readShort, madeLong, readOther, behind.1, behind.2.1, beforeOther, beforeLong,
    transitive _ _ _ madeShort madeOther (.ofOctets madeLong) beforeOther beforeLong,
    (padded short madeShort).2.2.2 2 (by rw [← length]; decide)⟩

end Relink.Link.Mac
