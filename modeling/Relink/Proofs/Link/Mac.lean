import Mathlib.Data.List.Forall2
import Relink.Link.Mac

/-! Written addresses. A text is read as an address exactly if it writes two octets or more in groups between single
separators; the text of an address is the one of its spellings with two small digits for each octet. -/

namespace List

variable {α β : Type}

/-- Items that are read one by one stand in line with what they are read as. -/
theorem mapM_eq_some_iff_forall₂ {read : α → Option β} {items : List α} {values : List β} :
    items.mapM read = some values ↔ Forall₂ (fun item value => read item = some value) items values := by
  induction items generalizing values with
  | nil => simp [eq_comm]
  | cons item rest ih =>
    rw [mapM_cons, forall₂_cons_left_iff]
    simp only [Option.bind_eq_bind, Option.bind_eq_some_iff, Option.pure_def, Option.some.injEq, ih]
    grind

end List

namespace Relink.Text

/-- A character that is the hexadecimal digit of a value, in either case. -/
def IsHexDigit (c : Char) (value : Nat) : Prop :=
  "0123456789abcdef".toList[value]? = some c ∨ "0123456789ABCDEF".toList[value]? = some c

section Digits

variable {c : Char} {value : Nat}

theorem IsHexDigit.lt (digit : IsHexDigit c value) : value < 16 := by
  rcases digit with lower | upper
  · exact (List.getElem?_eq_some_iff.mp lower).1
  · exact (List.getElem?_eq_some_iff.mp upper).1

theorem IsHexDigit.digit? (digit : IsHexDigit c value) : digit? 16 c = some value := by
  have each : ∀ value < 16, ∀ digits ∈ ["0123456789abcdef", "0123456789ABCDEF"],
      digits.toList[value]?.bind (Text.digit? 16) = some value := by decide
  have small := digit.lt
  rcases digit with lower | upper
  · have read := each value small _ List.mem_cons_self
    rwa [lower] at read
  · have read := each value small _ (List.mem_cons_of_mem _ List.mem_cons_self)
    rwa [upper] at read

theorem exists_ofNat_of_le {low high : Char} (above : low ≤ c) (below : c ≤ high) :
    ∃ n, c = Char.ofNat (low.toNat + n) ∧ low.toNat + n ≤ high.toNat ∧ c.toNat - low.toNat = n := by
  have lower : low.toNat ≤ c.toNat := above
  have upper : c.toNat ≤ high.toNat := below
  refine ⟨c.toNat - low.toNat, ?_, by omega, rfl⟩
  rw [Nat.add_sub_cancel' lower, Char.ofNat_toNat]

theorem digit?_sixteen_eq_some_iff : digit? 16 c = some value ↔ IsHexDigit c value := by
  refine ⟨fun found => ?_, IsHexDigit.digit?⟩
  obtain ⟨counted, small⟩ := Option.filter_eq_some_iff.mp found
  have small : value < 16 := by simpa using small
  have lowerCase : ∀ n < 6, "0123456789abcdef".toList[n + 10]? = some (Char.ofNat ('a'.toNat + n)) := by decide
  have upperCase : ∀ n < 6, "0123456789ABCDEF".toList[n + 10]? = some (Char.ofNat ('A'.toNat + n)) := by decide
  have decimal : ∀ n < 10, "0123456789abcdef".toList[n]? = some (Char.ofNat ('0'.toNat + n)) := by decide
  rw [digitValue?] at counted
  split at counted
  · rename_i between
    obtain ⟨n, rfl, bound, same⟩ := exists_ofNat_of_le between.1 between.2
    rw [same, Option.some.injEq] at counted
    subst counted
    exact .inl (decimal n (Nat.lt_succ_of_le (Nat.le_of_add_le_add_left bound)))
  split at counted
  · rename_i between
    obtain ⟨n, rfl, -, same⟩ := exists_ofNat_of_le between.1 between.2
    rw [same, Option.some.injEq] at counted
    subst counted
    exact .inl (lowerCase n (by omega))
  split at counted
  · rename_i between
    obtain ⟨n, rfl, -, same⟩ := exists_ofNat_of_le between.1 between.2
    rw [same, Option.some.injEq] at counted
    subst counted
    exact .inr (upperCase n (by omega))
  · cases counted

theorem getElem?_hexDigit (small : value < 16) : "0123456789abcdef".toList[value]? = some (hexDigit value) := by
  have each : ∀ value < 16, "0123456789abcdef".toList[value]? = some (hexDigit value) := by decide
  exact each value small

end Digits

section Blanks

variable {before body after : List Char}

theorem dropWhile_isBlank_append (blanks : ∀ c ∈ before, isBlank c = true) (rest : List Char) :
    (before ++ rest).dropWhile isBlank = rest.dropWhile isBlank :=
  List.dropWhile_append_of_pos blanks

theorem dropWhile_isBlank_eq_self (solid : ∀ c ∈ body, isBlank c = false) : body.dropWhile isBlank = body := by
  cases body with
  | nil => rfl
  | cons c rest => rw [List.dropWhile_cons, solid c List.mem_cons_self, if_neg Bool.false_ne_true]

/-- What stands between the blanks at the two ends of a text, if it holds none itself. -/
theorem trimmed_between (opening : ∀ c ∈ before, isBlank c = true) (closing : ∀ c ∈ after, isBlank c = true)
    (solid : ∀ c ∈ body, isBlank c = false) : trimmed (before ++ body ++ after) = body := by
  have closed : ∀ c ∈ after.reverse, isBlank c = true := fun c member => closing c (List.mem_reverse.mp member)
  have reversed : ∀ c ∈ body.reverse, isBlank c = false := fun c member => solid c (List.mem_reverse.mp member)
  have opened : (body ++ after).dropWhile isBlank = body ++ after ∨ body = [] := by
    cases body with
    | nil => exact .inr rfl
    | cons c rest => exact .inl (by simp [solid c List.mem_cons_self])
  rw [trimmed, List.append_assoc, dropWhile_isBlank_append opening]
  rcases opened with kept | rfl
  · rw [kept, List.reverse_append, dropWhile_isBlank_append closed, dropWhile_isBlank_eq_self reversed,
      List.reverse_reverse]
  · have spent : after.dropWhile isBlank = [] := by simpa using dropWhile_isBlank_append closing []
    rw [List.nil_append, spent]
    rfl

/-- A text is what is left of it, between blanks. -/
theorem exists_blanks (cs : List Char) :
    ∃ before after, cs = before ++ trimmed cs ++ after ∧ ∀ c ∈ before ++ after, isBlank c = true := by
  let opened := cs.dropWhile isBlank
  refine ⟨cs.takeWhile isBlank, (opened.reverse.takeWhile isBlank).reverse, ?_, ?_⟩
  · have parts : trimmed cs ++ (opened.reverse.takeWhile isBlank).reverse = opened := by
      rw [trimmed, ← List.reverse_append, List.takeWhile_append_dropWhile, List.reverse_reverse]
    rw [List.append_assoc, parts, List.takeWhile_append_dropWhile]
  · intro c member
    rcases List.mem_append.mp member with opening | closing
    · exact List.all_eq_true.mp List.all_takeWhile c opening
    · exact List.all_eq_true.mp List.all_takeWhile c (List.mem_reverse.mp closing)

end Blanks

end Relink.Text

namespace Relink.Link.Mac

open Text (IsHexDigit isBlank trimmed)

/-- A group that spells an octet: one or two hexadecimal digits. -/
inductive Spells : List Char → UInt8 → Prop where
  | one {c : Char} {value : Nat} (digit : IsHexDigit c value) : Spells [c] (.ofNat value)
  | two {c d : Char} {upper lower : Nat} (first : IsHexDigit c upper) (second : IsHexDigit d lower) :
      Spells [c, d] (.ofNat (16 * upper + lower))

/-- A group that is taken for an octet: one that spells it, or a plus sign before the only digit of one that does. -/
def Admits (group : List Char) (octet : UInt8) : Prop :=
  Spells group octet ∨ ∃ c, group = ['+', c] ∧ Spells [c] octet

/-- A text that writes octets, two to thirty-two of them: a group for each, the same separator, a colon or a hyphen,
between every two groups, and blanks around them all. -/
structure Writes (Group : List Char → UInt8 → Prop) (text : String) (octets : List UInt8) : Prop where
  least : 2 ≤ octets.length
  most : octets.length ≤ 32
  spelled : ∃ separator before after, ∃ groups : List (List Char), (separator = ':' ∨ separator = '-') ∧
    text.toList = before ++ [separator].intercalate groups ++ after ∧ (∀ c ∈ before ++ after, isBlank c = true) ∧
    List.Forall₂ Group groups octets

section Octets

variable {octets : List UInt8} {address : Mac}

theorem ofOctets?_eq_some_iff :
    ofOctets? octets = some address ↔ (0 < octets.length ∧ octets.length ≤ 32) ∧
      address = ⟨octets.length, Vector.ofFn fun i => octets.getD i 0⟩ := by
  rw [ofOctets?]
  split
  · rename_i outside
    simp only [reduceCtorEq, false_iff]
    rintro ⟨inside, -⟩
    omega
  · rename_i inside
    simp only [Option.some.injEq, eq_comm]
    exact ⟨fun same => ⟨by omega, same⟩, And.right⟩

theorem exists_ofOctets? (least : 0 < octets.length) (most : octets.length ≤ 32) :
    ∃ address, ofOctets? octets = some address :=
  ⟨_, ofOctets?_eq_some_iff.mpr ⟨⟨least, most⟩, rfl⟩⟩

theorem octets_of_ofOctets? (made : ofOctets? octets = some address) : address.octets = octets := by
  obtain ⟨⟨least, most⟩, rfl⟩ := ofOctets?_eq_some_iff.mp made
  rw [Mac.octets]
  refine List.ext_getElem ?_ fun i here there => ?_
  · simp [most]
  · simp [there]

end Octets

section Groups

variable {group : List Char} {octet : UInt8} {c : Char}

/-- No digit is taken for anything that stands around groups. -/
theorem isHexDigit_apart {value : Nat} (digit : IsHexDigit c value) :
    c ≠ '+' ∧ c ≠ ':' ∧ c ≠ '-' ∧ isBlank c = false := by
  have each : ("0123456789abcdef" ++ "0123456789ABCDEF").toList.all
      (fun c => c ≠ '+' ∧ c ≠ ':' ∧ c ≠ '-' ∧ isBlank c = false) = true := by decide
  have member : c ∈ ("0123456789abcdef" ++ "0123456789ABCDEF").toList := by
    rw [String.toList_append, List.mem_append]
    exact digit.imp List.mem_of_getElem? List.mem_of_getElem?
  exact of_decide_eq_true (List.all_eq_true.mp each c member)

theorem Spells.forall_mem (spells : Spells group octet) {Holds : Char → Prop}
    (each : ∀ c value, IsHexDigit c value → Holds c) : ∀ c ∈ group, Holds c := by
  cases spells with
  | one digit => exact List.forall_mem_singleton.mpr (each _ _ digit)
  | two first second => exact List.forall_mem_cons.mpr ⟨each _ _ first, List.forall_mem_singleton.mpr (each _ _ second)⟩

theorem spells_singleton_iff : Spells [c] octet ↔ ∃ value, Text.digit? 16 c = some value ∧ UInt8.ofNat value = octet := by
  constructor
  · intro spells
    cases spells with
    | one digit => exact ⟨_, digit.digit?, rfl⟩
  · rintro ⟨value, found, rfl⟩
    exact .one (Text.digit?_sixteen_eq_some_iff.mp found)

theorem spells_pair_iff {d : Char} : Spells [c, d] octet ↔
    ∃ value, Text.number? 16 [c, d] = some value ∧ UInt8.ofNat value = octet := by
  constructor
  · intro spells
    cases spells with
    | two first second =>
      refine ⟨_, ?_, rfl⟩
      simp [Text.number?, Text.extendNumber?, first.digit?, second.digit?, Nat.mul_comm]
  · rintro ⟨value, found, rfl⟩
    simp only [Text.number?, Text.extendNumber?, List.isEmpty_cons, Bool.false_eq_true, if_false, Nat.zero_mul,
      Nat.zero_add, Option.bind_eq_some_iff, Option.some.injEq] at found
    obtain ⟨upper, first, lower, second, rfl⟩ := found
    rw [Nat.mul_comm]
    exact .two (Text.digit?_sixteen_eq_some_iff.mp first) (Text.digit?_sixteen_eq_some_iff.mp second)

theorem group?_eq_some_iff : group? group = some octet ↔ Admits group octet := by
  match group with
  | [] => exact iff_of_false nofun (by rintro (spells | ⟨c, same, -⟩) <;> cases ‹_›)
  | [c] => simp [group?, Admits, spells_singleton_iff]
  | [c, d] =>
    by_cases sign : c = '+'
    · subst sign
      have unspelled : ¬Spells ['+', d] octet := fun spells =>
        (spells.forall_mem (fun _ _ => isHexDigit_apart) '+' List.mem_cons_self).1 rfl
      simp [Admits, group?, unspelled, spells_singleton_iff]
    · have read : group? [c, d] = (Text.number? 16 [c, d]).map UInt8.ofNat := by
        simp [group?]
      simp [Admits, read, sign, spells_pair_iff]
  | _ :: _ :: _ :: _ => exact iff_of_false nofun (by rintro (spells | ⟨c, same, -⟩) <;> cases ‹_›)

theorem Admits.forall_mem (admits : Admits group octet) : ∀ c ∈ group, c ≠ ':' ∧ c ≠ '-' ∧ isBlank c = false := by
  have digits {part : List Char} (spells : Spells part octet) : ∀ c ∈ part, c ≠ ':' ∧ c ≠ '-' ∧ isBlank c = false :=
    spells.forall_mem fun _ _ digit => (isHexDigit_apart digit).2
  rcases admits with spells | ⟨c, rfl, spells⟩
  · exact digits spells
  · exact List.forall_mem_cons.mpr ⟨by decide, digits spells⟩

end Groups

section Parts

variable {cs : List Char} {octets : List UInt8} {groups : List (List Char)} {separator : Char} {address : Mac}
variable {text : String}

theorem forall_mem_groups (admitted : List.Forall₂ Admits groups octets) :
    ∀ group ∈ groups, ∀ c ∈ group, c ≠ ':' ∧ c ≠ '-' ∧ isBlank c = false :=
  ((List.forall₂_and_left _ _).mp (admitted.imp fun _ _ admits => ⟨admits.forall_mem, admits⟩)).1

theorem eq_or_mem_of_mem_intercalate {c : Char} (member : c ∈ [separator].intercalate groups) :
    c = separator ∨ ∃ group ∈ groups, c ∈ group := by
  induction groups with
  | nil => cases member
  | cons first rest ih =>
    cases rest with
    | nil => exact .inr ⟨first, List.mem_cons_self, by simpa using member⟩
    | cons second later =>
      rw [List.intercalate_cons_cons, List.append_assoc] at member
      rcases List.mem_append.mp member with here | further
      · exact .inr ⟨first, List.mem_cons_self, here⟩
      rcases List.mem_cons.mp further with same | further
      · exact .inl same
      rcases ih further with same | ⟨group, among, present⟩
      · exact .inl same
      · exact .inr ⟨group, List.mem_cons_of_mem first among, present⟩

theorem mem_intercalate_of_mem {group : List Char} (among : group ∈ groups) {c : Char} (member : c ∈ group) :
    c ∈ [separator].intercalate groups := by
  induction groups with
  | nil => cases among
  | cons first rest ih =>
    rcases List.mem_cons.mp among with rfl | later
    · cases rest with
      | nil => simpa using member
      | cons second later => simp [List.intercalate_cons_cons, member]
    · cases rest with
      | nil => cases later
      | cons second further =>
        rw [List.intercalate_cons_cons]
        exact List.mem_append_right _ (ih later)

theorem separator_mem_intercalate (several : 2 ≤ groups.length) : separator ∈ [separator].intercalate groups := by
  match groups, several with
  | first :: second :: rest, _ => simp [List.intercalate_cons_cons]

theorem separator_cases (cs : List Char) : Mac.separator cs = ':' ∨ Mac.separator cs = '-' := by
  rw [Mac.separator]
  split
  · exact .inl rfl
  · exact .inr rfl

/-- Two groups or more tell which separator is between them. -/
theorem separator_intercalate (known : separator = ':' ∨ separator = '-') (several : 2 ≤ groups.length)
    (apart : ∀ group ∈ groups, ∀ c ∈ group, c ≠ ':') : Mac.separator ([separator].intercalate groups) = separator := by
  rcases known with rfl | rfl
  · exact if_pos (separator_mem_intercalate several)
  · refine if_neg fun member => ?_
    rcases eq_or_mem_of_mem_intercalate member with same | ⟨group, among, present⟩
    · cases same
    · exact apart group among ':' present rfl

theorem ofGroups?_eq_some_iff : ofGroups? cs = some address ↔
    ∃ octets, List.Forall₂ Admits (cs.splitOn (Mac.separator cs)) octets ∧ 2 ≤ octets.length ∧
      ofOctets? octets = some address := by
  simp only [ofGroups?, Option.bind_eq_bind, Option.bind_eq_some_iff, List.mapM_eq_some_iff_forall₂, group?_eq_some_iff]
  refine exists_congr fun octets => and_congr_right fun _ => ?_
  by_cases few : octets.length < 2
  · simp [few, Nat.not_le_of_lt few]
  · simp [few, Nat.le_of_not_lt few]

/-- An address is read from what writes its octets, and from nothing else. -/
theorem ofGroups?_trimmed : ofGroups? (trimmed text.toList) = some address ↔
    Writes Admits text address.octets ∧ ofOctets? address.octets = some address := by
  rw [ofGroups?_eq_some_iff]
  constructor
  · rintro ⟨octets, admitted, several, made⟩
    have most := (ofOctets?_eq_some_iff.mp made).1.2
    obtain ⟨before, after, parts, blanks⟩ := Text.exists_blanks text.toList
    rw [octets_of_ofOctets? made]
    refine ⟨⟨several, most, _, before, after, _, separator_cases (trimmed text.toList), ?_, blanks, admitted⟩, made⟩
    rwa [List.intercalate_splitOn]
  · rintro ⟨⟨several, -, separator, before, after, groups, known, parts, blanks, admitted⟩, made⟩
    have free := forall_mem_groups admitted
    have solid : ∀ c ∈ [separator].intercalate groups, isBlank c = false := by
      intro c member
      rcases eq_or_mem_of_mem_intercalate member with rfl | ⟨group, among, present⟩
      · rcases known with rfl | rfl <;> rfl
      · exact (free group among c present).2.2
    have body : trimmed text.toList = [separator].intercalate groups := by
      rw [parts]
      exact Text.trimmed_between (fun c member => blanks c (List.mem_append_left _ member))
        (fun c member => blanks c (List.mem_append_right _ member)) solid
    have groupsToo : 2 ≤ groups.length := by rwa [admitted.length_eq]
    have told := separator_intercalate known groupsToo fun group among c present => (free group among c present).1
    refine ⟨_, ?_, several, made⟩
    rw [body, told, List.splitOn_intercalate]
    · exact admitted
    · rintro group among present
      rcases known with rfl | rfl
      · exact (free group among _ present).1 rfl
      · exact (free group among _ present).2.1 rfl
    · rintro rfl
      simp at groupsToo

theorem parse_eq_ok_iff : parse text = .ok address ↔
    Writes Admits text address.octets ∧ ofOctets? address.octets = some address := by
  rw [← ofGroups?_trimmed, parse]
  cases ofGroups? (trimmed text.toList) <;> simp

end Parts

section Reading

variable {text : String} {octets : List UInt8}

theorem exists_parse_of_writes (writes : Writes Admits text octets) :
    ∃ address, parse text = .ok address ∧ address.octets = octets := by
  obtain ⟨address, made⟩ := exists_ofOctets? (Nat.lt_of_lt_of_le Nat.zero_lt_two writes.least) writes.most
  have same := octets_of_ofOctets? made
  subst same
  exact ⟨address, parse_eq_ok_iff.mpr ⟨writes, made⟩, rfl⟩

theorem Writes.imp {Group Other : List Char → UInt8 → Prop} (weaker : ∀ group octet, Group group octet → Other group octet)
    (writes : Writes Group text octets) : Writes Other text octets := by
  obtain ⟨least, most, separator, before, after, groups, known, parts, blanks, spelled⟩ := writes
  exact ⟨least, most, separator, before, after, groups, known, parts, blanks, spelled.imp weaker⟩

/-- Without a plus sign, what is taken for octets is what spells them. -/
theorem writes_spells_iff : Writes Spells text octets ↔ Writes Admits text octets ∧ '+' ∉ text.toList := by
  constructor
  · intro writes
    refine ⟨writes.imp fun _ _ => .inl, fun sign => ?_⟩
    obtain ⟨-, -, separator, before, after, groups, known, parts, blanks, spelled⟩ := writes
    have unsigned : ∀ group ∈ groups, ∀ c ∈ group, c ≠ '+' :=
      ((List.forall₂_and_left _ _).mp (spelled.imp fun _ _ spells =>
        ⟨spells.forall_mem fun _ _ digit => (isHexDigit_apart digit).1, spells⟩)).1
    rw [parts, List.append_assoc] at sign
    rcases List.mem_append.mp sign with opening | sign
    · cases blanks _ (List.mem_append_left _ opening)
    rcases List.mem_append.mp sign with body | closing
    · rcases eq_or_mem_of_mem_intercalate body with same | ⟨group, among, present⟩
      · rcases known with rfl | rfl <;> cases same
      · exact unsigned group among '+' present rfl
    · cases blanks _ (List.mem_append_right _ closing)
  · rintro ⟨⟨least, most, separator, before, after, groups, known, parts, blanks, admitted⟩, unsigned⟩
    refine ⟨least, most, separator, before, after, groups, known, parts, blanks, ?_⟩
    have signless : ∀ group ∈ groups, '+' ∉ group := by
      intro group among sign
      refine unsigned ?_
      rw [parts]
      exact List.mem_append_left _ (List.mem_append_right _ (mem_intercalate_of_mem among sign))
    refine ((List.forall₂_and_left _ _).mpr ⟨signless, admitted⟩).imp fun group octet => ?_
    rintro ⟨signless, spells | ⟨c, rfl, -⟩⟩
    · exact spells
    · exact absurd List.mem_cons_self signless

theorem parse_cases (text : String) : (∃ address, parse text = .ok address) ∨ parse text = .error (.macAddress text) := by
  rw [parse]
  cases ofGroups? (trimmed text.toList) with
  | none => exact .inr rfl
  | some address => exact .inl ⟨address, rfl⟩

/-- A text is read as an address exactly if it writes two to thirty-two octets, and those are the octets of the address;
any other text is refused as it stands. A single digit may have a plus sign before it, and a text without one writes
nothing but one or two hexadecimal digits for each octet. -/
theorem parse_accepts (text : String) :
    (∀ octets, Writes Admits text octets ↔ ∃ address, parse text = .ok address ∧ address.octets = octets) ∧
    (parse text = .error (.macAddress text) ↔ ∀ octets, ¬Writes Admits text octets) ∧
    ∀ octets, Writes Spells text octets ↔ Writes Admits text octets ∧ '+' ∉ text.toList := by
  refine ⟨fun octets => ⟨exists_parse_of_writes, ?_⟩, ⟨fun refused octets writes => ?_, fun unwritten => ?_⟩,
    fun octets => writes_spells_iff⟩
  · rintro ⟨address, read, rfl⟩
    exact (parse_eq_ok_iff.mp read).1
  · obtain ⟨address, read, -⟩ := exists_parse_of_writes writes
    cases read.symm.trans refused
  · rcases parse_cases text with ⟨address, read⟩ | refused
    · exact absurd (parse_eq_ok_iff.mp read).1 (unwritten address.octets)
    · exact refused

/-- A digit is read with a plus sign before it, although the two do not spell an octet. -/
theorem parse_accepts_signed_digit :
    ¬∀ text, (∃ address, parse text = .ok address) ↔ ∃ octets, Writes Spells text octets := by
  intro grammar
  have read : ∃ address, parse "+a:1b" = .ok address := ⟨_, rfl⟩
  obtain ⟨octets, writes⟩ := (grammar "+a:1b").mp read
  exact (writes_spells_iff.mp writes).2 (by decide)

end Reading

section Canonical

/-- A group of the two small hexadecimal digits of an octet. -/
def IsSmallPair (group : List Char) (octet : UInt8) : Prop :=
  ∃ first second, group = [first, second] ∧ "0123456789abcdef".toList[octet.toNat / 16]? = some first ∧
    "0123456789abcdef".toList[octet.toNat % 16]? = some second

/-- A text that writes octets in the canonical way: small pairs with colons between them. -/
def IsCanonical (text : String) (octets : List UInt8) : Prop :=
  ∃ groups, text.toList = [':'].intercalate groups ∧ List.Forall₂ IsSmallPair groups octets

variable {text other : String} {octets : List UInt8} {address another : Mac}

theorem isSmallPair_hexPair (octet : UInt8) : IsSmallPair (Text.hexPair octet) octet := by
  have bound := octet.toNat_lt
  exact ⟨_, _, rfl, Text.getElem?_hexDigit (by omega), Text.getElem?_hexDigit (by omega)⟩

theorem IsSmallPair.spells {group : List Char} {octet : UInt8} (pair : IsSmallPair group octet) : Spells group octet := by
  obtain ⟨first, second, rfl, upper, lower⟩ := pair
  have spelled := Spells.two (.inl upper) (.inl lower)
  rwa [Nat.div_add_mod, UInt8.ofNat_toNat] at spelled

theorem toList_toText (address : Mac) :
    address.toText.toList = [':'].intercalate (address.octets.map Text.hexPair) := by
  rw [toText, String.toList_ofList]

theorem isCanonical_toText (address : Mac) : IsCanonical address.toText address.octets := by
  refine ⟨_, toList_toText address, List.forall₂_map_left_iff.mpr ?_⟩
  exact List.forall₂_same.mpr fun octet _ => isSmallPair_hexPair octet

theorem IsCanonical.writes (canonical : IsCanonical text octets) (least : 2 ≤ octets.length) (most : octets.length ≤ 32) :
    Writes Admits text octets := by
  obtain ⟨groups, parts, pairs⟩ := canonical
  refine ⟨least, most, ':', [], [], groups, .inl rfl, by simpa using parts, by simp, ?_⟩
  exact pairs.imp fun _ _ pair => .inl pair.spells

theorem parse_toText_of_ofOctets? (made : ofOctets? octets = some address) (least : 2 ≤ octets.length) :
    parse address.toText = .ok address := by
  have most := (ofOctets?_eq_some_iff.mp made).1.2
  have same := octets_of_ofOctets? made
  subst same
  exact parse_eq_ok_iff.mpr ⟨(isCanonical_toText address).writes least most, made⟩

theorem parse_toText_of_parse (read : parse text = .ok address) : parse address.toText = .ok address := by
  obtain ⟨writes, made⟩ := parse_eq_ok_iff.mp read
  exact parse_toText_of_ofOctets? made writes.least

theorem toText_injective_of_parse (read : parse text = .ok address) (readOther : parse other = .ok another) :
    address = another ↔ address.toText = another.toText := by
  refine ⟨congrArg toText, fun same => ?_⟩
  have back := parse_toText_of_parse read
  rw [same, parse_toText_of_parse readOther] at back
  exact (Except.ok.inj back).symm

/-- One octet alone has no separator in its text. -/
theorem parse_toText_of_single {octet : UInt8} (single : address.octets = [octet]) :
    ¬∃ another, parse address.toText = .ok another := by
  rintro ⟨another, read⟩
  obtain ⟨several, -, separator, before, after, groups, known, parts, -, admitted⟩ := (parse_eq_ok_iff.mp read).1
  have present : separator ∈ address.toText.toList := by
    rw [parts]
    have inside : separator ∈ [separator].intercalate groups :=
      separator_mem_intercalate (admitted.length_eq ▸ several)
    exact List.mem_append_left _ (List.mem_append_right _ inside)
  rw [toList_toText, single, List.map_singleton, List.intercalate_singleton] at present
  have free := (isSmallPair_hexPair octet).spells.forall_mem (fun _ _ => isHexDigit_apart) separator present
  rcases known with rfl | rfl
  · exact free.2.1 rfl
  · exact free.2.2.1 rfl

/-- The text of an address is the canonical one of the texts that are read as it. What writes the same octets is read
as the same address and what writes others as another, and of all addresses only those of one octet have texts that are
not read back. -/
theorem parse_toText_canonical :
    (∀ octets : List UInt8, 2 ≤ octets.length → octets.length ≤ 32 →
      ∃ address, ofOctets? octets = some address ∧ parse address.toText = .ok address) ∧
    (∀ text address, parse text = .ok address →
      IsCanonical address.toText address.octets ∧ parse address.toText = .ok address) ∧
    (∀ text other address another, parse text = .ok address → parse other = .ok another →
      (address = another ↔ address.toText = another.toText)) ∧
    (∀ text other octets others, Writes Admits text octets → Writes Admits other others →
      (parse text = parse other ↔ octets = others)) ∧
    ∀ octets address, ofOctets? octets = some address →
      ((∃ another, parse address.toText = .ok another) ↔ octets.length ≠ 1) := by
  refine ⟨fun octets least most => ?_, fun text address read => ?_, fun text other address another => ?_,
    fun text other octets others writes writesOther => ?_, fun octets address made => ?_⟩
  · obtain ⟨address, made⟩ := exists_ofOctets? (Nat.lt_of_lt_of_le Nat.zero_lt_two least) most
    exact ⟨address, made, parse_toText_of_ofOctets? made least⟩
  · exact ⟨isCanonical_toText address, parse_toText_of_parse read⟩
  · exact toText_injective_of_parse
  · obtain ⟨address, read, rfl⟩ := exists_parse_of_writes writes
    obtain ⟨another, readOther, rfl⟩ := exists_parse_of_writes writesOther
    rw [read, readOther, Except.ok.injEq]
    refine ⟨congrArg Mac.octets, fun same => ?_⟩
    have made := (parse_eq_ok_iff.mp read).2
    rw [same, (parse_eq_ok_iff.mp readOther).2] at made
    exact (Option.some.inj made).symm
  · have same := octets_of_ofOctets? made
    subst same
    have least := (ofOctets?_eq_some_iff.mp made).1.1
    constructor
    · intro back single
      obtain ⟨octet, alone⟩ := List.length_eq_one_iff.mp single
      exact parse_toText_of_single alone back
    · intro several
      exact ⟨address, parse_toText_of_ofOctets? made (by omega)⟩

/-- Small letters or large, colons or hyphens, one digit or two, and blanks around: all are spellings of one address. -/
theorem parse_toText_canonical_spellings :
    ∃ address, ofOctets? [0xAA, 0x0B, 0x0C] = some address ∧ parse address.toText = .ok address ∧
      parse " AA-B-0c\n" = .ok address ∧ IsCanonical address.toText address.octets ∧
      (∃ another, parse "aA:0b:C" = .ok another ∧ another = address) ∧ parse "aA:0b:C" = parse " AA-B-0c\n" ∧
      ∃ single, ofOctets? [7] = some single ∧ ¬∃ another, parse single.toText = .ok another := by
  obtain ⟨ofOctets, ofText, sameText, sameOctets, ofSingle⟩ := parse_toText_canonical
  obtain ⟨address, made, back⟩ := ofOctets [0xAA, 0x0B, 0x0C] (by decide) (by decide)
  cases made
  have hyphens : parse " AA-B-0c\n" = .ok _ := rfl
  have colons : parse "aA:0b:C" = .ok _ := rfl
  have writes := (parse_eq_ok_iff.mp hyphens).1
  have writesToo := (parse_eq_ok_iff.mp colons).1
  refine ⟨_, rfl, back, hyphens, (ofText _ _ hyphens).1, ⟨_, colons, (sameText _ _ _ _ colons hyphens).mpr rfl⟩,
    (sameOctets _ _ _ _ writesToo writes).mpr rfl, _, rfl, ?_⟩
  rw [ofSingle [7] _ rfl]
  decide

end Canonical

end Relink.Link.Mac
