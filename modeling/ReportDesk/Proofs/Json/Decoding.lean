import Mathlib
import ReportDesk.Json.Decode

/-! # Decoding what is written

    How decoders meet documents of a known shape: lists item by item, objects member by member,
    records field by field. A document in memory has been settled, which sorts the members of its
    objects; as long as keys are distinct it has the same members after that, in another order.
-/

namespace ReportDesk.Json

open Decoder (elements memberValues)

/-! ### Lists and objects -/

section

variable {α β : Type} {decoder : Decoder β} {scope : Scope}

/-- Items are decoded one by one. -/
theorem exists_elements {R : α → β → Prop} {as : List α} {items : List Json}
    (h : List.Forall₂ (fun a item => ∃ b, decoder scope item = .ok b ∧ R a b) as items) (i : Nat) :
    ∃ bs, elements decoder scope i items = .ok bs ∧ List.Forall₂ R as bs := by
  induction h generalizing i with
  | nil => exact ⟨[], rfl, .nil⟩
  | cons hfirst _ ih =>
    obtain ⟨b, hb, hR⟩ := hfirst
    obtain ⟨bs, hbs, hrest⟩ := ih (i + 1)
    exact ⟨b :: bs, by simp [elements, hb, hbs, Except.map], .cons hR hrest⟩

/-- What is written item by item is decoded item by item. -/
theorem elements_map {write : β → Json} (h : ∀ b, decoder scope (write b) = .ok b) (bs : List β)
    (i : Nat) : elements decoder scope i (bs.map write) = .ok bs := by
  induction bs generalizing i with
  | nil => rfl
  | cons b rest ih => simp [elements, h, ih, Except.map]

theorem elements_string (texts : List String) (scope : Scope) (i : Nat) :
    elements Decoder.string scope i (texts.map .string) = .ok texts :=
  elements_map (fun _ => rfl) texts i

theorem list_map {write : β → Json} (h : ∀ scope b, decoder scope (write b) = .ok b)
    (bs : List β) : Decoder.list decoder scope (.array (bs.map write)) = .ok bs :=
  elements_map (h scope.inside) bs 0

theorem memberValues_eq {members : List (String × Json)} {value : Json → β}
    (h : ∀ m ∈ members, decoder scope m.2 = .ok (value m.2)) :
    memberValues decoder scope members = .ok (members.map fun m => (m.1, value m.2)) := by
  induction members with
  | nil => rfl
  | cons member rest ih =>
    have hfirst := h member (by simp)
    have hrest := ih fun m hm => h m (by simp [hm])
    simp [memberValues, hfirst, hrest, Except.map]

end

/-! ### Words -/

theorem toNat_lt_unsignedLimit (n : UInt64) : (n.toNat : Int) < Decimal.unsignedLimit := by
  have hlimit : Decimal.unsignedLimit = 2 ^ 64 := by norm_num [Decimal.unsignedLimit]
  have hlt := n.toNat_lt
  omega

theorem word64_toNat {scope : Scope} (n : UInt64) :
    Decoder.word64 scope (.integer n.toNat) = .ok n := by
  have hlow : (0 : Int) ≤ n.toNat := by omega
  have hinteger : Decoder.integer 0 Decimal.unsignedLimit "u64" scope (.integer n.toNat) =
      .ok (n.toNat : Int) := by
    rw [Decoder.integer, decide_eq_true hlow, decide_eq_true (toNat_lt_unsignedLimit n)]
    rfl
  rw [Decoder.word64, hinteger]
  simp [Except.map]

/-! ### Records -/

section

variable {α β : Type}

@[simp]
theorem Reading.map_done (f : α → β) (a : α) : f <$> Reading.done a = .done (f a) :=
  rfl

@[simp]
theorem Reading.seq_done (f : α → β) (a : α) : Reading.done f <*> Reading.done a = .done (f a) :=
  rfl

theorem Reading.map_of_done {f : α → β} {reading : Reading α} {a : α} (h : reading = .done a) :
    f <$> reading = .done (f a) := by
  rw [h, map_done]

theorem Reading.seq_of_done {function : Reading (α → β)} {argument : Reading α} {f : α → β} {a : α}
    (hf : function = .done f) (ha : argument = .done a) :
    function <*> argument = .done (f a) := by
  rw [hf, ha, seq_done]

end

/-- An object that is read as a record. -/
def Record.ofObject (scope : Scope) (type : String) (size : Nat)
    (members : List (String × Json)) : Record where
  scope := scope.inside
  type := type
  size := size
  parts := .byKey members

/-- A field whose key is given once is what its value decodes to. -/
theorem Record.orNull_of_occurrence {α : Type} {record : Record} {members : List (String × Json)}
    {decoder : Decoder α} {i place : Nat} {names : List String} {key : String} {item : Json}
    {value : α} (hparts : record.parts = .byKey members)
    (honce : occurrences names 0 members = [(place, key, item)]) (hnull : item ≠ .null)
    (hvalue : decoder record.scope item = .ok value) :
    record.orNull i names decoder = .done (some value) := by
  have hnullable : Decoder.nullable decoder record.scope item = .ok (some value) := by
    cases item <;> simp_all [Decoder.nullable, Except.map]
  simp [orNull, field, hparts, honce, hnullable]

/-- Members that are read to their ends hide no fault. -/
theorem Record.faultIn_eq_done {members : List (String × Json)}
    (h : ∀ m ∈ members, m.2.isMalformed = false) (place : Nat) :
    faultIn place members = .done () := by
  induction members generalizing place with
  | nil => rfl
  | cons member rest ih =>
    have hfirst := h member (by simp)
    have hrest := ih (fun m hm => h m (by simp [hm])) (place + 1)
    simp [faultIn, hfirst, hrest]

/-- A record is what its fields make, if no member hides a fault. -/
theorem Decoder.record_object {α : Type} {type : String} {size : Nat} {fields : Record → Reading α}
    {scope : Scope} {members : List (String × Json)} {value : α}
    (hfields : fields (.ofObject scope type size members) = .done value)
    (hwhole : ∀ m ∈ members, m.2.isMalformed = false) :
    Decoder.record type size fields scope (.object members) = .ok value := by
  have hsurplus : (Record.ofObject scope type size members).surplus = .done () :=
    Record.faultIn_eq_done hwhole 0
  unfold Record.ofObject at hfields hsurplus
  simp [Decoder.record, hfields, hsurplus, Reading.map, Reading.apply, Reading.toExcept]

/-! ### Documents without faults -/

theorem anyMalformed_eq_false {items : List Json} (h : ∀ item ∈ items, item.isMalformed = false) :
    anyMalformed items = false := by
  induction items with
  | nil => rfl
  | cons item rest ih =>
    simp [anyMalformed, h item (by simp), ih fun other ho => h other (by simp [ho])]

theorem anyMemberMalformed_eq_false {members : List (String × Json)}
    (h : ∀ m ∈ members, m.2.isMalformed = false) : anyMemberMalformed members = false := by
  induction members with
  | nil => rfl
  | cons member rest ih =>
    simp [anyMemberMalformed, h member (by simp), ih fun m hm => h m (by simp [hm])]

/-! ### Settling -/

/-- Items are settled one by one. -/
theorem exists_settleItems {α : Type} {write : α → Json} {R : α → Json → Prop} {depth : Nat}
    {as : List α} (h : ∀ a ∈ as, ∃ settled, (write a).settle depth = .ok settled ∧ R a settled) :
    ∃ settled, settleItems depth (as.map write) = .ok settled ∧ List.Forall₂ R as settled := by
  induction as with
  | nil => exact ⟨[], rfl, .nil⟩
  | cons a rest ih =>
    obtain ⟨first, hfirst, hR⟩ := h a (by simp)
    obtain ⟨others, hothers, hrest⟩ := ih fun b hb => h b (by simp [hb])
    refine ⟨first :: others, ?_, .cons hR hrest⟩
    simp [settleItems, hfirst, hothers, Except.map]

theorem settleItems_of_settled {depth : Nat} {items : List Json}
    (h : ∀ item ∈ items, item.settle depth = .ok item) : settleItems depth items = .ok items := by
  have heach : ∀ item ∈ items, ∃ settled, (id item).settle depth = .ok settled ∧ item = settled :=
    fun item hitem => ⟨item, h item hitem, rfl⟩
  obtain ⟨settled, hsettled, hsame⟩ := exists_settleItems heach
  rw [List.forall₂_eq_eq_eq] at hsame
  simpa [← hsame] using hsettled

/-- A new key is put somewhere among the others. -/
theorem insertMember_perm {key : String} {value : Json} {members : List (String × Json)}
    (h : key ∉ members.map Prod.fst) :
    (insertMember key value members).Perm ((key, value) :: members) := by
  induction members with
  | nil => exact .refl _
  | cons member rest ih =>
    obtain ⟨hne, hrest⟩ : key ≠ member.1 ∧ key ∉ rest.map Prod.fst := by simpa using h
    simp only [insertMember, hne, if_false]
    split
    · exact .refl _
    · exact ((ih hrest).cons member).trans (.swap _ _ _)

/-- Members with distinct keys that are settled already are sorted, and nothing else. -/
theorem exists_settleMembers_perm {depth : Nat} {done members : List (String × Json)}
    (h : ∀ m ∈ members, m.2.settle depth = .ok m.2)
    (hkeys : ((done ++ members).map Prod.fst).Nodup) :
    ∃ sorted, settleMembers depth done members = .ok sorted ∧ sorted.Perm (done ++ members) := by
  induction members generalizing done with
  | nil => exact ⟨done, rfl, by simp⟩
  | cons member rest ih =>
    obtain ⟨key, item⟩ := member
    have hitem : item.settle depth = .ok item := h (key, item) (by simp)
    have hnew : key ∉ done.map Prod.fst := by
      intro hmem
      rw [List.map_append, List.nodup_append'] at hkeys
      exact List.disjoint_left.mp hkeys.2.2 hmem (by simp)
    -- the new member may stand in front as well as where it is put
    have hmoved : (insertMember key item done ++ rest).Perm (done ++ (key, item) :: rest) :=
      ((insertMember_perm hnew).append_right rest).trans List.perm_middle.symm
    have hmovedKeys := (hmoved.map Prod.fst).nodup_iff.mpr hkeys
    obtain ⟨sorted, hsorted, hperm⟩ := ih (fun m hm => h m (by simp [hm])) hmovedKeys
    exact ⟨sorted, by simpa [settleMembers, hitem] using hsorted, hperm.trans hmoved⟩

end ReportDesk.Json
