import ReportDesk.Proofs.Json.Settling

/-! # What decoders accept

    For each way to put decoders together, exactly which documents it makes something of, and what:
    a list of an array whose elements it accepts, members of an object, a field that may be null of
    an object that gives it once or not at all. Settling tells what a decoder keeps; here both
    directions are told, so that a failure elsewhere can be traced to the document.
-/

namespace ReportDesk.Json

open Outcome (map_eq_ok)
open Decoder (elements memberValues)

variable {α : Type} {decoder : Decoder α} {scope : Scope}

/-! ### Leaves -/

theorem string_eq_ok_iff {json : Json} {text : String} :
    Decoder.string scope json = .ok text ↔ json = .string text := by
  constructor
  · intro h
    cases json with
    | string other =>
      cases h
      rfl
    | _ => cases h
  · rintro rfl
    rfl

theorem untyped_eq_ok_iff {json value : Json} :
    Decoder.untyped scope json = .ok value ↔ json.settle scope.depth = .ok value := by
  unfold Decoder.untyped
  cases json.settle scope.depth with
  | ok other => simp
  | error fault => simp [fail]

theorem nullable_of_ne_null {json : Json} (h : json ≠ .null) :
    Decoder.nullable decoder scope json = (decoder scope json).map some := by
  rw [Decoder.nullable]
  exact h

/-- Null is no value, and anything else has to be one. -/
theorem nullable_eq_ok_iff {json : Json} {value : Option α} :
    Decoder.nullable decoder scope json = .ok value ↔
      (json = .null ∧ value = none) ∨
        json ≠ .null ∧ ∃ given, value = some given ∧ decoder scope json = .ok given := by
  by_cases hnull : json = .null
  · subst hnull
    simp [Decoder.nullable, eq_comm]
  · rw [nullable_of_ne_null hnull]
    constructor
    · intro h
      obtain ⟨given, hgiven, rfl⟩ := map_eq_ok h
      exact .inr ⟨hnull, given, rfl, hgiven⟩
    · rintro (⟨hjson, -⟩ | ⟨-, given, rfl, hgiven⟩)
      · exact absurd hjson hnull
      · rw [hgiven]
        rfl

/-! ### Arrays and objects -/

theorem elements_eq_ok_iff {items : List Json} {values : List α} {i : Nat} :
    elements decoder scope i items = .ok values ↔
      List.Forall₂ (fun item value => decoder scope item = .ok value) items values := by
  constructor
  · intro h
    induction items generalizing values i with
    | nil =>
      cases h
      exact .nil
    | cons item rest ih =>
      rw [elements] at h
      split at h
      · cases h
      · next value hvalue =>
        obtain ⟨others, hothers, rfl⟩ := map_eq_ok h
        exact .cons hvalue (ih hothers)
  · intro h
    induction h generalizing i with
    | nil => rfl
    | cons hvalue _ ih => simp [elements, hvalue, ih, Except.map]

theorem list_eq_ok_iff {json : Json} {values : List α} :
    Decoder.list decoder scope json = .ok values ↔
      ∃ items, json = .array items ∧
        List.Forall₂ (fun item value => decoder scope.inside item = .ok value) items values := by
  constructor
  · intro h
    cases json with
    | array items => exact ⟨items, rfl, elements_eq_ok_iff.mp h⟩
    | _ => cases h
  · rintro ⟨items, rfl, h⟩
    exact elements_eq_ok_iff.mpr h

theorem list_string_eq_ok_iff {json : Json} {texts : List String} :
    Decoder.list .string scope json = .ok texts ↔ json = .array (texts.map .string) := by
  rw [list_eq_ok_iff]
  constructor
  · rintro ⟨items, rfl, h⟩
    have hitems : items = texts.map .string := by
      rw [← List.forall₂_eq_eq_eq, List.forall₂_map_right_iff]
      exact h.imp fun item text htext => string_eq_ok_iff.mp htext
    rw [hitems]
  · rintro rfl
    refine ⟨_, rfl, ?_⟩
    rw [List.forall₂_map_left_iff, List.forall₂_same]
    exact fun text _ => rfl

theorem memberValues_eq_ok_iff {members : List (String × Json)} {values : List (String × α)} :
    memberValues decoder scope members = .ok values ↔
      List.Forall₂ (fun member value => member.1 = value.1 ∧ decoder scope member.2 = .ok value.2)
        members values := by
  constructor
  · intro h
    induction members generalizing values with
    | nil =>
      cases h
      exact .nil
    | cons member rest ih =>
      obtain ⟨key, item⟩ := member
      rw [memberValues] at h
      split at h
      · cases h
      · next value hvalue =>
        obtain ⟨others, hothers, rfl⟩ := map_eq_ok h
        exact .cons ⟨rfl, hvalue⟩ (ih hothers)
  · intro h
    induction h with
    | nil => rfl
    | @cons member value _ _ hmember _ ih =>
      obtain ⟨key, item⟩ := member
      obtain ⟨rfl, hvalue⟩ := hmember
      simp [memberValues, hvalue, ih, Except.map]

theorem members_eq_ok_iff {json : Json} {values : List (String × α)} :
    Decoder.members decoder scope json = .ok values ↔
      ∃ members, json = .object members ∧
        List.Forall₂ (fun member value => member.1 = value.1 ∧
          decoder scope.inside member.2 = .ok value.2) members values := by
  constructor
  · intro h
    cases json with
    | object members => exact ⟨members, rfl, memberValues_eq_ok_iff.mp h⟩
    | _ => cases h
  · rintro ⟨members, rfl, h⟩
    exact memberValues_eq_ok_iff.mpr h

/-! ### Fields that may be null -/

/-- What the members of an object give for a key: one value, or none where the key is not there or
    its value is null. -/
inductive Gives (members : List (String × Json)) (key : String) : Option Json → Prop where
  /-- No member has the key. -/
  | absent : named [key] members = [] → Gives members key none
  /-- One member has the key, and its value is null. -/
  | null : named [key] members = [(key, .null)] → Gives members key none
  /-- One member has the key, and its value is not null. -/
  | value {json : Json} : named [key] members = [(key, json)] → json ≠ .null →
      Gives members key (some json)

/-- The value of the only member of a list, unless it is null. -/
def onlyValue? : List (String × Json) → Option Json
  | [(_, .null)] => none
  | [(_, json)] => some json
  | _ => none

theorem Gives.eq_onlyValue? {members : List (String × Json)} {key : String} {json : Option Json}
    (h : Gives members key json) : json = onlyValue? (named [key] members) := by
  cases h with
  | absent hnone =>
    rw [hnone]
    rfl
  | null hone =>
    rw [hone]
    rfl
  | value hone hnull =>
    rw [hone, onlyValue?]
    exact hnull

/-- Members give one thing for a key. -/
theorem Gives.unique {members : List (String × Json)} {key : String} {first second : Option Json}
    (h : Gives members key first) (h' : Gives members key second) : first = second :=
  h.eq_onlyValue?.trans h'.eq_onlyValue?.symm

theorem eq_of_named_singleton {members : List (String × Json)} {key other : String} {item : Json}
    (h : named [key] members = [(other, item)]) : other = key := by
  have hmem : (other, item) ∈ named [key] members := by simp [h]
  simpa [named] using (List.mem_filter.mp hmem).2

/-- A field of an object that may be null is read from what the members give for its key. -/
theorem Record.orNull_byKey_eq_done_iff {record : Record} {members : List (String × Json)}
    {i : Nat} {key : String} {value : Option α} (hparts : record.parts = .byKey members) :
    record.orNull i [key] decoder = .done value ↔
      ∃ json, Gives members key json ∧
        Option.Rel (fun json given => decoder record.scope json = .ok given) json value := by
  rw [orNull, field_byKey_eq_done_iff hparts]
  constructor
  · rintro (⟨hnone, habsent⟩ | ⟨other, item, hone, hitem⟩)
    · cases habsent
      exact ⟨none, .absent hnone, .none⟩
    · obtain rfl := eq_of_named_singleton hone
      rcases nullable_eq_ok_iff.mp hitem with ⟨rfl, rfl⟩ | ⟨hnull, given, rfl, hgiven⟩
      · exact ⟨none, .null hone, .none⟩
      · exact ⟨some item, .value hone hnull, .some hgiven⟩
  · rintro ⟨json, hgives, hread⟩
    cases hgives with
    | absent hnone =>
      cases hread
      exact .inl ⟨hnone, rfl⟩
    | null hone =>
      cases hread
      exact .inr ⟨key, .null, hone, rfl⟩
    | value hone hnull =>
      cases hread with
      | some hgiven =>
        exact .inr ⟨key, _, hone, nullable_eq_ok_iff.mpr (.inr ⟨hnull, _, rfl, hgiven⟩)⟩

/-- A field of an array that may be null has to be in its place. -/
theorem Record.orNull_inOrder_eq_done_iff {record : Record} {items : List Json} {i : Nat}
    {names : List String} {value : Option α} (hparts : record.parts = .inOrder items) :
    record.orNull i names decoder = .done value ↔
      ∃ item, items[i]? = some item ∧
        Decoder.nullable decoder record.scope item = .ok value := by
  rw [orNull, field_inOrder_eq_done_iff hparts]
  simp

/-! ### Records -/

theorem Reading.pair_eq_done_iff {β : Type} {first : Reading α} {second : Reading β} {a : α}
    {b : β} : Prod.mk <$> first <*> second = .done (a, b) ↔ first = .done a ∧ second = .done b := by
  constructor
  · intro h
    obtain ⟨pair, other, hpair, hsecond, hboth⟩ := seq_eq_done h
    obtain ⟨left, hfirst, rfl⟩ := map_eq_done hpair
    cases hboth
    exact ⟨hfirst, hsecond⟩
  · rintro ⟨rfl, rfl⟩
    rfl

/-- An array that is read as a record. -/
def Record.ofArray (scope : Scope) (type : String) (size : Nat) (items : List Json) : Record where
  scope := scope.inside
  type := type
  size := size
  parts := .inOrder items

theorem Record.faultIn_eq_done_iff {members : List (String × Json)} {place : Nat} :
    faultIn place members = .done () ↔ ∀ m ∈ members, m.2.isMalformed = false := by
  constructor
  · intro h
    induction members generalizing place with
    | nil => simp
    | cons member rest ih =>
      obtain ⟨key, item⟩ := member
      rw [faultIn] at h
      split at h
      · cases h
      · next hitem =>
        rw [List.forall_mem_cons]
        exact ⟨by simpa using hitem, ih h⟩
  · intro h
    exact faultIn_eq_done h place

theorem Decoder.record_object_eq_ok_iff {type : String} {size : Nat}
    {fields : Record → Reading α} {members : List (String × Json)} {value : α} :
    Decoder.record type size fields scope (.object members) = .ok value ↔
      fields (.ofObject scope type size members) = .done value ∧
        ∀ m ∈ members, m.2.isMalformed = false := by
  have hwhole : (Record.ofObject scope type size members).surplus = .done () ↔
      ∀ m ∈ members, m.2.isMalformed = false := Record.faultIn_eq_done_iff
  rw [← hwhole]
  exact Reading.toExcept_apply_eq_ok

/-- An array that is read as a record does not go on after the last field. -/
theorem Decoder.record_array_eq_ok_iff {type : String} {size : Nat}
    {fields : Record → Reading α} {items : List Json} {value : α} :
    Decoder.record type size fields scope (.array items) = .ok value ↔
      fields (.ofArray scope type size items) = .done value ∧ items.length ≤ size := by
  have hlength : (Record.ofArray scope type size items).surplus = .done () ↔
      items.length ≤ size := by
    simp only [Record.surplus, Record.ofArray]
    by_cases hle : items.length ≤ size
    · simp [hle]
    · cases scope.inside.origin <;> simp [hle]
  rw [← hlength]
  exact Reading.toExcept_apply_eq_ok

end ReportDesk.Json
