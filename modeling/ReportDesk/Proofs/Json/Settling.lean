import ReportDesk.Proofs.Json.Decoding
import ReportDesk.Proofs.Outcome

/-! # Documents in memory

    A document in memory has been settled: its objects are sorted by key, and of a repeated key
    only the last value is left. The decoders of records and lists do not notice. What they make of
    a document as it was written they make of the settled one too. The converse fails: a field that
    is given twice is a failure only where both can be seen.
-/

namespace ReportDesk.Json

open Outcome (map_eq_ok bind_eq_ok)

variable {α β : Type} {depth : Nat}

/-! ### Settled parts -/

theorem settleItems_cons {item : Json} {rest settled : List Json}
    (h : settleItems depth (item :: rest) = .ok settled) :
    ∃ first others, item.settle depth = .ok first ∧ settleItems depth rest = .ok others ∧
      settled = first :: others := by
  rw [settleItems] at h
  split at h
  · cases h
  · next first hfirst =>
    obtain ⟨others, hothers, rfl⟩ := map_eq_ok h
    exact ⟨first, others, hfirst, hothers, rfl⟩

theorem forall₂_of_settleItems {items settled : List Json}
    (h : settleItems depth items = .ok settled) :
    List.Forall₂ (fun item other => item.settle depth = .ok other) items settled := by
  induction items generalizing settled with
  | nil =>
    cases h
    exact .nil
  | cons item rest ih =>
    obtain ⟨first, others, hfirst, hothers, rfl⟩ := settleItems_cons h
    exact .cons hfirst (ih hothers)

theorem settle_array {items : List Json} {settled : Json}
    (h : (Json.array items).settle depth = .ok settled) :
    ∃ others, settleItems (depth + 1) items = .ok others ∧ settled = .array others := by
  rw [settle] at h
  split at h
  · cases h
  · obtain ⟨others, hothers, rfl⟩ := map_eq_ok h
    exact ⟨others, hothers, rfl⟩

theorem settle_object {members : List (String × Json)} {settled : Json}
    (h : (Json.object members).settle depth = .ok settled) :
    ∃ others, settleMembers (depth + 1) [] members = .ok others ∧ settled = .object others := by
  rw [settle] at h
  split at h
  · cases h
  · obtain ⟨others, hothers, rfl⟩ := map_eq_ok h
    exact ⟨others, hothers, rfl⟩

theorem settleMembers_cons {done rest sorted : List (String × Json)} {key : String} {item : Json}
    (h : settleMembers depth done ((key, item) :: rest) = .ok sorted) :
    ∃ other, item.settle depth = .ok other ∧
      settleMembers depth (insertMember key other done) rest = .ok sorted := by
  rw [settleMembers] at h
  split at h
  · cases h
  · next other hother => exact ⟨other, hother, h⟩

/-! ### No faults are left -/

theorem eq_or_mem_of_mem_insertMember {key : String} {value : Json} {member : String × Json}
    {members : List (String × Json)} (h : member ∈ insertMember key value members) :
    member = (key, value) ∨ member ∈ members := by
  induction members with
  | nil => exact .inl (by simpa [insertMember] using h)
  | cons first rest ih =>
    simp only [insertMember] at h
    split at h
    · exact List.mem_cons.mp h
    · split at h
      · exact (List.mem_cons.mp h).imp_right (List.mem_cons_of_mem _)
      · rcases List.mem_cons.mp h with rfl | hrest
        · exact .inr (by simp)
        · exact (ih hrest).imp_right (List.mem_cons_of_mem _)

mutual

theorem isMalformed_of_settle : (json : Json) → ∀ {depth : Nat} {settled : Json},
    json.settle depth = .ok settled → settled.isMalformed = false
  | .array items, depth, settled, h => by
    obtain ⟨others, hothers, rfl⟩ := settle_array h
    exact anyMalformed_eq_false (isMalformed_of_settleItems items hothers)
  | .object members, depth, settled, h => by
    obtain ⟨others, hothers, rfl⟩ := settle_object h
    exact anyMemberMalformed_eq_false (isMalformed_of_settleMembers members (by simp) hothers)
  | .broken fault, depth, settled, h => by cases h
  | .null, depth, settled, h => by cases h; rfl
  | .bool value, depth, settled, h => by cases h; rfl
  | .integer value, depth, settled, h => by cases h; rfl
  | .float value, depth, settled, h => by cases h; rfl
  | .string text, depth, settled, h => by cases h; rfl

theorem isMalformed_of_settleItems : (items : List Json) → ∀ {depth : Nat} {settled : List Json},
    settleItems depth items = .ok settled → ∀ item ∈ settled, item.isMalformed = false
  | [], depth, settled, h => by cases h; simp
  | item :: rest, depth, settled, h => by
    obtain ⟨first, others, hfirst, hothers, rfl⟩ := settleItems_cons h
    simpa [isMalformed_of_settle item hfirst] using isMalformed_of_settleItems rest hothers

theorem isMalformed_of_settleMembers : (members : List (String × Json)) →
    ∀ {depth : Nat} {done sorted : List (String × Json)},
      (∀ m ∈ done, m.2.isMalformed = false) → settleMembers depth done members = .ok sorted →
        ∀ m ∈ sorted, m.2.isMalformed = false
  | [], depth, done, sorted, hdone, h => by cases h; exact hdone
  | (key, item) :: rest, depth, done, sorted, hdone, h => by
    obtain ⟨other, hother, hrest⟩ := settleMembers_cons h
    refine isMalformed_of_settleMembers rest (fun m hm => ?_) hrest
    rcases eq_or_mem_of_mem_insertMember hm with rfl | hm
    · exact isMalformed_of_settle item hother
    · exact hdone m hm

end

/-! ### Members by name -/

/-- The members whose key is one of the names. -/
def named (names : List String) (members : List (String × Json)) : List (String × Json) :=
  members.filter fun member => names.contains member.1

section

variable {names : List String} {key : String} {item value : Json}
  {done members sorted : List (String × Json)}

theorem named_cons_of_mem (h : key ∈ names) :
    named names ((key, item) :: members) = (key, item) :: named names members := by
  simp [named, h]

theorem named_cons_of_not_mem (h : key ∉ names) :
    named names ((key, item) :: members) = named names members := by
  simp [named, h]

theorem named_insertMember_of_not_mem (h : key ∉ names) :
    named names (insertMember key value members) = named names members := by
  induction members with
  | nil => exact named_cons_of_not_mem h
  | cons member rest ih =>
    obtain ⟨other, item⟩ := member
    simp only [insertMember]
    split
    · exact named_cons_of_not_mem h
    · split
      · next heq => rw [named_cons_of_not_mem h, named_cons_of_not_mem (heq ▸ h)]
      · simp only [named, List.filter_cons] at ih ⊢
        rw [ih]

theorem named_insertMember_of_nil (h : key ∈ names) (hnone : named names members = []) :
    named names (insertMember key value members) = [(key, value)] := by
  induction members with
  | nil => exact named_cons_of_mem h
  | cons member rest ih =>
    obtain ⟨other, item⟩ := member
    have hother : other ∉ names := by
      intro hmem
      simp [named_cons_of_mem hmem] at hnone
    rw [named_cons_of_not_mem hother] at hnone
    simp only [insertMember]
    split
    · rw [named_cons_of_mem h, named_cons_of_not_mem hother, hnone]
    · split
      · next heq => exact absurd (heq ▸ h) hother
      · rw [named_cons_of_not_mem hother, ih hnone]

/-- Members of other names do not touch those that are there. -/
theorem named_of_settleMembers_of_nil (hnone : named names members = [])
    (h : settleMembers depth done members = .ok sorted) :
    named names sorted = named names done := by
  induction members generalizing done with
  | nil => cases h; rfl
  | cons member rest ih =>
    obtain ⟨key, item⟩ := member
    obtain ⟨other, -, hrest⟩ := settleMembers_cons h
    have hkey : key ∉ names := by
      intro hmem
      simp [named_cons_of_mem hmem] at hnone
    rw [named_cons_of_not_mem hkey] at hnone
    rw [ih hnone hrest, named_insertMember_of_not_mem hkey]

/-- A member that is the only one of its names is so still, with its value settled. -/
theorem named_of_settleMembers_of_singleton (hdone : named names done = [])
    (hone : named names members = [(key, item)])
    (h : settleMembers depth done members = .ok sorted) :
    ∃ other, item.settle depth = .ok other ∧ named names sorted = [(key, other)] := by
  induction members generalizing done with
  | nil => cases hone
  | cons member rest ih =>
    obtain ⟨first, value⟩ := member
    obtain ⟨other, hother, hrest⟩ := settleMembers_cons h
    by_cases hfirst : first ∈ names
    -- this is the one: none of its names is there yet, and none comes after it
    · rw [named_cons_of_mem hfirst, List.cons_eq_cons, Prod.mk.injEq] at hone
      obtain ⟨⟨rfl, rfl⟩, hnone⟩ := hone
      refine ⟨other, hother, ?_⟩
      rw [named_of_settleMembers_of_nil hnone hrest, named_insertMember_of_nil hfirst hdone]
    · rw [named_cons_of_not_mem hfirst] at hone
      exact ih (by rwa [named_insertMember_of_not_mem hfirst]) hone hrest

theorem occurrences_map_snd (names : List String) (place : Nat)
    (members : List (String × Json)) :
    (Record.occurrences names place members).map Prod.snd = named names members := by
  induction members generalizing place with
  | nil => rfl
  | cons member rest ih =>
    obtain ⟨key, item⟩ := member
    by_cases hkey : key ∈ names
    · simp [Record.occurrences, hkey, named_cons_of_mem, ih]
    · simp [Record.occurrences, hkey, named_cons_of_not_mem, ih]

end

/-! ### Decoders -/

/-- A name that is given as an object is the key of a member without a value. -/
theorem exists_of_variant_object {names : List (String × α)} {scope : Scope}
    {members : List (String × Json)} {value : α}
    (h : Decoder.variant names scope (.object members) = .ok value) :
    ∃ name, members = [(name, .null)] := by
  match members with
  | [] => cases horigin : scope.origin <;> simp [Decoder.variant, horigin, fail] at h
  | [(name, item)] =>
    cases item with
    | null => exact ⟨name, rfl⟩
    | _ =>
      obtain ⟨found, -, hfound⟩ := bind_eq_ok h
      cases hfound
  | (name, item) :: second :: rest =>
    cases horigin : scope.origin with
    | value => simp [Decoder.variant, horigin, fail] at h
    | text =>
      simp only [Decoder.variant, horigin] at h
      obtain ⟨found, -, h⟩ := bind_eq_ok h
      obtain ⟨-, -, h⟩ := bind_eq_ok h
      cases h

/-- A decoder that makes of a settled document what it made of the document before. -/
def Decoder.IsSteady (decoder : Decoder α) : Prop :=
  ∀ ⦃depth : Nat⦄ ⦃json settled : Json⦄, json.settle depth = .ok settled →
    ∀ ⦃scope : Scope⦄ ⦃value : α⦄, decoder scope json = .ok value →
      decoder scope settled = .ok value

namespace Decoder.IsSteady

variable {decoder : Decoder α}

/-- A decoder that takes neither arrays nor objects. -/
theorem of_leaves (harray : ∀ scope items value, decoder scope (.array items) ≠ .ok value)
    (hobject : ∀ scope members value, decoder scope (.object members) ≠ .ok value) :
    decoder.IsSteady := by
  intro depth json settled hsettle scope value h
  cases json with
  | array items => exact absurd h (harray scope items value)
  | object members => exact absurd h (hobject scope members value)
  | broken fault => cases hsettle
  | _ => cases hsettle; exact h

theorem string : Decoder.string.IsSteady :=
  of_leaves (by simp [Decoder.string, unexpected, fail])
    (by simp [Decoder.string, unexpected, fail])

theorem word64 : Decoder.word64.IsSteady :=
  of_leaves (by simp [Decoder.word64, Decoder.integer, unexpected, fail, Except.map])
    (by simp [Decoder.word64, Decoder.integer, unexpected, fail, Except.map])

theorem nullable (h : decoder.IsSteady) : (Decoder.nullable decoder).IsSteady := by
  intro depth json settled hsettle scope value hvalue
  by_cases hnull : json = .null
  · cases hnull
    cases hsettle
    exact hvalue
  · have hsome : (decoder scope json).map some = .ok value := by
      rwa [Decoder.nullable] at hvalue
      exact hnull
    obtain ⟨a, ha, rfl⟩ := map_eq_ok hsome
    have hother := h hsettle ha
    -- nothing but null is settled to null, so a value is still asked for
    cases json with
    | null => exact absurd rfl hnull
    | array items =>
      obtain ⟨others, -, rfl⟩ := settle_array hsettle
      simp [Decoder.nullable, hother, Except.map]
    | object members =>
      obtain ⟨others, -, rfl⟩ := settle_object hsettle
      simp [Decoder.nullable, hother, Except.map]
    | broken fault => cases hsettle
    | _ =>
      cases hsettle
      exact hvalue

theorem variant (names : List (String × α)) : (Decoder.variant names).IsSteady := by
  intro depth json settled hsettle scope value hvalue
  cases json with
  | array items =>
    cases horigin : scope.origin <;>
      simp [Decoder.variant, horigin, unexpected, fail] at hvalue
  | object members =>
    -- the one member that a name may have holds nothing, and stays as it is
    obtain ⟨name, rfl⟩ := exists_of_variant_object hvalue
    obtain ⟨others, hothers, rfl⟩ := settle_object hsettle
    cases hothers
    exact hvalue
  | broken fault => cases hsettle
  | _ =>
    cases hsettle
    exact hvalue

theorem elements (h : decoder.IsSteady) {items others : List Json} {scope : Scope}
    (hothers : List.Forall₂ (fun item other => item.settle depth = .ok other) items others)
    {i : Nat} {values : List α} (hvalues : Decoder.elements decoder scope i items = .ok values) :
    Decoder.elements decoder scope i others = .ok values := by
  induction hothers generalizing i values with
  | nil => exact hvalues
  | cons hfirst _ ih =>
    rw [Decoder.elements] at hvalues ⊢
    split at hvalues
    · cases hvalues
    · next value hvalue =>
      obtain ⟨rest, hrest, rfl⟩ := map_eq_ok hvalues
      simp [h hfirst hvalue, ih hrest, Except.map]

theorem list (h : decoder.IsSteady) : (Decoder.list decoder).IsSteady := by
  intro depth json settled hsettle scope value hvalue
  cases json with
  | array items =>
    obtain ⟨others, hothers, rfl⟩ := settle_array hsettle
    exact h.elements (forall₂_of_settleItems hothers) hvalue
  | broken fault => cases hsettle
  | _ => simp [Decoder.list, unexpected, fail] at hvalue

end Decoder.IsSteady

/-! ### Records -/

theorem Reading.map_eq_done {f : α → β} {reading : Reading α} {b : β}
    (h : f <$> reading = .done b) : ∃ a, reading = .done a ∧ f a = b := by
  cases reading with
  | done a => exact ⟨a, rfl, by simpa using h⟩
  | failed place failure => cases h

theorem Reading.seq_eq_done {function : Reading (α → β)} {argument : Reading α} {b : β}
    (h : function <*> argument = .done b) :
    ∃ f a, function = .done f ∧ argument = .done a ∧ f a = b := by
  cases function with
  | done f =>
    cases argument with
    | done a => exact ⟨f, a, rfl, rfl, by simpa using h⟩
    | failed place failure => cases h
  | failed place failure =>
    cases argument with
    | done a => cases h
    | failed place' failure' =>
      change (if place' < place then _ else _) = _ at h
      split at h <;> cases h

section

variable {record : Record} {i : Nat} {names : List String} {decoder : Decoder α}
  {noKey noElement : Option α} {value : α}

/-- A field of an object is given once, or may be left out and is. -/
theorem Record.field_byKey_eq_done_iff {members : List (String × Json)}
    (hparts : record.parts = .byKey members) :
    record.field i names decoder noKey noElement = .done value ↔
      (named names members = [] ∧ noKey = some value) ∨
        ∃ key item, named names members = [(key, item)] ∧
          decoder record.scope item = .ok value := by
  rw [← occurrences_map_snd names 0 members]
  simp only [field, hparts]
  rcases occurrences names 0 members with _ | ⟨⟨place, key, item⟩, _ | ⟨second, rest⟩⟩
  · cases noKey <;> simp
  · cases hitem : decoder record.scope item <;> simp [hitem]
  · cases hitem : decoder record.scope item <;> simp [hitem]

/-- A field is what its value decodes to, if only one member has one of its names. -/
theorem Record.field_of_named {members : List (String × Json)} {key : String} {item : Json}
    (hparts : record.parts = .byKey members) (hone : named names members = [(key, item)])
    (hitem : decoder record.scope item = .ok value) :
    record.field i names decoder noKey noElement = .done value :=
  (field_byKey_eq_done_iff hparts).mpr (.inr ⟨key, item, hone, hitem⟩)

/-- A field of an array is given in its place, or may be left out and is. -/
theorem Record.field_inOrder_eq_done_iff {items : List Json}
    (hparts : record.parts = .inOrder items) :
    record.field i names decoder noKey noElement = .done value ↔
      (items[i]? = none ∧ noElement = some value) ∨
        ∃ item, items[i]? = some item ∧ decoder record.scope item = .ok value := by
  simp only [field, hparts]
  cases items[i]? with
  | none => cases noElement <;> simp
  | some item => cases hitem : decoder record.scope item <;> simp [hitem]

end

/-- Parts of a record, and what they are once settled. -/
inductive Parts.SettlesTo (depth : Nat) : Parts → Parts → Prop where
  | byKey {members sorted : List (String × Json)} :
      settleMembers depth [] members = .ok sorted → SettlesTo depth (.byKey members) (.byKey sorted)
  | inOrder {items others : List Json} :
      settleItems depth items = .ok others → SettlesTo depth (.inOrder items) (.inOrder others)

/-- A reading of a record that makes of settled parts what it made of the parts before. -/
def Record.IsSteady (fields : Record → Reading α) : Prop :=
  ∀ ⦃depth : Nat⦄ ⦃record : Record⦄ ⦃parts : Parts⦄, record.parts.SettlesTo depth parts →
    ∀ ⦃value : α⦄, fields record = .done value → fields { record with parts := parts } = .done value

namespace Record.IsSteady

theorem map {fields : Record → Reading α} (f : α → β) (h : IsSteady fields) :
    IsSteady fun record => f <$> fields record := by
  intro depth record parts hparts value hvalue
  obtain ⟨a, ha, rfl⟩ := Reading.map_eq_done hvalue
  simp [h hparts ha]

theorem seq {functions : Record → Reading (α → β)} {arguments : Record → Reading α}
    (hf : IsSteady functions) (ha : IsSteady arguments) :
    IsSteady fun record => functions record <*> arguments record := by
  intro depth record parts hparts value hvalue
  obtain ⟨f, a, hfunction, hargument, rfl⟩ := Reading.seq_eq_done hvalue
  simp [hf hparts hfunction, ha hparts hargument]

theorem field {decoder : Decoder α} (h : decoder.IsSteady) (i : Nat) (names : List String)
    (noKey noElement : Option α) :
    IsSteady fun record => record.field i names decoder noKey noElement := by
  intro depth record parts hsettles value hvalue
  obtain ⟨scope, type, size, before⟩ := record
  cases hsettles with
  | byKey hsorted =>
    -- a key given twice has failed already, so no value is lost to a repeat
    rw [field_byKey_eq_done_iff rfl] at hvalue ⊢
    rcases hvalue with ⟨hnone, habsent⟩ | ⟨key, item, hone, hitem⟩
    · refine .inl ⟨?_, habsent⟩
      rw [named_of_settleMembers_of_nil hnone hsorted]
      rfl
    · obtain ⟨other, hother, hsame⟩ := named_of_settleMembers_of_singleton rfl hone hsorted
      exact .inr ⟨key, other, hsame, h hother hitem⟩
  | inOrder hothers =>
    have heach := forall₂_of_settleItems hothers
    rw [field_inOrder_eq_done_iff rfl] at hvalue ⊢
    rcases hvalue with ⟨hnone, habsent⟩ | ⟨item, hsome, hitem⟩
    · refine .inl ⟨?_, habsent⟩
      rw [List.getElem?_eq_none_iff] at hnone ⊢
      rwa [← heach.length_eq]
    · obtain ⟨hi, rfl⟩ := List.getElem?_eq_some_iff.mp hsome
      have hj : i < _ := heach.length_eq ▸ hi
      exact .inr ⟨_, List.getElem?_eq_getElem hj, h (heach.get hi hj) hitem⟩

theorem required {decoder : Decoder α} (h : decoder.IsSteady) (i : Nat) (names : List String) :
    IsSteady fun record => record.required i names decoder :=
  field h i names none none

theorem orElse {decoder : Decoder α} (h : decoder.IsSteady) (i : Nat) (names : List String)
    (absent : α) : IsSteady fun record => record.orElse i names decoder absent :=
  field h i names (some absent) (some absent)

theorem optional {decoder : Decoder α} (h : decoder.IsSteady) (i : Nat) (names : List String) :
    IsSteady fun record => record.optional i names decoder :=
  field h.nullable i names (some none) (some none)

end Record.IsSteady

/-- What there is besides the fields: after settling no member hides a fault. -/
theorem Record.IsSteady.surplus : IsSteady Record.surplus := by
  intro depth record parts hsettles value hvalue
  obtain ⟨scope, type, size, before⟩ := record
  cases hsettles with
  | byKey hsorted =>
    exact faultIn_eq_done (isMalformed_of_settleMembers _ (by simp) hsorted) 0
  | inOrder hothers =>
    have hlength := (forall₂_of_settleItems hothers).length_eq
    simpa only [Record.surplus, hlength] using hvalue

/-- A record is read just when its fields are and nothing is left over. -/
theorem Reading.toExcept_apply_eq_ok {fields : Reading α} {surplus : Reading Unit} {value : α} :
    (apply (map (fun value _ => value) fields) surplus).toExcept = .ok value ↔
      fields = .done value ∧ surplus = .done () := by
  cases fields with
  | done a => cases surplus <;> simp [map, apply, toExcept]
  | failed place failure =>
    cases surplus with
    | done => simp [map, apply, toExcept]
    | failed place' failure' =>
      simp only [map, apply]
      split <;> simp [toExcept]

theorem Decoder.IsSteady.record {type : String} {size : Nat} {fields : Record → Reading α}
    (h : Record.IsSteady fields) : (Decoder.record type size fields).IsSteady := by
  intro depth json settled hsettle scope value hvalue
  cases json with
  | object members =>
    obtain ⟨others, hothers, rfl⟩ := settle_object hsettle
    obtain ⟨hfields, hsurplus⟩ := Reading.toExcept_apply_eq_ok.mp hvalue
    exact Reading.toExcept_apply_eq_ok.mpr
      ⟨h (.byKey hothers) hfields, Record.IsSteady.surplus (.byKey hothers) hsurplus⟩
  | array items =>
    obtain ⟨others, hothers, rfl⟩ := settle_array hsettle
    obtain ⟨hfields, hsurplus⟩ := Reading.toExcept_apply_eq_ok.mp hvalue
    exact Reading.toExcept_apply_eq_ok.mpr
      ⟨h (.inOrder hothers) hfields, Record.IsSteady.surplus (.inOrder hothers) hsurplus⟩
  | broken fault => cases hsettle
  | _ =>
    cases hsettle
    exact hvalue

/-- A steady decoder reads a document from memory as it would have read it when it was written. -/
theorem decodeValue_of_isSteady {decoder : Decoder α} (h : decoder.IsSteady) {json : Json}
    {value : α} (hsettles : ∃ settled, json.settle 0 = .ok settled)
    (hvalue : decoder { origin := .value } json = .ok value) :
    decodeValue decoder json = .ok value := by
  obtain ⟨settled, hsettled⟩ := hsettles
  simp only [decodeValue, hsettled]
  exact h hsettled hvalue

end ReportDesk.Json
