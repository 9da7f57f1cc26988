import ReportDesk.Proofs.Json.Accepting

/-! # What decoders have against a document

    A decoder can fail because a document does not say what is asked for, or because the text is at
    fault: it breaks off, or goes deeper or higher than a reader follows. A document is admitted by
    a decoder if only the latter can happen. Each way to put decoders together passes this on, so a
    failure on a document of the right shape is one of the text.
-/

namespace ReportDesk.Json

open Outcome (map_eq_error)
open Decoder (elements memberValues)

variable {α β : Type} {decoder : Decoder α} {scope : Scope}

/-- Whether the text is at fault, and not what it says. -/
def Failure.IsFault (failure : Failure) : Prop :=
  ∃ fault, failure.cause = .fault fault

/-- Whether a decoder fails on a document only where the text is at fault. -/
def Decoder.Admits (decoder : Decoder α) (scope : Scope) (json : Json) : Prop :=
  ∀ failure, decoder scope json = .error failure → failure.IsFault

/-- Whether a part of a record fails only where the text is at fault. -/
def Reading.IsAdmitted (reading : Reading α) : Prop :=
  ∀ place failure, reading = .failed place failure → failure.IsFault

/-! ### Values -/

theorem Decoder.admits_string (text : String) : Decoder.string.Admits scope (.string text) := by
  intro failure h
  cases h

/-- Nothing else can be wrong with a value of which nothing is asked. -/
theorem Decoder.admits_untyped (json : Json) : Decoder.untyped.Admits scope json := by
  intro failure h
  unfold Decoder.untyped at h
  split at h
  · cases h
  · next fault _ =>
    cases h
    exact ⟨fault, rfl⟩

theorem Decoder.Admits.nullable {json : Json} (h : decoder.Admits scope json) :
    (Decoder.nullable decoder).Admits scope json := by
  intro failure hfailure
  by_cases hnull : json = .null
  · subst hnull
    cases hfailure
  · rw [nullable_of_ne_null hnull] at hfailure
    exact h failure (map_eq_error hfailure)

theorem isFault_of_elements {items : List Json} (h : ∀ item ∈ items, decoder.Admits scope item)
    {i : Nat} {failure : Failure} (hfailure : elements decoder scope i items = .error failure) :
    failure.IsFault := by
  induction items generalizing i with
  | nil => cases hfailure
  | cons item rest ih =>
    obtain ⟨hfirst, hrest⟩ := List.forall_mem_cons.mp h
    rw [elements] at hfailure
    split at hfailure
    -- the failure of an element has its path changed on the way, but not its cause
    · next inner hinner =>
      cases hfailure
      exact hfirst inner hinner
    · exact ih hrest (map_eq_error hfailure)

theorem Decoder.admits_list {items : List Json}
    (h : ∀ item ∈ items, decoder.Admits scope.inside item) :
    (Decoder.list decoder).Admits scope (.array items) :=
  fun _ hfailure => isFault_of_elements h hfailure

theorem isFault_of_memberValues {members : List (String × Json)}
    (h : ∀ member ∈ members, decoder.Admits scope member.2) {failure : Failure}
    (hfailure : memberValues decoder scope members = .error failure) : failure.IsFault := by
  induction members with
  | nil => cases hfailure
  | cons member rest ih =>
    obtain ⟨key, item⟩ := member
    obtain ⟨hfirst, hrest⟩ := List.forall_mem_cons.mp h
    rw [memberValues] at hfailure
    split at hfailure
    · next inner hinner =>
      cases hfailure
      exact hfirst inner hinner
    · exact ih hrest (map_eq_error hfailure)

theorem Decoder.admits_members {members : List (String × Json)}
    (h : ∀ member ∈ members, decoder.Admits scope.inside member.2) :
    (Decoder.members decoder).Admits scope (.object members) :=
  fun _ hfailure => isFault_of_memberValues h hfailure

/-! ### Records -/

theorem Reading.IsAdmitted.map {reading : Reading α} (h : reading.IsAdmitted) (f : α → β) :
    (Reading.map f reading).IsAdmitted := by
  intro place failure hfailure
  cases reading with
  | done a => cases hfailure
  | failed place' inner =>
    cases hfailure
    exact h place failure rfl

/-- Of two failures one counts, whichever comes first. -/
theorem Reading.IsAdmitted.apply {function : Reading (α → β)} {argument : Reading α}
    (hf : function.IsAdmitted) (ha : argument.IsAdmitted) :
    (Reading.apply function argument).IsAdmitted := by
  intro place failure hfailure
  cases function with
  | done f =>
    cases argument with
    | done a => cases hfailure
    | failed place' inner =>
      cases hfailure
      exact ha place failure rfl
  | failed place' inner =>
    cases argument with
    | done a =>
      cases hfailure
      exact hf place failure rfl
    | failed later inner' =>
      rw [Reading.apply] at hfailure
      split at hfailure
      · cases hfailure
        exact ha place failure rfl
      · cases hfailure
        exact hf place failure rfl

theorem Reading.IsAdmitted.pair {first : Reading α} {second : Reading β} (hfirst : first.IsAdmitted)
    (hsecond : second.IsAdmitted) : (Prod.mk <$> first <*> second).IsAdmitted := by
  have hmk : (Reading.done (Prod.mk (α := α) (β := β))).IsAdmitted := by
    intro place failure hfailure
    cases hfailure
  exact (hmk.apply hfirst).apply hsecond

/-- A field that may be left out is given once or not at all. -/
theorem Record.isAdmitted_field {record : Record} {members : List (String × Json)} {i : Nat}
    {names : List String} {absent : α} {noElement : Option α}
    (hparts : record.parts = .byKey members)
    (h : named names members = [] ∨
      ∃ key item, named names members = [(key, item)] ∧ decoder.Admits record.scope item) :
    (record.field i names decoder (some absent) noElement).IsAdmitted := by
  intro place failure hfailure
  rw [← occurrences_map_snd names 0 members] at h
  simp only [field, hparts] at hfailure
  generalize occurrences names 0 members = given at h hfailure
  rcases given with _ | ⟨⟨first, key, item⟩, _ | ⟨second, rest⟩⟩
  · cases hfailure
  · obtain hnone | ⟨_, _, hone, hadmits⟩ := h
    · cases hnone
    · cases hone
      dsimp only at hfailure
      split at hfailure
      · cases hfailure
      · next inner hinner =>
        cases hfailure
        exact hadmits inner hinner
  · simp at h

/-- A field that may be null has to admit only a value that is given for it. -/
theorem Record.isAdmitted_orNull {record : Record} {members : List (String × Json)} {i : Nat}
    {key : String} {json : Option Json} (hparts : record.parts = .byKey members)
    (hgives : Gives members key json)
    (h : ∀ item, json = some item → decoder.Admits record.scope item) :
    (record.orNull i [key] decoder).IsAdmitted := by
  apply isAdmitted_field hparts
  cases hgives with
  | absent hnone => exact .inl hnone
  | null hone =>
    refine .inr ⟨key, .null, hone, ?_⟩
    intro failure hfailure
    cases hfailure
  | @value item hone _ => exact .inr ⟨key, item, hone, (h item rfl).nullable⟩

theorem Record.isAdmitted_faultIn (place : Nat) (members : List (String × Json)) :
    (faultIn place members).IsAdmitted := by
  intro found failure hfailure
  induction members generalizing place with
  | nil => cases hfailure
  | cons member rest ih =>
    obtain ⟨key, item⟩ := member
    rw [faultIn] at hfailure
    split at hfailure
    · cases hfailure
      exact ⟨.malformed, rfl⟩
    · exact ih (place + 1) hfailure

/-- An object is admitted as a record if its fields are: members besides them are no obstacle. -/
theorem Decoder.admits_record {type : String} {size : Nat} {fields : Record → Reading α}
    {members : List (String × Json)}
    (h : (fields (.ofObject scope type size members)).IsAdmitted) :
    (Decoder.record type size fields).Admits scope (.object members) := by
  intro failure hfailure
  have hboth := (h.map fun value _ => value).apply (Record.isAdmitted_faultIn 0 members)
  change Reading.toExcept (Reading.apply _ (Record.faultIn 0 members)) = _ at hfailure
  unfold Reading.toExcept at hfailure
  split at hfailure
  · cases hfailure
  · next place inner hread =>
    cases hfailure
    exact hboth place failure hread

end ReportDesk.Json
