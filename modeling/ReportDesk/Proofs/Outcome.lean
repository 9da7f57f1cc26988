import Mathlib

/-! # Outcomes

    How a step that can fail is taken apart when it is known how the whole came out.
-/

namespace ReportDesk.Outcome

variable {ε α β : Type}

/-- A mapped outcome is a success only if the outcome is. -/
theorem map_eq_ok {f : α → β} {x : Except ε α} {b : β} (h : x.map f = .ok b) :
    ∃ a, x = .ok a ∧ f a = b := by
  cases x with
  | error e => cases h
  | ok a => exact ⟨a, rfl, by simpa [Except.map] using h⟩

/-- A mapped outcome has the error of the outcome. -/
theorem map_eq_error {f : α → β} {x : Except ε α} {e : ε} (h : x.map f = .error e) :
    x = .error e := by
  cases x with
  | error e' => simpa [Except.map] using h
  | ok a => cases h

theorem map_eq_error_iff {f : α → β} {x : Except ε α} {e : ε} :
    x.map f = .error e ↔ x = .error e :=
  ⟨map_eq_error, fun h => by rw [h]; rfl⟩

/-- An outcome with wrapped errors is a success only if the outcome is the same. -/
theorem mapError_eq_ok {ε' : Type} {f : ε → ε'} {x : Except ε α} {a : α}
    (h : x.mapError f = .ok a) : x = .ok a := by
  cases x with
  | error e => cases h
  | ok a' =>
    cases h
    rfl

/-- An outcome with wrapped errors has the wrapped error of the outcome. -/
theorem mapError_eq_error {ε' : Type} {f : ε → ε'} {x : Except ε α} {e' : ε'}
    (h : x.mapError f = .error e') : ∃ e, x = .error e ∧ f e = e' := by
  cases x with
  | error e => exact ⟨e, rfl, by simpa [Except.mapError] using h⟩
  | ok a => cases h

/-- An outcome that has no error is a success. -/
theorem exists_eq_ok_iff {x : Except ε α} : (∃ a, x = .ok a) ↔ ∀ e, x ≠ .error e := by
  cases x <;> simp

/-- A sequence is a success only if both steps are. -/
theorem bind_eq_ok {x : Except ε α} {f : α → Except ε β} {b : β} (h : x >>= f = .ok b) :
    ∃ a, x = .ok a ∧ f a = .ok b := by
  cases x with
  | error e => cases h
  | ok a => exact ⟨a, rfl, h⟩

/-- A sequence fails in its first step, or in the second after the first one. -/
theorem bind_eq_error {x : Except ε α} {f : α → Except ε β} {e : ε} (h : x >>= f = .error e) :
    x = .error e ∨ ∃ a, x = .ok a ∧ f a = .error e := by
  cases x with
  | error e' =>
    cases h
    exact .inl rfl
  | ok a => exact .inr ⟨a, rfl, h⟩

/-- A list is worked through with success only if its front and the rest of it are. -/
theorem mapM_cons_eq_ok {f : α → Except ε β} {a : α} {as : List α} {bs : List β}
    (h : (a :: as).mapM f = .ok bs) :
    ∃ b others, f a = .ok b ∧ as.mapM f = .ok others ∧ bs = b :: others := by
  rw [List.mapM_cons] at h
  obtain ⟨b, hb, h⟩ := bind_eq_ok h
  obtain ⟨others, hothers, h⟩ := bind_eq_ok h
  exact ⟨b, others, hb, hothers, by cases h; rfl⟩

/-- A list is worked through with success just when each element gives the result in its place. -/
theorem mapM_eq_ok_iff {f : α → Except ε β} {as : List α} {bs : List β} :
    as.mapM f = .ok bs ↔ List.Forall₂ (fun a b => f a = .ok b) as bs := by
  constructor
  · intro h
    induction as generalizing bs with
    | nil =>
      obtain rfl : [] = bs := by simpa [pure, Except.pure] using h
      exact .nil
    | cons a as ih =>
      obtain ⟨b, others, hb, hothers, rfl⟩ := mapM_cons_eq_ok h
      exact .cons hb (ih hothers)
  · intro h
    induction h with
    | nil => rfl
    | cons hb _ ih =>
      rw [List.mapM_cons, hb, ih]
      rfl

/-- A list gives as many results as it has elements. -/
theorem length_of_mapM {f : α → Except ε β} {as : List α} {bs : List β} (h : as.mapM f = .ok bs) :
    bs.length = as.length := by
  induction as generalizing bs with
  | nil =>
    obtain rfl : [] = bs := by simpa [pure, Except.pure] using h
    rfl
  | cons a as ih =>
    obtain ⟨b, others, -, hothers, rfl⟩ := mapM_cons_eq_ok h
    simp [ih hothers]

/-- Mapping each result of a list is mapping the list of results. -/
theorem mapM_map {γ : Type} (f : α → Except ε β) (g : β → γ) (as : List α) :
    (as.mapM fun a => (f a).map g) = (as.mapM f).map (List.map g) := by
  induction as with
  | nil => rfl
  | cons a as ih =>
    rw [List.mapM_cons, List.mapM_cons, ih]
    cases f a with
    | error e => rfl
    | ok b => cases as.mapM f <;> rfl

/-- What is known of each result and its element is known of the lists of both. -/
theorem map_eq_map_of_mapM {γ : Type} {f : α → Except ε β} {g : β → γ} {h : α → γ}
    (heach : ∀ a b, f a = .ok b → g b = h a) {as : List α} {bs : List β}
    (hbs : as.mapM f = .ok bs) : bs.map g = as.map h := by
  induction as generalizing bs with
  | nil =>
    obtain rfl : [] = bs := by simpa [pure, Except.pure] using hbs
    rfl
  | cons a as ih =>
    obtain ⟨b, others, hb, hothers, rfl⟩ := mapM_cons_eq_ok hbs
    rw [List.map_cons, List.map_cons, heach a b hb, ih hothers]

/-- What a list gives is given by one of its elements. -/
theorem exists_of_mem_mapM {f : α → Except ε β} {as : List α} {bs : List β}
    (h : as.mapM f = .ok bs) : ∀ b ∈ bs, ∃ a ∈ as, f a = .ok b := by
  induction as generalizing bs with
  | nil =>
    obtain rfl : [] = bs := by simpa [pure, Except.pure] using h
    simp
  | cons a as ih =>
    obtain ⟨b, others, hb, hothers, rfl⟩ := mapM_cons_eq_ok h
    intro b' hb'
    rcases List.mem_cons.mp hb' with rfl | hb'
    · exact ⟨a, by simp, hb⟩
    · obtain ⟨a', hmem, ha'⟩ := ih hothers b' hb'
      exact ⟨a', by simp [hmem], ha'⟩

/-- A list is worked through with success just when each of its elements is. -/
theorem exists_mapM_eq_ok_iff {f : α → Except ε β} {as : List α} :
    (∃ bs, as.mapM f = .ok bs) ↔ ∀ a ∈ as, ∃ b, f a = .ok b := by
  constructor
  · rintro ⟨bs, hbs⟩
    induction as generalizing bs with
    | nil => simp
    | cons a as ih =>
      obtain ⟨b, others, hb, hothers, rfl⟩ := mapM_cons_eq_ok hbs
      exact List.forall_mem_cons.mpr ⟨⟨b, hb⟩, ih others hothers⟩
  · intro h
    induction as with
    | nil => exact ⟨[], rfl⟩
    | cons a as ih =>
      obtain ⟨⟨b, hb⟩, hothers⟩ := List.forall_mem_cons.mp h
      obtain ⟨others, hmap⟩ := ih hothers
      exact ⟨b :: others, by rw [List.mapM_cons, hb, hmap]; rfl⟩

/-- The error of a list is that of its first element that has one. -/
theorem mapM_eq_error_iff {f : α → Except ε β} {as : List α} {e : ε} :
    as.mapM f = .error e ↔
      ∃ before a after, as = before ++ a :: after ∧ (∀ b ∈ before, ∃ c, f b = .ok c) ∧
        f a = .error e := by
  constructor
  · intro h
    induction as with
    | nil => cases h
    | cons a as ih =>
      rw [List.mapM_cons] at h
      cases ha : f a with
      | error e' =>
        rw [ha] at h
        cases h
        exact ⟨[], a, as, rfl, by simp, ha⟩
      | ok b =>
        -- the rest of the list has the error
        have hrest : as.mapM f = .error e := by
          cases hrest : as.mapM f with
          | error e' => rw [ha, hrest] at h; exact h
          | ok others => rw [ha, hrest] at h; cases h
        obtain ⟨before, a', after, rfl, hbefore, ha'⟩ := ih hrest
        exact ⟨a :: before, a', after, rfl, List.forall_mem_cons.mpr ⟨⟨b, ha⟩, hbefore⟩, ha'⟩
  · rintro ⟨before, a, after, rfl, hbefore, ha⟩
    obtain ⟨bs, hbs⟩ := exists_mapM_eq_ok_iff.mpr hbefore
    rw [List.mapM_append, hbs, List.mapM_cons, ha]
    rfl

/-! ### Steps that succeed less often -/

/-- Whether an outcome is a success only where another one is the same success. -/
def Restricts (x y : Except ε α) : Prop :=
  ∀ a, x = .ok a → y = .ok a

namespace Restricts

theorem refl (x : Except ε α) : Restricts x x :=
  fun _ h => h

theorem map {x y : Except ε α} (h : Restricts x y) (f : α → β) : Restricts (x.map f) (y.map f) := by
  intro b hb
  obtain ⟨a, ha, rfl⟩ := map_eq_ok hb
  rw [h a ha]
  rfl

theorem bind {x y : Except ε α} {f g : α → Except ε β} (h : Restricts x y)
    (hstep : ∀ a, Restricts (f a) (g a)) : Restricts (x >>= f) (y >>= g) := by
  intro b hb
  obtain ⟨a, ha, hb⟩ := bind_eq_ok hb
  rw [h a ha]
  exact hstep a b hb

theorem mapM {f g : α → Except ε β} (h : ∀ a, Restricts (f a) (g a)) (as : List α) :
    Restricts (as.mapM f) (as.mapM g) := by
  induction as with
  | nil => exact refl _
  | cons a as ih =>
    rw [List.mapM_cons, List.mapM_cons]
    exact (h a).bind fun _ => ih.bind fun _ => refl _

theorem mapError {ε' : Type} {x y : Except ε α} (h : Restricts x y) (f : ε → ε') :
    Restricts (x.mapError f) (y.mapError f) := by
  intro a ha
  rw [h a (mapError_eq_ok ha)]
  rfl

end Restricts

end ReportDesk.Outcome
