import ReportDesk.Proofs.Sql.Spelling

/-! # Reading lexemes back

    When lists of lexemes can be written in one way only. Things of a kind are `Readable` if, of two
    equal lists that begin with one of them each, both begin with the same one and go on the same.
    This may need that nothing which could belong to the thing follows it: what follows `Avoids`
    some lexemes.

    Lists of readable things are readable, with a separator between or with a lexeme at the front
    of each, and so are clauses that can be absent. A query is taken apart with these, clause by
    clause, without a parser.
-/

namespace ReportDesk.Sql

/-! ### What follows -/

/-- A list of lexemes that does not begin with one of `stops`. -/
def Avoids (stops lexemes : List Lexeme) : Prop :=
  ∀ l, lexemes.head? = some l → l ∉ stops

@[simp]
theorem avoids_nil (stops : List Lexeme) : Avoids stops [] := by
  simp [Avoids]

@[simp]
theorem avoids_cons {stops rest : List Lexeme} {l : Lexeme} :
    Avoids stops (l :: rest) ↔ l ∉ stops := by
  simp [Avoids]

theorem Avoids.append {stops front back : List Lexeme} (hfront : Avoids stops front)
    (hback : Avoids stops back) : Avoids stops (front ++ back) := by
  cases front with
  | nil => exact hback
  | cons l front => simpa using hfront

theorem Avoids.mono {stops more lexemes : List Lexeme} (h : Avoids more lexemes)
    (hsub : ∀ l ∈ stops, l ∈ more) : Avoids stops lexemes := by
  intro l hl hmem
  exact h l hl (hsub l hmem)

/-- A clause that lists what `write` gives for each of several things, absent when there are
    none. -/
def Lexeme.clause {α : Type} (first : Lexeme) (more : List Lexeme) (sep : Lexeme)
    (write : α → List Lexeme) (as : List α) : List Lexeme :=
  if as.isEmpty then [] else first :: more ++ [sep].intercalate (as.map write)

theorem avoids_clause {α : Type} {stops : List Lexeme} {first : Lexeme} (h : first ∉ stops)
    (more : List Lexeme) (sep : Lexeme) (write : α → List Lexeme) (as : List α) :
    Avoids stops (Lexeme.clause first more sep write as) := by
  cases as with
  | nil => simp [Lexeme.clause]
  | cons a as => simpa [Lexeme.clause] using h

/-! ### Readable things -/

/-- Things of a kind whose lexemes, as `write` gives them, tell which thing it is and where it
    ends, as long as none of `stops` follows. -/
structure Readable {α : Type} (stops : List Lexeme) (Kind : α → Prop) (write : α → List Lexeme) :
    Prop where
  /-- The same lexemes are those of the same thing. -/
  unique : ∀ {a b : α} {r s : List Lexeme}, Kind a → Kind b → Avoids stops r → Avoids stops s →
    write a ++ r = write b ++ s → a = b ∧ r = s

namespace Readable

variable {α : Type} {stops : List Lexeme} {Kind : α → Prop} {write : α → List Lexeme}

/-- A lexeme in front changes nothing. -/
theorem prefixed (h : Readable stops Kind write) (front : Lexeme) :
    Readable stops Kind fun a => front :: write a := by
  constructor
  intro a b r s ha hb hr hs heq
  exact h.unique ha hb hr hs (List.cons.inj heq).2

/-- Things one after another are readable if each begins with a lexeme that cannot follow one of
    them otherwise. -/
theorem repeated (h : Readable stops Kind write) (starts : List Lexeme)
    (hstarts : ∀ a, Kind a → ∃ l ∈ starts, ∃ tail, write a = l :: tail)
    (hdisjoint : ∀ l ∈ starts, l ∉ stops) :
    Readable (starts ++ stops) (fun as => ∀ a ∈ as, Kind a) fun (as : List α) =>
      as.flatMap write := by
  have hmore : ∀ (as : List α) (r : List Lexeme), (∀ a ∈ as, Kind a) →
      Avoids (starts ++ stops) r → Avoids stops (as.flatMap write ++ r) := by
    intro as r has hr
    cases as with
    | nil => exact hr.mono (by simp +contextual)
    | cons a as =>
      obtain ⟨l, hl, tail, hwrite⟩ := hstarts a (has a (by simp))
      simp [hwrite, hdisjoint l hl]
  -- where one list ends and the other goes on, what follows the first begins with a start
  have hend : ∀ (a : α) (r rest : List Lexeme), Kind a → Avoids (starts ++ stops) r →
      r ≠ write a ++ rest := by
    rintro a r rest ha hr rfl
    obtain ⟨l, hl, tail, hwrite⟩ := hstarts a ha
    simp [hwrite, hl] at hr
  constructor
  -- by induction on the one list, taking a thing off the front of both
  intro as
  induction as with
  | nil =>
    intro bs r s _ hbs hr _ heq
    cases bs with
    | nil => exact ⟨rfl, heq⟩
    | cons b bs =>
      rw [List.flatMap_cons, List.append_assoc] at heq
      exact absurd heq (hend b _ _ (hbs b (by simp)) hr)
  | cons a as ih =>
    intro bs r s has hbs hr hs heq
    have has' : ∀ a ∈ as, Kind a := fun a ha => has a (by simp [ha])
    rw [List.flatMap_cons, List.append_assoc] at heq
    cases bs with
    | nil => exact absurd heq.symm (hend a _ _ (has a (by simp)) hs)
    | cons b bs =>
      have hbs' : ∀ b ∈ bs, Kind b := fun b hb => hbs b (by simp [hb])
      rw [List.flatMap_cons, List.append_assoc] at heq
      obtain ⟨rfl, htail⟩ := h.unique (has a (by simp)) (hbs b (by simp)) (hmore as r has' hr)
        (hmore bs s hbs' hs) heq
      obtain ⟨rfl, hrest⟩ := ih has' hbs' hr hs htail
      exact ⟨rfl, hrest⟩

theorem intercalate_cons (sep : Lexeme) (first : List Lexeme) (others : List (List Lexeme)) :
    [sep].intercalate (first :: others) = first ++ others.flatMap (sep :: ·) := by
  induction others generalizing first with
  | nil => simp
  | cons second others ih => simp [List.intercalate_cons_cons, ih]

/-- One thing or more, with a separator between that cannot follow one of them otherwise. -/
theorem separated (h : Readable stops Kind write) (sep : Lexeme) (hsep : sep ∉ stops) :
    Readable (sep :: stops) (fun as => as ≠ [] ∧ ∀ a ∈ as, Kind a)
      fun (as : List α) => [sep].intercalate (as.map write) := by
  have hothers := (h.prefixed sep).repeated [sep]
    (fun a _ => ⟨sep, by simp, write a, rfl⟩) (by simpa using hsep)
  have hmore : ∀ (as : List α) (r : List Lexeme), Avoids (sep :: stops) r →
      Avoids stops (as.flatMap (fun a => sep :: write a) ++ r) := by
    intro as r hr
    cases as with
    | nil => exact hr.mono (by simp +contextual)
    | cons a as => simp [hsep]
  constructor
  rintro as bs r s ⟨hne, has⟩ ⟨hne', hbs⟩ hr hs heq
  obtain ⟨a, as, rfl⟩ := List.exists_cons_of_ne_nil hne
  obtain ⟨b, bs, rfl⟩ := List.exists_cons_of_ne_nil hne'
  simp only [List.map_cons, intercalate_cons, List.flatMap_map, List.append_assoc] at heq
  obtain ⟨rfl, htail⟩ := h.unique (has a (by simp)) (hbs b (by simp)) (hmore as r hr)
    (hmore bs s hs) heq
  obtain ⟨rfl, hrest⟩ := hothers.unique (fun a ha => has a (by simp [ha]))
    (fun b hb => hbs b (by simp [hb])) hr hs htail
  exact ⟨rfl, hrest⟩

/-- A clause of several things is readable, even if it is absent when there are none. -/
theorem clause (h : Readable stops Kind write) (first sep : Lexeme) (hsep : sep ∉ stops)
    (more : List Lexeme) :
    Readable (first :: sep :: stops) (fun as => ∀ a ∈ as, Kind a)
      (Lexeme.clause first more sep write) := by
  have hlist := h.separated sep hsep
  constructor
  intro as bs r s has hbs hr hs heq
  cases as with
  | nil =>
    cases bs with
    | nil => exact ⟨rfl, heq⟩
    | cons b bs =>
      obtain rfl : r = _ := heq
      simp [Lexeme.clause] at hr
  | cons a as =>
    cases bs with
    | nil =>
      obtain rfl : _ = s := heq
      simp [Lexeme.clause] at hs
    | cons b bs =>
      have hwhole : first :: more ++ ([sep].intercalate ((a :: as).map write) ++ r) =
          first :: more ++ ([sep].intercalate ((b :: bs).map write) ++ s) := by
        simpa [Lexeme.clause] using heq
      exact hlist.unique ⟨by simp, has⟩ ⟨by simp, hbs⟩ (hr.mono (by simp +contextual))
        (hs.mono (by simp +contextual)) (List.append_cancel_left hwhole)

end Readable

/-! ### Tables -/

/-- A table ends where no dot follows. -/
theorem TableName.readable :
    Readable [.mark .dot] (fun _ : TableName => True) TableName.lexemes := by
  constructor
  rintro ⟨schema, table⟩ ⟨schema', table'⟩ r s _ _ hr hs heq
  cases schema <;> cases schema'
  · simpa [lexemes] using heq
  · obtain ⟨-, rfl⟩ : _ ∧ r = _ := by simpa [lexemes] using heq
    simp at hr
  · obtain ⟨-, rfl⟩ : _ ∧ _ = s := by simpa [lexemes] using heq
    simp at hs
  · simpa [lexemes, and_assoc] using heq

/-- A table and a dot are followed by a name or star that ends the expression, where no dot
    follows. -/
theorem Expr.readable_qualified {table table' : TableName} {l l' : Lexeme} {r s : List Lexeme}
    (hr : Avoids [.mark .dot] r) (hs : Avoids [.mark .dot] s)
    (heq : qualifierLexemes (some table) ++ l :: r = qualifierLexemes (some table') ++ l' :: s) :
    table = table' ∧ l = l' ∧ r = s := by
  obtain ⟨schema, table⟩ := table
  obtain ⟨schema', table'⟩ := table'
  cases schema <;> cases schema'
  · simpa [qualifierLexemes, TableName.lexemes] using heq
  · obtain ⟨-, -, rfl⟩ : _ ∧ _ ∧ r = _ := by simpa [qualifierLexemes, TableName.lexemes] using heq
    simp at hr
  · obtain ⟨-, -, rfl⟩ : _ ∧ _ ∧ _ = s := by simpa [qualifierLexemes, TableName.lexemes] using heq
    simp at hs
  · simpa [qualifierLexemes, TableName.lexemes, and_assoc] using heq

end ReportDesk.Sql
