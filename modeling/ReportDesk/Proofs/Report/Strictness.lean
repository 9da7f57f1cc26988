import ReportDesk.Proofs.Report.Validity

/-! # Strict reports

    A strict report writes only numbers as they are. It has the statement it would have if it were
    not strict, or none: strictness never changes a statement and never makes one, and apart from
    its own error it changes no error. That error names a piece of a value that would stand in the
    statement as it is and is no number.
-/

namespace ReportDesk.Report

open Outcome (Restricts)
open Sql (Dialect Lexeme Token)

namespace Filter

variable {filter : Filter}

/-! ### Predicates -/

theorem restricts_verbatim (value : String) :
    Restricts (filter.verbatim true value) (filter.verbatim false value) := by
  intro expr h
  simp only [verbatim] at h
  split at h
  · cases h
  · exact h

theorem restricts_literal (value : String) :
    Restricts (filter.literal true value) (filter.literal false value) := by
  unfold literal
  split
  · exact .refl _
  · exact restricts_verbatim value

/-- An operator makes the same predicate of a value in a strict report, if it makes one. -/
theorem restricts_compare (value : String) (op : Operator) :
    Restricts (filter.compare true value op) (filter.compare false value op) := by
  cases op with
  | equals => exact (restricts_literal value).map _
  | notEquals => exact (restricts_literal value).map _
  | greaterThan => exact (restricts_verbatim value).map _
  | greaterThanOrEqual => exact (restricts_verbatim value).map _
  | lessThan => exact (restricts_verbatim value).map _
  | lessThanOrEqual => exact (restricts_verbatim value).map _
  | contains => exact .refl _
  | startsWith => exact .refl _
  | endsWith => exact .refl _
  | isNull => exact .refl _
  | isNotNull => exact .refl _
  | oneOf =>
    simp only [compare, literals_eq_mapM]
    exact (Restricts.mapM restricts_literal _).map _
  | between =>
    simp only [compare]
    split
    · exact (restricts_literal _).bind fun _ => (restricts_literal _).bind fun _ => .refl _
    · exact .refl _

theorem restricts_predicate (filter : Filter) :
    Restricts (filter.predicate true) (filter.predicate false) := by
  unfold predicate
  cases Operator.parse? filter.operator with
  | none => exact .refl _
  | some op =>
    dsimp only
    split
    · exact .refl _
    · exact restricts_compare _ op

/-! ### Faults -/

theorem IsValid.relax (h : filter.IsValid true) : filter.IsValid false := by
  obtain ⟨op, hop, haccepts⟩ := h
  exact ⟨op, hop, haccepts.given_ne, haccepts.count_bar, nofun⟩

/-- Only the fault of a piece that is no number depends on strictness. -/
theorem HasFault.relax {e : FilterError} (h : filter.HasFault true e)
    (hother : ∀ column value, e ≠ .notNumeric column value) : filter.HasFault false e := by
  cases h with
  | unknownOperator hop => exact .unknownOperator hop
  | missingValue hop hneeds hgiven => exact .missingValue hop hneeds hgiven
  | malformedBetween hop hgiven hbar => exact .malformedBetween hop hgiven hbar
  | notNumeric => exact absurd rfl (hother _ _)

end Filter

namespace Configuration

variable (config : Configuration) (dialect : Dialect)

/-! ### Statements -/

theorem restricts_statement :
    Restricts (config.statement dialect true) (config.statement dialect false) := by
  simp only [statement, query_eq]
  cases config.primaryTable? with
  | none => exact .refl _
  | some primary =>
    exact (((Restricts.mapM Filter.restricts_predicate _).mapError _).map _).map _

/-- A strict report has the statement that it has when it is not strict, or an error; that is the
    error that it has when it is not strict, or it names a piece of the value of a filter that would
    stand in the statement as it is and is no number. So a report that has an error when it is not
    strict has one when it is, and what stands in a strict statement as it is is a number. -/
theorem statement_strict :
    (∀ text, config.statement dialect true = .ok text →
      config.statement dialect false = .ok text) ∧
    (∀ e, config.statement dialect true = .error e →
      (∀ column value, e ≠ .filter (.notNumeric column value)) →
      config.statement dialect false = .error e) ∧
    (∀ e, config.statement dialect false = .error e →
      ∃ e', config.statement dialect true = .error e') ∧
    (∀ column value,
      config.statement dialect true = .error (.filter (.notNumeric column value)) →
      ∃ filter ∈ config.counting, filter.column = column ∧
        (∃ op : Operator, op.IsNamedBy filter.operator ∧ value ∈ filter.openPieces op) ∧
        ¬ Lexeme.IsNumber value.toList) ∧
    ∀ text, config.statement dialect true = .ok text →
      ∃ query, config.query true = .ok query ∧ text = query.text dialect ∧
        ∀ value, Token.verbatim value ∈ query.tokens → Lexeme.IsNumber value.toList := by
  refine ⟨config.restricts_statement dialect, ?_, ?_, ?_, ?_⟩
  · intro e he hother
    rw [statement_eq_error_iff] at he ⊢
    refine he.imp_right fun ⟨hlacks, fault, hfault, hfilter⟩ => ⟨hlacks, fault, ?_, hfilter⟩
    obtain ⟨before, filter, after, hactive, hbefore, hhas⟩ := predicates_eq_error_iff.mp hfault
    have hfaults : ∀ column value, fault ≠ .notNumeric column value := by
      rintro column value rfl
      exact hother column value hfilter
    exact predicates_eq_error_iff.mpr
      ⟨before, filter, after, hactive, fun f hf => (hbefore f hf).relax, hhas.relax hfaults⟩
  · intro e he
    cases hstrict : config.statement dialect true with
    | error e' => exact ⟨e', rfl⟩
    | ok text =>
      rw [config.restricts_statement dialect text hstrict] at he
      cases he
  · intro column value h
    rcases statement_eq_error_iff.mp h with ⟨-, hnone⟩ | ⟨-, fault, hfault, hfilter⟩
    · cases hnone
    · cases hfilter
      obtain ⟨before, filter, after, hactive, -, hhas⟩ := predicates_eq_error_iff.mp hfault
      refine ⟨filter, by simp [hactive], ?_⟩
      cases hhas with
      | @notNumeric op _ _ _ hop _ _ _ hpieces _ hpiece =>
        exact ⟨rfl, ⟨op, hop, by simp [hpieces]⟩, hpiece⟩
  · intro text htext
    obtain ⟨query, hquery, rfl⟩ := Outcome.map_eq_ok htext
    refine ⟨query, hquery, rfl, fun value hvalue => ?_⟩
    exact isPlain_of_mem_tokens hquery (.inl rfl) _ hvalue

end Configuration

/-- A report with a condition in place of a number, and behind it an operator that is not known. -/
def overfull : Configuration where
  tables := ["T"]
  filters :=
    [{ table := "T", column := "n", declaredType := "int", operator := "in"
       value := some "1, 2 OR 1=1" },
     { table := "T", column := "m", operator := "?" }]

/-- The strict report has another error than the one that is not strict, which it does not come to.
    With the number alone both have the same statement. -/
theorem statement_strict_overfull :
    let sound : Configuration :=
      { overfull with
        filters :=
          [{ table := "T", column := "n", declaredType := "int", operator := "="
             value := some "1" }] }
    overfull.statement .tsql false = .error (.filter (.unknownOperator "?")) ∧
    (∃ e, overfull.statement .tsql true = .error e) ∧
    overfull.statement .tsql true = .error (.filter (.notNumeric "n" "2 OR 1=1")) ∧
    (∃ filter ∈ overfull.counting, filter.column = "n" ∧
      (∃ op : Operator, op.IsNamedBy filter.operator ∧ "2 OR 1=1" ∈ filter.openPieces op) ∧
      ¬ Lexeme.IsNumber "2 OR 1=1".toList) ∧
    sound.statement .tsql true = .ok "SELECT [T].* FROM [T] WHERE [T].[n] = 1" ∧
    sound.statement .tsql false = .ok "SELECT [T].* FROM [T] WHERE [T].[n] = 1" := by
  intro sound
  have hopen : overfull.statement .tsql false = .error (.filter (.unknownOperator "?")) := by
    decide +kernel
  have hclosed :
      overfull.statement .tsql true = .error (.filter (.notNumeric "n" "2 OR 1=1")) := by
    decide +kernel
  have hsound : sound.statement .tsql true = .ok "SELECT [T].* FROM [T] WHERE [T].[n] = 1" := by
    decide +kernel
  obtain ⟨-, -, herror, hpiece, -⟩ := overfull.statement_strict .tsql
  exact ⟨hopen, herror _ hopen, hclosed, hpiece _ _ hclosed, hsound,
    (sound.statement_strict .tsql).1 _ hsound⟩

end ReportDesk.Report
