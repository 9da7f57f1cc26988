import ReportDesk.Proofs.Report.Filters
import ReportDesk.Proofs.Report.Quoting

/-! # Which reports have a statement

    A report has a statement when its first table has a name and each of its filters that count is
    valid; otherwise it has one error. What makes a filter valid is told without the order in which
    it is looked at: a known operator, a value where one is needed, two ends of a range, and numbers
    where a strict report writes a value as it is. The order decides between errors only. Of a
    filter with several faults the one that comes first in that list is reported, and of a report
    with several invalid filters that of the first.
-/

namespace ReportDesk

namespace Report

open Outcome (exists_eq_ok_iff exists_mapM_eq_ok_iff map_eq_error_iff mapM_eq_error_iff)
open Sql (Dialect Expr Lexeme TableName)

/-! ### Operators -/

namespace Operator

/-- The pieces of a value that an operator writes as they are. On a column of strings only the
    four comparisons of size do; pattern matches and null checks never do. -/
def openPieces (quoted : Bool) (value : String) : Operator → List String
  | .greaterThan | .greaterThanOrEqual | .lessThan | .lessThanOrEqual => [value]
  | .equals | .notEquals => if quoted then [] else [value]
  | .oneOf => if quoted then [] else Filter.partsAt ',' value
  | .between => if quoted then [] else Filter.partsAt '|' value
  | .contains | .startsWith | .endsWith | .isNull | .isNotNull => []

end Operator

/-! ### Valid filters -/

namespace Filter

/-- The pieces of a filter's value that stand in a statement as they are. -/
def openPieces (filter : Filter) (op : Operator) : List String :=
  op.openPieces (IsStringType filter.declaredType) filter.given

/-- Whether an operator can be used with the value of a filter. -/
structure Accepts (filter : Filter) (strict : Bool) (op : Operator) : Prop where
  /-- There is a value if the operator compares with one. -/
  given_ne : ¬ op.IsNullCheck → filter.given ≠ ""
  /-- A range has two ends. -/
  count_bar : op = .between → filter.given.toList.count '|' = 1
  /-- A strict report writes only numbers as they are. -/
  isNumber : strict = true → ∀ piece ∈ filter.openPieces op, Lexeme.IsNumber piece.toList

/-- Whether a filter names an operator that can be used with its value. -/
def IsValid (filter : Filter) (strict : Bool) : Prop :=
  ∃ op : Operator, op.IsNamedBy filter.operator ∧ filter.Accepts strict op

/-- The fault of a filter: the first one of those that it has. -/
inductive HasFault (filter : Filter) (strict : Bool) : FilterError → Prop where
  /-- No operator has this name. -/
  | unknownOperator (hop : ∀ op : Operator, ¬ op.IsNamedBy filter.operator) :
      HasFault filter strict (.unknownOperator filter.operator)
  /-- The operator compares with a value and there is none. -/
  | missingValue {op : Operator} (hop : op.IsNamedBy filter.operator)
      (hneeds : ¬ op.IsNullCheck) (hgiven : filter.given = "") :
      HasFault filter strict (.missingValue filter.column op)
  /-- There is a value, but without two ends. -/
  | malformedBetween (hop : Operator.between.IsNamedBy filter.operator)
      (hgiven : filter.given ≠ "") (hbar : filter.given.toList.count '|' ≠ 1) :
      HasFault filter strict (.malformedBetween filter.column filter.given)
  /-- There is a value, with two ends if it is a range, and this is the leftmost of the pieces
      written as they are that is not a number. -/
  | notNumeric {op : Operator} {before after : List String} {piece : String}
      (hop : op.IsNamedBy filter.operator) (hgiven : ¬ op.IsNullCheck → filter.given ≠ "")
      (hbar : op = .between → filter.given.toList.count '|' = 1) (hstrict : strict = true)
      (hpieces : filter.openPieces op = before ++ piece :: after)
      (hbefore : ∀ earlier ∈ before, Lexeme.IsNumber earlier.toList)
      (hpiece : ¬ Lexeme.IsNumber piece.toList) :
      HasFault filter strict (.notNumeric filter.column piece)

/-! ### Literals -/

variable {filter : Filter} {strict : Bool} {e : FilterError}

theorem verbatim_eq_error_iff {value : String} :
    filter.verbatim strict value = .error e ↔
      strict = true ∧ ¬ Lexeme.IsNumber value.toList ∧ e = .notNumeric filter.column value := by
  rw [← isNumeral_iff, verbatim]
  cases strict <;> cases isNumeral value.toList <;> simp [eq_comm]

/-- Typed literals fail just when they are written as they are and one of them fails. -/
theorem mapM_literal_eq_error_iff {values : List String} :
    values.mapM (filter.literal strict) = .error e ↔
      (if IsStringType filter.declaredType then [] else values).mapM (filter.verbatim strict) =
        .error e := by
  by_cases hquoted : IsStringType filter.declaredType
  · simp [mapM_eq_error_iff, literal, isStringType_eq, hquoted, List.mapM_nil, pure, Except.pure]
  · have hliteral : filter.literal strict = filter.verbatim strict := by
      funext value
      simp [literal, isStringType_eq, hquoted]
    simp [hliteral, hquoted]

theorem literal_eq_error_iff {value : String} :
    filter.literal strict value = .error e ↔
      (if IsStringType filter.declaredType then [] else [value]).mapM (filter.verbatim strict) =
        .error e := by
  rw [← mapM_literal_eq_error_iff, List.mapM_cons]
  cases filter.literal strict value <;> simp [bind, Except.bind, pure, Except.pure]

theorem mapM_verbatim_singleton_eq_error_iff {value : String} :
    filter.verbatim strict value = .error e ↔
      [value].mapM (filter.verbatim strict) = .error e := by
  rw [List.mapM_cons]
  cases filter.verbatim strict value <;> simp [bind, Except.bind, pure, Except.pure]

/-- A predicate fails just when one of the pieces fails that are written as they are, or when a
    range has not two ends. -/
theorem compare_eq_error_iff {op : Operator} {value : String}
    (hbar : op = .between → value.toList.count '|' = 1) :
    filter.compare strict value op = .error e ↔
      (op.openPieces (IsStringType filter.declaredType) value).mapM (filter.verbatim strict) =
        .error e := by
  cases op with
  | equals | notEquals =>
    simp only [Operator.openPieces, decide_eq_true_eq]
    exact map_eq_error_iff.trans literal_eq_error_iff
  | greaterThan | greaterThanOrEqual | lessThan | lessThanOrEqual =>
    exact map_eq_error_iff.trans mapM_verbatim_singleton_eq_error_iff
  | contains | startsWith | endsWith | isNull | isNotNull =>
    simp [compare, Operator.openPieces, pure, Except.pure]
  | oneOf =>
    refine map_eq_error_iff.trans ?_
    rw [literals_eq_mapM, trimmedPieces_eq]
    simp only [Operator.openPieces, decide_eq_true_eq]
    exact mapM_literal_eq_error_iff
  | between =>
    have hlength : (partsAt '|' value).length = 2 := by
      rw [length_partsAt, hbar rfl]
    obtain ⟨low, high, hparts⟩ := List.length_eq_two.mp hlength
    simp only [compare, Operator.openPieces, decide_eq_true_eq, trimmedPieces_eq]
    rw [← mapM_literal_eq_error_iff, hparts]
    -- the two ends are looked at one after the other, as in a list
    simp only [List.mapM_cons, List.mapM_nil]
    cases filter.literal strict low with
    | error e' => simp [bind, Except.bind]
    | ok first =>
      cases filter.literal strict high <;> simp [bind, Except.bind, pure, Except.pure]

/-! ### Outcomes of filters -/

theorem predicate_of_missing {op : Operator} (hop : op.IsNamedBy filter.operator)
    (hneeds : ¬ op.IsNullCheck) (hgiven : filter.given = "") :
    filter.predicate strict = .error (.missingValue filter.column op) := by
  simp only [predicate, Operator.parse?_eq_some_iff.mpr hop]
  have hvalue : filter.value.getD "" = "" := hgiven
  simp [hvalue, Operator.needsValue_eq_true_iff.mpr hneeds]

theorem predicate_of_given {op : Operator} (hop : op.IsNamedBy filter.operator)
    (hgiven : ¬ op.IsNullCheck → filter.given ≠ "") :
    filter.predicate strict = filter.compare strict filter.given op := by
  simp only [predicate, Operator.parse?_eq_some_iff.mpr hop]
  split
  · next hmissing =>
    simp only [Bool.and_eq_true, String.isEmpty_iff, Operator.needsValue_eq_true_iff] at hmissing
    exact absurd hmissing.1 (hgiven hmissing.2)
  · rfl

/-- Of pieces that are written as they are, the leftmost that is not a number is at fault. -/
theorem mapM_verbatim_eq_error_iff {pieces : List String} :
    pieces.mapM (filter.verbatim strict) = .error e ↔
      strict = true ∧ ∃ before piece after, pieces = before ++ piece :: after ∧
        (∀ earlier ∈ before, Lexeme.IsNumber earlier.toList) ∧
        ¬ Lexeme.IsNumber piece.toList ∧ e = .notNumeric filter.column piece := by
  simp only [mapM_eq_error_iff, exists_eq_ok_iff, ne_eq, verbatim_eq_error_iff]
  cases strict with
  | false => simp
  | true => simp

theorem compare_between_eq {value : String} (hbar : value.toList.count '|' ≠ 1) :
    filter.compare strict value .between = .error (.malformedBetween filter.column value) := by
  have hlength : (trimmedPieces '|' value).length ≠ 2 := by
    rw [trimmedPieces_eq, length_partsAt]
    omega
  simp only [compare]
  split
  · next low high hpieces => exact absurd (by rw [hpieces]; rfl) hlength
  · rfl

/-- A filter has no predicate just when it has a fault, and its error is that fault. -/
theorem predicate_eq_error_iff : filter.predicate strict = .error e ↔ filter.HasFault strict e := by
  constructor
  · intro h
    by_cases hnamed : ∃ op : Operator, op.IsNamedBy filter.operator
    · obtain ⟨op, hop⟩ := hnamed
      by_cases hmissing : ¬ op.IsNullCheck ∧ filter.given = ""
      · rw [predicate_of_missing hop hmissing.1 hmissing.2] at h
        cases h
        exact .missingValue hop hmissing.1 hmissing.2
      · have hgiven : ¬ op.IsNullCheck → filter.given ≠ "" := fun hneeds hempty =>
          hmissing ⟨hneeds, hempty⟩
        rw [predicate_of_given hop hgiven] at h
        by_cases hbar : op = .between → filter.given.toList.count '|' = 1
        · obtain ⟨hstrict, before, piece, after, hpieces, hbefore, hpiece, rfl⟩ :=
            mapM_verbatim_eq_error_iff.mp ((compare_eq_error_iff hbar).mp h)
          exact .notNumeric hop hgiven hbar hstrict hpieces hbefore hpiece
        · obtain ⟨rfl, hcount⟩ := Classical.not_imp.mp hbar
          rw [compare_between_eq hcount] at h
          cases h
          exact .malformedBetween hop (hgiven (by decide)) hcount
    · have hparse : Operator.parse? filter.operator = none := by
        rw [Option.eq_none_iff_forall_ne_some]
        exact fun op hop => hnamed ⟨op, Operator.parse?_eq_some_iff.mp hop⟩
      simp only [predicate, hparse] at h
      cases h
      exact .unknownOperator fun op hop => hnamed ⟨op, hop⟩
  · intro h
    cases h with
    | unknownOperator hop =>
      have hparse : Operator.parse? filter.operator = none := by
        rw [Option.eq_none_iff_forall_ne_some]
        exact fun op hparse => hop op (Operator.parse?_eq_some_iff.mp hparse)
      simp only [predicate, hparse]
    | missingValue hop hneeds hgiven => exact predicate_of_missing hop hneeds hgiven
    | malformedBetween hop hgiven hbar =>
      rw [predicate_of_given hop fun _ => hgiven, compare_between_eq hbar]
    | notNumeric hop hgiven hbar hstrict hpieces hbefore hpiece =>
      rw [predicate_of_given hop hgiven, compare_eq_error_iff hbar, mapM_verbatim_eq_error_iff]
      exact ⟨hstrict, _, _, _, hpieces, hbefore, hpiece, rfl⟩

theorem predicate_ne_error (h : filter.IsValid strict) (e : FilterError) :
    filter.predicate strict ≠ .error e := by
  obtain ⟨op, hop, haccepts⟩ := h
  intro herror
  rw [predicate_of_given hop haccepts.given_ne, compare_eq_error_iff haccepts.count_bar,
    mapM_verbatim_eq_error_iff] at herror
  obtain ⟨hstrict, before, piece, after, hpieces, -, hpiece, -⟩ := herror
  have hmem : piece ∈ filter.openPieces op := by simp [openPieces, hpieces]
  exact hpiece (haccepts.isNumber hstrict piece hmem)

theorem isValid_of_no_fault (h : ∀ e, ¬ filter.HasFault strict e) : filter.IsValid strict := by
  -- each fault that is ruled out is one condition of validity
  have hnamed : ∃ op : Operator, op.IsNamedBy filter.operator := by
    by_contra hnone
    exact h _ (.unknownOperator fun op hop => hnone ⟨op, hop⟩)
  obtain ⟨op, hop⟩ := hnamed
  have hgiven : ¬ op.IsNullCheck → filter.given ≠ "" := fun hneeds hempty =>
    h _ (.missingValue hop hneeds hempty)
  have hbar : op = .between → filter.given.toList.count '|' = 1 := by
    rintro rfl
    by_contra hcount
    exact h _ (.malformedBetween hop (hgiven (by decide)) hcount)
  refine ⟨op, hop, hgiven, hbar, ?_⟩
  intro hstrict piece hpiece
  have hall : ∃ exprs, (filter.openPieces op).mapM (filter.verbatim strict) = .ok exprs := by
    rw [exists_eq_ok_iff]
    intro e herror
    obtain ⟨-, before, piece, after, hpieces, hbefore, hpiece, -⟩ :=
      mapM_verbatim_eq_error_iff.mp herror
    exact h _ (.notNumeric hop hgiven hbar hstrict hpieces hbefore hpiece)
  have hverbatim := exists_eq_ok_iff.mp (exists_mapM_eq_ok_iff.mp hall piece hpiece)
  by_contra hnumber
  exact hverbatim _ (verbatim_eq_error_iff.mpr ⟨hstrict, hnumber, rfl⟩)

/-- A filter has a predicate just when it is valid. -/
theorem exists_predicate_eq_ok_iff :
    (∃ predicate, filter.predicate strict = .ok predicate) ↔ filter.IsValid strict := by
  rw [exists_eq_ok_iff]
  refine ⟨fun h => isValid_of_no_fault fun e hfault => ?_, predicate_ne_error⟩
  exact h e (predicate_eq_error_iff.mpr hfault)

end Filter

/-! ### Outcomes of reports -/

namespace Configuration

variable {config : Configuration} {strict : Bool}

/-- Whether a report has no first table, or one without a name. -/
def LacksTable (config : Configuration) : Prop :=
  config.tables = [] ∨
    ∃ first others, config.tables = first :: others ∧ ¬ Text.HasInk first

theorem primaryTable?_eq_none_iff : config.primaryTable? = none ↔ config.LacksTable := by
  unfold primaryTable? LacksTable
  cases config.tables with
  | nil => simp
  | cons first others => simp [Text.isBlankText_eq_true_iff]

/-- The predicates of a report fail with the fault of the first filter that is not valid. -/
theorem predicates_eq_error_iff {e : FilterError} :
    config.predicates strict = .error e ↔
      ∃ before filter after, config.counting = before ++ filter :: after ∧
        (∀ earlier ∈ before, earlier.IsValid strict) ∧ filter.HasFault strict e := by
  simp only [predicates, activeFilters_eq, mapM_eq_error_iff, Filter.exists_predicate_eq_ok_iff,
    Filter.predicate_eq_error_iff]

theorem exists_predicates_eq_ok_iff :
    (∃ predicates, config.predicates strict = .ok predicates) ↔
      ∀ filter ∈ config.counting, filter.IsValid strict := by
  simp only [predicates, activeFilters_eq, exists_mapM_eq_ok_iff, Filter.exists_predicate_eq_ok_iff]

/-- A report fails for want of a first table, or else as its predicates do. -/
theorem statement_eq_error_iff {dialect : Dialect} {e : CompileError} :
    config.statement dialect strict = .error e ↔
      config.LacksTable ∧ e = .noTables ∨
        ¬ config.LacksTable ∧ ∃ fault, config.predicates strict = .error fault ∧
          e = .filter fault := by
  rw [statement, map_eq_error_iff, query_eq, ← primaryTable?_eq_none_iff]
  cases config.primaryTable? with
  | none => simp [eq_comm]
  | some primary =>
    cases config.predicates strict <;> simp [Except.mapError, Except.map, eq_comm]

theorem exists_statement_eq_ok_iff {dialect : Dialect} :
    (∃ text, config.statement dialect strict = .ok text) ↔
      ¬ config.LacksTable ∧ ∃ predicates, config.predicates strict = .ok predicates := by
  simp only [exists_eq_ok_iff, ne_eq, statement_eq_error_iff]
  by_cases hlacks : config.LacksTable
  · simp [hlacks]
  · simp only [hlacks, false_and, not_false_eq_true, true_and, false_or]
    exact ⟨fun h fault hfault => h _ ⟨fault, hfault, rfl⟩,
      fun h _ ⟨fault, hfault, _⟩ => h fault hfault⟩

/-- Which reports have a statement, and which error the others have. A report without a first table
    has that error alone. Any other has a statement just when all filters that count are valid, and
    the fault of the first invalid one else. Reports with the same first table and the same filters
    that count come out the same, whatever the rest of them and the dialect are. -/
theorem statement_outcome (config : Configuration) (dialect : Dialect) (strict : Bool) :
    (config.statement dialect strict = .error .noTables ↔ config.LacksTable) ∧
    ((∃ text, config.statement dialect strict = .ok text) ↔
      ¬ config.LacksTable ∧
        ∀ filter ∈ config.filters, filter.Counts → filter.IsValid strict) ∧
    (∀ fault, config.statement dialect strict = .error (.filter fault) ↔
      ¬ config.LacksTable ∧
        ∃ before filter after, config.counting = before ++ filter :: after ∧
          (∀ earlier ∈ before, earlier.IsValid strict) ∧ filter.HasFault strict fault) ∧
    ∀ (other : Configuration) (otherDialect : Dialect),
      other.tables.head? = config.tables.head? → other.counting = config.counting →
      ∀ e, other.statement otherDialect strict = .error e ↔
        config.statement dialect strict = .error e := by
  refine ⟨?_, ?_, ?_, ?_⟩
  · simp [statement_eq_error_iff]
  · rw [exists_statement_eq_ok_iff, exists_predicates_eq_ok_iff]
    simp [counting]
  · intro fault
    rw [← predicates_eq_error_iff]
    simp [statement_eq_error_iff]
  · intro other otherDialect htables hfilters e
    have hprimary : other.primaryTable? = config.primaryTable? := by
      unfold primaryTable?
      cases hother : other.tables <;> cases hconfig : config.tables <;>
        simp_all
    have hpredicates : other.predicates strict = config.predicates strict := by
      rw [predicates, predicates, activeFilters_eq, activeFilters_eq, hfilters]
    rw [statement_eq_error_iff, statement_eq_error_iff, hpredicates, ← primaryTable?_eq_none_iff,
      ← primaryTable?_eq_none_iff, hprimary]

end Configuration

/-- A filter with several values, all of them numbers. -/
def someOf : Filter :=
  { table := "T", column := "a", declaredType := "int", operator := " in "
    value := some "1, -2.5" }

/-- A filter with a range of which one end is no number. -/
def openRange : Filter :=
  { table := "T", column := "b", declaredType := "int", operator := "between"
    value := some "1| x" }

/-- A report of which one filter does not count, one is valid, and two are not. -/
def doubtful : Configuration where
  tables := [" T "]
  filters :=
    [{ table := " ", column := "a", operator := "?" }, someOf, openRange,
     { table := "T", column := "c", operator := "?" }]

/-- The filter that does not count has no say, and the first of the two faults is reported: in each
    dialect, and also for a report with a field and a row limit and without that filter. -/
theorem statement_outcome_doubtful :
    let other : Configuration :=
      { doubtful with
        filters := doubtful.counting, fields := [{ table := "", column := "" }], limit := 5 }
    other.tables.head? = doubtful.tables.head? ∧ other.counting = doubtful.counting ∧
    doubtful.statement .tsql true = .error (.filter (.notNumeric "b" "x")) ∧
    other.statement .sqlite true = .error (.filter (.notNumeric "b" "x")) := by
  intro other
  have htables : other.tables.head? = doubtful.tables.head? := rfl
  have hactive : other.counting = doubtful.counting := by
    simp [other, Configuration.counting, List.filter_filter]
  have hfirst : doubtful.counting =
      [someOf] ++ openRange :: [{ table := "T", column := "c", operator := "?" }] := by
    rw [← Configuration.activeFilters_eq]
    decide +kernel
  have hlacks : ¬ doubtful.LacksTable := by
    rintro (hnil | ⟨first, others, hcons, hblank⟩)
    · cases hnil
    · cases hcons
      exact hblank (Text.isBlankText_eq_false_iff.mp (by decide))
  have hnumber : ∀ text : String, isNumeral text.toList = true → Lexeme.IsNumber text.toList :=
    fun _ => isNumeral_iff.mp
  have hlisted : someOf.IsValid true := by
    have hop : Operator.parse? someOf.operator = some .oneOf := by decide +kernel
    have hgiven : someOf.given ≠ "" := by decide +kernel
    have hpieces : someOf.openPieces .oneOf = ["1", "-2.5"] := by decide +kernel
    refine ⟨.oneOf, Operator.parse?_eq_some_iff.mp hop, fun _ => hgiven, nofun, fun _ => ?_⟩
    rw [hpieces]
    simpa using ⟨hnumber "1" (by decide), hnumber "-2.5" (by decide)⟩
  have hrange : openRange.HasFault true (.notNumeric "b" "x") := by
    have hop : Operator.parse? openRange.operator = some .between := by decide +kernel
    have hgiven : openRange.given ≠ "" := by decide +kernel
    have hbar : openRange.given.toList.count '|' = 1 := by decide +kernel
    have hpieces : openRange.openPieces .between = ["1"] ++ "x" :: [] := by decide +kernel
    refine .notNumeric (Operator.parse?_eq_some_iff.mp hop) (fun _ => hgiven) (fun _ => hbar) rfl
      hpieces ?_ ?_
    · simpa using hnumber "1" (by decide)
    · rw [← isNumeral_iff]
      decide
  obtain ⟨-, -, hfault, hsame⟩ :=
    Configuration.statement_outcome doubtful .tsql true
  have hreported : doubtful.statement .tsql true = .error (.filter (.notNumeric "b" "x")) :=
    (hfault _).mpr ⟨hlacks, _, _, _, hfirst, by simpa using hlisted, hrange⟩
  exact ⟨htables, hactive, hreported, (hsame other .sqlite htables hactive _).mpr hreported⟩

end Report

end ReportDesk
