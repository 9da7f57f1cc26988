import ReportDesk.Proofs.Text.Trimming
import ReportDesk.Report.Filter

/-! # What filters say

    A filter is made of texts that a person wrote: the name or sign of an operator, the name of a
    type, and a value, which can be several values between commas or two between bars. What these
    texts mean is told here once more, as a table of signs and with the operations of lists, beside
    the tests that a report makes of them.
-/

namespace ReportDesk

namespace Text

/-- There is one piece more than there are marks. -/
theorem length_pieces (mark : Char) (cs : List Char) :
    (pieces mark cs).length = cs.count mark + 1 := by
  induction cs with
  | nil => rfl
  | cons c rest ih =>
    by_cases hc : c = mark
    · simp [pieces, hc, ih]
    · rw [List.count_cons_of_ne hc, ← ih]
      cases hpieces : pieces mark rest with
      | nil => exact absurd hpieces (pieces_ne_nil mark rest)
      | cons first others => simp [pieces, hc, hpieces]

end Text

namespace Report

/-! ### Operators -/

namespace Operator

/-- The names and signs of an operator, in capital letters. -/
def signs : Operator → List String
  | .equals => ["EQUALS", "="]
  | .notEquals => ["NOT_EQUALS", "!=", "<>"]
  | .contains => ["CONTAINS", "LIKE"]
  | .startsWith => ["STARTS_WITH"]
  | .endsWith => ["ENDS_WITH"]
  | .greaterThan => ["GREATER_THAN", ">"]
  | .greaterThanOrEqual => ["GREATER_THAN_OR_EQUAL", ">="]
  | .lessThan => ["LESS_THAN", "<"]
  | .lessThanOrEqual => ["LESS_THAN_OR_EQUAL", "<="]
  | .isNull => ["IS_NULL"]
  | .isNotNull => ["IS_NOT_NULL"]
  | .oneOf => ["IN"]
  | .between => ["BETWEEN"]

/-- Whether a text is a name or sign of an operator, blanks around it and ASCII case apart. -/
def IsNamedBy (op : Operator) (text : String) : Prop :=
  (Text.stripped text).toUpper ∈ op.signs

instance (op : Operator) (text : String) : Decidable (op.IsNamedBy text) :=
  inferInstanceAs (Decidable (_ ∈ op.signs))

theorem mem_spellings_iff {sign : String} {op : Operator} :
    (sign, op) ∈ spellings ↔ sign ∈ op.signs := by
  cases op <;> simp [spellings, signs]

theorem parse?_eq_some_iff {text : String} {op : Operator} :
    parse? text = some op ↔ op.IsNamedBy text := by
  -- no sign is there for two operators
  have hlookup : ∀ entry ∈ spellings, spellings.lookup entry.1 = some entry.2 := by decide +kernel
  rw [parse?, Text.trim_eq_stripped, IsNamedBy, ← mem_spellings_iff]
  constructor
  · intro h
    obtain ⟨front, back, hsplit, -⟩ := List.lookup_eq_some_iff.mp h
    have hmem : (Text.asciiUpper (Text.stripped text), op) ∈ spellings := by simp [hsplit]
    exact hmem
  · intro h
    exact hlookup _ h

/-- Whether an operator asks if there is a value in the column at all. -/
def IsNullCheck (op : Operator) : Prop :=
  op = .isNull ∨ op = .isNotNull

instance (op : Operator) : Decidable op.IsNullCheck :=
  inferInstanceAs (Decidable (_ ∨ _))

theorem needsValue_eq_true_iff {op : Operator} : op.needsValue = true ↔ ¬ op.IsNullCheck := by
  cases op <;> decide

end Operator

/-! ### Types -/

/-- Whether a type holds strings: its name has one of two words in it, in whatever case. -/
def IsStringType (declaredType : String) : Prop :=
  "CHAR".toList <:+: declaredType.toUpper.toList ∨ "TEXT".toList <:+: declaredType.toUpper.toList

theorem isStringType_eq_true_iff {declaredType : String} :
    isStringType declaredType = true ↔ IsStringType declaredType := by
  have hoccurs : ∀ part cs : List Char, Text.occursIn part cs = true ↔ part <:+: cs := by
    intro part cs
    induction cs with
    | nil => simp [Text.occursIn]
    | cons c rest ih => simp [Text.occursIn, ih, List.infix_cons_iff]
  rw [isStringType, Bool.or_eq_true, hoccurs, hoccurs]
  rfl

instance (declaredType : String) : Decidable (IsStringType declaredType) :=
  decidable_of_iff _ isStringType_eq_true_iff

theorem isStringType_eq (declaredType : String) :
    isStringType declaredType = decide (IsStringType declaredType) := by
  rw [Bool.eq_iff_iff, isStringType_eq_true_iff, decide_eq_true_iff]

/-! ### Values -/

namespace Filter

/-- The value of a filter; none is one without characters. -/
def given (filter : Filter) : String :=
  filter.value.getD ""

/-- The parts of a value between marks, without blanks around them. -/
def partsAt (mark : Char) (value : String) : List String :=
  (value.toList.splitOn mark).map fun part => Text.stripped (String.ofList part)

theorem trimmedPieces_eq (mark : Char) (value : String) :
    trimmedPieces mark value = partsAt mark value := by
  have htrim : ∀ cs, String.ofList (Text.trimBoth cs) = Text.stripped (String.ofList cs) := by
    intro cs
    rw [← Text.trim_eq_stripped, Text.trim, String.toList_ofList]
  simp only [trimmedPieces, partsAt, Text.pieces_eq_splitOn, htrim]

/-- A value has one part more than it has marks. -/
theorem length_partsAt (mark : Char) (value : String) :
    (partsAt mark value).length = value.toList.count mark + 1 := by
  rw [← trimmedPieces_eq, trimmedPieces, List.length_map, Text.length_pieces]

/-- Several values become literals one after another. -/
theorem literals_eq_mapM {filter : Filter} {strict : Bool} (values : List String) :
    filter.literals strict values = values.mapM (filter.literal strict) := by
  induction values with
  | nil => rfl
  | cons value rest ih => rw [literals, ih, List.mapM_cons]

/-- Whether a filter names a table and a column. Only such a filter counts. -/
def Counts (filter : Filter) : Prop :=
  Text.HasInk filter.table ∧ Text.HasInk filter.column

instance (filter : Filter) : Decidable filter.Counts :=
  inferInstanceAs (Decidable (_ ∧ _))

theorem isActive_eq_true_iff {filter : Filter} : filter.isActive = true ↔ filter.Counts := by
  simp [isActive, Counts, Text.isBlankText_eq_false_iff]

end Filter

/-- The filters of a report that count, in order. -/
def Configuration.counting (config : Configuration) : List Filter :=
  config.filters.filter fun filter => filter.Counts

theorem Configuration.activeFilters_eq (config : Configuration) :
    config.activeFilters = config.counting := by
  refine List.filter_congr fun filter _ => ?_
  rw [Bool.eq_iff_iff, Filter.isActive_eq_true_iff, decide_eq_true_iff]

end Report

end ReportDesk
