import ReportDesk.Table.Cell
import Std.Data.HashSet

/-! # Result tables

    Columns with distinct names, and rows with one cell for each column. Every way to make a table
    or to add to it keeps that shape or is refused.
-/

namespace ReportDesk

/-- A result table. -/
@[ext] structure Table where
  /-- The names of the columns. -/
  columns : List String := []
  /-- The rows, in order, each with its cells in the order of the columns. -/
  rows : List (List Cell) := []
  /-- No two columns have one name. -/
  nodup : columns.Nodup := by simp
  /-- Each row has one cell for each column. -/
  width : ∀ row ∈ rows, row.length = columns.length := by simp

/-- The table without columns and rows. -/
instance : Inhabited Table := ⟨{}⟩

/-- Why a table is refused. -/
inductive TableError where
  /-- A part that must be there is not. -/
  | missingField (name : String)
  /-- Two columns have one name. -/
  | duplicateColumn (name : String)
  /-- A row has more or fewer cells than there are columns. -/
  | rowWidth (row expected found : Nat)
  /-- A row gives a cell for a column that is not there. -/
  | unknownKey (row : Nat) (key : String)
  deriving DecidableEq, Repr

/-- An error in words. -/
def TableError.message : TableError → String
  | .missingField name => "missing required field '" ++ name ++ "'"
  | .duplicateColumn name => "duplicate column name '" ++ name ++ "'"
  | .rowWidth row expected found =>
    "row " ++ toString row ++ " has " ++ toString found ++ " values, expected " ++
      toString expected
  | .unknownKey row key =>
    "row " ++ toString row ++ " has key '" ++ key ++ "' which is not a result column"

namespace Table

/-! ### Columns -/

/-- The first name that repeats one before it, `seen` being the names before all of them. -/
def firstRepeat? (seen : Std.HashSet String) : List String → Option String
  | [] => none
  | name :: rest => if seen.contains name then some name else firstRepeat? (seen.insert name) rest

/-- No name is reported just when the names are distinct and none was there before. -/
theorem firstRepeat?_eq_none_iff (seen : Std.HashSet String) (names : List String) :
    firstRepeat? seen names = none ↔ names.Nodup ∧ ∀ name ∈ names, name ∉ seen := by
  induction names generalizing seen with
  | nil => simp [firstRepeat?]
  | cons name rest ih =>
    by_cases hseen : name ∈ seen
    · simp [firstRepeat?, hseen]
    · simp only [firstRepeat?, Std.HashSet.contains_iff_mem, hseen, if_false, ih,
        Std.HashSet.mem_insert, List.nodup_cons, List.forall_mem_cons]
      grind

theorem nodup_of_firstRepeat? {columns : List String} (h : firstRepeat? ∅ columns = none) :
    columns.Nodup :=
  ((firstRepeat?_eq_none_iff ∅ columns).mp h).1

/-- A table without rows. -/
def ofColumns (columns : List String) : Except TableError Table :=
  match h : firstRepeat? ∅ columns with
  | some name => .error (.duplicateColumn name)
  | none => .ok { columns := columns, nodup := nodup_of_firstRepeat? h }

/-! ### Labels -/

/-- A label with a number behind it. -/
def numbered (label : String) (n : Nat) : String :=
  label ++ "_" ++ toString n

theorem numbered_inj {label : String} {m n : Nat} (h : numbered label m = numbered label n) :
    m = n := by
  have hdigits : Nat.toDigits 10 m = Nat.toDigits 10 n := by
    rw [← String.toList_inj] at h
    simpa [numbered, Nat.repr] using h
  calc m = Nat.ofDigitChars 10 (Nat.toDigits 10 m) 0 := Nat.ofDigitChars_ten_toDigits.symm
    _ = Nat.ofDigitChars 10 (Nat.toDigits 10 n) 0 := by rw [hdigits]
    _ = n := Nat.ofDigitChars_ten_toDigits

/-- The first numbered label, from `n` on, that is not taken. -/
def firstFree (taken : List String) (label : String) : Nat → Nat → String
  | 0, n => numbered label n
  | fuel + 1, n =>
    if taken.contains (numbered label n) then firstFree taken label fuel (n + 1)
    else numbered label n

/-- A label is taken only when all those before it are. -/
theorem mem_of_firstFree_mem {taken : List String} {label : String} {fuel n : Nat}
    (h : firstFree taken label fuel n ∈ taken) :
    ∀ i ≤ fuel, numbered label (n + i) ∈ taken := by
  induction fuel generalizing n with
  | zero =>
    intro i hi
    obtain rfl : i = 0 := by omega
    exact h
  | succ fuel ih =>
    simp only [firstFree, List.contains_iff_mem] at h
    split at h
    · next htaken =>
      intro i hi
      cases i with
      | zero => exact htaken
      | succ i =>
        have hlater := ih h i (by omega)
        rwa [show n + (i + 1) = n + 1 + i by omega]
    · next hfree => exact absurd h hfree

/-- One of more numbered labels than there are taken names is free. -/
theorem firstFree_not_mem (taken : List String) (label : String) (n : Nat) :
    firstFree taken label taken.length n ∉ taken := by
  intro h
  -- if none were free, there would be more taken names than there are
  have hall := mem_of_firstFree_mem h
  have hnodup : ((List.range (taken.length + 1)).map fun i => numbered label (n + i)).Nodup := by
    refine List.pairwise_map.mpr (List.nodup_range.imp ?_)
    intro i j hne hij
    have hsum := numbered_inj hij
    omega
  have hsubset : (List.range (taken.length + 1)).map (fun i => numbered label (n + i)) ⊆ taken := by
    intro name hname
    obtain ⟨i, hi, rfl⟩ := List.mem_map.mp hname
    exact hall i (by simpa [Nat.lt_succ_iff] using hi)
  have hlength := hnodup.length_le_of_subset hsubset
  simp only [List.length_map, List.length_range] at hlength
  omega

/-- A name for a label: the label itself, or the first numbered one, from 2 on, that is not taken.
    Of as many numbered labels as there are taken names and one more, one is free. -/
def freshName (taken : List String) (label : String) : String :=
  if taken.contains label then firstFree taken label taken.length 2 else label

theorem freshName_not_mem (taken : List String) (label : String) :
    freshName taken label ∉ taken := by
  unfold freshName
  split
  · exact firstFree_not_mem taken label 2
  · next hfree => simpa using hfree

/-- Distinct names for labels, in order, `taken` being names before them. -/
def distinctNames (taken : List String) : List String → List String
  | [] => []
  | label :: rest =>
    let name := freshName taken label
    name :: distinctNames (name :: taken) rest

/-- The names of labels differ from each other and from all names before them. -/
theorem nodup_distinctNames (taken labels : List String) :
    (distinctNames taken labels).Nodup ∧ ∀ name ∈ distinctNames taken labels, name ∉ taken := by
  induction labels generalizing taken with
  | nil => simp [distinctNames]
  | cons label rest ih =>
    -- the name that is chosen here is taken for all labels that follow
    obtain ⟨hnodup, hfree⟩ := ih (freshName taken label :: taken)
    have hfirst := freshName_not_mem taken label
    simp only [distinctNames, List.nodup_cons, List.forall_mem_cons]
    refine ⟨⟨fun hmem => ?_, hnodup⟩, hfirst, fun name hname htaken => ?_⟩
    · exact hfree _ hmem (by simp)
    · exact hfree name hname (by simp [htaken])

/-- A table without rows whose columns are named after labels that may repeat. -/
def ofLabels (labels : List String) : Table where
  columns := distinctNames [] labels
  nodup := (nodup_distinctNames [] labels).1

/-! ### Rows -/

/-- The table with a row that fits at the end. -/
def extended (table : Table) (row : List Cell) (h : row.length = table.columns.length) : Table where
  columns := table.columns
  rows := table.rows ++ [row]
  nodup := table.nodup
  width := by simpa [or_imp, forall_and, h] using table.width

@[simp] theorem columns_extended (table : Table) {row : List Cell}
    (h : row.length = table.columns.length) : (table.extended row h).columns = table.columns :=
  rfl

@[simp] theorem rows_extended (table : Table) {row : List Cell}
    (h : row.length = table.columns.length) : (table.extended row h).rows = table.rows ++ [row] :=
  rfl

/-- Adds a row at the end of the table that is there. -/
def add (row : List Cell) : EStateM TableError Table Unit := do
  let table ← get
  if h : row.length = table.columns.length then set (table.extended row h)
  else throw (.rowWidth table.rows.length table.columns.length row.length)

/-- A table with a row at the end. -/
def push (table : Table) (row : List Cell) : Except TableError Table :=
  match add row table with
  | .ok () made => .ok made
  | .error error _ => .error error

/-- The first row, counted from `i`, that does not have `width` cells, with its width. -/
def firstMisfit? (width : Nat) : Nat → List (List Cell) → Option (Nat × Nat)
  | _, [] => none
  | i, row :: rest =>
    if row.length = width then firstMisfit? width (i + 1) rest else some (i, row.length)

/-- No row is reported just when all have the width. -/
theorem firstMisfit?_eq_none_iff (width i : Nat) (rows : List (List Cell)) :
    firstMisfit? width i rows = none ↔ ∀ row ∈ rows, row.length = width := by
  induction rows generalizing i with
  | nil => simp [firstMisfit?]
  | cons row rest ih => by_cases h : row.length = width <;> simp [firstMisfit?, h, ih]

theorem width_append {columns : List String} {rows more : List (List Cell)} {i : Nat}
    (h : ∀ row ∈ rows, row.length = columns.length)
    (hmore : firstMisfit? columns.length i more = none) :
    ∀ row ∈ rows ++ more, row.length = columns.length := by
  intro row hrow
  rcases List.mem_append.mp hrow with hrow | hrow
  · exact h row hrow
  · exact (firstMisfit?_eq_none_iff _ _ _).mp hmore row hrow

/-- A table with rows at the end. It is looked for a row that does not fit before any is added. -/
def pushAll (table : Table) (rows : List (List Cell)) : Except TableError Table :=
  match h : firstMisfit? table.columns.length table.rows.length rows with
  | some (row, found) => .error (.rowWidth row table.columns.length found)
  | none =>
    .ok { table with rows := table.rows ++ rows, width := width_append table.width h }

/-- A table with rows. -/
def ofRows (columns : List String) (rows : List (List Cell)) : Except TableError Table := do
  (← ofColumns columns).pushAll rows

/-! ### Reading tables -/

/-- The cell of a row in the column of a name. -/
def get? (table : Table) (row : Nat) (column : String) : Option Cell := do
  let i ← table.columns.idxOf? column
  (← table.rows[row]?)[i]?

end Table

end ReportDesk
