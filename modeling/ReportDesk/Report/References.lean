import ReportDesk.Report.Configuration

/-! # What a report refers to

    The columns and tables a configuration names, each once and in the order of their first
    mention, without blanks around them. Mentions with a blank part are left out.
-/

namespace ReportDesk.Report.Configuration

/-- Every mention of a column with its table, in order: the fields, both sides of the joins, the
    filters that count, the grouping keys and the sort keys. -/
def mentions (config : Configuration) : List (String × String) :=
  config.fields.map (fun f => (f.table, f.column)) ++
    config.joins.flatMap (fun j => [(j.leftTable, j.leftColumn), (j.rightTable, j.rightColumn)]) ++
    config.activeFilters.map (fun f => (f.table, f.column)) ++
    config.groupBy.map (fun k => (k.table, k.column)) ++
    config.sortBy.map (fun k => (k.table, k.column))

/-- The elements of a list without those that repeat an earlier one in the sense of `same`, `seen`
    being elements before all of them, latest first. -/
def withoutRepeats {α : Type} (same : α → α → Bool) (seen : List α) : List α → List α
  | [] => []
  | a :: rest =>
    if seen.any (same a) then withoutRepeats same seen rest
    else a :: withoutRepeats same (a :: seen) rest

/-- The columns a report refers to, with their tables. -/
def referencedColumns (config : Configuration) : List (String × String) :=
  let trimmed := config.mentions.map fun (table, column) => (Text.trim table, Text.trim column)
  withoutRepeats (· == ·) [] (trimmed.filter fun (table, column) =>
    !table.isEmpty && !column.isEmpty)

/-- The tables a report refers to: the selected ones and those of its columns, one of any that
    differ only in ASCII case. -/
def referencedTables (config : Configuration) : List String :=
  let names := config.tables.map Text.trim ++ config.referencedColumns.map (·.1)
  withoutRepeats Text.eqFolded [] (names.filter fun name => !name.isEmpty)

end ReportDesk.Report.Configuration
