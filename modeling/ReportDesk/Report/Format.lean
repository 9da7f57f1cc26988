import ReportDesk.Json.Decode
import ReportDesk.Report.Configuration

/-! # Configurations as JSON

    The JSON form of a configuration. Every list may be left out; of a filter everything may. A
    name of a kind is written in one spelling and read in several.
-/

namespace ReportDesk.Report

open Json (Decoder)

/-! ### Reading -/

/-- The spellings of the aggregates. -/
def Aggregate.decoder : Decoder Aggregate :=
  .variant
    [("SUM", .sum), ("Sum", .sum), ("sum", .sum), ("COUNT", .count), ("Count", .count),
     ("count", .count), ("AVG", .avg), ("Avg", .avg), ("avg", .avg), ("MIN", .min), ("Min", .min),
     ("min", .min), ("MAX", .max), ("Max", .max), ("max", .max)]

/-- The spellings of the kinds of join. -/
def joinKindDecoder : Decoder Sql.JoinKind :=
  .variant
    [("INNER", .inner), ("Inner", .inner), ("inner", .inner), ("LEFT", .left), ("Left", .left),
     ("left", .left), ("RIGHT", .right), ("Right", .right), ("right", .right), ("FULL", .full),
     ("Full", .full), ("full", .full)]

/-- The spellings of the directions. -/
def directionDecoder : Decoder Sql.Direction :=
  .variant
    [("ASC", .asc), ("Asc", .asc), ("asc", .asc), ("DESC", .desc), ("Desc", .desc),
     ("desc", .desc)]

/-- The names of the dialects. -/
def dialectDecoder : Decoder Sql.Dialect :=
  .variant [("tsql", .tsql), ("sqlite", .sqlite)]

/-- A column of the report. -/
def Field.decoder : Decoder Field :=
  .record "FieldSpec" 4 fun r =>
    Field.mk <$> r.required 0 ["table"] .string
      <*> r.required 1 ["column"] .string
      <*> r.optional 2 ["alias"] .string
      <*> r.optional 3 ["aggregate"] Aggregate.decoder

/-- A join. Its kind goes by three keys. -/
def Link.decoder : Decoder Link :=
  .record "JoinSpec" 5 fun r =>
    Link.mk <$> r.required 0 ["kind", "type", "joinType"] joinKindDecoder
      <*> r.required 1 ["leftTable"] .string
      <*> r.required 2 ["leftColumn"] .string
      <*> r.required 3 ["rightTable"] .string
      <*> r.required 4 ["rightColumn"] .string

/-- The value of a filter: the text of a string, a number or a truth value, or none. -/
def scalarDecoder : Decoder (Option String) := fun scope json =>
  match Decoder.untyped scope json with
  | .error failure => .error failure
  | .ok .null => .ok none
  | .ok (.string text) => .ok (some text)
  | .ok (.array items) =>
    Json.fail (.refused ("filter value must be a scalar, got " ++ (Json.array items).compact))
  | .ok (.object members) =>
    Json.fail (.refused ("filter value must be a scalar, got " ++ (Json.object members).compact))
  | .ok scalar => .ok (some scalar.compact)

/-- A filter. -/
def Filter.decoder : Decoder Filter :=
  .record "FilterSpec" 5 fun r =>
    Filter.mk <$> r.orElse 0 ["table"] .string ""
      <*> r.orElse 1 ["column"] .string ""
      <*> r.orElse 2 ["declaredType"] .string ""
      <*> r.orElse 3 ["operator"] .string ""
      <*> r.orElse 4 ["value"] scalarDecoder none

/-- A grouping key. -/
def GroupKey.decoder : Decoder GroupKey :=
  .record "GroupKey" 2 fun r =>
    GroupKey.mk <$> r.required 0 ["table"] .string <*> r.required 1 ["column"] .string

/-- A sort key. -/
def SortKey.decoder : Decoder SortKey :=
  .record "SortSpec" 3 fun r =>
    SortKey.mk <$> r.required 0 ["table"] .string
      <*> r.required 1 ["column"] .string
      <*> r.orElse 2 ["direction"] directionDecoder .asc

/-- A configuration. -/
def Configuration.decoder : Decoder Configuration :=
  .record "ReportConfiguration" 7 fun r =>
    Configuration.mk <$> r.orElse 0 ["tables"] (.list .string) []
      <*> r.orElse 1 ["fields"] (.list Field.decoder) []
      <*> r.orElse 2 ["joins"] (.list Link.decoder) []
      <*> r.orElse 3 ["filters"] (.list Filter.decoder) []
      <*> r.orElse 4 ["groupBy"] (.list GroupKey.decoder) []
      <*> r.orElse 5 ["sortBy"] (.list SortKey.decoder) []
      <*> r.orElse 6 ["limit"] .word64 0

/-! ### Writing -/

/-- The spelling a kind of join is written in. -/
def joinKindName : Sql.JoinKind → String
  | .inner => "INNER"
  | .left => "LEFT"
  | .right => "RIGHT"
  | .full => "FULL"

/-- The spelling a direction is written in. -/
def directionName : Sql.Direction → String
  | .asc => "ASC"
  | .desc => "DESC"

/-- A column of the report as JSON. -/
def Field.toJson (field : Field) : Json :=
  .object
    ([("table", .string field.table), ("column", .string field.column)] ++
      Json.optionalMember "alias" (field.asName.map .string) ++
      Json.optionalMember "aggregate" (field.aggregate.map fun a => .string a.name))

/-- A join as JSON. -/
def Link.toJson (link : Link) : Json :=
  .object
    [("kind", .string (joinKindName link.kind)), ("leftTable", .string link.leftTable),
     ("leftColumn", .string link.leftColumn), ("rightTable", .string link.rightTable),
     ("rightColumn", .string link.rightColumn)]

/-- A filter as JSON. -/
def Filter.toJson (filter : Filter) : Json :=
  .object
    ([("table", .string filter.table), ("column", .string filter.column),
      ("declaredType", .string filter.declaredType), ("operator", .string filter.operator)] ++
      Json.optionalMember "value" (filter.value.map .string))

/-- A grouping key as JSON. -/
def GroupKey.toJson (key : GroupKey) : Json :=
  .object [("table", .string key.table), ("column", .string key.column)]

/-- A sort key as JSON. -/
def SortKey.toJson (key : SortKey) : Json :=
  .object
    [("table", .string key.table), ("column", .string key.column),
     ("direction", .string (directionName key.direction))]

/-- A configuration as JSON. -/
def Configuration.toJson (config : Configuration) : Json :=
  .object
    [("tables", .array (config.tables.map .string)),
     ("fields", .array (config.fields.map Field.toJson)),
     ("joins", .array (config.joins.map Link.toJson)),
     ("filters", .array (config.filters.map Filter.toJson)),
     ("groupBy", .array (config.groupBy.map GroupKey.toJson)),
     ("sortBy", .array (config.sortBy.map SortKey.toJson)),
     ("limit", .integer config.limit.toNat)]

end ReportDesk.Report
