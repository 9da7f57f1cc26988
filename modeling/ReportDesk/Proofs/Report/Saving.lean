import ReportDesk.Proofs.Json.Reading
import ReportDesk.Proofs.Json.Settling
import ReportDesk.Report.Compile
import ReportDesk.Report.Format

/-! # Saved reports

    A configuration that is written as JSON and read again is the same configuration, from its text
    as well as from its document in memory. What is left out when there is no value for it is read
    as no value, an empty alias is not taken for none, and a kind is written by a name that is read
    as the same kind.
-/

namespace ReportDesk.Report

open Json (Decoder Record Scope IsPlain)
open Json.Reading (map_of_done seq_of_done)

/-! ### Documents of configurations -/

theorem Field.isPlain_toJson (field : Field) : IsPlain 1 field.toJson := by
  refine .object ?_
  obtain ⟨table, column, asName, aggregate⟩ := field
  cases asName <;> cases aggregate <;> simp [Json.optionalMember, IsPlain.string]

theorem Link.isPlain_toJson (link : Link) : IsPlain 1 link.toJson :=
  .object (by simp [IsPlain.string])

theorem Filter.isPlain_toJson (filter : Filter) : IsPlain 1 filter.toJson := by
  refine .object ?_
  obtain ⟨table, column, declaredType, operator, value⟩ := filter
  cases value <;> simp [Json.optionalMember, IsPlain.string]

theorem GroupKey.isPlain_toJson (key : GroupKey) : IsPlain 1 key.toJson :=
  .object (by simp [IsPlain.string])

theorem SortKey.isPlain_toJson (key : SortKey) : IsPlain 1 key.toJson :=
  .object (by simp [IsPlain.string])

/-- The document of a configuration has nothing in it that is not read as it is written. -/
theorem Configuration.isPlain_toJson (config : Configuration) : IsPlain 3 config.toJson := by
  refine .object ?_
  simp only [List.forall_mem_cons]
  exact ⟨.array_map (fun text => .string text) _, .array_map Field.isPlain_toJson _,
    .array_map Link.isPlain_toJson _, .array_map Filter.isPlain_toJson _,
    .array_map GroupKey.isPlain_toJson _, .array_map SortKey.isPlain_toJson _,
    .word64 config.limit, by simp⟩

/-! ### What is written is read -/

section

variable (scope : Scope)

theorem Aggregate.decoder_name (aggregate : Aggregate) :
    Aggregate.decoder scope (.string aggregate.name) = .ok aggregate := by
  cases aggregate <;> rfl

theorem joinKindDecoder_name (kind : Sql.JoinKind) :
    joinKindDecoder scope (.string (joinKindName kind)) = .ok kind := by
  cases kind <;> rfl

theorem directionDecoder_name (direction : Sql.Direction) :
    directionDecoder scope (.string (directionName direction)) = .ok direction := by
  cases direction <;> rfl

theorem Field.decoder_toJson (field : Field) : Field.decoder scope field.toJson = .ok field := by
  refine field.isPlain_toJson.record ?_
  obtain ⟨table, column, asName, aggregate⟩ := field
  cases asName <;> cases aggregate <;>
    simp [Json.optionalMember, Record.ofObject, Record.required, Record.optional, Record.field,
      Record.occurrences, Decoder.string, Decoder.nullable, Aggregate.decoder_name, Except.map]

theorem Link.decoder_toJson (link : Link) : Link.decoder scope link.toJson = .ok link := by
  refine link.isPlain_toJson.record ?_
  simp [Record.ofObject, Record.required, Record.field, Record.occurrences, Decoder.string,
    joinKindDecoder_name]

theorem Filter.decoder_toJson (filter : Filter) :
    Filter.decoder scope filter.toJson = .ok filter := by
  refine filter.isPlain_toJson.record ?_
  obtain ⟨table, column, declaredType, operator, value⟩ := filter
  cases value <;>
    simp [Json.optionalMember, Record.ofObject, Record.orElse, Record.field, Record.occurrences,
      Decoder.string, scalarDecoder, Decoder.untyped, Json.settle]

theorem GroupKey.decoder_toJson (key : GroupKey) :
    GroupKey.decoder scope key.toJson = .ok key := by
  refine key.isPlain_toJson.record ?_
  simp [Record.ofObject, Record.required, Record.field, Record.occurrences, Decoder.string]

theorem SortKey.decoder_toJson (key : SortKey) : SortKey.decoder scope key.toJson = .ok key := by
  refine key.isPlain_toJson.record ?_
  simp [Record.ofObject, Record.required, Record.orElse, Record.field, Record.occurrences,
    Decoder.string, directionDecoder_name]

theorem Configuration.decoder_toJson (config : Configuration) :
    Configuration.decoder scope config.toJson = .ok config := by
  refine config.isPlain_toJson.record ?_
  -- field by field, in the order in which the decoder asks for them
  refine seq_of_done (seq_of_done (seq_of_done (seq_of_done (seq_of_done (seq_of_done
    (map_of_done ?tables) ?fields) ?joins) ?filters) ?groupBy) ?sortBy) ?limit
  case tables => exact Record.field_of_named rfl rfl (Json.elements_string _ _ _)
  case fields => exact Record.field_of_named rfl rfl (Json.list_map Field.decoder_toJson _)
  case joins => exact Record.field_of_named rfl rfl (Json.list_map Link.decoder_toJson _)
  case filters => exact Record.field_of_named rfl rfl (Json.list_map Filter.decoder_toJson _)
  case groupBy => exact Record.field_of_named rfl rfl (Json.list_map GroupKey.decoder_toJson _)
  case sortBy => exact Record.field_of_named rfl rfl (Json.list_map SortKey.decoder_toJson _)
  case limit => exact Record.field_of_named rfl rfl (Json.word64_toNat _)

end

/-! ### Order and repeats do not matter -/

section

open Json.Decoder.IsSteady (of_leaves string word64 variant list record)
open Json.Record.IsSteady (required orElse optional)

theorem isSteady_scalarDecoder : scalarDecoder.IsSteady := by
  refine of_leaves (fun scope items value h => ?_) (fun scope members value h => ?_)
  · cases hsettle : (Json.array items).settle scope.depth with
    | error fault => simp [scalarDecoder, Decoder.untyped, hsettle, Json.fail] at h
    | ok settled =>
      obtain ⟨others, -, rfl⟩ := Json.settle_array hsettle
      simp [scalarDecoder, Decoder.untyped, hsettle, Json.fail] at h
  · cases hsettle : (Json.object members).settle scope.depth with
    | error fault => simp [scalarDecoder, Decoder.untyped, hsettle, Json.fail] at h
    | ok settled =>
      obtain ⟨others, -, rfl⟩ := Json.settle_object hsettle
      simp [scalarDecoder, Decoder.untyped, hsettle, Json.fail] at h

theorem Field.isSteady_decoder : Field.decoder.IsSteady :=
  record <| .seq (.seq (.seq (.map _ (required string 0 _)) (required string 1 _))
    (optional string 2 _)) (optional (variant _) 3 _)

theorem Link.isSteady_decoder : Link.decoder.IsSteady :=
  record <| .seq (.seq (.seq (.seq (.map _ (required (variant _) 0 _)) (required string 1 _))
    (required string 2 _)) (required string 3 _)) (required string 4 _)

theorem Filter.isSteady_decoder : Filter.decoder.IsSteady :=
  record <| .seq (.seq (.seq (.seq (.map _ (orElse string 0 _ _)) (orElse string 1 _ _))
    (orElse string 2 _ _)) (orElse string 3 _ _)) (orElse isSteady_scalarDecoder 4 _ _)

theorem GroupKey.isSteady_decoder : GroupKey.decoder.IsSteady :=
  record <| .seq (.map _ (required string 0 _)) (required string 1 _)

theorem SortKey.isSteady_decoder : SortKey.decoder.IsSteady :=
  record <| .seq (.seq (.map _ (required string 0 _)) (required string 1 _))
    (orElse (variant _) 2 _ _)

theorem Configuration.isSteady_decoder : Configuration.decoder.IsSteady :=
  record <| .seq (.seq (.seq (.seq (.seq (.seq (.map _ (orElse (list string) 0 _ _))
    (orElse (list Field.isSteady_decoder) 1 _ _)) (orElse (list Link.isSteady_decoder) 2 _ _))
    (orElse (list Filter.isSteady_decoder) 3 _ _)) (orElse (list GroupKey.isSteady_decoder) 4 _ _))
    (orElse (list SortKey.isSteady_decoder) 5 _ _)) (orElse word64 6 _ _)

end

/-! ### Saving and loading -/

namespace Configuration

/-- The text a configuration is saved as. -/
def saved (config : Configuration) : String :=
  config.toJson.compact

/-- The configuration that a text is loaded as. -/
def loaded (text : String) : Except Json.Failure Configuration :=
  Json.decodeText decoder text

/-- What is saved of the configuration in a text. -/
def resaved (text : String) : Except Json.Failure String :=
  (loaded text).map saved

theorem loaded_saved (config : Configuration) : loaded config.saved = .ok config := by
  simp [loaded, saved, Json.decodeText, config.isPlain_toJson.readText, config.decoder_toJson]

theorem decodeValue_toJson (config : Configuration) :
    Json.decodeValue decoder config.toJson = .ok config :=
  Json.decodeValue_of_isSteady isSteady_decoder
    (config.isPlain_toJson.exists_settle (by decide)) (config.decoder_toJson _)

/-- A configuration comes back as it was, at any place in a document, from its document in memory
    and from the text it is saved as. So a text that was loaded and saved stays the same from then
    on, and a report that was saved and loaded has the statements it had, or fails as it did. -/
theorem saving_changes_nothing :
    (∀ (config : Configuration) (scope : Scope), decoder scope config.toJson = .ok config) ∧
    (∀ config : Configuration, Json.decodeValue decoder config.toJson = .ok config) ∧
    (∀ config : Configuration, loaded config.saved = .ok config) ∧
    (∀ text : String, resaved text >>= resaved = resaved text) ∧
    ∀ (config : Configuration) (dialect : Sql.Dialect) (strict : Bool),
      (loaded config.saved).map (fun back => back.statement dialect strict) =
        .ok (config.statement dialect strict) := by
  refine ⟨fun config scope => config.decoder_toJson scope, decodeValue_toJson, loaded_saved,
    fun text => ?_, fun config dialect strict => ?_⟩
  · cases htext : loaded text with
    | error failure => simp [resaved, htext, Except.map, bind, Except.bind]
    | ok config =>
      -- what is loaded of the saved text is the configuration, whatever the first text was
      have hsaved : resaved config.saved = .ok config.saved := by
        simp [resaved, loaded_saved, Except.map]
      simp only [resaved, htext, Except.map, bind, Except.bind] at hsaved ⊢
      exact hsaved
  · rw [loaded_saved]
    rfl

end Configuration

end ReportDesk.Report
