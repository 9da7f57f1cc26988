import ReportDesk.Database.Prepared
import ReportDesk.Http.Server
import ReportDesk.Proofs.Database.Action
import ReportDesk.Proofs.Http.Disposition
import ReportDesk.Proofs.Json.Reading
import ReportDesk.Proofs.Outcome
import ReportDesk.Proofs.Table.Shape

/-! # Answers to requests for documents

    A request for a document comes with the name of a format and with a body. It is answered with
    the document, or with an error that is told by its kind and a message. That is so unless
    something goes wrong around the service: a body that is too long is not taken, and a document
    whose file has a control character in its name cannot be handed over.
-/

namespace ReportDesk

/-! ### Errors of documents -/

namespace Export

theorem Sheet.ofTable_ne_unknownFormat (table : Table) (title : Option String) (name : String) :
    Sheet.ofTable table title ≠ .error (.unknownFormat name) := by
  have hcheck : ∀ cells, Sheet.check cells ≠ .error (.unknownFormat name) := by
    intro cells h
    unfold Sheet.check at h
    split at h
    · cases h
    · split at h <;> cases h
  intro h
  unfold Sheet.ofTable at h
  cases title with
  | none =>
    rcases Outcome.bind_eq_error h with h | ⟨_, -, h⟩
    · exact hcheck _ h
    · cases h
  | some text =>
    dsimp only at h
    split at h
    · cases h
    · rcases Outcome.bind_eq_error h with h | ⟨_, -, h⟩
      · exact hcheck _ h
      · cases h

/-- No document is refused for the name of its format. -/
theorem document_ne_unknownFormat (format : Format) (title : Option String) (table : Table)
    (fileName : Option String) (setup : PageSetup) (stamp name : String) :
    document format title table fileName setup stamp ≠ .error (.unknownFormat name) := by
  intro h
  unfold document at h
  split at h
  · cases h
  · rcases Outcome.bind_eq_error h with h | ⟨_, -, h⟩
    · cases format with
      | xlsx => exact Sheet.ofTable_ne_unknownFormat _ _ _ (Outcome.map_eq_error h)
      | pdf => cases h
      | docx => cases h
    · cases h

end Export

namespace Http

/-! ### What exporting comes to -/

section

variable {σ : Type} (service : Service σ) {name stamp : String} {request : Request}

/-- What comes of a request for a document, whoever asks: the format of this name is looked up, then
    the body is read, then the document is made. -/
def exported (name stamp : String) (request : Request) : Except ServiceError Export.Document := do
  let format ← (Export.Format.parse name).mapError .export
  let (input, table) ← request.exportInput
  service.export format input.title input.fileName table stamp

/-- A body that is not that of a request for a document is malformed. -/
theorem exportInput_eq_error {error : ServiceError} (h : request.exportInput = .error error) :
    ∃ cause, error = .malformedInput cause := by
  unfold Request.exportInput at h
  rcases Outcome.bind_eq_error h with h | ⟨_, -, h⟩
  · obtain ⟨failure, -, rfl⟩ := Outcome.mapError_eq_error h
    exact ⟨failure.cause, rfl⟩
  · rcases Outcome.bind_eq_error h with h | ⟨_, -, h⟩
    · obtain ⟨failure, -, rfl⟩ := Outcome.mapError_eq_error h
      exact ⟨failure.cause, rfl⟩
    · cases h

theorem parse_eq_error {error : Export.Error} (h : Export.Format.parse name = .error error) :
    error = .unknownFormat name := by
  unfold Export.Format.parse at h
  split at h <;> cases h
  rfl

/-- When there is no document the request is at fault if its format has no such name, and else the
    body or the table in it. -/
theorem kind_of_exported {error : ServiceError}
    (h : exported service name stamp request = .error error) :
    (error.kind = .configuration ∧ ∀ format, Export.Format.parse name ≠ .ok format) ∨
      (error.kind = .serialization ∧ ∃ format, Export.Format.parse name = .ok format) := by
  unfold exported at h
  rcases Outcome.bind_eq_error h with h | ⟨format, hformat, h⟩
  · obtain ⟨fault, hparse, rfl⟩ := Outcome.mapError_eq_error h
    obtain rfl := parse_eq_error hparse
    exact .inl ⟨rfl, by simp [hparse]⟩
  · refine .inr ⟨?_, format, Outcome.mapError_eq_ok hformat⟩
    rcases Outcome.bind_eq_error h with h | ⟨⟨input, table⟩, -, h⟩
    · obtain ⟨cause, rfl⟩ := exportInput_eq_error h
      rfl
    · obtain ⟨fault, hmade, rfl⟩ := Outcome.mapError_eq_error h
      cases fault with
      | unknownFormat other => exact absurd hmade (Export.document_ne_unknownFormat _ _ _ _ _ _ _)
      | _ => rfl

/-- The name of a document's file is made from the one in the body. -/
theorem fileName_of_exported {document : Export.Document}
    (h : exported service name stamp request = .ok document) :
    ∃ input table, request.exportInput = .ok (input, table) ∧
      document.fileName = document.format.fileName input.fileName stamp := by
  unfold exported at h
  obtain ⟨format, -, h⟩ := Outcome.bind_eq_ok h
  obtain ⟨⟨input, table⟩, hinput, h⟩ := Outcome.bind_eq_ok h
  have hmade := Outcome.mapError_eq_ok h
  refine ⟨input, table, hinput, ?_⟩
  unfold Export.document at hmade
  split at hmade
  · cases hmade
  · obtain ⟨content, -, hmade⟩ := Outcome.bind_eq_ok hmade
    cases hmade
    rfl

/-! ### Answers -/

/-- The response that an outcome leads to. -/
def Response.ofOutcome : Except ServiceError Response → Response
  | .ok response => response
  | .error error => .ofError error

theorem respond_apply (action : Action σ ServiceError Response) (session : Session σ) :
    respond action session = (.ofOutcome (action session).1, (action session).2) := by
  have hbind : respond action session =
      (match (action session).1 with
        | .ok response => (pure response : StateM (Session σ) Response)
        | .error error => pure (.ofError error)) (action session).2 := rfl
  rw [hbind]
  cases (action session).1 <;> rfl

end

/-- How a request for a document is answered, by its body and by what exporting comes to. -/
inductive Answered (body : Payload) : Except ServiceError Export.Document → Response → Prop where
  /-- The body is not taken. -/
  | tooLong {outcome : Except ServiceError Export.Document}
      (hbody : Payload.limit < body.bytes.size) : Answered body outcome tooLongBody
  /-- There is no document. -/
  | refused {error : ServiceError} (hbody : body.bytes.size ≤ Payload.limit) :
      Answered body (.error error) (.ofError error)
  /-- There is a document, and a header can have the name of its file. -/
  | delivered {document : Export.Document} (hbody : body.bytes.size ≤ Payload.limit)
      (hname : ¬ HasControl document.fileName) : Answered body (.ok document) (.delivery document)
  /-- There is a document, and no header can have the name of its file. -/
  | lost {document : Export.Document} (hbody : body.bytes.size ≤ Payload.limit)
      (hname : HasControl document.fileName) :
      Answered body (.ok document) (.plain 500 "failed to parse header value")

theorem answered_ofDocument {body : Payload} (hbody : body.bytes.size ≤ Payload.limit)
    (document : Export.Document) : Answered body (.ok document) (.ofDocument document) := by
  unfold Response.ofDocument
  split
  · next h =>
    rw [Response.all_isHeaderChar_iff, Response.hasControl_dispositionOf] at h
    exact .delivered hbody h
  · next h =>
    rw [Response.all_isHeaderChar_iff, Response.hasControl_dispositionOf, not_not] at h
    exact .lost hbody h

/-- Whether a response is a document, or an error that is told by its kind and a message. -/
inductive IsProper : Response → Prop where
  /-- A document. -/
  | document (document : Export.Document) : IsProper (.delivery document)
  /-- An error, with the status of its kind. -/
  | error (kind : ErrorKind) (message : String) :
      IsProper (.json kind.status
        (.object [("kind", .string kind.name), ("message", .string message)]))

theorem IsProper.status_mem {response : Response} (h : IsProper response) :
    response.status ∈ [200, 400, 403, 422, 502] := by
  cases h with
  | document document => exact List.mem_cons_self
  | error kind message =>
    show kind.status ∈ _
    cases kind <;> decide

/-- The answer is a document or a classified error just when the body is taken and the name of the
    file, if there is a document, has no control character. -/
theorem Answered.isProper_iff {body : Payload} {outcome : Except ServiceError Export.Document}
    {response : Response} (h : Answered body outcome response) :
    IsProper response ↔ body.bytes.size ≤ Payload.limit ∧
      ∀ document, outcome = .ok document → ¬ HasControl document.fileName := by
  cases h with
  | tooLong hbody =>
    refine iff_of_false (fun hproper => ?_) (fun hshort => Nat.not_le_of_lt hbody hshort.1)
    exact absurd hproper.status_mem (by decide)
  | @refused error hbody =>
    exact iff_of_true (.error error.kind error.message) ⟨hbody, fun _ h => by cases h⟩
  | @delivered document hbody hname =>
    refine iff_of_true (.document document) ⟨hbody, fun _ h => ?_⟩
    cases h
    exact hname
  | @lost document hbody hname =>
    refine iff_of_false (fun hproper => ?_) (fun hgood => hgood.2 document rfl hname)
    exact absurd hproper.status_mem (by decide)

section

variable {σ : Type} (service : Service σ) {name stamp : String} {request : Request}

/-- The session is left as it was, for no database is asked. -/
theorem exists_answered {segment : String} (hmethod : request.method = "POST")
    (hroute : Route.ofPath? request.path = some (.export segment))
    (hname : decodeSegment? segment = some name) (session : Session σ) :
    ∃ response, answer service stamp request session = (response, session) ∧
      Answered request.body (exported service name stamp request) response := by
  have hanswer : answer service stamp request session =
      Route.answer service request stamp (.export segment) session := by
    simp [answer, hmethod, hroute, Route.takes]
  rw [hanswer]
  simp only [Route.answer, hname]
  by_cases hlong : request.body.isTooLong = true
  · rw [if_pos hlong]
    exact ⟨_, rfl, .tooLong (by simpa [Payload.isTooLong] using hlong)⟩
  · rw [if_neg hlong, respond_apply]
    have hbody : request.body.bytes.size ≤ Payload.limit := by
      simpa [Payload.isTooLong] using hlong
    simp only [Action.bind_apply, Action.liftExcept_apply, exported]
    -- each step goes on with what the last one gave, or its error is the answer
    cases (Export.Format.parse name).mapError ServiceError.export with
    | error e => exact ⟨_, rfl, .refused hbody⟩
    | ok format =>
      cases request.exportInput with
      | error e => exact ⟨_, rfl, .refused hbody⟩
      | ok read =>
        obtain ⟨input, table⟩ := read
        cases hmade : service.export format input.title input.fileName table stamp with
        | error e =>
          simp only [bind, Except.bind, hmade]
          exact ⟨_, rfl, .refused hbody⟩
        | ok document =>
          simp only [bind, Except.bind, hmade]
          exact ⟨_, rfl, answered_ofDocument hbody document⟩

theorem isProper_answer_iff {segment : String} (hmethod : request.method = "POST")
    (hroute : Route.ofPath? request.path = some (.export segment))
    (hname : decodeSegment? segment = some name) (session : Session σ) :
    IsProper (answer service stamp request session).1 ↔
      request.body.bytes.size ≤ Payload.limit ∧
        ∀ document, exported service name stamp request = .ok document →
          ¬ HasControl document.fileName := by
  obtain ⟨response, hanswer, hanswered⟩ := exists_answered service hmethod hroute hname session
  rw [hanswer]
  exact hanswered.isProper_iff

/-- A request for a document in a format is answered, and no database is asked. The answer is the
    document or a classified error just when the body is not too long and the document, if there is
    one, has a file without control characters in its name. The error is the format's if that has no
    such name, and else one of the body or of its table.

    What is written of the file's name is read back up to the last double quote, whatever the name
    is. It is a header just when there is no control character in it, and none comes with the
    format: they are those of the name in the body without blanks around it. -/
theorem export_answered {segment : String} (hmethod : request.method = "POST")
    (hroute : Route.ofPath? request.path = some (.export segment))
    (hname : decodeSegment? segment = some name) (session : Session σ) :
    ∃ response, answer service stamp request session = (response, session) ∧
      Answered request.body (exported service name stamp request) response ∧
      (IsProper response ↔ request.body.bytes.size ≤ Payload.limit ∧
        ∀ document, exported service name stamp request = .ok document →
          ¬ HasControl document.fileName) ∧
      (∀ error, exported service name stamp request = .error error →
        (error.kind.status = 400 ∧ ∀ format, Export.Format.parse name ≠ .ok format) ∨
          (error.kind.status = 422 ∧ ∃ format, Export.Format.parse name = .ok format)) ∧
      ∀ document, exported service name stamp request = .ok document →
        (IsHeaderValue (Response.dispositionOf document) ↔ ¬ HasControl document.fileName) ∧
        nameIn? (Response.dispositionOf document) =
          some (Response.quotedName document.fileName) ∧
        ∃ input table, request.exportInput = .ok (input, table) ∧
          (HasControl document.fileName ↔ HasControl (wantedName input.fileName stamp)) := by
  obtain ⟨response, hanswer, hanswered⟩ := exists_answered service hmethod hroute hname session
  refine ⟨response, hanswer, hanswered, hanswered.isProper_iff, fun error herror => ?_,
    fun document hdocument => ⟨?_, nameIn?_dispositionOf document, ?_⟩⟩
  · rcases kind_of_exported service herror with ⟨hkind, hparse⟩ | ⟨hkind, hparse⟩
    · exact .inl ⟨by rw [hkind]; rfl, hparse⟩
    · exact .inr ⟨by rw [hkind]; rfl, hparse⟩
  · rw [isHeaderValue_iff, Response.hasControl_dispositionOf]
  · obtain ⟨input, table, hinput, hfile⟩ := fileName_of_exported service hdocument
    exact ⟨input, table, hinput, by rw [hfile, hasControl_fileName]⟩

end

/-! ### A table with one column -/

/-- A service for a database without tables. -/
def emptyService : Service (List Run) where
  db := ({} : Prepared).database
  settings := {}

/-- The body of a request for a document of a table with one column, under a name. -/
def oneColumnJson (fileName : String) : Json :=
  .object
    [("fileName", .string fileName),
     ("result", .object [("columns", .array [.string "A"]), ("rows", .array [])])]

/-- A request for a word-processing document of a table with one column, under a name. -/
def oneColumnRequest (fileName : String) : Request where
  method := "POST"
  path := "/api/reports/export/%57ord"
  body := (oneColumnJson fileName).compact

theorem route_oneColumnRequest (fileName : String) :
    (oneColumnRequest fileName).method = "POST" ∧
      Route.ofPath? (oneColumnRequest fileName).path = some (.export "%57ord") ∧
      decodeSegment? "%57ord" = some "Word" := by
  have hroute : Route.ofPath? "/api/reports/export/%57ord" = some (.export "%57ord") := by cbv
  exact ⟨rfl, hroute, by cbv⟩

theorem isPlain_oneColumnJson (fileName : String) : Json.IsPlain 4 (oneColumnJson fileName) := by
  refine .object ?_
  simp only [List.forall_mem_cons]
  refine ⟨.string _, .object ?_, by simp⟩
  simp only [List.forall_mem_cons]
  exact ⟨.array (List.forall_mem_singleton.mpr (.string _)), .array (by simp), by simp⟩

/-- The table of such a request, as it is sent. -/
def oneColumnTable : Json :=
  .object [("columns", .array [.string "A"]), ("rows", .array [])]

/-- The table of such a request. -/
def oneColumn : Table :=
  .ofLabels ["A"]

theorem exportInput_oneColumnRequest (fileName : String) :
    (oneColumnRequest fileName).exportInput =
      .ok ({ title := none, fileName := some fileName, result := oneColumnTable },
        oneColumn) := by
  have htext : (oneColumnRequest fileName).body.text = (oneColumnJson fileName).compact :=
    Payload.text_coe _
  have hinput : Json.decodeText ExportRequest.decoder (oneColumnJson fileName).compact =
      .ok { title := none, fileName := some fileName, result := oneColumnTable } := by
    rw [Json.decodeText, (isPlain_oneColumnJson fileName).readText]
    rfl
  have hsettle : oneColumnTable.settle 0 = .ok oneColumnTable := by cbv
  have hparts : Table.partsDecoder { origin := .value } oneColumnTable =
      .ok (some oneColumn.columns, some []) := by cbv
  have hmade : Table.ofParts .asWritten (some oneColumn.columns) (some []) = .ok oneColumn :=
    Table.ofParts_of_rowsOf rfl
  have htable : Json.decodeValue Table.decoder oneColumnTable = .ok oneColumn := by
    simp only [Json.decodeValue, hsettle, Table.decoder, Table.decoderIn, hparts, hmade]
  rw [Request.exportInput, htext, hinput]
  simp only [Except.mapError, bind, Except.bind, htable]
  rfl

/-- The document of such a request. -/
def oneColumnDocument (fileName : String) : Export.Document where
  format := .docx
  fileName := Export.Format.docx.fileName (some fileName) "now"
  content := .word (Export.WordDocument.ofTable oneColumn none)

theorem exported_oneColumnRequest (fileName : String) :
    exported emptyService "Word" "now" (oneColumnRequest fileName) =
      .ok (oneColumnDocument fileName) := by
  have hformat : Export.Format.parse "Word" = .ok .docx := by cbv
  rw [exported, hformat, exportInput_oneColumnRequest]
  rfl

/-- A name with a line break before it, and a double quote and a backslash in it, is trimmed and
    written with other characters for these two. -/
theorem export_answered_quoted :
    let request := oneColumnRequest "\n a\"\\b.DOCX "
    request.method = "POST" ∧ Route.ofPath? request.path = some (.export "%57ord") ∧
      decodeSegment? "%57ord" = some "Word" ∧
      ∃ response, answer emptyService "now" request { state := [] } = (response, { state := [] }) ∧
        IsProper response ∧ response.disposition = some "attachment; filename=\"a__b.DOCX\"" := by
  intro request
  obtain ⟨hmethod, hroute, hname⟩ := route_oneColumnRequest "\n a\"\\b.DOCX "
  have hmade : exported emptyService "Word" "now" request =
      .ok (oneColumnDocument "\n a\"\\b.DOCX ") := exported_oneColumnRequest _
  have hfile : (oneColumnDocument "\n a\"\\b.DOCX ").fileName = "a\"\\b.DOCX" := by cbv
  have hcontrol : ¬ HasControl "a\"\\b.DOCX" := (Response.all_isHeaderChar_iff _).mp (by decide)
  have hbody : request.body.bytes.size ≤ Payload.limit := by cbv
  obtain ⟨response, hanswer, hanswered, hproper, -, -⟩ :=
    export_answered emptyService hmethod hroute hname { state := [] }
  rw [hmade] at hanswered hproper
  refine ⟨hmethod, hroute, hname, response, hanswer, hproper.mpr ⟨hbody, fun _ h => ?_⟩, ?_⟩
  · cases h
    rwa [hfile]
  · cases hanswered with
    | tooLong hlong => exact absurd hbody (Nat.not_le_of_lt hlong)
    | delivered =>
      show some (Response.dispositionOf _) = _
      rw [Response.dispositionOf, hfile]
      cbv
    | lost _ hlost => exact absurd hlost (by rwa [hfile])

/-- There are two requests that are not answered so. The name of the first has a line break within,
    and its document is lost. The body of the second is one byte too long, and is not looked at. -/
theorem not_proper_when_broken :
    let broken := oneColumnRequest "a\nb"
    let long := { oneColumnRequest "a" with
      body := { bytes := ⟨Array.replicate (Payload.limit + 1) 32⟩ } }
    (exported emptyService "Word" "now" broken = .ok (oneColumnDocument "a\nb") ∧
      ¬ IsHeaderValue (Response.dispositionOf (oneColumnDocument "a\nb")) ∧
      ¬ IsProper (answer emptyService "now" broken { state := [] }).1) ∧
    ¬ IsProper (answer emptyService "now" long { state := [] }).1 := by
  intro broken long
  constructor
  · obtain ⟨hmethod, hroute, hname⟩ := route_oneColumnRequest "a\nb"
    have hmade := exported_oneColumnRequest "a\nb"
    have hcontrol : HasControl (oneColumnDocument "a\nb").fileName :=
      (hasControl_fileName _ _ _).mpr ⟨'\n', by decide, by decide⟩
    refine ⟨hmade, ?_, ?_⟩
    · rw [isHeaderValue_iff, Response.hasControl_dispositionOf, not_not]
      exact hcontrol
    · rw [isProper_answer_iff emptyService hmethod hroute hname]
      exact fun hgood => hgood.2 _ hmade hcontrol
  · obtain ⟨-, hpath, hname⟩ := route_oneColumnRequest "a"
    have hmethod : long.method = "POST" := rfl
    have hroute : Route.ofPath? long.path = some (.export "%57ord") := hpath
    have hlong : Payload.limit < long.body.bytes.size := by
      show Payload.limit < (Array.replicate (Payload.limit + 1) (32 : UInt8)).size
      rw [Array.size_replicate]
      exact Nat.lt_succ_self _
    rw [isProper_answer_iff emptyService hmethod hroute hname]
    exact fun hgood => Nat.not_le_of_lt hlong hgood.1

end Http

end ReportDesk
