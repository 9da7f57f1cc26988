import ReportDesk.Proofs.Database.Action
import ReportDesk.Proofs.Outcome
import ReportDesk.Service.Basic

/-! # Statements that reach a database

    Whatever a service is asked for, in whatever order, its database receives only statements that
    the guard let through. To say so without trusting the service's own record of calls, the
    database is watched: it keeps every statement it is given to run, whoever gives it.

    Watching is not noticed. A quiet action does the same on a watched database and leaves what was
    kept as it is; so do looking things up, validating and compiling. Running a statement adds it
    if the guard lets it through. Hence what a request adds can be said beforehand (`sent`), and
    what a history adds is that of its steps, one after another.
-/

namespace ReportDesk

variable {σ ε δ α β : Type}

/-! ### Watching a database -/

/-- A database that keeps the statements it is given to run, in order, and is otherwise `db`. -/
def Database.watched (db : Database σ) : Database (σ × List String) :=
  { db.onPart Prod.fst (fun after state => (after, state.2)) with
    run := fun sql millis state =>
      let (run, after) := db.run sql millis state.1
      (run, after, state.2 ++ [sql]) }

/-- A session whose database is watched and has kept some statements. -/
def Session.watch (session : Session σ) (kept : List String) : Session (σ × List String) where
  state := (session.state, kept)
  calls := session.calls

/-- The statements that a watched database has kept. -/
def Session.kept (session : Session (σ × List String)) : List String :=
  session.state.2

@[simp]
theorem Session.kept_watch (session : Session σ) (kept : List String) :
    (session.watch kept).kept = kept :=
  rfl

/-- An action on a watched database that does what another does on the database itself, and gives
    it no statement. -/
def Quiet (watched : Action (σ × List String) ε α) (plain : Action σ ε α) : Prop :=
  ∀ session kept,
    watched (session.watch kept) = ((plain session).1, (plain session).2.watch kept)

namespace Quiet

theorem pure (a : α) : Quiet (σ := σ) (pure a : Action _ ε α) (pure a) :=
  fun _ _ => rfl

theorem throw (e : ε) : Quiet (σ := σ) (throw e : Action _ ε α) (throw e) :=
  fun _ _ => rfl

theorem liftExcept (outcome : Except ε α) :
    Quiet (σ := σ) (liftM outcome : Action _ ε α) (liftM outcome) := by
  intro session kept
  rw [Action.liftExcept_apply, Action.liftExcept_apply]

theorem adapt (wrap : δ → ε) {watched : Action (σ × List String) δ α} {plain : Action σ δ α}
    (h : Quiet watched plain) : Quiet (watched.adapt wrap) (plain.adapt wrap) := by
  intro session kept
  rw [Action.adapt_apply, Action.adapt_apply, h session kept]

theorem map {f : α → β} {watched : Action (σ × List String) ε α} {plain : Action σ ε α}
    (h : Quiet watched plain) : Quiet (f <$> watched) (f <$> plain) := by
  intro session kept
  rw [Action.map_apply, Action.map_apply, h session kept]

/-- Two quiet actions are quiet one after the other, whether or not the first one fails. -/
theorem bind {watched : Action (σ × List String) ε α} {plain : Action σ ε α}
    {watchedNext : α → Action (σ × List String) ε β} {plainNext : α → Action σ ε β}
    (hfirst : Quiet watched plain) (hnext : ∀ a, Quiet (watchedNext a) (plainNext a)) :
    Quiet (watched >>= watchedNext) (plain >>= plainNext) := by
  intro session kept
  rw [Action.bind_apply, Action.bind_apply, hfirst session kept]
  rcases plain session with ⟨outcome, after⟩
  cases outcome with
  | error e => rfl
  | ok a => exact hnext a after kept

end Quiet

/-! ### Quiet parts of the service -/

variable (db : Database σ)

theorem quiet_tables : Quiet db.watched.tables db.tables :=
  fun _ _ => rfl

theorem quiet_columnsOf (names : List String) :
    Quiet (liftM (db.watched.columnsOf names) : Action (σ × List String) ε _)
      (liftM (db.columnsOf names)) :=
  fun _ _ => rfl

theorem quiet_columns (name : String) : Quiet (db.watched.columns name) (db.columns name) := by
  intro session kept
  have h : db.watched.columnsOf [name] (session.watch kept) =
      ((db.columnsOf [name] session).1, (db.columnsOf [name] session).2.watch kept) := rfl
  unfold Database.columns
  rw [h]
  rcases db.columnsOf [name] session with ⟨answers, after⟩
  cases answers <;> rfl

theorem quiet_validate (config : Report.Configuration) :
    Quiet (config.validate db.watched) (config.validate db) := by
  unfold Report.Configuration.validate
  dsimp only
  split
  · exact Quiet.pure ()
  · refine ((quiet_tables db).adapt _).bind fun catalog => ?_
    refine (Quiet.liftExcept _).bind fun entries => ?_
    refine (quiet_columnsOf db entries).bind fun answers => ?_
    exact (Quiet.liftExcept _).bind fun index => Quiet.liftExcept _

namespace Service

/-- A service whose database is watched. -/
def watched (service : Service σ) : Service (σ × List String) where
  db := service.db.watched
  settings := service.settings
  parse := service.parse

variable (service : Service σ)

theorem quiet_generateSql (config : Report.Configuration) :
    Quiet (service.watched.generateSql config) (service.generateSql config) := by
  have hdialect : service.watched.db.dialect = service.db.dialect := rfl
  have hsettings : service.watched.settings = service.settings := rfl
  have hvalidate := (quiet_validate service.db config).adapt ServiceError.validation
  unfold generateSql
  dsimp only
  rw [hsettings, hdialect]
  cases config.statement service.db.dialect service.settings.execution.strictNumericLiterals with
  | ok sql =>
    split
    · exact hvalidate.bind fun _ => Quiet.pure sql
    · exact Quiet.pure sql
  | error error =>
    split
    · exact hvalidate.bind fun _ => Quiet.throw _
    · exact Quiet.throw _

end Service

/-! ### The guard -/

namespace Guard

/-- What a run comes to. -/
def outcome (limits : Limits) : Run → Except Failure Table
  | .inTime (.ok table) => .ok table
  | .inTime (.error error) => .error (Failure.ofDatabase error)
  | .late _ => .error (.timeout (limits.millis / 1000))

theorem execute_apply (limits : Limits) (sql : String) (session : Session σ) :
    execute db limits sql session =
      match checkBy limits.parse sql limits.mode with
      | .error reason => (.error (.rejected reason), session)
      | .ok () =>
        (outcome limits (db.execute sql limits.millis session).1,
          (db.execute sql limits.millis session).2) := by
  unfold execute
  cases checkBy limits.parse sql limits.mode with
  | error reason => rfl
  | ok _ =>
    simp only [Action.bind_apply, Action.liftState_apply]
    rcases (db.execute sql limits.millis session) with ⟨run, after⟩
    cases run with
    | late outcome => rfl
    | inTime outcome => cases outcome <;> rfl

/-- A run never comes to a rejection. -/
theorem outcome_ne_rejected (limits : Limits) (run : Run) (reason : Rejection) :
    outcome limits run ≠ .error (.rejected reason) := by
  cases run with
  | late later => simp [outcome]
  | inTime ran =>
    cases ran with
    | ok table => simp [outcome]
    | error error => cases error <;> simp [outcome, Failure.ofDatabase]

end Guard

/-- Whether an error is from before a statement is run: the report was not made, or its statement
    was rejected. -/
def ServiceError.isEarly : ServiceError → Bool
  | .validation _ | .compile _ | .guard (.rejected _) => true
  | _ => false

namespace Service

variable (service : Service σ)

/-- The guard of the service, in the mode that the settings say. -/
def check (sql : String) : Except Guard.Rejection Unit :=
  Guard.checkBy service.parse sql service.settings.execution.guard

theorem checkBy_limits (sql : String) :
    Guard.checkBy service.limits.parse sql service.limits.mode = service.check sql :=
  rfl

/-- The statement itself if the guard lets it through, else nothing. -/
def admitted (sql : String) : List String :=
  match service.check sql with
  | .ok () => [sql]
  | .error _ => []

theorem mem_admitted {sql text : String} (h : text ∈ service.admitted sql) :
    text = sql ∧ service.check text = .ok () := by
  unfold admitted at h
  split at h
  · next hcheck =>
    obtain rfl : text = sql := by simpa using h
    exact ⟨rfl, hcheck⟩
  · simp at h

theorem length_admitted (sql : String) : (service.admitted sql).length ≤ 1 := by
  unfold admitted
  split <;> simp

/-- Running a statement gives it to the database once if the guard lets it through. -/
theorem execute_watched (sql : String) (session : Session σ) (kept : List String) :
    service.watched.execute sql (session.watch kept) =
      ((service.execute sql session).1,
        (service.execute sql session).2.watch (kept ++ service.admitted sql)) := by
  have hlimits : service.watched.limits = service.limits := rfl
  unfold execute
  rw [Action.adapt_apply, Action.adapt_apply, Guard.execute_apply, Guard.execute_apply, hlimits,
    checkBy_limits]
  unfold admitted
  cases service.check sql with
  | error reason => simp
  | ok _ => rfl

/-- A statement that fails early was not let through. -/
theorem admitted_of_early {sql : String} {session : Session σ} {error : ServiceError}
    (h : (service.execute sql session).1 = .error error) (hearly : error.isEarly = true) :
    service.admitted sql = [] := by
  unfold execute at h
  rw [Action.adapt_apply, Guard.execute_apply, checkBy_limits] at h
  unfold admitted
  cases hcheck : service.check sql with
  | error reason => rfl
  | ok _ =>
    rw [hcheck] at h
    cases hrun : Guard.outcome service.limits
        (service.db.execute sql service.limits.millis session).1 with
    | ok table => simp [hrun, Except.mapError] at h
    | error failure =>
      obtain rfl : ServiceError.guard failure = error := by simpa [hrun, Except.mapError] using h
      cases failure with
      | rejected reason => exact absurd hrun (Guard.outcome_ne_rejected _ _ _)
      | execution error => cases hearly
      | timeout secs => cases hearly

/-! ### Requests -/

/-- What a service can be asked for. -/
inductive Request where
  | listTables
  | listColumns (table : String)
  /-- The statement of a report. -/
  | generateSql (config : Report.Configuration)
  /-- The rows of a statement. -/
  | execute (sql : String)
  /-- The rows of a report. -/
  | runReport (config : Report.Configuration)
  /-- A table as a document. -/
  | «export» (format : Export.Format) (title fileName : Option String) (table : Table)
      (stamp : String)

/-- What a service answers. -/
inductive Reply where
  | tables (names : List String)
  | columns (columns : List Column)
  | statement (sql : String)
  | rows (table : Table)
  | report (run : ReportRun)
  | document (document : Export.Document)

/-- Does what is asked for. -/
def perform : Request → Action σ ServiceError Reply
  | .listTables => .tables <$> service.listTables
  | .listColumns table => .columns <$> service.listColumns table
  | .generateSql config => .statement <$> service.generateSql config
  | .execute sql => .rows <$> service.execute sql
  | .runReport config => .report <$> service.runReport config
  | .export format title fileName table stamp =>
    .document <$> liftM (service.export format title fileName table stamp)

/-- The statement that a request asks to be run: its own text, or what its report compiles to in
    the session as it is. -/
def asked (session : Session σ) : Request → Option String
  | .execute sql => some sql
  | .runReport config => (service.generateSql config session).1.toOption
  | _ => none

/-- What a request gives to the database. -/
def sent (session : Session σ) (request : Request) : List String :=
  match service.asked session request with
  | some sql => service.admitted sql
  | none => []

/-- A report is run by compiling it and then running its statement. -/
theorem runReport_apply (config : Report.Configuration) (session : Session σ) :
    service.runReport config session =
      match service.generateSql config session with
      | (.ok sql, after) =>
        ((service.execute sql after).1.map fun result => ⟨sql, result⟩,
          (service.execute sql after).2)
      | (.error error, after) => (.error error, after) := by
  have hrows : ∀ sql, (do
      let result ← service.execute sql
      return { sql := sql, result := result } : Action σ ServiceError ReportRun) =
      (fun result => ⟨sql, result⟩) <$> service.execute sql := by
    intro sql
    rw [map_eq_pure_bind]
  unfold runReport
  simp only [hrows, Action.bind_apply, Action.map_apply]
  rcases service.generateSql config session with ⟨outcome, after⟩
  cases outcome <;> rfl

/-- A watched service answers as the service does, and its database is given what the request is
    said to give it. -/
theorem perform_watched (request : Request) (session : Session σ) (kept : List String) :
    service.watched.perform request (session.watch kept) =
      ((service.perform request session).1,
        (service.perform request session).2.watch (kept ++ service.sent session request)) := by
  have hquiet : ∀ request, service.asked session request = none →
      Quiet (service.watched.perform request) (service.perform request) →
      service.watched.perform request (session.watch kept) =
        ((service.perform request session).1,
          (service.perform request session).2.watch (kept ++ service.sent session request)) := by
    intro request hasked hquiet
    simp [hquiet session kept, sent, hasked]
  cases request with
  | listTables => exact hquiet _ rfl ((quiet_tables service.db).adapt _).map
  | listColumns table => exact hquiet _ rfl ((quiet_columns service.db table).adapt _).map
  | generateSql config => exact hquiet _ rfl (service.quiet_generateSql config).map
  | «export» format title fileName table stamp => exact hquiet _ rfl (Quiet.liftExcept _).map
  | execute sql =>
    have hexecute := service.execute_watched sql session kept
    simp only [perform, Action.map_apply, hexecute]
    rfl
  | runReport config =>
    have hgenerate := service.quiet_generateSql config session kept
    simp only [perform, Action.map_apply, runReport_apply, hgenerate, sent, asked]
    rcases service.generateSql config session with ⟨outcome, compiled⟩
    cases outcome with
    | error error => simp [Except.toOption]
    | ok sql => simp [Except.toOption, service.execute_watched sql compiled kept]

theorem length_sent (session : Session σ) (request : Request) :
    (service.sent session request).length ≤ 1 := by
  unfold sent
  split
  · exact service.length_admitted _
  · simp

/-- What is sent was asked for, and is let through by the guard. -/
theorem mem_sent {session : Session σ} {request : Request} {sql : String}
    (h : sql ∈ service.sent session request) :
    service.asked session request = some sql ∧
      service.check sql = .ok () := by
  unfold sent at h
  split at h
  · next text hasked =>
    obtain ⟨rfl, hcheck⟩ := service.mem_admitted h
    exact ⟨hasked, hcheck⟩
  · simp at h

theorem asked_eq_some {session : Session σ} {request : Request} {sql : String}
    (h : service.asked session request = some sql) :
    request = .execute sql ∨
      ∃ config, request = .runReport config ∧ (service.generateSql config session).1 = .ok sql := by
  cases request with
  | execute text =>
    cases h
    exact .inl rfl
  | runReport config =>
    refine .inr ⟨config, rfl, ?_⟩
    simp only [asked] at h
    cases houtcome : (service.generateSql config session).1 with
    | error error => simp [houtcome, Except.toOption] at h
    | ok text => simpa [houtcome, Except.toOption] using h
  | _ => cases h

/-- A request that fails early sends nothing. -/
theorem sent_of_early {session : Session σ} {request : Request} {error : ServiceError}
    (h : (service.perform request session).1 = .error error) (hearly : error.isEarly = true) :
    service.sent session request = [] := by
  cases request with
  | execute sql =>
    simp only [perform, Action.map_apply] at h
    exact service.admitted_of_early (Outcome.map_eq_error h) hearly
  | runReport config =>
    simp only [perform, Action.map_apply, runReport_apply] at h
    have herror := Outcome.map_eq_error h
    simp only [sent, asked]
    rcases hgenerate : service.generateSql config session with ⟨outcome, compiled⟩
    -- an error of the compilation leaves nothing to send; any other is one of the execution
    rw [hgenerate] at herror
    cases outcome with
    | error failure => rfl
    | ok sql => exact service.admitted_of_early (Outcome.map_eq_error herror) hearly
  | _ => rfl

/-! ### Histories -/

/-- A request that was dealt with. -/
structure Step (σ : Type) where
  /-- What was asked for. -/
  request : Request
  /-- The session as it was. -/
  before : Session σ
  /-- The answer, or why there is none. -/
  outcome : Except ServiceError Reply
  /-- The session as it was left. -/
  after : Session σ

/-- The step of a request. -/
def step (request : Request) (session : Session σ) : Step σ where
  request := request
  before := session
  outcome := (service.perform request session).1
  after := (service.perform request session).2

/-- The steps of several requests, one after another. -/
def history : List Request → Session σ → List (Step σ)
  | [], _ => []
  | request :: rest, session =>
    service.step request session :: history rest (service.step request session).after

/-- The session after several requests. -/
def afterAll (requests : List Request) (session : Session σ) : Session σ :=
  requests.foldl (fun session request => (service.step request session).after) session

/-- What the database was given in a step. -/
def Step.received (step : Step (σ × List String)) : List String :=
  step.after.kept.drop step.before.kept.length

/-- What the database was given in a step is what it may be given. -/
structure Step.IsGuarded (service : Service (σ × List String)) (step : Step (σ × List String)) :
    Prop where
  /-- Nothing that the database was given before is lost. -/
  grows : step.after.kept = step.before.kept ++ step.received
  /-- There is at most one statement. -/
  once : step.received.length ≤ 1
  /-- The guard has let it through. -/
  checked : ∀ sql ∈ step.received, service.check sql = .ok ()
  /-- It is the text in the request, or the one that the report of the request compiles to. -/
  asked : ∀ sql ∈ step.received, step.request = .execute sql ∨
    ∃ config, step.request = .runReport config ∧
      (service.generateSql config step.before).1 = .ok sql
  /-- There is none unless something is asked to be run. -/
  silent : (∀ sql, step.request ≠ .execute sql) → (∀ config, step.request ≠ .runReport config) →
    step.received = []
  /-- There is none if the step fails before it is run. -/
  early : ∀ error, step.outcome = .error error → error.isEarly = true → step.received = []

/-- What the database was given in a step is what the request sends. -/
theorem received_step (request : Request) (session : Session σ) (kept : List String) :
    (service.watched.step request (session.watch kept)).received =
      service.sent session request := by
  simp [Step.received, step, service.perform_watched request session kept]

/-- Every step is guarded. -/
theorem isGuarded_step (request : Request) (session : Session (σ × List String)) :
    (service.watched.step request session).IsGuarded service.watched := by
  obtain ⟨plain, kept, rfl⟩ : ∃ (plain : Session σ) (kept : List String),
      session = plain.watch kept := ⟨⟨session.state.1, session.calls⟩, session.state.2, rfl⟩
  have hperform := service.perform_watched request plain kept
  have hsource : ∀ sql ∈ service.sent plain request, request = .execute sql ∨
      ∃ config, request = .runReport config ∧
        (service.watched.generateSql config (plain.watch kept)).1 = .ok sql := by
    intro sql hsql
    rcases service.asked_eq_some (service.mem_sent hsql).1 with hrequest | ⟨config, hrequest, hok⟩
    · exact .inl hrequest
    · exact .inr ⟨config, hrequest, by rw [service.quiet_generateSql config plain kept, hok]⟩
  -- in every field, what was received is what the request sends
  refine ⟨?_, ?_, ?_, ?_, ?_, ?_⟩ <;> rw [service.received_step request plain kept]
  · simp [step, hperform]
  · exact service.length_sent plain request
  · intro sql hsql
    exact (service.mem_sent hsql).2
  · exact hsource
  · intro hexecute hreport
    refine List.eq_nil_iff_forall_not_mem.mpr fun sql hsql => ?_
    rcases hsource sql hsql with hrequest | ⟨config, hrequest, -⟩
    · exact hexecute sql hrequest
    · exact hreport config hrequest
  · intro error herror hearly
    exact service.sent_of_early (by simpa [step, hperform] using herror) hearly

/-- Every step of a history is guarded. -/
theorem isGuarded_of_mem_history (requests : List Request) (session : Session (σ × List String)) :
    ∀ step ∈ service.watched.history requests session, step.IsGuarded service.watched := by
  induction requests generalizing session with
  | nil => simp [history]
  | cons request rest ih =>
    intro step hstep
    rcases List.mem_cons.mp hstep with rfl | hstep
    · exact service.isGuarded_step request session
    · exact ih _ step hstep

/-- All that the database was given is what it was given in the steps of a history. -/
theorem kept_afterAll (requests : List Request) (session : Session (σ × List String)) :
    (service.watched.afterAll requests session).kept =
      session.kept ++ (service.watched.history requests session).flatMap Step.received := by
  induction requests generalizing session with
  | nil => simp [afterAll, history]
  | cons request rest ih =>
    have hstep := (service.isGuarded_step request session).grows
    have hrest := ih (service.watched.step request session).after
    simp only [afterAll, List.foldl_cons] at hrest ⊢
    rw [hrest, hstep, history, List.flatMap_cons, List.append_assoc]
    rfl

/-- Only guarded statements reach a database. Whatever is asked for, in whatever order, of a
    service whose database is fresh: all that the database is given it is given in the steps, and
    each step is guarded. -/
theorem guarded_history (requests : List Request) (state : σ) :
    (service.watched.afterAll requests { state := (state, []) }).kept =
        (service.watched.history requests { state := (state, []) }).flatMap Step.received ∧
      ∀ step ∈ service.watched.history requests { state := (state, []) },
        step.IsGuarded service.watched := by
  constructor
  · have htotal := service.kept_afterAll requests { state := (state, []) }
    simpa [Session.kept] using htotal
  · exact service.isGuarded_of_mem_history requests { state := (state, []) }

end Service

end ReportDesk
