import ReportDesk.Proofs.Json.Reading
import ReportDesk.Proofs.Text.Trimming
import ReportDesk.Worker.Database

/-! # Looking up listed tables

    A table that the worker lists is published under one text, and that text is split again when
    its columns are asked for. The two fit together for a table with a name of its own in a schema
    without dots, and for no other: a table without a schema is looked for in the default one, and
    a schema with a dot is split at it.
-/

namespace ReportDesk.Worker

variable {τ : Type}

/-! ### What a process is asked -/

/-- The question that a request puts. -/
def Request.question (request : Request) : Question where
  method := request.method
  params := request.params

/-- A process that also keeps what it was asked, in order. -/
def Process.watched (process : Process τ) : Process (τ × List Question) where
  react request state :=
    let (reaction, next) := process.react request state.1
    (reaction, next, state.2 ++ [request.question])

namespace Link

/-- What the process of a link was asked. -/
def asked (link : Link (τ × List Question)) : List Question :=
  link.process.2

/-- The link without what its process was asked. -/
def unwatched (link : Link (τ × List Question)) : Link τ where
  client := link.client
  process := link.process.1
  alive := link.alive

theorem unwatched_send (link : Link (τ × List Question)) (request : Request) :
    (link.send request).unwatched = link.unwatched.send request := by
  obtain ⟨client, process, alive⟩ := link
  cases alive <;> rfl

theorem unwatched_react (process : Process τ) (link : Link (τ × List Question))
    (request : Request) :
    (link.react process.watched request).unwatched = link.unwatched.react process request := by
  obtain ⟨client, state, alive⟩ := link
  cases alive
  · rfl
  · by_cases hexits : (process.react request state.1).1.exits = true <;>
      simp [react, unwatched, Process.watched, hexits]

/-- Watching is not noticed: the replies are the same, and so is the link that remains. -/
theorem unwatched_ask (process : Process τ) (link : Link (τ × List Question))
    (questions : List Question) :
    ((link.ask process.watched questions).1, (link.ask process.watched questions).2.unwatched) =
      link.unwatched.ask process questions := by
  have hfold : ∀ {f : Link (τ × List Question) → Request → Link (τ × List Question)}
      {g : Link τ → Request → Link τ},
      (∀ link request, (f link request).unwatched = g link.unwatched request) →
      ∀ (requests : List Request) link,
        requests.foldl g link.unwatched = (requests.foldl f link).unwatched :=
    fun h _ _ => List.foldl_hom unwatched fun link request => (h link request).symm
  simp only [ask, show link.unwatched.client = link.client from rfl, hfold unwatched_send,
    hfold (unwatched_react process), hfold (f := settle) (g := settle) fun _ _ => rfl]
  rfl

theorem process_send (link : Link τ) (request : Request) :
    (link.send request).process = link.process := by
  unfold send
  split <;> rfl

theorem alive_send (link : Link τ) (request : Request) :
    (link.send request).alive = link.alive := by
  unfold send
  split <;> rfl

theorem asked_react (process : Process τ) {link : Link (τ × List Question)}
    (halive : link.alive = true) (request : Request) :
    (link.react process.watched request).asked = link.asked ++ [request.question] := by
  unfold react
  rw [if_pos halive]
  dsimp only
  split <;> rfl

/-- A process that is alive is asked just what is asked of the link. -/
theorem asked_ask (process : Process τ) {link : Link (τ × List Question)}
    (halive : link.alive = true) (question : Question) :
    (link.ask process.watched [question]).2.asked = link.asked ++ [question] := by
  have hsend : (link.send
      { id := requestId link.client.tickets.length, method := question.method
        params := question.params }).alive = true := by
    rw [alive_send, halive]
  have hreact := asked_react process hsend
    { id := requestId link.client.tickets.length, method := question.method
      params := question.params }
  simp only [asked, process_send] at hreact
  exact hreact

end Link

/-! ### Splitting a name -/

/-- The schema and the table that are asked for under a name. -/
inductive LooksIn (name : String) : String → String → Prop where
  /-- What stands before and after the first dot, if neither is empty. -/
  | parts {schema table : String} (hname : name = schema ++ "." ++ table)
      (hdot : '.' ∉ schema.toList) (hschema : schema ≠ "") (htable : table ≠ "") :
      LooksIn name schema table
  /-- Else the name as it is, in the default schema. -/
  | whole (hwhole : ∀ schema table : String, name = schema ++ "." ++ table →
      '.' ∉ schema.toList → schema = "" ∨ table = "") :
      LooksIn name defaultSchema name

theorem cutAt_dotted {schema : String} (hdot : '.' ∉ schema.toList) (table : String) :
    Text.cutAt '.' (schema ++ "." ++ table).toList = some (schema.toList, table.toList) :=
  Text.cutAt_eq_some_iff.mpr ⟨by simp, hdot⟩

/-- A name with a schema and a table is looked up in these and nowhere else. -/
theorem LooksIn.eq_parts {name schema table schema' table' : String}
    (hname : name = schema ++ "." ++ table) (hdot : '.' ∉ schema.toList) (hschema : schema ≠ "")
    (htable : table ≠ "") (h : LooksIn name schema' table') :
    schema' = schema ∧ table' = table := by
  cases h with
  | parts hname' hdot' =>
    have hcut := cutAt_dotted hdot' table'
    rw [← hname', hname, cutAt_dotted hdot table] at hcut
    simpa [String.toList_inj, eq_comm] using hcut
  | whole hwhole =>
    rcases hwhole schema table hname hdot with hempty | hempty
    · exact absurd hempty hschema
    · exact absurd hempty htable

/-- A name is looked up in one way. -/
theorem LooksIn.unique {name schema table schema' table' : String} (h : LooksIn name schema table)
    (h' : LooksIn name schema' table') : schema = schema' ∧ table = table' := by
  cases h' with
  | parts hname hdot hschema htable => exact LooksIn.eq_parts hname hdot hschema htable h
  | whole hwhole =>
    cases h with
    | parts hname hdot hschema htable =>
      obtain ⟨hdefault, hname⟩ := LooksIn.eq_parts hname hdot hschema htable (.whole hwhole)
      exact ⟨hdefault.symm, hname.symm⟩
    | whole => exact ⟨rfl, rfl⟩

theorem looksIn_parse (name : String) :
    LooksIn name ((Sql.TableName.parse name).schema.getD defaultSchema)
      (Sql.TableName.parse name).table := by
  unfold Sql.TableName.parse
  split
  · next c schema d table hcut =>
    obtain ⟨hsplit, hdot⟩ := Text.cutAt_eq_some_iff.mp hcut
    refine .parts ?_ (by simpa using hdot) (by simp) (by simp)
    rw [← String.toList_inj, hsplit]
    simp
  · next hcut =>
    refine .whole fun schema table hname hdot => ?_
    by_contra hboth
    rw [not_or] at hboth
    have hschema : schema.toList ≠ [] := by simpa using hboth.1
    have htable : table.toList ≠ [] := by simpa using hboth.2
    obtain ⟨c, cs, hcs⟩ := List.exists_cons_of_ne_nil hschema
    obtain ⟨d, ds, hds⟩ := List.exists_cons_of_ne_nil htable
    have hsplit := cutAt_dotted hdot table
    rw [← hname, hcs, hds] at hsplit
    exact hcut _ _ _ _ hsplit

/-! ### Listed tables -/

namespace TableEntry

theorem published_of_schema_ne {entry : TableEntry} (h : entry.schema ≠ "") :
    entry.published = entry.schema ++ "." ++ entry.name := by
  simp [published, h]

/-- Whether a listed table has a name of its own, in a schema without dots. -/
structure IsQualified (entry : TableEntry) : Prop where
  /-- It has a schema. -/
  schema_ne : entry.schema ≠ ""
  /-- Its schema has no dot. -/
  dot_not_mem : '.' ∉ entry.schema.toList
  /-- It has a name. -/
  name_ne : entry.name ≠ ""

theorem looksIn_published_iff {entry : TableEntry} :
    LooksIn entry.published entry.schema entry.name ↔ entry.IsQualified := by
  constructor
  · obtain ⟨schema, name⟩ := entry
    intro h
    generalize hpublished : published _ = text at h
    cases h with
    | parts _ hdot hschema htable => exact ⟨hschema, hdot, htable⟩
    | whole =>
      -- the text would stand behind a schema and a dot of its own
      rw [published_of_schema_ne (show defaultSchema ≠ "" by decide)] at hpublished
      have hlength := congrArg String.length hpublished
      simp only [String.length_append] at hlength
      have hdot : ".".length = 1 := rfl
      omega
  · rintro ⟨hschema, hdot, hname⟩
    exact .parts (published_of_schema_ne hschema) hdot hschema hname

end TableEntry

/-! ### Questions for columns -/

/-- The question for the columns of a table in a schema. -/
def Target.columnsQuestion (target : Target) (schema table : String) : Question where
  method := .getColumns
  params := target.params [("schema", .string schema), ("table", .string table)]

theorem Target.columnsQuestion_inj {target : Target} {schema table schema' table' : String} :
    target.columnsQuestion schema table = target.columnsQuestion schema' table' ↔
      schema = schema' ∧ table = table' := by
  simp [columnsQuestion, params]

/-- Asking for the columns of a table is one question, about the schema and the table that its name
    is looked up in. -/
theorem asked_listColumns (process : Process τ) (target : Target)
    {link : Link (τ × List Question)} (halive : link.alive = true) (name : String) :
    ∃ schema table, LooksIn name schema table ∧
      ((database process.watched target).listColumns [name] link).2.asked =
        link.asked ++ [target.columnsQuestion schema table] :=
  ⟨_, _, looksIn_parse name, Link.asked_ask process halive _⟩

/-- A worker that answers with a list of tables has their texts published, in its order. Asking for
    the columns of one of them by its text, the worker is asked one question more; and it is asked
    about the table's own schema and name just when the table has a name, in a schema without dots.
    Of any other table the text is looked up as it would be if somebody had written it: what stands
    before and after its first dot, or all of it in the default schema. -/
theorem columns_asked_of_listed (process : Process τ) (target : Target)
    {link after : Link (τ × List Question)} {reply : Reply} {entries : List TableEntry}
    (hreply : link.ask process.watched [target.question .listTables] = ([reply], after))
    (hlisted : reply.outcome tablesDecoder target.patience = .ok entries)
    (halive : after.alive = true) :
    (database process.watched target).listTables link =
      (.ok (entries.map TableEntry.published), after) ∧
    ∀ entry ∈ entries,
      let asked := ((database process.watched target).listColumns [entry.published] after).2.asked
      (asked = after.asked ++ [target.columnsQuestion entry.schema entry.name] ↔
        entry.IsQualified) ∧
      ∃ schema table, LooksIn entry.published schema table ∧
        asked = after.asked ++ [target.columnsQuestion schema table] := by
  refine ⟨?_, fun entry _ => ?_⟩
  · simp only [database, hreply, Target.tablesIn, hlisted]
  · obtain ⟨schema, table, hlooks, hasked⟩ :=
      asked_listColumns process target halive entry.published
    refine ⟨?_, schema, table, hlooks, hasked⟩
    rw [hasked, List.append_cancel_left_eq, List.singleton_inj, Target.columnsQuestion_inj,
      ← TableEntry.looksIn_published_iff]
    constructor
    · rintro ⟨rfl, rfl⟩
      exact hlooks
    · exact fun h => hlooks.unique h

/-! ### A worker with two tables -/

/-- A table with a dot in its name, and a table without a schema. -/
def mixed : List TableEntry :=
  [{ schema := "hr", name := "a.b" }, { schema := "", name := "T" }]

/-- Tables as a result of the worker. -/
def listing (entries : List TableEntry) : Json :=
  .object
    [("tables", .array (entries.map fun entry =>
      .object [("name", .string entry.name), ("schema", .string entry.schema)]))]

/-- A response with tables. -/
def listed (entries : List TableEntry) (id : String) : Json :=
  .object [("id", .string id), ("success", .bool true), ("result", listing entries)]

/-- A process that answers every request with tables. -/
def lister (entries : List TableEntry) : Process Unit where
  react request state := ({ lines := [(listed entries request.id).compact] }, state)

/-- A target with the default patience. -/
def nearby : Target :=
  { driver := "mssql", connectionString := "server=.", patience := 30000 }

/-- The link of a new client. -/
def fresh : Link (Unit × List Question) :=
  { process := ((), []) }

/-- The reply of a new client's worker with two tables. -/
def mixedReply : Reply :=
  .response { id := requestId 0, success := true, result := some (listing mixed) }

theorem isPlain_listed (entries : List TableEntry) (id : String) :
    Json.IsPlain 4 (listed entries id) := by
  refine .object ?_
  simp only [List.forall_mem_cons]
  refine ⟨.string id, .bool true, .object ?_, by simp⟩
  simp only [List.forall_mem_cons]
  refine ⟨.array_map (fun entry => .object ?_) _, by simp⟩
  simp only [List.forall_mem_cons]
  exact ⟨.string _, .string _, by simp⟩

theorem ofLine?_mixed (id : String) : Response.ofLine? (listed mixed id).compact =
    some { id := id, success := true, result := some (listing mixed) } := by
  rw [Response.ofLine?, Json.decodeText, (isPlain_listed mixed id).readText]
  rfl

theorem fromUTF8?_toUTF8 (text : String) : String.fromUTF8? text.toUTF8 = some text :=
  dif_pos text.isValidUTF8

/-- A new client asks the process and has its answer. -/
theorem ask_mixed (target : Target) : ∃ after,
    fresh.ask (lister mixed).watched [target.question .listTables] = ([mixedReply], after) ∧
      after.alive = true := by
  have hread : ∀ client : Client, client.reader = .reading →
      client.run [.line (listed mixed (requestId 0)).compact.toUTF8] =
        client.deliver
          { id := requestId 0, success := true, result := some (listing mixed) } := by
    intro client hreader
    show (if client.reader = .reading then client.read _ else client) = _
    rw [if_pos hreader, Client.read, fromUTF8?_toUTF8]
    simp only [ofLine?_mixed]
  simp only [fresh, Link.ask, requestsOf, List.foldl_cons, List.foldl_nil, Link.react, Link.send,
    if_true, Process.watched, lister, List.length_nil, Target.question, List.map_cons,
    List.map_nil]
  rw [hread _ rfl]
  refine ⟨_, Prod.ext ?_ rfl, rfl⟩
  simp [Link.settle, Link.reply, Client.run, Client.step, Client.update, Client.deliver]
  rfl

/-- A table with a dot in its name is found again. -/
theorem columns_asked_of_listed_mixed : ∃ after : Link (Unit × List Question),
    fresh.ask (lister mixed).watched [nearby.question .listTables] = ([mixedReply], after) ∧
    mixedReply.outcome tablesDecoder nearby.patience = .ok mixed ∧
    after.alive = true ∧
    (database (lister mixed).watched nearby).listTables fresh = (.ok ["hr.a.b", "T"], after) ∧
    ((database (lister mixed).watched nearby).listColumns ["hr.a.b"] after).2.asked =
      after.asked ++ [nearby.columnsQuestion "hr" "a.b"] := by
  obtain ⟨after, hreply, halive⟩ := ask_mixed nearby
  have hlisted : mixedReply.outcome tablesDecoder nearby.patience = .ok mixed := rfl
  obtain ⟨hnames, hcolumns⟩ := columns_asked_of_listed _ nearby hreply hlisted halive
  refine ⟨after, hreply, hlisted, halive, hnames, ?_⟩
  have hfirst := hcolumns { schema := "hr", name := "a.b" } (by simp [mixed])
  exact hfirst.1.mpr ⟨by decide, by decide, by decide⟩

/-- A table without a schema is not looked for where it is. -/
theorem not_asked_without_schema : ¬ ∀ (entries : List TableEntry) (target : Target)
    (link : Link (Unit × List Question)), link.alive = true → ∀ entry ∈ entries,
      ((database (lister entries).watched target).listColumns [entry.published] link).2.asked =
        link.asked ++ [target.columnsQuestion entry.schema entry.name] := by
  intro hclaim
  have hasked := hclaim mixed nearby fresh rfl { schema := "", name := "T" } (by simp [mixed])
  have halive : fresh.alive = true := rfl
  have hreally := Link.asked_ask (lister mixed) halive (nearby.question (.listColumns "T"))
  have hquestion : nearby.question (.listColumns "T") = nearby.columnsQuestion "dbo" "T" := rfl
  have hsame := hreally.symm.trans hasked
  rw [List.append_cancel_left_eq, List.singleton_inj, hquestion, Target.columnsQuestion_inj]
    at hsame
  exact absurd hsame.1 (by decide)

end ReportDesk.Worker
