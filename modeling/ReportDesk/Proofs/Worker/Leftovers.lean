import ReportDesk.Proofs.Worker.Matching

/-! # Ids that stay, and requests that wait for nothing

    Two things are not tidied up. A request whose line cannot be written, and one that is abandoned,
    leave their id among those that are awaited. It stays until a response with this id is read or
    the reader stops; and if the reader is over, it stays for good.

    And a request that is registered when the reader is over is told nothing. If its line is written
    it waits until its time is over, since no response is handed on any more. All requests that were
    there when the reader stopped have an answer.
-/

namespace ReportDesk.Worker.Client

variable {client : Client} {id : String} {ticket : Ticket} {event : Event} {response : Response}

/-! ### After the reader -/

/-- A reader that is over stays so, and only by telling those who wait does one come to this. -/
theorem reader_step_eq_ended_iff :
    (client.step event).reader = .ended ↔
      client.reader = .ended ∨ (event = .drain ∧ client.reader = .stopping) := by
  cases event with
  | register other =>
    simp only [step]
    split <;> simp
  | line bytes =>
    simp only [step, read, deliver]
    split
    · next hreading =>
      split
      · simp [hreading]
      · split
        · split <;> simp [update, forget]
        · simp
    · simp
  | linesEnd =>
    simp only [step]
    split
    · next hreading => simp [hreading]
    · simp
  | drain =>
    simp only [step]
    split
    · next hstopping => simp [hstopping, Client.drain]
    · next hstopping => simp [hstopping]
  | withdraw other =>
    simp only [step]
    split <;> simp [update, forget]
  | _ => simp [step, update]

theorem reader_run_of_ended (h : client.reader = .ended) (events : List Event) :
    (client.run events).reader = .ended := by
  induction events generalizing client with
  | nil => exact h
  | cons event rest ih => exact ih (reader_step_eq_ended_iff.mpr (.inl h))

/-- Nothing is handed on when the reader is over. -/
theorem not_hands_of_ended (h : client.reader = .ended) : ¬ client.Hands id response event := by
  rintro (⟨hears, -, -⟩ | ⟨stopping, -⟩)
  · rw [hears.reading] at h
    cases h
  · rw [stopping] at h
    cases h

/-- A reader that is over has told those who waited. -/
theorem exists_drain {events : List Event} (h : (run {} events).reader = .ended) :
    ∃ before after, events = before ++ .drain :: after ∧ (run {} before).reader = .stopping := by
  -- from the last event on
  induction events using List.reverseRecOn with
  | nil => cases h
  | append_singleton earlier last ih =>
    rw [run_concat] at h
    rcases reader_step_eq_ended_iff.mp h with hended | ⟨rfl, hstopping⟩
    · obtain ⟨before, after, rfl, hstopping⟩ := ih hended
      exact ⟨before, after ++ [last], by simp, hstopping⟩
    · exact ⟨earlier, [], rfl, hstopping⟩

/-- A request that was handed nothing before the reader was over is handed nothing. -/
theorem mail_run_of_ended (hended : client.reader = .ended)
    (h : ∀ ticket, client.ticket? id = some ticket → ticket.mail = none) (events : List Event) :
    ∀ ticket, (client.run events).ticket? id = some ticket → ticket.mail = none := by
  induction events generalizing client with
  | nil => exact h
  | cons event rest ih =>
    refine ih (reader_step_eq_ended_iff.mpr (.inl hended)) ?_
    intro next hnext
    by_contra hmail
    obtain ⟨response, hsome⟩ := Option.ne_none_iff_exists'.mp hmail
    rcases hands_of_mail_step hnext hsome with ⟨earlier, hearlier, hsame⟩ | hands
    · rw [h earlier hearlier] at hsame
      cases hsame
    · exact not_hands_of_ended hended hands

/-! ### Ids that stay -/

/-- The id of a request that has ended is awaited until a response is handed on to it. -/
theorem mem_pending_run_of_ended (hconsistent : client.Consistent)
    (hticket : client.ticket? id = some ticket) {ending : Ending}
    (hended : ticket.phase = .ended ending) (hawaited : id ∈ client.pending) (later : List Event) :
    id ∈ (client.run later).pending ∨
      ∃ before event after response, later = before ++ event :: after ∧
        (client.run before).Hands id response event := by
  induction later generalizing client with
  | nil => exact .inl hawaited
  | cons event rest ih =>
    have hnext : (client.step event).ticket? id = some ticket := by
      obtain ⟨next, hnext, hkeeps⟩ := exists_step hconsistent hticket event
      rw [hnext, hkeeps.ended ending hended]
    have hstep : id ∈ (client.step event).pending ∨ ∃ response, client.Hands id response event := by
      cases client.effect_step event id with
      | register hevent hnone hticket' hpending => exact .inl hpending
      | advance hticket' hpending => exact .inl (hpending.mpr hawaited)
      | hand response hands hticket' hpending => exact .inr ⟨response, hands⟩
      | withdraw found hfound hlate hnext' hpending =>
        rw [hticket] at hfound
        cases hfound
        rw [hended] at hlate
        cases hlate
    rcases hstep with hstays | ⟨response, hands⟩
    · rcases ih (hconsistent.step event) hnext hstays with hstays | hhanded
      · exact .inl hstays
      · obtain ⟨before, event', after, response, rfl, hands⟩ := hhanded
        exact .inr ⟨event :: before, event', after, response, rfl, hands⟩
    · exact .inr ⟨[], event, rest, response, rfl, hands⟩

/-- An id that is awaited is that of a request that was handed nothing, and that is under way, or
    whose line could not be written, or that was abandoned; one that returned with a response or for
    lack of time has left no trace. The id of a request that is over stays until a response is
    handed on to it, and for good if the reader is over. -/
theorem traces_of_requests (events : List Event) (id : String) :
    let client := run {} events
    (id ∈ client.pending → ∃ ticket, client.ticket? id = some ticket ∧ ticket.mail = none ∧
      (ticket.inProgress = true ∨ (∃ detail, ticket.phase = .ended (.unwritten detail)) ∨
        ticket.phase = .ended .abandoned)) ∧
    ∀ ending, client.ending? id = some ending → id ∈ client.pending → ∀ later,
      (id ∈ (client.run later).pending ∨
        ∃ before event after response, later = before ++ event :: after ∧
          (client.run before).Hands id response event) ∧
      (client.reader = .ended → id ∈ (client.run later).pending) := by
  intro client
  have hconsistent : client.Consistent := consistent_run events
  constructor
  · intro hawaited
    obtain ⟨ticket, hticket⟩ := hconsistent.exists_ticket hawaited
    have hagrees := hconsistent.agrees id ticket hticket
    have hnone := hagrees.mail_of_awaited hawaited
    refine ⟨ticket, hticket, hnone, ?_⟩
    cases hphase : ticket.phase with
    | ended ending =>
      cases ending with
      | answered response =>
        have hsome := hagrees.mail_of_answered response hphase
        rw [hnone] at hsome
        cases hsome
      | unwritten detail => exact .inr (.inl ⟨detail, rfl⟩)
      | timedOut => exact absurd hawaited (hagrees.of_timedOut hphase).2
      | abandoned => exact .inr (.inr rfl)
    | _ => simp [Ticket.inProgress, hphase]
  · intro ending h hawaited later
    obtain ⟨ticket, hticket, hended⟩ := ending?_eq_some_iff.mp h
    have hstays := mem_pending_run_of_ended hconsistent hticket hended hawaited later
    refine ⟨hstays, fun hreader => ?_⟩
    rcases hstays with hstays | ⟨before, event, after, response, -, hands⟩
    · exact hstays
    · exact absurd hands (not_hands_of_ended (reader_run_of_ended hreader before))

/-- When the reader is over, the id of a request whose line cannot be written stays for good. -/
theorem traces_of_requests_orphaned :
    let events : List Event :=
      [.linesEnd, .drain, .register "a", .writeFails "a" "Broken pipe (os error 32)"]
    (run {} events).ending? "a" = some (.unwritten "Broken pipe (os error 32)") ∧
      ∀ later, "a" ∈ ((run {} events).run later).pending := by
  intro events
  have hended : (run {} events).ending? "a" = some (.unwritten "Broken pipe (os error 32)") := rfl
  have hreader : (run {} events).reader = .ended := by decide
  have hpending : (run {} events).pending = ["a"] := by decide
  have hawaited : "a" ∈ (run {} events).pending := by simp [hpending]
  exact ⟨hended, fun later => ((traces_of_requests events "a").2 _ hended hawaited later).2 hreader⟩

/-- A request whose line cannot be written leaves its id, and so does one that is abandoned while it
    waits. -/
theorem not_forgotten_when_over :
    ¬ (∀ events id ending, (run {} events).ending? id = some ending →
        id ∉ (run {} events).pending) ∧
      (run {} [.register "a", .writeFails "a" "Broken pipe (os error 32)"]).pending = ["a"] ∧
      (run {} [.register "a", .written "a", .abandon "a"]).pending = ["a"] := by
  have hunwritten :
      (run {} [.register "a", .writeFails "a" "Broken pipe (os error 32)"]).pending = ["a"] := by
    decide
  refine ⟨fun hclaim => ?_, hunwritten, by decide⟩
  have hgone := hclaim [.register "a", .writeFails "a" "Broken pipe (os error 32)"] "a"
    (.unwritten "Broken pipe (os error 32)") rfl
  rw [hunwritten] at hgone
  simp at hgone

/-! ### Requests that wait -/

/-- A request that was there when the reader told those who waited has an answer if it still
    listens: the notice that the worker has exited if it was awaited then, or else one from
    before. -/
theorem mail_of_known {earlier : Ticket} (hconsistent : client.Consistent)
    (hstopping : client.reader = .stopping) (hearlier : client.ticket? id = some earlier)
    {later : List Event} (hticket : ((client.step .drain).run later).ticket? id = some ticket)
    (hlistens : ticket.listens = true) :
    ∃ response, ticket.mail = some response ∧ (id ∈ client.pending → response = .exited id) := by
  have hdrained := ticket?_step_drain hstopping hearlier
  obtain ⟨found, hfound, hkeeps⟩ := exists_run (hconsistent.step .drain) hdrained later
  obtain rfl : found = ticket := Option.some.inj (hfound.symm.trans hticket)
  -- it listens now, so it did when the reader told those who waited
  have hbefore : earlier.listens = true := by
    by_contra hdeaf
    rw [if_neg fun h => hdeaf h.2] at hkeeps
    have hnow := (hkeeps.deaf (by simpa using hdeaf)).1
    rw [hlistens] at hnow
    cases hnow
  by_cases hawaited : id ∈ client.pending
  · rw [if_pos ⟨hawaited, hbefore⟩] at hkeeps
    exact ⟨.exited id, hkeeps.mail _ rfl, fun _ => rfl⟩
  · rw [if_neg fun h => hawaited h.1] at hkeeps
    have hmail : earlier.mail ≠ none := fun hnone =>
      hawaited ((hconsistent.agrees id earlier hearlier).awaited_of_listens hbefore hnone)
    obtain ⟨response, hsome⟩ := Option.ne_none_iff_exists'.mp hmail
    exact ⟨response, hkeeps.mail response hsome, fun h => absurd h hawaited⟩

/-- A request that was not there is handed nothing. -/
theorem mail_of_unknown (hstopping : client.reader = .stopping)
    (hunknown : client.ticket? id = none) (later : List Event) :
    ∀ ticket, ((client.step .drain).run later).ticket? id = some ticket → ticket.mail = none := by
  have hended : (client.step .drain).reader = .ended :=
    reader_step_eq_ended_iff.mpr (.inr ⟨rfl, hstopping⟩)
  have hdrained : (client.step .drain).ticket? id = none := by
    rw [step_drain hstopping, ticket?_drain, hunknown, Option.map_none]
  refine mail_run_of_ended hended (fun found hfound => ?_) later
  rw [hdrained] at hfound
  cases hfound

/-- A request that was handed nothing before the reader was over is never answered. -/
theorem not_answered_of_ended (hconsistent : client.Consistent) (hended : client.reader = .ended)
    (hnothing : ∀ ticket, client.ticket? id = some ticket → ticket.mail = none)
    (later : List Event) (response : Response) :
    (client.run later).ending? id ≠ some (.answered response) := by
  intro hanswered
  obtain ⟨found, hfound, hphase⟩ := ending?_eq_some_iff.mp hanswered
  have hnone := mail_run_of_ended hended hnothing later found hfound
  have hsome := ((hconsistent.run later).agrees id found hfound).mail_of_answered response hphase
  rw [hnone] at hsome
  cases hsome

/-- When the reader is over, a request that waits was either there when the reader told those who
    waited, and then it has an answer, which is the notice that the worker has exited if it was
    awaited then; or it was registered later, and then it was told nothing, its id is awaited, and
    it will not be answered. -/
theorem waiting_after_reader {events : List Event} {id : String} {ticket : Ticket}
    (hended : (run {} events).reader = .ended)
    (hticket : (run {} events).ticket? id = some ticket) (hwaits : ticket.phase = .waiting) :
    ∃ before after, events = before ++ .drain :: after ∧ (run {} before).reader = .stopping ∧
      ((run {} before).ticket? id ≠ none → ∃ response, ticket.mail = some response ∧
        (id ∈ (run {} before).pending → response = .exited id)) ∧
      ((run {} before).ticket? id = none → ticket.mail = none ∧ id ∈ (run {} events).pending ∧
        ∀ later response, ((run {} events).run later).ending? id ≠ some (.answered response)) := by
  obtain ⟨before, after, hevents, hstopping⟩ := exists_drain hended
  have hsplit : run {} events = ((run {} before).step .drain).run after := by
    rw [hevents, run_append, run_cons]
  have hlistens : ticket.listens = true := by simp [Ticket.listens, hwaits]
  refine ⟨before, after, hevents, hstopping, ?_, ?_⟩
  · intro hknown
    obtain ⟨earlier, hearlier⟩ := Option.ne_none_iff_exists'.mp hknown
    exact mail_of_known (consistent_run before) hstopping hearlier (hsplit ▸ hticket) hlistens
  · intro hunknown
    have hconsistent := consistent_run events
    have hnothing := mail_of_unknown hstopping hunknown after
    rw [← hsplit] at hnothing
    have hnone := hnothing ticket hticket
    exact ⟨hnone, (hconsistent.agrees id ticket hticket).awaited_of_listens hlistens hnone,
      not_answered_of_ended hconsistent hended hnothing⟩

/-- One request waits when the bytes `FF 0A`, which are no text, stop the reader; another comes when
    the reader is over. -/
def unread : List Event :=
  [.register "a", .written "a", .line ⟨#[0xFF, 0x0A]⟩, .drain, .register "b", .written "b"]

/-- The one that came later will not be answered. -/
theorem waiting_after_reader_unread :
    (run {} unread).reader = .ended ∧
      (run {} unread).ticket? "a" =
        some { id := "a", phase := .waiting, mail := some (.exited "a") } ∧
      (run {} unread).ticket? "b" = some { id := "b", phase := .waiting } ∧
      ∀ later response, ((run {} unread).run later).ending? "b" ≠ some (.answered response) := by
  have hended : (run {} unread).reader = .ended := by decide
  have htold : (run {} unread).ticket? "a" =
      some { id := "a", phase := .waiting, mail := some (.exited "a") } := by cbv
  have huntold : (run {} unread).ticket? "b" = some { id := "b", phase := .waiting } := by cbv
  refine ⟨hended, htold, huntold, ?_⟩
  obtain ⟨before, after, hevents, hstopping, hknown, hunknown⟩ :=
    waiting_after_reader hended huntold rfl
  -- it was not there before, or it would have an answer
  refine (hunknown ?_).2.2
  by_contra hthere
  obtain ⟨response, hsome, -⟩ := hknown hthere
  cases hsome

/-- A request that is registered and written when the reader is over waits, and is told nothing. -/
theorem not_told_after_reader :
    ¬ ∀ events id ticket, (run {} events).reader = .ended →
      (run {} events).ticket? id = some ticket →
      ¬ (id ∈ (run {} events).pending ∧ ticket.phase = .waiting ∧ ticket.mail = none) := by
  intro hclaim
  have hended : (run {} unread).reader = .ended := by decide
  have hticket : (run {} unread).ticket? "b" = some { id := "b", phase := .waiting } := by cbv
  have hpending : (run {} unread).pending = ["b"] := by decide
  exact hclaim unread "b" _ hended hticket ⟨by simp [hpending], rfl, rfl⟩

end ReportDesk.Worker.Client
