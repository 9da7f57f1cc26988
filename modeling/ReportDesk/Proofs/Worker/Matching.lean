import ReportDesk.Proofs.Worker.Request

/-! # Requests and the responses they end with

    Requests run side by side, and the worker's lines come in any order, more than once, or with ids
    that nobody has. Each request ends once at most. If it ends with a response, that is the first
    one on a line that had its id and was read while the id was awaited; or, if the reader stopped
    before there was one, the notice that the worker has exited.

    That a request is handed a response at most once is told by the ids that are awaited: an event
    that hands one on takes the id away, and an id is registered only once.
-/

namespace ReportDesk.Worker.Client

variable {client : Client} {id : String} {ticket : Ticket} {event : Event} {response : Response}

theorem run_append (client : Client) (before after : List Event) :
    client.run (before ++ after) = (client.run before).run after :=
  List.foldl_append

theorem run_cons (client : Client) (event : Event) (rest : List Event) :
    client.run (event :: rest) = (client.step event).run rest :=
  rfl

theorem run_concat (client : Client) (before : List Event) (last : Event) :
    client.run (before ++ [last]) = (client.run before).step last :=
  run_append client before [last]

/-- A reader that has stopped tells those who wait. -/
theorem step_drain (h : client.reader = .stopping) : client.step .drain = client.drain := by
  simp [step, h]

/-! ### What stays as it is -/

theorem ending?_eq_some_iff {ending : Ending} :
    client.ending? id = some ending ↔
      ∃ ticket, client.ticket? id = some ticket ∧ ticket.phase = .ended ending := by
  unfold ending?
  constructor
  · intro h
    split at h
    · next own found mail hticket =>
      cases h
      exact ⟨_, hticket, rfl⟩
    · cases h
  · rintro ⟨⟨own, phase, mail⟩, hticket, rfl⟩
    rw [hticket]

/-- What a request keeps, whatever happens. -/
structure Keeps (ticket later : Ticket) : Prop where
  /-- It does not listen again. -/
  deaf : ticket.listens = false → later.listens = false ∧ later.mail = ticket.mail
  /-- It has what was handed to it. -/
  mail : ∀ response, ticket.mail = some response → later.mail = some response
  /-- When it has ended, all stays as it is. -/
  ended : ∀ ending, ticket.phase = .ended ending → later = ticket

theorem Keeps.refl (ticket : Ticket) : Keeps ticket ticket :=
  ⟨fun h => ⟨h, rfl⟩, fun _ h => h, fun _ _ => rfl⟩

theorem Keeps.trans {first second third : Ticket} (h : Keeps first second)
    (h' : Keeps second third) : Keeps first third where
  deaf hdeaf := by
    obtain ⟨hsecond, hmail⟩ := h.deaf hdeaf
    obtain ⟨hthird, hmail'⟩ := h'.deaf hsecond
    exact ⟨hthird, hmail'.trans hmail⟩
  mail response hmail := h'.mail response (h.mail response hmail)
  ended ending hended := by
    obtain rfl := h.ended ending hended
    exact h'.ended ending hended

theorem Keeps.of_advance {later : Ticket} (h : ticket.Advance later) : Keeps ticket later := by
  refine ⟨?_, ?_, fun ending => h.eq_of_ended⟩
  · intro hdeaf
    refine ⟨?_, h.mail_eq⟩
    cases h with
    | stay => exact hdeaf
    | write hphase => simp [Ticket.listens, hphase] at hdeaf
    | _ => rfl
  · intro response hmail
    rw [h.mail_eq, hmail]

/-- An event leaves a request in its place. -/
theorem exists_step (hconsistent : client.Consistent) (hticket : client.ticket? id = some ticket)
    (event : Event) :
    ∃ later, (client.step event).ticket? id = some later ∧ Keeps ticket later := by
  cases client.effect_step event id with
  | register hevent hnone hnext hpending =>
    rw [hticket] at hnone
    cases hnone
  | advance hnext hpending =>
    rw [hticket] at hnext
    obtain ⟨later, hlater, hadvance⟩ := Effect.exists_of_some_rel hnext
    exact ⟨later, hlater, .of_advance hadvance⟩
  | hand response hands hnext hpending =>
    rw [hticket, Option.map_some] at hnext
    -- nothing was handed to it before, since its id is awaited
    have hnone : ticket.mail = none :=
      (hconsistent.agrees id ticket hticket).mail_of_awaited hands.awaited
    refine ⟨ticket.hand response, hnext, ?_, ?_, ?_⟩
    · intro hdeaf
      simp [Ticket.hand, hdeaf]
    · intro handed hmail
      rw [hnone] at hmail
      cases hmail
    · intro ending hended
      simp [Ticket.hand, Ticket.listens, hended]
  | withdraw found hfound hlate hnext hpending =>
    rw [hticket] at hfound
    cases hfound
    refine ⟨_, hnext, fun _ => ⟨rfl, rfl⟩, fun _ hmail => hmail, ?_⟩
    intro ending hended
    rw [hlate] at hended
    cases hended

theorem exists_run (hconsistent : client.Consistent) (hticket : client.ticket? id = some ticket)
    (events : List Event) :
    ∃ later, (client.run events).ticket? id = some later ∧ Keeps ticket later := by
  induction events generalizing client ticket with
  | nil => exact ⟨ticket, hticket, .refl ticket⟩
  | cons event rest ih =>
    obtain ⟨next, hnext, hkeeps⟩ := exists_step hconsistent hticket event
    obtain ⟨later, hlater, hkeeps'⟩ := ih (hconsistent.step event) hnext
    exact ⟨later, hlater, hkeeps.trans hkeeps'⟩

/-- What a request has after an event, it had before or was handed to it. -/
theorem hands_of_mail_step (hnext : (client.step event).ticket? id = some ticket)
    (hmail : ticket.mail = some response) :
    (∃ earlier, client.ticket? id = some earlier ∧ earlier.mail = some response) ∨
      client.Hands id response event := by
  cases client.effect_step event id with
  | register hevent hnone hticket hpending =>
    rw [hticket] at hnext
    cases hnext
    cases hmail
  | advance hticket hpending =>
    rw [hnext] at hticket
    obtain ⟨earlier, hearlier, hadvance⟩ := Effect.exists_of_rel_some hticket
    exact .inl ⟨earlier, hearlier, hadvance.mail_eq ▸ hmail⟩
  | hand handed hands hticket hpending =>
    rw [hticket] at hnext
    obtain ⟨earlier, hearlier, rfl⟩ := Option.map_eq_some_iff.mp hnext
    unfold Ticket.hand at hmail
    split at hmail
    · cases hmail
      exact .inr hands
    · exact .inl ⟨earlier, hearlier, hmail⟩
  | withdraw found hfound hlate hticket hpending =>
    rw [hticket] at hnext
    cases hnext
    exact .inl ⟨found, hfound, hmail⟩

/-- When the reader is over, the requests that were awaited and listened have the notice that the
    worker has exited, and all others are as they were. -/
theorem ticket?_step_drain (hstopping : client.reader = .stopping)
    (hticket : client.ticket? id = some ticket) :
    (client.step .drain).ticket? id =
      some (if id ∈ client.pending ∧ ticket.listens = true
        then { ticket with mail := some (.exited id) } else ticket) := by
  rw [step_drain hstopping, ticket?_drain, hticket, Option.map_some]
  by_cases hawaited : id ∈ client.pending
  · simp [hawaited, Ticket.hand]
  · simp [hawaited]

end ReportDesk.Worker.Client
