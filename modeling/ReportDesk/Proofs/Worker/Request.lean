import Mathlib
import ReportDesk.Worker.Client

/-! # One request among many

    What an event does to the request of one id, whatever other requests there are. There are four
    ways (`Effect`): the id is registered; the request goes on by itself; a response is handed to
    it, and its id is awaited no more; its time is over and it withdraws its id. Events of other
    requests do nothing to it.

    From this follows what a request and the awaited ids have to do with each other at any time
    (`Agrees`). A response is handed on just when an id is taken away from those that are awaited,
    so a request is handed one at most.
-/

namespace ReportDesk.Worker

/-! ### The steps of a request -/

namespace Ticket

theorem id_hand (response : Response) (ticket : Ticket) :
    (ticket.hand response).id = ticket.id := by
  unfold hand
  split <;> rfl

theorem id_withdraw (ticket : Ticket) : ticket.withdraw.id = ticket.id := by
  unfold withdraw
  split <;> rfl

/-- What a request does by itself. -/
inductive Advance : Ticket → Ticket → Prop where
  /-- Nothing. -/
  | stay (ticket : Ticket) : Advance ticket ticket
  /-- Its line is written. -/
  | write {ticket : Ticket} (h : ticket.phase = .registered) :
      Advance ticket { ticket with phase := .waiting }
  /-- Its line cannot be written. -/
  | failWrite {ticket : Ticket} (detail : String) (h : ticket.phase = .registered) :
      Advance ticket { ticket with phase := .ended (.unwritten detail) }
  /-- It takes its response. -/
  | take {ticket : Ticket} (response : Response) (h : ticket.phase = .waiting)
      (hmail : ticket.mail = some response) :
      Advance ticket { ticket with phase := .ended (.answered response) }
  /-- Its time is over. -/
  | timeOut {ticket : Ticket} (h : ticket.phase = .waiting) (hmail : ticket.mail = none) :
      Advance ticket { ticket with phase := .late }
  /-- It is abandoned. -/
  | abandon {ticket : Ticket} (h : ticket.inProgress = true) :
      Advance ticket { ticket with phase := .ended .abandoned }

namespace Advance

variable {ticket next : Ticket}

theorem id_eq (h : Advance ticket next) : next.id = ticket.id := by
  cases h <;> rfl

theorem mail_eq (h : Advance ticket next) : next.mail = ticket.mail := by
  cases h <;> rfl

theorem of_write (ticket : Ticket) : Advance ticket ticket.write := by
  unfold Ticket.write
  split
  · next hphase => exact .write hphase
  · exact .stay ticket

theorem of_failWrite (detail : String) (ticket : Ticket) :
    Advance ticket (ticket.failWrite detail) := by
  unfold Ticket.failWrite
  split
  · next hphase => exact .failWrite detail hphase
  · exact .stay ticket

theorem of_take (ticket : Ticket) : Advance ticket ticket.take := by
  unfold Ticket.take
  split
  · next response hphase hmail => exact .take response hphase hmail
  · exact .stay ticket

theorem of_timeOut (ticket : Ticket) : Advance ticket ticket.timeOut := by
  unfold Ticket.timeOut
  split
  · next hphase hmail => exact .timeOut hphase hmail
  · exact .stay ticket

theorem of_abandon (ticket : Ticket) : Advance ticket ticket.abandon := by
  unfold Ticket.abandon
  split
  · next hprogress => exact .abandon hprogress
  · exact .stay ticket

/-- A request that has ended does nothing more. -/
theorem eq_of_ended (h : Advance ticket next) {ending : Ending}
    (hended : ticket.phase = .ended ending) : next = ticket := by
  cases h with
  | stay => rfl
  | abandon hprogress => simp [inProgress, hended] at hprogress
  | _ => simp_all

end Advance

end Ticket

namespace Client

variable {client : Client} {id : String}

/-! ### The request of an id -/

theorem id_of_ticket? {ticket : Ticket} (h : client.ticket? id = some ticket) : ticket.id = id := by
  simpa using List.find?_some h

/-- Changing requests, but not their ids, changes the one of an id. -/
theorem find?_map_of_id {tickets : List Ticket} {change : Ticket → Ticket}
    (h : ∀ ticket, (change ticket).id = ticket.id) :
    (tickets.map change).find? (·.id = id) = (tickets.find? (·.id = id)).map change := by
  rw [List.find?_map]
  congr 2
  funext ticket
  simp [h]

theorem ticket?_update {change : Ticket → Ticket} (h : ∀ ticket, (change ticket).id = ticket.id)
    (other : String) :
    (client.update other change).ticket? id =
      if id = other then (client.ticket? id).map change else client.ticket? id := by
  have hchange : ∀ ticket : Ticket,
      (if ticket.id = other then change ticket else ticket).id = ticket.id := by
    intro ticket
    split
    · exact h ticket
    · rfl
  unfold update ticket?
  rw [find?_map_of_id hchange]
  cases hticket : client.tickets.find? (·.id = id) with
  | none => simp
  | some ticket =>
    have hid : ticket.id = id := id_of_ticket? hticket
    simp only [Option.map_some, hid]
    split <;> rfl

@[simp]
theorem ticket?_forget (other : String) : (client.forget other).ticket? id = client.ticket? id :=
  rfl

theorem ticket?_drain :
    client.drain.ticket? id = (client.ticket? id).map fun ticket =>
      if id ∈ client.pending then ticket.hand (.exited id) else ticket := by
  have hmap : client.drain.ticket? id = (client.ticket? id).map fun ticket =>
      if client.pending.contains ticket.id then ticket.hand (.exited ticket.id) else ticket := by
    refine find?_map_of_id fun ticket => ?_
    split
    · exact Ticket.id_hand _ ticket
    · rfl
  rw [hmap]
  cases hticket : client.ticket? id with
  | none => rfl
  | some ticket => simp [id_of_ticket? hticket]

theorem mem_pending_forget {other : String} :
    id ∈ (client.forget other).pending ↔ id ∈ client.pending ∧ id ≠ other := by
  simp [forget]

/-! ### What an event does to a request -/

/-- The reader takes a response from a line. -/
structure Hears (client : Client) (bytes : ByteArray) (response : Response) : Prop where
  /-- It reads. -/
  reading : client.reader = .reading
  /-- The line is the text of the response. -/
  text : (String.fromUTF8? bytes).bind Response.ofLine? = some response

/-- An event hands a response on to the id for which it is awaited. -/
inductive Hands (client : Client) (id : String) : Response → Event → Prop where
  /-- It was on a line. -/
  | line {bytes : ByteArray} {response : Response} (hears : client.Hears bytes response)
      (hid : response.id = id) (awaited : id ∈ client.pending) :
      Hands client id response (.line bytes)
  /-- The reader has stopped. -/
  | drain (stopping : client.reader = .stopping) (awaited : id ∈ client.pending) :
      Hands client id (.exited id) .drain

theorem Hands.awaited {response : Response} {event : Event} (h : client.Hands id response event) :
    id ∈ client.pending := by
  cases h <;> assumption

theorem Hands.id_eq {response : Response} {event : Event} (h : client.Hands id response event) :
    response.id = id := by
  cases h with
  | line hears hid awaited => exact hid
  | drain stopping awaited => rfl

/-- What an event does to the request of an id, and to whether it is awaited. -/
inductive Effect (client : Client) (event : Event) (id : String) (next : Client) : Prop where
  /-- The id is registered. -/
  | register (hevent : event = .register id) (hnone : client.ticket? id = none)
      (hticket : next.ticket? id = some { id := id }) (hpending : id ∈ next.pending)
  /-- The request goes on by itself, if there is one. -/
  | advance (hticket : Option.Rel Ticket.Advance (client.ticket? id) (next.ticket? id))
      (hpending : id ∈ next.pending ↔ id ∈ client.pending)
  /-- A response is handed to it. -/
  | hand (response : Response) (hands : client.Hands id response event)
      (hticket : next.ticket? id = (client.ticket? id).map (Ticket.hand response))
      (hpending : id ∉ next.pending)
  /-- It withdraws its id. -/
  | withdraw (ticket : Ticket) (hticket : client.ticket? id = some ticket)
      (hlate : ticket.phase = .late)
      (hnext : next.ticket? id = some { ticket with phase := .ended .timedOut })
      (hpending : id ∉ next.pending)

namespace Effect

variable {event : Event}

theorem rel_refl (ticket : Option Ticket) : Option.Rel Ticket.Advance ticket ticket := by
  cases ticket with
  | none => exact .none
  | some ticket => exact .some (.stay ticket)

theorem exists_of_rel_some {before : Option Ticket} {ticket : Ticket}
    (h : Option.Rel Ticket.Advance before (some ticket)) :
    ∃ earlier, before = some earlier ∧ earlier.Advance ticket := by
  cases h with
  | some hadvance => exact ⟨_, rfl, hadvance⟩

theorem exists_of_some_rel {ticket : Ticket} {after : Option Ticket}
    (h : Option.Rel Ticket.Advance (some ticket) after) :
    ∃ later, after = some later ∧ ticket.Advance later := by
  cases h with
  | some hadvance => exact ⟨_, rfl, hadvance⟩

/-- An event that leaves the client alone. -/
theorem same (client : Client) (event : Event) (id : String) : Effect client event id client :=
  .advance (rel_refl _) Iff.rfl

/-- A step that a request makes by itself, which may be another request than that of `id`. -/
theorem of_update {change : Ticket → Ticket} (h : ∀ ticket : Ticket, ticket.Advance (change ticket))
    (other : String) : Effect client event id (client.update other change) := by
  refine .advance ?_ Iff.rfl
  rw [ticket?_update fun ticket => (h ticket).id_eq]
  split
  · cases client.ticket? id with
    | none => exact .none
    | some ticket => exact .some (h ticket)
  · exact rel_refl _

/-- Whatever is done to another request, whose id is then forgotten. -/
theorem of_forget {change : Ticket → Ticket} (h : ∀ ticket, (change ticket).id = ticket.id)
    {other : String} (hne : id ≠ other) :
    Effect client event id ((client.update other change).forget other) := by
  refine .advance ?_ ?_
  · rw [ticket?_forget, ticket?_update h, if_neg hne]
    exact rel_refl _
  · rw [mem_pending_forget]
    exact ⟨fun hmem => hmem.1, fun hmem => ⟨hmem, hne⟩⟩

theorem of_register (other : String) :
    Effect client (.register other) id (client.step (.register other)) := by
  simp only [step]
  split
  · exact same client _ id
  · next hnone =>
    have hother : client.ticket? other = none := by
      simpa [ticket?, List.find?_eq_none] using hnone
    by_cases hid : other = id
    · subst hid
      refine .register rfl hother ?_ (by simp)
      simp only [ticket?] at hother ⊢
      rw [List.find?_append, hother]
      simp
    · refine .advance ?_ (by simp [Ne.symm hid])
      have hsame : (client.tickets ++ [({ id := other } : Ticket)]).find? (·.id = id) =
          client.tickets.find? (·.id = id) := by
        rw [List.find?_append]
        simp [hid]
      simp only [ticket?, hsame]
      exact rel_refl _

theorem of_deliver {bytes : ByteArray} {response : Response} (hears : client.Hears bytes response) :
    Effect client (.line bytes) id (client.deliver response) := by
  unfold deliver
  split
  · next hcontains =>
    have hawaited : response.id ∈ client.pending := by simpa using hcontains
    by_cases hid : id = response.id
    · refine .hand response (.line hears hid.symm (hid ▸ hawaited)) ?_ ?_
      · rw [ticket?_forget, ticket?_update (Ticket.id_hand response), if_pos hid]
      · rw [mem_pending_forget]
        exact fun hmem => hmem.2 hid
    · exact of_forget (Ticket.id_hand response) hid
  · exact same client _ id

theorem of_line (bytes : ByteArray) :
    Effect client (.line bytes) id (client.step (.line bytes)) := by
  simp only [step]
  split
  · next hreading =>
    unfold read
    split
    · exact .advance (rel_refl _) Iff.rfl
    · next text htext =>
      split
      · next response hresponse => exact of_deliver ⟨hreading, by simp [htext, hresponse]⟩
      · exact same client _ id
  · exact same client _ id

theorem of_drain : Effect client .drain id (client.step .drain) := by
  simp only [step]
  split
  · next hstopping =>
    have hnone : id ∉ client.drain.pending := by simp [Client.drain]
    by_cases hawaited : id ∈ client.pending
    · refine .hand (.exited id) (.drain hstopping hawaited) ?_ hnone
      simp [ticket?_drain, hawaited]
    · refine .advance ?_ (iff_of_false hnone hawaited)
      simp only [ticket?_drain, hawaited, if_false, Option.map_id']
      exact rel_refl _
  · exact same client _ id

theorem of_withdraw (other : String) :
    Effect client (.withdraw other) id (client.step (.withdraw other)) := by
  simp only [step]
  split
  · next own mail hticket =>
    by_cases hid : id = other
    · subst hid
      refine .withdraw _ hticket rfl ?_ ?_
      · rw [ticket?_forget, ticket?_update Ticket.id_withdraw, if_pos rfl, hticket]
        rfl
      · rw [mem_pending_forget]
        exact fun hmem => hmem.2 rfl
    · exact of_forget Ticket.id_withdraw hid
  · exact same client _ id

end Effect

/-- An event does one of these to the request of an id. -/
theorem effect_step (client : Client) (event : Event) (id : String) :
    Effect client event id (client.step event) := by
  cases event with
  | register other => exact .of_register other
  | written other => exact .of_update Ticket.Advance.of_write other
  | writeFails other detail => exact .of_update (Ticket.Advance.of_failWrite detail) other
  | line bytes => exact .of_line bytes
  | linesEnd =>
    simp only [step]
    split
    · exact .advance (Effect.rel_refl _) Iff.rfl
    · exact .same client _ id
  | drain => exact .of_drain
  | take other => exact .of_update Ticket.Advance.of_take other
  | timeOut other => exact .of_update Ticket.Advance.of_timeOut other
  | withdraw other => exact .of_withdraw other
  | abandon other => exact .of_update Ticket.Advance.of_abandon other

/-! ### Requests and the ids that are awaited -/

/-- What a request has to do with whether its id is awaited. -/
structure Agrees (awaited : Prop) (ticket : Ticket) : Prop where
  /-- What was handed to it answers it. -/
  mail_id : ∀ response, ticket.mail = some response → response.id = ticket.id
  /-- Nothing was handed to it while its id is awaited. -/
  mail_of_awaited : awaited → ticket.mail = none
  /-- Its id is awaited while it listens and nothing was handed to it. -/
  awaited_of_listens : ticket.listens = true → ticket.mail = none → awaited
  /-- Its time is over only if nothing was handed to it before. -/
  mail_of_late : ticket.phase = .late → ticket.mail = none
  /-- When it returns for lack of time, nothing was handed to it and its id is withdrawn. -/
  of_timedOut : ticket.phase = .ended .timedOut → ticket.mail = none ∧ ¬ awaited
  /-- Its answer was handed to it. -/
  mail_of_answered : ∀ response, ticket.phase = .ended (.answered response) →
    ticket.mail = some response

namespace Agrees

variable {awaited : Prop} {ticket next : Ticket}

theorem of_new (id : String) : Agrees True { id := id } where
  mail_id := by simp
  mail_of_awaited := by simp
  awaited_of_listens := by simp
  mail_of_late := by simp
  of_timedOut := by simp
  mail_of_answered := by simp

theorem advance (h : Agrees awaited ticket) (hadvance : ticket.Advance next) :
    Agrees awaited next := by
  have hmail := hadvance.mail_eq
  have hid := hadvance.id_eq
  refine ⟨?_, ?_, ?_, ?_, ?_, ?_⟩
  · rw [hmail, hid]
    exact h.mail_id
  · rw [hmail]
    exact h.mail_of_awaited
  · -- a request that listens listened before
    intro hlistens hnone
    refine h.awaited_of_listens ?_ (hmail ▸ hnone)
    cases hadvance with
    | stay => exact hlistens
    | write hphase => simp [Ticket.listens, hphase]
    | _ => cases hlistens
  · intro hlate
    cases hadvance with
    | stay => exact h.mail_of_late hlate
    | timeOut hphase hnone => exact hnone
    | _ => cases hlate
  · intro hended
    cases hadvance with
    | stay => exact h.of_timedOut hended
    | _ => cases hended
  · intro response hended
    cases hadvance with
    | stay => exact h.mail_of_answered response hended
    | take taken hphase hsome =>
      cases hended
      exact hsome
    | _ => cases hended

theorem hand (h : Agrees awaited ticket) (hawaited : awaited) {response : Response}
    (hid : response.id = ticket.id) : Agrees False (ticket.hand response) := by
  have hnone : ticket.mail = none := h.mail_of_awaited hawaited
  unfold Ticket.hand
  split
  · next hlistens =>
    -- it listens, so it has not come to its end and its time is not over
    have hphase : ticket.phase ≠ .late ∧ ∀ ending, ticket.phase ≠ .ended ending := by
      constructor
      · intro hlate
        simp [Ticket.listens, hlate] at hlistens
      · intro ending hended
        simp [Ticket.listens, hended] at hlistens
    refine ⟨?_, nofun, nofun, fun h => absurd h hphase.1, fun h => absurd h (hphase.2 _),
      fun _ h => absurd h (hphase.2 _)⟩
    intro handed hhanded
    cases hhanded
    exact hid
  · next hlistens =>
    exact ⟨h.mail_id, nofun, fun hlater => absurd hlater hlistens, h.mail_of_late,
      fun _ => ⟨hnone, not_false⟩, h.mail_of_answered⟩

theorem withdraw (h : Agrees awaited ticket) (hlate : ticket.phase = .late) :
    Agrees False { ticket with phase := .ended .timedOut } where
  mail_id := h.mail_id
  mail_of_awaited := nofun
  awaited_of_listens := nofun
  mail_of_late := nofun
  of_timedOut := fun _ => ⟨h.mail_of_late hlate, not_false⟩
  mail_of_answered := nofun

end Agrees

/-- What is so of a client at any time. -/
structure Consistent (client : Client) : Prop where
  /-- Only ids of requests are awaited. -/
  unknown : ∀ id, client.ticket? id = none → id ∉ client.pending
  /-- All requests agree with what is awaited. -/
  agrees : ∀ id ticket, client.ticket? id = some ticket → Agrees (id ∈ client.pending) ticket

theorem Consistent.step {client : Client} (h : client.Consistent) (event : Event) :
    (client.step event).Consistent := by
  constructor
  · intro id hnone
    cases client.effect_step event id with
    | register hevent hbefore hticket hpending => simp [hticket] at hnone
    | advance hticket hpending =>
      rw [hpending]
      refine h.unknown id ?_
      by_contra hbefore
      obtain ⟨ticket, hsome⟩ := Option.ne_none_iff_exists'.mp hbefore
      rw [hsome] at hticket
      obtain ⟨later, hlater, -⟩ := Effect.exists_of_some_rel hticket
      simp [hlater] at hnone
    | hand response hands hticket hpending => exact hpending
    | withdraw ticket hticket hlate hnext hpending => exact hpending
  · intro id ticket hsome
    cases client.effect_step event id with
    | register hevent hbefore hticket hpending =>
      rw [hticket] at hsome
      cases hsome
      simpa [hpending] using Agrees.of_new id
    | advance hticket hpending =>
      rw [hsome] at hticket
      obtain ⟨earlier, hbefore, hadvance⟩ := Effect.exists_of_rel_some hticket
      simpa only [hpending] using (h.agrees id earlier hbefore).advance hadvance
    | hand response hands hticket hpending =>
      rw [hticket] at hsome
      obtain ⟨earlier, hbefore, rfl⟩ := Option.map_eq_some_iff.mp hsome
      have hid : response.id = earlier.id := by rw [hands.id_eq, id_of_ticket? hbefore]
      simpa only [hpending] using (h.agrees id earlier hbefore).hand hands.awaited hid
    | withdraw earlier hbefore hlate hnext hpending =>
      rw [hnext] at hsome
      cases hsome
      simpa only [hpending] using (h.agrees id earlier hbefore).withdraw hlate

/-- An id that is awaited is that of a request. -/
theorem Consistent.exists_ticket {client : Client} (h : client.Consistent)
    (hawaited : id ∈ client.pending) : ∃ ticket, client.ticket? id = some ticket :=
  Option.ne_none_iff_exists'.mp fun hnone => h.unknown id hnone hawaited

/-- A client is consistent after any events. -/
theorem Consistent.run {client : Client} (h : client.Consistent) (events : List Event) :
    (client.run events).Consistent := by
  induction events generalizing client with
  | nil => exact h
  | cons event rest ih => exact ih (h.step event)

theorem consistent_run (events : List Event) : (Client.run {} events).Consistent :=
  Consistent.run ⟨fun _ _ => by simp, fun _ _ h => by simp [ticket?] at h⟩ events

end Client

end ReportDesk.Worker
