import FilterFleet.Client.Machine
import FilterFleet.Proofs.Lists

/-!
# The log of a client

A `LoggedClient` is a client with everything that has happened to it: each event, when it happened
and which requests were sent then. The log alone tells which settings were in force
(`inForce`), with which of them a call was started (`started?`), which sessions the node has given
to logins under a generation of the settings (`Obtained`), and which requests a call has sent, with
what has come back for each of them (`exchanges`).
-/

namespace FilterFleet

/-- An event, and the requests that were sent at it. -/
structure LogEntry where
  moment : Moment
  event : ClientEvent
  sent : List HttpRequest

/-- All that has happened to a client, latest first. -/
abbrev ClientLog := List LogEntry

/-- A client with its log. -/
structure LoggedClient where
  client : NodeClient
  log : ClientLog

namespace LoggedClient

/-- What an event does. -/
def step (s : LoggedClient) (t : Moment) (e : ClientEvent) : LoggedClient :=
  ⟨(s.client.step t e).1, ⟨t, e, (s.client.step t e).2⟩ :: s.log⟩

/-- A run of events. -/
def run (s : LoggedClient) (events : List (Moment × ClientEvent)) : LoggedClient :=
  events.foldl (fun s e => s.step e.1 e.2) s

end LoggedClient

/-! ## Events -/

deriving instance DecidableEq for ClientEvent

namespace ClientEvent

/-- After the event the call does not wait any more for the status of a login sent before. -/
def EndsSending (id : Nat) : ClientEvent → Prop
  | start i _ => i = id
  | status i _ => i = id
  | failure i _ => i = id
  | abandon i => i = id
  | proceed _ => False
  | body _ _ => False
  | configure _ => False

/-- After the event the call does not wait any more for the body of a login answered before. -/
def EndsReading (id : Nat) : ClientEvent → Prop
  | start i _ => i = id
  | body i _ => i = id
  | abandon i => i = id
  | proceed _ => False
  | status _ _ => False
  | failure _ _ => False
  | configure _ => False

theorem EndsSending.about {id : Nat} {e : ClientEvent} (h : e.EndsSending id) :
    e.about? = some id := by
  cases e with
  | start i _ | status i _ | failure i _ | abandon i => exact congrArg some h
  | proceed _ | body _ _ | configure _ => exact h.elim

theorem EndsReading.about {id : Nat} {e : ClientEvent} (h : e.EndsReading id) :
    e.about? = some id := by
  cases e with
  | start i _ | body i _ | abandon i => exact congrArg some h
  | proceed _ | status _ _ | failure _ _ | configure _ => exact h.elim

end ClientEvent

/-! ## What a log tells -/

namespace ClientLog

/-- The settings in force, and how often they had been replaced by then. -/
def inForce (first : NodeSettings) : ClientLog → Snapshot
  | [] => ⟨0, first⟩
  | x :: before =>
    match x.event with
    | .configure settings => ⟨(inForce first before).generation + 1, settings⟩
    | _ => inForce first before

/-- The call that was started last under an id, with the settings that were in force then. -/
def started? (first : NodeSettings) : ClientLog → Nat → Option (NodeCall × Snapshot)
  | [], _ => none
  | x :: before, id =>
    match x.event with
    | .start i call =>
      if i = id then some (call, inForce first before) else started? first before id
    | _ => started? first before id

/-- A call has sent a login under a generation of the settings and waits for the status. -/
inductive LoginSent (first : NodeSettings) (id generation : Nat) : ClientLog → Prop where
  | sent {x : LogEntry} {before : ClientLog} {call : NodeCall} {snapshot : Snapshot}
      (habout : x.event.about? = some id)
      (hstarted : started? first (x :: before) id = some (call, snapshot))
      (hgeneration : snapshot.generation = generation) (hlogin : ∃ r ∈ x.sent, r.sid = none) :
      LoginSent first id generation (x :: before)
  | later {x : LogEntry} {before : ClientLog} (hx : ¬ x.event.EndsSending id)
      (h : LoginSent first id generation before) : LoginSent first id generation (x :: before)

/-- A call has got a status for its login under a generation and waits for the body. -/
inductive LoginAnswered (first : NodeSettings) (id generation : Nat) (status : UInt16) :
    ClientLog → Prop where
  | answered {x : LogEntry} {before : ClientLog} (hx : x.event = .status id status)
      (h : LoginSent first id generation before) :
      LoginAnswered first id generation status (x :: before)
  | later {x : LogEntry} {before : ClientLog} (hx : ¬ x.event.EndsReading id)
      (h : LoginAnswered first id generation status before) :
      LoginAnswered first id generation status (x :: before)

/-- A login that was sent under a generation has come back with a session. -/
inductive Obtained (first : NodeSettings) (generation : Nat) (sid : String) : ClientLog → Prop where
  | returned {x : LogEntry} {before : ClientLog} {id : Nat}
      {body : AnswerBody} {answer : AuthAnswer} (hx : x.event = .body id body)
      (h : LoginAnswered first id generation 200 before)
      (hanswer : decodeBody "login response" AuthAnswer.ofJson? body = .ok answer)
      (hsid : answer.session.sid = some sid) (hvalid : answer.session.valid = true) :
      Obtained first generation sid (x :: before)
  | later {x : LogEntry} {before : ClientLog} (h : Obtained first generation sid before) :
      Obtained first generation sid (x :: before)

variable {first : NodeSettings} {x : LogEntry} {before : ClientLog}

theorem inForce_cons (h : ∀ settings, x.event ≠ .configure settings) :
    inForce first (x :: before) = inForce first before := by
  rw [inForce]
  split
  · next settings hx => exact absurd hx (h settings)
  · rfl

theorem started?_cons {id : Nat} (h : ∀ call, x.event ≠ .start id call) :
    started? first (x :: before) id = started? first before id := by
  rw [started?]
  split
  · next i call hx =>
    refine if_neg fun hi => ?_
    exact h call (hi ▸ hx)
  · rfl

theorem started?_start {id : Nat} {call : NodeCall} (h : x.event = .start id call) :
    started? first (x :: before) id = some (call, inForce first before) := by
  rw [started?, h]
  exact if_pos rfl

end ClientLog

/-! ## Requests and what comes back -/

/-- What has come back for a request. -/
inductive Response where
  | awaited
  | failed (failure : SendFailure)
  /-- A status, without a body so far. -/
  | status (status : UInt16)
  | complete (status : UInt16) (body : AnswerBody)
  /-- The call was given up before. -/
  | lost
deriving DecidableEq

namespace Response

/-- What an event about the call of a request brings for it. -/
def hear : Response → ClientEvent → Response
  | awaited, .status _ s => status s
  | awaited, .failure _ f => failed f
  | awaited, .abandon _ => lost
  | status s, .body _ body => complete s body
  | status _, .abandon _ => lost
  | response, _ => response

/-- The status that has come back. -/
def status? : Response → Option UInt16
  | status s => some s
  | complete s _ => some s
  | awaited => none
  | failed _ => none
  | lost => none

/-- Nothing can come back any more. -/
def IsSettled (response : Response) : Prop := ∀ e, response.hear e = response

theorem isSettled_of_abandon (response : Response) (id : Nat) :
    (response.hear (.abandon id)).IsSettled := by
  cases response <;> exact fun _ => rfl

/-- A status that has come back stays, unless the call is given up. -/
theorem status?_hear {response : Response} {s : UInt16} {e : ClientEvent}
    (h : response.status? = some s) (he : ∀ id, e ≠ .abandon id) :
    (response.hear e).status? = some s := by
  cases response with
  | status s' =>
    cases e with
    | abandon id => exact absurd rfl (he id)
    | _ => exact h
  | complete s' body => exact h
  | awaited | failed _ | lost => cases h

/-- A status is there because it was there before, or because it has come just now. -/
theorem status?_of_hear {response : Response} {s : UInt16} {e : ClientEvent}
    (h : (response.hear e).status? = some s) :
    response.status? = some s ∨ ∃ id, e = .status id s := by
  cases response with
  | awaited =>
    cases e with
    | status id s' =>
      obtain rfl : s' = s := Option.some.inj h
      exact .inr ⟨id, rfl⟩
    | _ => cases h
  | status s' =>
    cases e with
    | abandon id => cases h
    | _ => exact .inl h
  | failed _ | complete _ _ | lost => exact .inl h

end Response

/-- A request of a call, and what has come back for it. -/
structure Exchange where
  request : HttpRequest
  response : Response

/-- The exchange after an event about the call. -/
def Exchange.hear (x : Exchange) (e : ClientEvent) : Exchange :=
  { x with response := x.response.hear e }

namespace ClientLog

/-- The exchanges of the call that was started last under an id, latest first. -/
def exchanges : ClientLog → Nat → List Exchange
  | [], _ => []
  | x :: before, id =>
    if x.event.about? = some id then
      x.sent.reverse.map (⟨·, .awaited⟩) ++
        match x.event with
        | .start _ _ => []
        | e => (exchanges before id).map (·.hear e)
    else exchanges before id

variable {x : LogEntry} {before : ClientLog} {id : Nat}

theorem exchanges_of_ne (h : x.event.about? ≠ some id) :
    exchanges (x :: before) id = exchanges before id := by
  rw [exchanges, if_neg h]

theorem exchanges_start {call : NodeCall} (h : x.event = .start id call) :
    exchanges (x :: before) id = x.sent.reverse.map (⟨·, .awaited⟩) := by
  have habout : x.event.about? = some id := by rw [h]; rfl
  rw [exchanges, if_pos habout, h]
  exact List.append_nil _

theorem exchanges_about (h : x.event.about? = some id)
    (hstart : ∀ call, x.event ≠ .start id call) : exchanges (x :: before) id =
      x.sent.reverse.map (⟨·, .awaited⟩) ++ (exchanges before id).map (·.hear x.event) := by
  rw [exchanges, if_pos h]
  split
  · next i call hx =>
    rw [hx] at h
    obtain rfl : i = id := Option.some.inj h
    exact absurd hx (hstart call)
  · rfl

/-- The exchanges after an event about a call: those begun then, and unless the call was started
then, those from before. -/
theorem mem_exchanges_about (h : x.event.about? = some id) {y : Exchange} :
    y ∈ exchanges (x :: before) id ↔ (∃ r ∈ x.sent, ⟨r, .awaited⟩ = y) ∨
      (∀ call, x.event ≠ .start id call) ∧ ∃ z ∈ exchanges before id, z.hear x.event = y := by
  by_cases hstart : ∃ call, x.event = .start id call
  · obtain ⟨call, hcall⟩ := hstart
    simp [exchanges_start hcall, hcall]
  · have hother : ∀ call, x.event ≠ .start id call := fun call hcall => hstart ⟨call, hcall⟩
    simp [exchanges_about h hother, hother]

/-- A status that has come back in an exchange of a call was handed to the call. -/
theorem exists_of_status? {log : ClientLog} {y : Exchange} (hy : y ∈ exchanges log id)
    {status : UInt16} (h : y.response.status? = some status) :
    ∃ x ∈ log, x.event = .status id status := by
  induction log generalizing y with
  | nil => cases hy
  | cons x before ih =>
    have hlater : (∃ z ∈ before, z.event = .status id status) →
        ∃ z ∈ x :: before, z.event = .status id status :=
      fun ⟨z, hz, hevent⟩ => ⟨z, List.mem_cons_of_mem x hz, hevent⟩
    by_cases habout : x.event.about? = some id
    · rcases (mem_exchanges_about habout).mp hy with ⟨r, -, rfl⟩ | ⟨-, z, hz, rfl⟩
      · cases h
      · rcases Response.status?_of_hear h with hstatus | ⟨i, hevent⟩
        · exact hlater (ih hz hstatus)
        · rw [hevent] at habout
          obtain rfl : i = id := Option.some.inj habout
          exact ⟨x, List.mem_cons_self, hevent⟩
    · rw [exchanges_of_ne habout] at hy
      exact hlater (ih hy h)

/-- What is said of every request when it is sent for a call, and what further events do not change
unless they start the call anew, holds of the requests in the exchanges of the call. -/
theorem of_mem_exchanges {P : ClientLog → Nat → HttpRequest → Prop}
    (hcons : ∀ x before id r, (∀ call, x.event ≠ .start id call) → P before id r →
      P (x :: before) id r)
    {log : ClientLog} (h : Throughout (fun x before => ∀ r ∈ x.sent, ∃ id,
      x.event.about? = some id ∧ P (x :: before) id r) log)
    {y : Exchange} (hy : y ∈ exchanges log id) : P log id y.request := by
  induction log generalizing y with
  | nil => cases hy
  | cons x before ih =>
    obtain ⟨hx, hbefore⟩ := h
    by_cases habout : x.event.about? = some id
    · rcases (mem_exchanges_about habout).mp hy with ⟨r, hr, rfl⟩ | ⟨hstart, z, hz, rfl⟩
      · obtain ⟨id', habout', hP⟩ := hx r hr
        exact Option.some.inj (habout'.symm.trans habout) ▸ hP
      · exact hcons x before id z.request hstart (ih hbefore hz)
    · rw [exchanges_of_ne habout] at hy
      refine hcons x before id y.request (fun call hcall => habout ?_) (ih hbefore hy)
      rw [hcall]
      rfl

end ClientLog

end FilterFleet
