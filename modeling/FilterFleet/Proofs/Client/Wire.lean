import FilterFleet.Client.Wire
import FilterFleet.Proofs.Client.Log

/-!
# The log of a client on the wire

A `LoggedWire` is a client on the wire with everything that has happened to it: each event, what
came of it, and which requests were sent then. What the client was told is a log of its own
(`WireLog.told`), and with this log the client is one that has run by itself
(`LoggedWire.logged_run`), so that whatever holds of every run of a client holds on the wire.

What comes in addition are the requests that were sent again. Every request on the wire stems from
one that the client has sent itself: it is this request, or a node has answered with a redirect to
its address (`WireEntry.StemsFrom`). It is sent again for a call that still waits for the answer to
its own request, and at most ten times (`LoggedWire.Traced`).
-/

namespace FilterFleet

open Address ClientLog

/-- An event on the wire, what came of it, and the requests that were sent at it. -/
structure WireEntry where
  moment : Moment
  event : WireEvent
  handling : Handling
  sent : List HttpRequest

/-- All that has happened to a client on the wire, latest first. -/
abbrev WireLog := List WireEntry

/-- A client on the wire with its log. -/
structure LoggedWire where
  wire : WiredClient
  log : WireLog

/-! ## What the client was told -/

namespace WireLog

/-- What the client was told, and what it sent then. -/
def told : WireLog → ClientLog
  | [] => []
  | x :: before =>
    match x.handling with
    | .tell e => ⟨x.moment, e, x.sent⟩ :: told before
    | .resend _ => told before
    | .ignore => told before

/-- How often the request that a call has sent last was sent again. -/
def hops : WireLog → Nat → Nat
  | [], _ => 0
  | x :: before, id =>
    match x.handling with
    | .tell e => if e.about? = some id ∧ x.sent ≠ [] then 0 else hops before id
    | .resend d => if d.call = id then hops before id + 1 else hops before id
    | .ignore => hops before id

variable {x : WireEntry} {before : WireLog}

theorem hops_of_tell {e : ClientEvent} (h : x.handling = .tell e) (id : Nat) :
    hops (x :: before) id = if e.about? = some id ∧ x.sent ≠ [] then 0 else hops before id := by
  rw [hops, h]

theorem hops_of_resend {d : Dispatch} (h : x.handling = .resend d) (id : Nat) :
    hops (x :: before) id = if d.call = id then hops before id + 1 else hops before id := by
  rw [hops, h]

theorem told_append (later before : WireLog) :
    told (later ++ before) = told later ++ told before := by
  induction later with
  | nil => rfl
  | cons x rest ih =>
    rw [List.cons_append, told, told]
    split
    · rw [ih, List.cons_append]
    · exact ih
    · exact ih

/-- What the client was told came of an event on the wire. -/
theorem exists_of_mem_told {log : WireLog} {z : LogEntry} (hz : z ∈ told log) :
    ∃ x ∈ log, x.handling = .tell z.event := by
  induction log with
  | nil => cases hz
  | cons x before ih =>
    have hlater : z ∈ told before → ∃ x' ∈ x :: before, x'.handling = .tell z.event := fun h =>
      (ih h).imp fun _ hx => ⟨List.mem_cons_of_mem x hx.1, hx.2⟩
    rw [told] at hz
    split at hz
    · next e he =>
      rcases List.mem_cons.mp hz with rfl | hz
      · exact ⟨x, List.mem_cons_self, he⟩
      · exact hlater hz
    · exact hlater hz
    · exact hlater hz

end WireLog

open WireLog

namespace LoggedWire

/-- A client on the wire to which nothing has happened. -/
def fresh (c : NodeClient) : LoggedWire := ⟨⟨c, []⟩, []⟩

/-- What an event does. -/
def step (s : LoggedWire) (t : Moment) (e : WireEvent) : LoggedWire :=
  ⟨(s.wire.step t e).1, ⟨t, e, s.wire.handle e, (s.wire.step t e).2⟩ :: s.log⟩

/-- A run of events. -/
def run (s : LoggedWire) (events : List (Moment × WireEvent)) : LoggedWire :=
  events.foldl (fun s e => s.step e.1 e.2) s

/-- The requests that went out, first to last: their sessions, methods, addresses and bodies. -/
def requestsOut (s : LoggedWire) : List (Option String × Method × String × Option String) :=
  (s.log.reverse.flatMap (·.sent)).map fun r =>
    (r.sid, r.method, r.url.text, r.body.map Json.text)

/-- The client, with what it was told. -/
def logged (s : LoggedWire) : LoggedClient := ⟨s.wire.client, told s.log⟩

variable {s : LoggedWire} {t : Moment} {e : WireEvent}

theorem step_of_tell {e' : ClientEvent} (h : s.wire.handle e = .tell e') :
    s.step t e =
      ⟨(s.wire.tell t e').1, ⟨t, e, .tell e', (s.wire.client.step t e').2⟩ :: s.log⟩ := by
  simp only [step, WiredClient.step, h]
  rfl

theorem step_of_resend {d : Dispatch} (h : s.wire.handle e = .resend d) :
    s.step t e = ⟨s.wire.resend d, ⟨t, e, .resend d, [d.request]⟩ :: s.log⟩ := by
  simp only [step, WiredClient.step, h]

theorem step_of_ignore (h : s.wire.handle e = .ignore) :
    s.step t e = ⟨s.wire, ⟨t, e, .ignore, []⟩ :: s.log⟩ := by
  simp only [step, WiredClient.step, h]

/-- What the client is told is a step of its own. -/
theorem logged_step_of_tell {e' : ClientEvent} (h : s.wire.handle e = .tell e') :
    (s.step t e).logged = s.logged.step t e' := by
  rw [step_of_tell h]
  rfl

/-- A run on the wire is a run of the client, by what it was told. -/
theorem logged_run (s : LoggedWire) (events : List (Moment × WireEvent)) :
    ∃ events', (s.run events).logged = s.logged.run events' := by
  induction events generalizing s with
  | nil => exact ⟨[], rfl⟩
  | cons e rest ih =>
    obtain ⟨events', hrest⟩ := ih (s.step e.1 e.2)
    cases h : s.wire.handle e.2 with
    | tell e' =>
      rw [logged_step_of_tell h] at hrest
      exact ⟨(e.1, e') :: events', hrest⟩
    | resend d =>
      have hsame : (s.step e.1 e.2).logged = s.logged := by rw [step_of_resend h]; rfl
      rw [hsame] at hrest
      exact ⟨events', hrest⟩
    | ignore =>
      have hsame : (s.step e.1 e.2).logged = s.logged := by rw [step_of_ignore h]; rfl
      rw [hsame] at hrest
      exact ⟨events', hrest⟩

/-- What holds of every log of a client holds of what it is told on the wire. -/
theorem told_run {P : ClientLog → Prop} {c : NodeClient}
    (h : ∀ events, P ((⟨c, []⟩ : LoggedClient).run events).log)
    (events : List (Moment × WireEvent)) : P (told ((fresh c).run events).log) := by
  obtain ⟨events', hlogged⟩ := logged_run (fresh c) events
  have hlog : told ((fresh c).run events).log = ((fresh c).logged.run events').log :=
    congrArg LoggedClient.log hlogged
  exact hlog ▸ h events'

/-- What is said of every request that a client sends for a call holds, on the wire, of the requests
in the exchanges of the call at any time. -/
theorem holds_of_exchange {P : ClientLog → Nat → HttpRequest → Prop}
    (hcons : ∀ x before id r, (∀ call, x.event ≠ .start id call) → P before id r →
      P (x :: before) id r) {c : NodeClient}
    (h : ∀ events, Throughout (fun x before => ∀ r ∈ x.sent, ∃ id,
      x.event.about? = some id ∧ P (x :: before) id r) ((⟨c, []⟩ : LoggedClient).run events).log)
    {events : List (Moment × WireEvent)} {later before : WireLog}
    (hlog : ((fresh c).run events).log = later ++ before) {id : Nat} {y : Exchange}
    (hy : y ∈ exchanges (told before) id) : P (told before) id y.request := by
  have hrun := told_run h events
  rw [hlog, told_append] at hrun
  exact of_mem_exchanges hcons hrun.of_append hy

/-- What came of the events of a run is what `handle` says. -/
theorem handled_run (s : LoggedWire)
    (hs : ∀ x ∈ s.log, ∃ w : WiredClient, x.handling = w.handle x.event)
    (events : List (Moment × WireEvent)) :
    ∀ x ∈ (s.run events).log, ∃ w : WiredClient, x.handling = w.handle x.event := by
  induction events generalizing s with
  | nil => exact hs
  | cons e rest ih => exact ih (s.step e.1 e.2) (List.forall_mem_cons.mpr ⟨⟨s.wire, rfl⟩, hs⟩)

theorem exists_handle_of_mem {c : NodeClient} {events : List (Moment × WireEvent)} {x : WireEntry}
    (hx : x ∈ ((fresh c).run events).log) : ∃ w : WiredClient, x.handling = w.handle x.event :=
  handled_run (fresh c) (by simp [fresh]) events x hx

/-- The client is told of every start. -/
theorem told_of_start {c : NodeClient} {events : List (Moment × WireEvent)}
    {later before : WireLog} {x : WireEntry} {id : Nat} {call : NodeCall}
    (hlog : ((fresh c).run events).log = later ++ x :: before) (hx : x.event = .start id call) :
    told (x :: before) = ⟨x.moment, .start id call, x.sent⟩ :: told before := by
  have hmem : x ∈ ((fresh c).run events).log := by simp [hlog]
  obtain ⟨w, hw⟩ := exists_handle_of_mem hmem
  rw [hx] at hw
  rw [told, hw]
  rfl

end LoggedWire

/-! ## Requests that are sent again -/

/-- A request is another one, or redirects have made it of the other: session and node are the
same, and method and body are, or it is a plain `GET`. -/
structure HttpRequest.Follows (r origin : HttpRequest) : Prop where
  sid : r.sid = origin.sid
  node : r.node = origin.node
  form : r.method = origin.method ∧ r.body = origin.body ∨ r.method = .get ∧ r.body = none

theorem HttpRequest.follows_self (r : HttpRequest) : r.Follows r := ⟨rfl, rfl, .inl ⟨rfl, rfl⟩⟩

theorem HttpRequest.Follows.redirected {r origin : HttpRequest} (h : r.Follows origin)
    (status : UInt16) (url : Url) : (r.redirected status url).Follows origin := by
  unfold HttpRequest.redirected
  split
  · exact ⟨h.sid, h.node, h.form⟩
  · exact ⟨h.sid, h.node, .inr ⟨rfl, rfl⟩⟩

/-- A request that was sent at an entry for a call stems from one that the client has sent itself:
the client sends it then, or it is sent again because a node has answered with a redirect. -/
inductive WireEntry.StemsFrom (x : WireEntry) (id : Nat) (origin : HttpRequest) :
    HttpRequest → Prop where
  | own {e : ClientEvent} (hx : x.handling = .tell e) (habout : e.about? = some id) :
      StemsFrom x id origin origin
  | redirected {status : UInt16} {url : Url} {followed : Nat} {r : HttpRequest}
      (hx : x.event = .answer id status (some (.resource url))) (hstatus : redirects status = true)
      (hagain : x.handling = .resend ⟨id, r.redirected status url, followed⟩)
      (h : r.Follows origin) : StemsFrom x id origin (r.redirected status url)

theorem WireEntry.StemsFrom.follows {x : WireEntry} {id : Nat} {origin r : HttpRequest}
    (h : x.StemsFrom id origin r) : r.Follows origin := by
  cases h with
  | own _ _ => exact origin.follows_self
  | redirected _ _ _ h => exact h.redirected _ _

/-- What is sent when the client is told something it has sent itself. -/
theorem WireEntry.StemsFrom.of_tell {x : WireEntry} {id : Nat} {origin r : HttpRequest}
    (h : x.StemsFrom id origin r) {e : ClientEvent} (hx : x.handling = .tell e) :
    r = origin ∧ e.about? = some id := by
  cases h with
  | own hx' habout =>
    obtain rfl := Handling.tell.inj (hx.symm.trans hx')
    exact ⟨rfl, habout⟩
  | redirected _ _ hagain _ => cases hx.symm.trans hagain

/-- Every request that was sent at an entry stems from one that its call has sent, and the answer to
which it awaits. -/
def WireEntry.Stems (x : WireEntry) (before : WireLog) : Prop :=
  ∀ r ∈ x.sent, ∃ id origin, ⟨origin, .awaited⟩ ∈ exchanges (told (x :: before)) id ∧
    x.StemsFrom id origin r

/-! ## What is under way -/

namespace ClientEvent

theorem about?_of_settles? {e : ClientEvent} {id : Nat} (h : e.settles? = some id) :
    e.about? = some id := by
  cases e with
  | start _ _ | status _ _ | failure _ _ | abandon _ => exact h
  | proceed _ | body _ _ | configure _ => cases h

/-- Only an event that settles the request of a call ends the wait for its answer. -/
theorem hear_eq_awaited_iff {e : ClientEvent} {id : Nat} (habout : e.about? = some id)
    (hstart : ∀ call, e ≠ .start id call) (response : Response) :
    response.hear e = .awaited ↔ response = .awaited ∧ e.settles? ≠ some id := by
  cases e with
  | start i call =>
    obtain rfl : i = id := Option.some.inj habout
    exact absurd rfl (hstart call)
  | proceed _ | body _ _ => cases response <;> simp [Response.hear, settles?]
  | status _ _ | failure _ _ | abandon _ =>
    obtain rfl := Option.some.inj habout
    cases response <;> simp [Response.hear, settles?]
  | configure _ => cases habout

theorem not_start_of_settles? {e : ClientEvent} {id : Nat} (h : e.settles? ≠ some id) :
    ∀ call, e ≠ .start id call := by
  rintro call rfl
  exact h rfl

end ClientEvent

namespace WiredClient

variable {w : WiredClient} {t : Moment}

/-- What is under way after the client was told of an event: what it has sent then, and what was
under way before and is neither settled nor replaced. -/
theorem mem_tell {e : ClientEvent} {d : Dispatch} : d ∈ (w.tell t e).1.underway ↔
    (e.about? = some d.call ∧ ∃ r ∈ (w.client.step t e).2, d = ⟨d.call, r, 0⟩) ∨
      d ∈ w.underway ∧ e.settles? ≠ some d.call ∧
        ((w.client.step t e).2 = [] ∨ e.about? ≠ some d.call) := by
  have hown : d ∈ (e.about?.toList.flatMap fun id =>
      (w.client.step t e).2.map fun r => (⟨id, r, 0⟩ : Dispatch)) ↔
      e.about? = some d.call ∧ ∃ r ∈ (w.client.step t e).2, d = ⟨d.call, r, 0⟩ := by
    simp only [List.mem_flatMap, Option.mem_toList, List.mem_map]
    constructor
    · rintro ⟨id, habout, r, hr, rfl⟩
      exact ⟨habout, r, hr, rfl⟩
    · rintro ⟨habout, r, hr, hd⟩
      exact ⟨d.call, habout, r, hr, hd.symm⟩
  simp only [tell, List.mem_append, hown, List.mem_filter, Bool.and_eq_true, Bool.or_eq_true,
    bne_iff_ne, List.isEmpty_iff]

/-- A request is sent again when one is under way that has not been redirected too often, and is
answered with a redirect. -/
theorem of_handle_eq_resend {e : WireEvent} {d : Dispatch} (h : w.handle e = .resend d) :
    ∃ d₀ ∈ w.underway, ∃ status url, e = .answer d₀.call status (some (.resource url)) ∧
      redirects status = true ∧ d₀.followed < maxRedirects ∧
      d = ⟨d₀.call, d₀.request.redirected status url, d₀.followed + 1⟩ := by
  cases e with
  | answer id status location =>
    rw [handle] at h
    split at h
    · next d₀ hd₀ =>
      have hid : d₀.call = id := by simpa using List.find?_some hd₀
      unfold Dispatch.answered at h
      split at h
      · cases h
      · next place hplace =>
        obtain ⟨rfl, hfollowed⟩ := Option.filter_eq_some_iff.mp hplace
        obtain ⟨hstatus, -⟩ := Bool.and_eq_true_iff.mp hfollowed
        split at h
        · cases h
        · next hlt =>
          split at h
          · next url =>
            refine ⟨d₀, List.mem_of_find?_eq_some hd₀, status, url, by rw [hid], hstatus,
              Nat.lt_of_not_le hlt, (Handling.resend.inj h).symm⟩
          · cases h
    · cases h
  | outage id outage =>
    rw [handle] at h
    split at h <;> cases h
  | _ => cases h

/-- A call is handed a status when its request is answered with it. -/
theorem of_handle_eq_status {e : WireEvent} {id : Nat} {status : UInt16}
    (h : w.handle e = .tell (.status id status)) :
    ∃ location, e = .answer id status location := by
  cases e with
  | answer i s location =>
    rw [handle] at h
    split at h
    · next d hd =>
      have hid : d.call = i := by simpa using List.find?_some hd
      unfold Dispatch.answered at h
      split at h
      · obtain ⟨hcall, rfl⟩ := ClientEvent.status.inj (Handling.tell.inj h)
        exact ⟨location, by rw [← hid, hcall]⟩
      · split at h
        · cases h
        · split at h <;> cases h
    · cases h
  | outage i outage =>
    rw [handle] at h
    split at h <;> cases h
  | _ => cases h

end WiredClient

namespace LoggedWire

/-- What is under way is what the calls of the log wait for: each request stems from the one whose
answer its call awaits, it has been redirected as often as the log says, and nothing is sent again
more often than ten times. -/
structure Traced (s : LoggedWire) : Prop where
  origin : ∀ d ∈ s.wire.underway, ∃ y ∈ exchanges (told s.log) d.call,
    y.response = .awaited ∧ d.request.Follows y.request
  awaited : ∀ id, ∀ y ∈ exchanges (told s.log) id, y.response = .awaited →
    ∃ d ∈ s.wire.underway, d.call = id
  followed : ∀ d ∈ s.wire.underway, d.followed = hops s.log d.call
  bounded : ∀ id, hops s.log id ≤ maxRedirects

variable {s : LoggedWire} {t : Moment} {e : WireEvent}

theorem traced_fresh (c : NodeClient) : (fresh c).Traced :=
  ⟨by simp [fresh], by simp [fresh, told, exchanges], by simp [fresh], fun _ => Nat.zero_le _⟩

/-- An event that the client is told of. -/
theorem Traced.tell (h : s.Traced) {e' : ClientEvent} (htell : s.wire.handle e = .tell e') :
    (s.step t e).Traced := by
  rw [step_of_tell htell]
  refine ⟨fun d hd => ?_, fun id y hy hwait => ?_, fun d hd => ?_, fun id => ?_⟩
  · rcases WiredClient.mem_tell.mp hd with ⟨habout, r, hr, hnew⟩ | ⟨hold, hsettles, -⟩
    · refine ⟨⟨r, .awaited⟩, (mem_exchanges_about habout).mpr (.inl ⟨r, hr, rfl⟩), rfl, ?_⟩
      rw [hnew]
      exact r.follows_self
    · obtain ⟨y, hy, hwait, hfollows⟩ := h.origin d hold
      by_cases habout : e'.about? = some d.call
      · have hstart := ClientEvent.not_start_of_settles? hsettles
        refine ⟨y.hear e', (mem_exchanges_about habout).mpr (.inr ⟨hstart, y, hy, rfl⟩), ?_,
          hfollows⟩
        exact (ClientEvent.hear_eq_awaited_iff habout hstart _).mpr ⟨hwait, hsettles⟩
      · refine ⟨y, ?_, hwait, hfollows⟩
        rwa [told, exchanges_of_ne habout]
  · by_cases habout : e'.about? = some id
    · rcases (mem_exchanges_about habout).mp hy with ⟨r, hr, rfl⟩ | ⟨hstart, z, hz, rfl⟩
      · exact ⟨⟨id, r, 0⟩, WiredClient.mem_tell.mpr (.inl ⟨habout, r, hr, rfl⟩), rfl⟩
      · obtain ⟨hwait, hsettles⟩ := (ClientEvent.hear_eq_awaited_iff habout hstart _).mp hwait
        obtain ⟨d, hd, rfl⟩ := h.awaited id z hz hwait
        cases hsent : (s.wire.client.step t e').2 with
        | nil => exact ⟨d, WiredClient.mem_tell.mpr (.inr ⟨hd, hsettles, .inl hsent⟩), rfl⟩
        | cons r _ =>
          have hr : r ∈ (s.wire.client.step t e').2 := hsent ▸ List.mem_cons_self
          exact ⟨⟨d.call, r, 0⟩, WiredClient.mem_tell.mpr (.inl ⟨habout, r, hr, rfl⟩), rfl⟩
    · rw [told, exchanges_of_ne habout] at hy
      obtain ⟨d, hd, rfl⟩ := h.awaited id y hy hwait
      exact ⟨d, WiredClient.mem_tell.mpr (.inr ⟨hd, fun hsettles =>
        habout (ClientEvent.about?_of_settles? hsettles), .inr habout⟩), rfl⟩
  · rcases WiredClient.mem_tell.mp hd with ⟨habout, r, hr, hnew⟩ | ⟨hold, -, hkept⟩
    · have hsent := List.ne_nil_of_mem hr
      rw [hops_of_tell rfl, if_pos ⟨habout, hsent⟩, hnew]
    · have hquiet : ¬ (e'.about? = some d.call ∧ (s.wire.client.step t e').2 ≠ []) :=
        fun ⟨habout, hsent⟩ => hkept.elim hsent fun hne => hne habout
      rw [hops_of_tell rfl, if_neg hquiet]
      exact h.followed d hold
  · rw [hops_of_tell rfl]
    split
    · exact Nat.zero_le _
    · exact h.bounded id

/-- An answer that redirects. -/
theorem Traced.resend (h : s.Traced) {d : Dispatch} (hresend : s.wire.handle e = .resend d) :
    (s.step t e).Traced := by
  rw [step_of_resend hresend]
  obtain ⟨d₀, hd₀, status, url, -, -, hlt, rfl⟩ := WiredClient.of_handle_eq_resend hresend
  have hfollowed := h.followed d₀ hd₀
  refine ⟨fun d hd => ?_, fun id y hy hwait => ?_, fun d hd => ?_, fun id => ?_⟩
  · rcases List.mem_cons.mp hd with rfl | hd
    · obtain ⟨y, hy, hwait, hfollows⟩ := h.origin d₀ hd₀
      exact ⟨y, hy, hwait, hfollows.redirected status url⟩
    · exact h.origin d (List.mem_of_mem_filter hd)
  · obtain ⟨d, hd, rfl⟩ := h.awaited id y hy hwait
    by_cases hcall : d.call = d₀.call
    · exact ⟨_, List.mem_cons_self, hcall.symm⟩
    · exact ⟨d, List.mem_cons_of_mem _ (List.mem_filter.mpr ⟨hd, by simpa using hcall⟩), rfl⟩
  · rcases List.mem_cons.mp hd with rfl | hd
    · rw [hops_of_resend rfl, if_pos rfl, hfollowed]
    · obtain ⟨hd, hcall⟩ := List.mem_filter.mp hd
      have hne : ¬ d₀.call = d.call := fun heq => by simp [heq] at hcall
      rw [hops_of_resend rfl, if_neg hne]
      exact h.followed d hd
  · rw [hops_of_resend rfl]
    split
    · next hcall =>
      have hid : hops s.log id = d₀.followed := by rw [hfollowed, hcall]
      omega
    · exact h.bounded id

theorem Traced.step (h : s.Traced) (t : Moment) (e : WireEvent) : (s.step t e).Traced := by
  cases hhandle : s.wire.handle e with
  | tell e' => exact h.tell hhandle
  | resend d => exact h.resend hhandle
  | ignore =>
    rw [step_of_ignore hhandle]
    exact ⟨h.origin, h.awaited, h.followed, h.bounded⟩

/-- Every request that is sent stems from one that its call has sent. -/
theorem Traced.stems (h : s.Traced) (t : Moment) (e : WireEvent) :
    WireEntry.Stems ⟨t, e, s.wire.handle e, (s.wire.step t e).2⟩ s.log := by
  intro r hr
  cases hhandle : s.wire.handle e with
  | tell e' =>
    have hsent : (s.wire.step t e).2 = (s.wire.client.step t e').2 := by
      simp only [WiredClient.step, hhandle]
      rfl
    rw [hsent] at hr ⊢
    obtain ⟨id, habout⟩ : ∃ id, e'.about? = some id := by
      cases e' with
      | configure _ => cases hr
      | _ => exact ⟨_, rfl⟩
    exact ⟨id, r, (mem_exchanges_about habout).mpr (.inl ⟨r, hr, rfl⟩), .own rfl habout⟩
  | resend d =>
    have hsent : (s.wire.step t e).2 = [d.request] := by simp only [WiredClient.step, hhandle]
    rw [hsent] at hr
    obtain rfl := List.mem_singleton.mp hr
    obtain ⟨d₀, hd₀, status, url, rfl, hstatus, -, rfl⟩ :=
      WiredClient.of_handle_eq_resend hhandle
    obtain ⟨⟨origin, response⟩, hy, rfl, hfollows⟩ := h.origin d₀ hd₀
    exact ⟨d₀.call, origin, hy, .redirected rfl hstatus rfl hfollows⟩
  | ignore =>
    have hsent : (s.wire.step t e).2 = [] := by simp only [WiredClient.step, hhandle]
    rw [hsent] at hr
    cases hr

/-- What each step keeps while what is under way is traced, a whole run keeps. -/
theorem Traced.run_induction {P : LoggedWire → Prop} (h : s.Traced) (hs : P s)
    (hstep : ∀ s : LoggedWire, s.Traced → P s → ∀ t e, P (s.step t e))
    (events : List (Moment × WireEvent)) : P (s.run events) := by
  induction events generalizing s with
  | nil => exact hs
  | cons e rest ih => exact ih (h.step e.1 e.2) (hstep s h hs e.1 e.2)

/-- In every run what is under way is traced. -/
theorem traced_run (c : NodeClient) (events : List (Moment × WireEvent)) :
    ((fresh c).run events).Traced :=
  (traced_fresh c).run_induction (traced_fresh c) (fun _ h _ t e => h.step t e) events

/-- In every run every request stems from one that its call has sent. -/
theorem stems_run (c : NodeClient) (events : List (Moment × WireEvent)) :
    Throughout WireEntry.Stems ((fresh c).run events).log :=
  (traced_fresh c).run_induction (P := fun s => Throughout WireEntry.Stems s.log) trivial
    (fun _ h hlog t e => ⟨h.stems t e, hlog⟩) events

/-- A status that has come back in an exchange of a call is that of an answer, which was handed to
the call. -/
theorem answer_of_status? {c : NodeClient} {events : List (Moment × WireEvent)} {id : Nat}
    {y : Exchange} (hy : y ∈ exchanges (told ((fresh c).run events).log) id) {status : UInt16}
    (h : y.response.status? = some status) :
    ∃ x ∈ ((fresh c).run events).log, ∃ location, x.event = .answer id status location ∧
      x.handling = .tell (.status id status) := by
  obtain ⟨z, hz, hevent⟩ := exists_of_status? hy h
  obtain ⟨x, hx, hhandling⟩ := exists_of_mem_told hz
  rw [hevent] at hhandling
  obtain ⟨w, hw⟩ := exists_handle_of_mem hx
  obtain ⟨location, hanswer⟩ := WiredClient.of_handle_eq_status (hw.symm.trans hhandling)
  exact ⟨x, hx, location, hanswer, hhandling⟩

/-- An answer that does not redirect is handed to the call that awaits it. -/
theorem Traced.handle_answer (h : s.Traced) {id : Nat} {r : HttpRequest}
    (hr : ⟨r, .awaited⟩ ∈ exchanges (told s.log) id) {status : UInt16}
    (hstatus : redirects status = false) (location : Option Location) :
    s.wire.handle (.answer id status location) = .tell (.status id status) := by
  obtain ⟨d, hd, hcall⟩ := h.awaited id _ hr rfl
  cases hfind : s.wire.dispatch? id with
  | none => exact absurd hcall (by simpa using List.find?_eq_none.mp hfind d hd)
  | some d =>
    obtain rfl : d.call = id := by simpa using List.find?_some hfind
    have hhanded : location.filter (fun place => redirects status && place.canBeNamed) = none := by
      simp [hstatus]
    simp only [WiredClient.handle, hfind, Dispatch.answered, hhanded]

end LoggedWire

/-- A resource at another host, for answers to lead to. -/
def elsewhere : Url :=
  { scheme := .http
    credentials := none
    host := ['b', '.', 'l', 'a', 'n']
    port := none
    path := [['i', 'n']]
    query := none
    fragment := none }

end FilterFleet
