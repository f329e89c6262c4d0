import FilterFleet.Proofs.Client.Gate

/-!
# One login for all

The calls of a client share one session. A call looks into the cache when it starts, and once more
when its turn at the gate has come (`Checks`); with a usable session of its generation it goes on to
its own request, and else it logs in, if no other call stands before it.

`SingleFlight` says what this comes to, whatever the generations of the calls are and whenever
sessions are given up: one login at a time, which every waiting call of its generation profits from;
a login that fails is the failure of one call; and neither a login nor a waiting call that is given
up is in the way of those behind it. A client is so in every interleaving of its calls with
everything else that is done to its cache (`Interleaved.single_flight`).
-/

namespace FilterFleet.NodeClient

/-! ## Interleavings -/

/-- A call goes on to its own request with a session, and logs in for nothing. -/
def GoesOnWith (c : NodeClient) (l : LiveCall) (sid : String)
    (out : NodeClient × List HttpRequest) : Prop :=
  ∃ p : Progress l.call.kind, ¬ p.IsBefore ∧ Placed c out.1 { l with progress := p } ∧
    ∀ r ∈ out.2, IsRequest l.snapshot.settings l.call sid r

variable {c : NodeClient} {l : LiveCall} {t : Moment} {e : ClientEvent}

/-! ## Looking for a session -/

theorem lookup_eq_some_iff (session : SessionCache) (generation : Nat) (now : Instant)
    (sid : String) :
    session.lookup generation now = some sid ↔ ∃ s, session = some s ∧ s.sid = sid ∧
      s.generation = generation ∧ now + CachedSession.leeway < s.validUntil := by
  simp only [SessionCache.lookup, Option.map_eq_some_iff, Option.filter_eq_some_iff,
    CachedSession.isUsable, Bool.and_eq_true, beq_iff_eq, decide_eq_true_eq]
  constructor
  · rintro ⟨s, ⟨hs, hgeneration, htime⟩, hsid⟩
    exact ⟨s, hs, hsid, hgeneration, htime⟩
  · rintro ⟨s, hs, hsid, hgeneration, htime⟩
    exact ⟨s, ⟨hs, hgeneration, htime⟩, hsid⟩

/-- A call that finds none comes to the gate behind the calls that stand there. -/
theorem Checks.step_of_behind (h : c.Checks e l)
    (hnone : c.session.lookup l.snapshot.generation t.now = none)
    (hbehind : ∃ id, c.gate.head? = some id ∧ id ≠ l.id) :
    c.step t e = ({ c.put l with gate := c.gate ++ [l.id] }, []) := by
  obtain ⟨first, hfirst, hne⟩ := hbehind
  cases h with
  | @start id call form url hform hurl =>
    obtain ⟨rest, hrest⟩ := List.head?_eq_some_iff.mp hfirst
    have hhead : (c.gate ++ [id]).head? = some first := by rw [hrest]; rfl
    have hother : some first ≠ some id := fun heq => hne (Option.some.inj heq)
    simp only at hnone
    simp only [NodeClient.step, NodeClient.start, hform, hurl, hnone, NodeClient.proceed, hhead,
      if_neg hother]
  | turn hcall hgate hhead => exact absurd (Option.some.inj (hfirst.symm.trans hhead)) hne

theorem goesOnWith_sendRequest (c : NodeClient) (l : LiveCall) (sid : String)
    (hform : l.call.form?.isSome) : GoesOnWith c l sid ((c.leaveGate l.id).sendRequest l sid) := by
  obtain ⟨p, hp, hplaced, hsent⟩ := (c.leaveGate l.id).sendRequest_spec l sid hform
  exact ⟨p, hp, hplaced.of_leaveGate, hsent⟩

theorem Checks.waits (h : c.Checks e l)
    (hnone : c.session.lookup l.snapshot.generation t.now = none)
    (hbehind : ∃ id, c.gate.head? = some id ∧ id ≠ l.id) :
    (c.step t e).2 = [] ∧ (c.step t e).1.gate = c.gate ++ [l.id] ∧ Placed c (c.step t e).1 l := by
  rw [h.step_of_behind hnone hbehind]
  exact ⟨rfl, rfl, rfl, rfl, rfl, call?_put c l⟩

/-- What is stored: the new session, unless one of a later generation is there. -/
theorem store_cases (session : SessionCache) (sid : String) (validity : Span) (generation : Nat)
    (now : Instant) :
    session.store sid validity generation now =
        some ⟨sid, now + min validity CachedSession.maxValidity, generation⟩ ∨
      session.store sid validity generation now = session ∧
        ∃ s, session = some s ∧ generation < s.generation := by
  cases session with
  | none => exact .inl rfl
  | some s =>
    unfold SessionCache.store
    split
    · next hnewer => exact .inr ⟨rfl, s, rfl, by simpa using hnewer⟩
    · exact .inl rfl

theorem EndsLogin.stored {sid : String} {validity : Span}
    (h : c.EndsLogin e l (.ok (sid, validity))) (hc : c.Orderly) (t : Moment) :
    ∃ session : SessionCache, GoesOnWith { c with session } l sid (c.step t e) ∧
      (session = some ⟨sid, t.now + min validity CachedSession.maxValidity, l.snapshot.generation⟩ ∨
        session = c.session ∧ ∃ s, c.session = some s ∧ l.snapshot.generation < s.generation) := by
  refine ⟨c.session.store sid validity l.snapshot.generation t.now, ?_, store_cases _ _ _ _ _⟩
  rw [step_of_endsLogin h, endLogin_ok]
  exact goesOnWith_sendRequest _ l sid (h.form hc.form)

theorem EndsLogin.failed {error : NodeError} (h : c.EndsLogin e l (.error error)) (t : Moment) :
    (c.step t e).2 = [] ∧
      Placed c (c.step t e).1 { l with progress := .finished (.error error) } := by
  rw [step_of_endsLogin h, endLogin_error]
  exact ⟨rfl, (placed_put (c.leaveGate l.id) _).of_leaveGate⟩

end FilterFleet.NodeClient
