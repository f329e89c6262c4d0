import FilterFleet.Proofs.Client.Step

/-!
# The gate of a client

The calls that found no usable session stand at the gate in the order in which they came, and only
the first may log in. A client is `Orderly` when the gate holds just the calls that have not come to
their own requests, each of them once, and a call that logs in stands at the front. Whatever happens
to a client keeps it so (`Orderly.step`), the giving up of calls included: a call that is given up
leaves the gate, and those behind it move up in their order.
-/

namespace FilterFleet

/-- The call waits for an answer to its login. -/
def Progress.IsLogin {kind : CallKind} : Progress kind → Prop
  | .atGate => False
  | .loginSent => True
  | .loginAnswered _ => True
  | .sent _ => False
  | .answered _ => False
  | .finished _ => False

theorem Progress.IsLogin.isBefore {kind : CallKind} {p : Progress kind} (h : p.IsLogin) :
    p.IsBefore := by
  cases p with
  | loginSent | loginAnswered _ => trivial
  | atGate | sent _ | answered _ | finished _ => exact h.elim

instance {kind : CallKind} : DecidablePred (@Progress.IsLogin kind)
  | .atGate | .sent _ | .answered _ | .finished _ => .isFalse fun h => h
  | .loginSent | .loginAnswered _ => .isTrue trivial

namespace NodeClient

/-- A call that starts has an id of its own. -/
def Names (c : NodeClient) (e : ClientEvent) : Prop :=
  ∀ id call, e = .start id call → c.call? id = none

/-- The gate holds the calls that have not come to their own requests, and a call that logs in
stands at its front. -/
structure Orderly (c : NodeClient) : Prop where
  unique : (c.calls.map LiveCall.id).Nodup
  once : c.gate.Nodup
  waits : ∀ id, id ∈ c.gate ↔ ∃ l, c.call? id = some l ∧ l.progress.IsBefore
  front : ∀ id l, c.call? id = some l → l.progress.IsLogin → c.gate.head? = some id
  form : c.Formed

variable {c : NodeClient} {l : LiveCall}

theorem call?_put (c : NodeClient) (l : LiveCall) (id : Nat) :
    (c.put l).call? id = if l.id = id then some l else c.call? id :=
  (placed_put c l).call id

theorem leaveGate_of_notMem {id : Nat} (h : id ∉ c.gate) : c.leaveGate id = c := by
  have hgate : c.gate.filter (· != id) = c.gate := by
    refine List.filter_eq_self.mpr fun i hi => ?_
    have hne : i ≠ id := fun heq => h (heq ▸ hi)
    simpa using hne
  rw [leaveGate, hgate]

theorem nodup_ids_put (h : (c.calls.map LiveCall.id).Nodup) (l : LiveCall) :
    ((c.put l).calls.map LiveCall.id).Nodup := by
  refine List.nodup_cons.mpr ⟨?_, h.sublist (List.filter_sublist.map _)⟩
  simp

/-! ## One call moves -/

namespace Orderly

theorem notMem_of_new (h : c.Orderly) {id : Nat} (hnew : c.call? id = none) : id ∉ c.gate := by
  rw [h.waits, hnew]
  rintro ⟨l, hl, -⟩
  cases hl

theorem notMem_of_notBefore (h : c.Orderly) {id : Nat} (hcall : c.call? id = some l)
    (hp : ¬ l.progress.IsBefore) : id ∉ c.gate := by
  rw [h.waits]
  rintro ⟨l', hl', hbefore⟩
  obtain rfl := Option.some.inj (hcall.symm.trans hl')
  exact hp hbefore

/-- The order is about the gate and the calls alone. -/
theorem of_same (h : c.Orderly) {c' : NodeClient} (hgate : c'.gate = c.gate)
    (hcalls : c'.calls = c.calls) : c'.Orderly := by
  have hcall : c'.call? = c.call? := by
    funext id
    rw [call?, call?, hcalls]
  refine ⟨hcalls ▸ h.unique, hgate ▸ h.once, ?_, ?_, ?_⟩
  · rw [hgate, hcall]
    exact h.waits
  · rw [hgate, hcall]
    exact h.front
  · rw [Formed, hcall]
    exact h.form

/-- A call leaves the gate: it has come to its own request, or it is there no more. -/
theorem withdraw (h : c.Orderly) {c' : NodeClient} {id : Nat} {o : Option LiveCall}
    (hunique : (c'.calls.map LiveCall.id).Nodup) (hgate : c'.gate = c.gate.filter (· != id))
    (hcall : ∀ i, c'.call? i = if id = i then o else c.call? i)
    (ho : ∀ l, o = some l → ¬ l.progress.IsBefore) : c'.Orderly := by
  have hold : ∀ i l, c'.call? i = some l → l.progress.IsBefore → id ≠ i ∧ c.call? i = some l := by
    intro i l hl hbefore
    rw [hcall] at hl
    split at hl
    · exact absurd hbefore (ho l hl)
    · next hne => exact ⟨hne, hl⟩
  refine ⟨hunique, hgate ▸ h.once.filter _, fun i => ⟨fun hi => ?_, ?_⟩,
    fun i l hl hlogin => ?_, fun i l hl hbefore => h.form i l (hold i l hl hbefore).2 hbefore⟩
  · rw [hgate, List.mem_filter] at hi
    have hne : id ≠ i := fun heq => by simp [heq] at hi
    rw [hcall, if_neg hne]
    exact (h.waits i).mp hi.1
  · rintro ⟨l, hl, hbefore⟩
    obtain ⟨hne, hl⟩ := hold i l hl hbefore
    rw [hgate, List.mem_filter]
    exact ⟨(h.waits i).mpr ⟨l, hl, hbefore⟩, by simpa using hne.symm⟩
  · obtain ⟨hne, hl⟩ := hold i l hl hlogin.isBefore
    obtain ⟨rest, hrest⟩ := List.head?_eq_some_iff.mp (h.front i l hl hlogin)
    rw [hgate, hrest, List.filter_cons_of_pos (by simpa using hne.symm)]
    rfl

theorem leave (h : c.Orderly) (hp : ¬ l.progress.IsBefore) :
    ((c.leaveGate l.id).put l).Orderly := by
  refine h.withdraw (nodup_ids_put h.unique l) rfl (call?_put (c.leaveGate l.id) l) ?_
  rintro _ ⟨⟩
  exact hp

/-- A call that does not stand at the gate moves on. -/
theorem settle (h : c.Orderly) (hp : ¬ l.progress.IsBefore) (hmem : l.id ∉ c.gate) :
    (c.put l).Orderly := by
  have hleave := h.leave hp
  rwa [leaveGate_of_notMem hmem] at hleave

/-- A call at the gate stays there; it may log in at the front. -/
theorem hold (h : c.Orderly) (hmem : l.id ∈ c.gate) (hp : l.progress.IsBefore)
    (hform : l.call.form?.isSome) (hlogin : l.progress.IsLogin → c.gate.head? = some l.id) :
    (c.put l).Orderly := by
  have hcall := call?_put c l
  refine ⟨nodup_ids_put h.unique l, h.once, fun i => ?_, fun i l' hl' hlogin' => ?_,
    fun i l' hl' hbefore => ?_⟩
  · rw [hcall]
    split
    · next hid => exact ⟨fun _ => ⟨l, rfl, hp⟩, fun _ => hid ▸ hmem⟩
    · exact h.waits i
  · rw [hcall] at hl'
    split at hl'
    · next hid =>
      obtain rfl := Option.some.inj hl'
      exact hid ▸ hlogin hlogin'
    · exact h.front i l' hl' hlogin'
  · rw [hcall] at hl'
    split at hl'
    · obtain rfl := Option.some.inj hl'
      exact hform
    · exact h.form i l' hl' hbefore

/-- A call comes to the gate, where it stands last. -/
theorem join (h : c.Orderly) (hnew : c.call? l.id = none) (hp : l.progress = .atGate)
    (hform : l.call.form?.isSome) : Orderly { c.put l with gate := c.gate ++ [l.id] } := by
  have hout := h.notMem_of_new hnew
  have hcall : ∀ i, NodeClient.call? { c.put l with gate := c.gate ++ [l.id] } i =
      if l.id = i then some l else c.call? i := call?_put c l
  refine ⟨nodup_ids_put h.unique l, List.nodup_append.mpr ⟨h.once, List.nodup_singleton _, ?_⟩,
    fun i => ?_, fun i l' hl' hlogin => ?_, fun i l' hl' hbefore => ?_⟩
  · intro i hi j hj heq
    obtain rfl := List.mem_singleton.mp hj
    exact hout (heq ▸ hi)
  · rw [hcall, List.mem_append, List.mem_singleton, h.waits]
    split
    · next hid => exact ⟨fun _ => ⟨l, rfl, by rw [hp]; trivial⟩, fun _ => .inr hid.symm⟩
    · next hid => exact ⟨fun hi => hi.resolve_right (Ne.symm hid), .inl⟩
  · rw [hcall] at hl'
    split at hl'
    · obtain rfl := Option.some.inj hl'
      rw [hp] at hlogin
      exact hlogin.elim
    · obtain ⟨rest, hrest⟩ := List.head?_eq_some_iff.mp (h.front i l' hl' hlogin)
      simp [hrest]
  · rw [hcall] at hl'
    split at hl'
    · obtain rfl := Option.some.inj hl'
      exact hform
    · exact h.form i l' hl' hbefore

/-! ## What the functions of a step do to the order -/

theorem sendRequest (h : c.Orderly) (l : LiveCall) (sid : String) (hform : l.call.form?.isSome) :
    ((c.leaveGate l.id).sendRequest l sid).1.Orderly := by
  obtain ⟨p, hp, heq, -⟩ := (c.leaveGate l.id).sendRequest_eq l sid hform
  rw [heq]
  exact h.leave (l := { l with progress := p }) hp

theorem sendLogin (h : c.Orderly) {l : LiveCall} (hfront : c.gate.head? = some l.id)
    (hform : l.call.form?.isSome) : (c.sendLogin l).1.Orderly := by
  rcases c.sendLogin_eq l with ⟨r, heq, -⟩ | ⟨e, heq⟩
  · rw [heq]
    exact h.hold (l := { l with progress := .loginSent }) (List.mem_of_head? hfront) trivial hform
      fun _ => hfront
  · rw [heq]
    exact h.leave (l := { l with progress := .finished (.error e) }) fun h => h

theorem proceed (h : c.Orderly) (l : LiveCall) (now : Instant) (hform : l.call.form?.isSome) :
    (c.proceed l now).1.Orderly := by
  unfold NodeClient.proceed
  split
  · next hfront =>
    split
    · next sid _ => exact h.sendRequest l sid hform
    · exact h.sendLogin hfront hform
  · exact h

/-- A call that looks for a session goes on with it, comes to the gate, or logs in. -/
theorem checks (h : c.Orderly) {e : ClientEvent} (he : c.Names e) (hl : c.Checks e l) (t : Moment) :
    (c.step t e).1.Orderly := by
  have hform := hl.form h.form
  cases hl with
  | @start id call form url hsome hurl =>
    have hnew := he id call rfl
    simp only [NodeClient.step, NodeClient.start, hsome, hurl]
    split
    · next sid _ =>
      have hsend := h.sendRequest ⟨id, call, c.current, .atGate⟩ sid hform
      rwa [leaveGate_of_notMem (h.notMem_of_new hnew)] at hsend
    · exact (h.join (l := ⟨id, call, c.current, .atGate⟩) hnew rfl hform).proceed _ t.now hform
  | turn hcall hgate _ =>
    simp only [NodeClient.step, hcall, hgate]
    exact h.proceed l t.now hform

theorem endLogin (h : c.Orderly) (l : LiveCall) (result : Except NodeError (String × Span))
    (now : Instant) (hform : l.call.form?.isSome) : (c.endLogin l result now).1.Orderly := by
  cases result with
  | error e => exact h.leave (l := { l with progress := .finished (.error e) }) fun h => h
  | ok login =>
    obtain ⟨sid, validity⟩ := login
    have hstored : Orderly
        { c with session := c.session.store sid validity l.snapshot.generation now } :=
      h.of_same rfl rfl
    rw [endLogin_ok]
    exact hstored.sendRequest l sid hform

theorem abandon (h : c.Orderly) (id : Nat) :
    Orderly { c.leaveGate id with calls := c.calls.filter fun l => l.id != id } := by
  refine h.withdraw (o := none) (h.unique.sublist (List.filter_sublist.map _)) rfl
    (fun i => find?_filter_key LiveCall.id id i c.calls) ?_
  rintro _ ⟨⟩

/-- Whatever happens keeps the order. -/
theorem step (h : c.Orderly) (t : Moment) {e : ClientEvent} (he : c.Names e) :
    (c.step t e).1.Orderly := by
  cases c.step_cases t e with
  | idle hstep =>
    rw [hstep]
    exact h
  | logout id hstep =>
    obtain ⟨p, hp, heq, -⟩ := c.startLogout_eq id
    have hcleared : Orderly { c with session := none } := h.of_same rfl rfl
    rw [hstep, heq]
    exact hcleared.settle hp (h.notMem_of_new (he id _ rfl))
  | @refused id call error hstep =>
    rw [hstep]
    exact h.settle (fun h => h) (h.notMem_of_new (he id call rfl))
  | checks hl => exact h.checks he hl t
  | @loginAnswered id l status hcall hsent hstep =>
    obtain rfl := id_of_call? hcall
    have hbefore : l.progress.IsBefore := by rw [hsent]; trivial
    have hlogin : l.progress.IsLogin := by rw [hsent]; trivial
    rw [hstep]
    exact h.hold (l := { l with progress := .loginAnswered status })
      ((h.waits l.id).mpr ⟨l, hcall, hbefore⟩) trivial (h.form l.id l hcall hbefore)
      fun _ => h.front l.id l hcall hlogin
  | @endsLogin e l result hends =>
    rw [step_of_endsLogin hends]
    exact h.endLogin l result t.now (hends.form h.form)
  | @answered id l sid status hcall hsent hstep =>
    obtain rfl := id_of_call? hcall
    obtain ⟨session, p, hp, heq, -⟩ := c.onStatus_eq l sid status t.stamp
    have hfreed : Orderly { c with session } := h.of_same rfl rfl
    rw [hstep, heq]
    exact hfreed.settle (l := { l with progress := p }) hp
      (h.notMem_of_notBefore hcall (by rw [hsent]; exact fun h => h))
  | @finished e id l outcome hcall hbefore hstep =>
    obtain rfl := id_of_call? hcall
    rw [hstep]
    exact h.settle (l := { l with progress := .finished outcome }) (fun h => h)
      (h.notMem_of_notBefore hcall hbefore)
  | abandon id => exact h.abandon id
  | configure settings => exact h.of_same rfl rfl

end Orderly

end NodeClient

end FilterFleet
