import FilterFleet.Proofs.Events.Mailbox
import FilterFleet.Proofs.Events.Registry

/-!
# Delivery through mailboxes

A broker keeps shared lists of subscribers, and yet each of its subscriptions is served as if it had a
mailbox of its own, which only its own errands touch (`Served`). So a subscription receives the
events that its mailbox took, in the order in which they were published (`Fifo`), publishing reaches as
many subscriptions as there are mailboxes that take the event, and what a subscription finds depends
on nothing but its own errands (`delivery_exact`).
-/

namespace FilterFleet

open Broker Broker.History Errands

/-- The subscription that a mailbox belongs to. -/
def Mailbox.subscription (id : Nat) (m : Mailbox) : Subscription :=
  ⟨id, topicSet m.topics, m.queue, !m.listening⟩

theorem Mailbox.accepts_subscription (capacity : Nat) (e : Event) (id : Nat) (m : Mailbox) :
    (!(m.subscription id).cancelled && (m.subscription id).topics.contains e.topic &&
      decide ((m.subscription id).queue.length < capacity)) = m.takes capacity e := by
  have htopic : (topicSet m.topics).contains e.topic = m.topics.contains e.topic := by
    rw [Bool.eq_iff_iff, List.contains_iff_mem, List.contains_iff_mem]
    exact mem_topicSet e.topic m.topics
  show (!!m.listening && (topicSet m.topics).contains e.topic && _) = _
  rw [Bool.not_not, htopic]
  rfl

theorem Mailbox.offer_subscription (capacity : Nat) (e : Event) (id : Nat) (m : Mailbox) :
    offer capacity e (m.subscription id) =
      Mailbox.subscription id
        (if m.takes capacity e then { m with queue := m.queue ++ [e] } else m) := by
  rw [offer, m.accepts_subscription]
  split <;> rfl

/-! ## Looking up subscriptions -/

namespace Broker

theorem subscription?_mapSubscriptions (b : Broker) {f : Subscription → Subscription}
    (hf : ∀ s, (f s).id = s.id) (id : Nat) :
    (b.mapSubscriptions f).subscription? id = (b.subscription? id).map f := by
  rw [subscription?, mapSubscriptions, List.find?_map, subscription?]
  congr 2
  funext s
  rw [Function.comp_apply, hf]

theorem subscription?_subscribed {b : Broker} (h : Coherent b) (topics : List String) (id : Nat) :
    (b.subscribed topics).subscription? id =
      if b.nextId = id then some (b.newcomer topics) else b.subscription? id := by
  rw [subscription?, subscribed, List.find?_append, subscription?]
  by_cases hid : b.nextId = id
  · subst hid
    have hnone : (b.subscriptions.find? fun s => s.id == b.nextId) = none := by
      refine List.find?_eq_none.mpr fun s hs => ?_
      simpa using Nat.ne_of_lt (h.fresh s hs)
    simp [hnone, newcomer]
  · simp [hid, newcomer]

/-- Changing the subscription of an id leaves the others alone. -/
theorem Coherent.subscription?_modify {b : Broker} (h : Coherent b) (id : Nat)
    {f : Subscription → Subscription} (hf : ∀ s, (f s).id = s.id) (other : Nat) :
    (b.modify id f).subscription? other =
      if id = other then (b.subscription? other).map f else b.subscription? other := by
  have hmap := b.subscription?_mapSubscriptions
    (f := fun s => if s.id == id then f s else s) (fun s => by split <;> simp [hf]) other
  refine hmap.trans ?_
  cases hs : b.subscription? other with
  | none => simp
  | some s =>
    obtain ⟨-, rfl⟩ := h.subscription?_eq_some_iff.mp hs
    by_cases hid : id = s.id
    · simp [hid]
    · simp [hid, Ne.symm hid]

theorem Coherent.subscription?_cancel {b : Broker} (h : Coherent b) (id other : Nat) :
    (b.cancel id).subscription? other =
      if id = other then (b.subscription? other).map fun s => { s with cancelled := true }
      else b.subscription? other := by
  rcases h.cancel_cases id with ⟨hnot, heq⟩ | ⟨s, -, rfl, heq⟩
  · rw [heq]
    split
    · next hid =>
      subst hid
      cases hs : b.subscription? id with
      | none => rfl
      | some s =>
        -- it was cancelled before
        have hcancelled : s.cancelled = true := by
          by_contra hlive
          exact hnot ((h.mem_liveIds_iff id).mpr ⟨s, hs, by simpa using hlive⟩)
        rw [Option.map_some, ← hcancelled]
    · rfl
  · rw [heq]
    exact h.subscription?_modify s.id (f := fun s => { s with cancelled := true }) (fun _ => rfl)
      other

theorem Coherent.subscription?_drop {b : Broker} (h : Coherent b) (id other : Nat) :
    (b.drop id).subscription? other = if id = other then none else b.subscription? other := by
  have hfilter := find?_filter_key Subscription.id id other (b.cancel id).subscriptions
  rw [drop_eq]
  refine hfilter.trans ?_
  split
  · rfl
  · next hne => exact (h.subscription?_cancel id other).trans (if_neg hne)

theorem Coherent.subscription?_receive {b : Broker} (h : Coherent b) (id other : Nat) :
    (b.receive id).2.subscription? other =
      if id = other then (b.subscription? other).map fun s => { s with queue := s.queue.tail }
      else b.subscription? other := by
  rw [receive]
  split
  · next hnone =>
    split
    · next hid => rw [← hid, hnone, Option.map_none]
    · rfl
  · next s hs =>
    split
    · next e rest hqueue =>
      refine (h.subscription?_modify id (f := fun s => { s with queue := rest }) (fun _ => rfl)
        other).trans ?_
      split
      · next hid => rw [← hid, hs, Option.map_some, Option.map_some, hqueue, List.tail_cons]
      · rfl
    · next hqueue =>
      show b.subscription? other = if id = other then _ else _
      split
      · next hid => rw [← hid, hs, Option.map_some, hqueue, List.tail_nil, ← hqueue]
      · rfl

/-- What a subscription finds is what its mailbox holds. -/
theorem fst_receive {b : Broker} {id : Nat} {m : Mailbox}
    (h : b.subscription? id = some (m.subscription id)) : (b.receive id).1 = m.receipt := by
  have hclosed : (m.subscription id).isClosed = !(m.listening && !m.topics.isEmpty) := by
    have hempty : (topicSet m.topics).isEmpty = m.topics.isEmpty := by
      rw [Bool.eq_iff_iff, List.isEmpty_iff, List.isEmpty_iff]
      exact topicSet_eq_nil m.topics
    simp [Subscription.isClosed, Mailbox.subscription, hempty]
  have hsame : (m.subscription id).queue = m.queue := rfl
  rw [receive, h, Mailbox.receipt]
  cases hqueue : m.queue with
  | nil =>
    simp only [hsame, hqueue, hclosed]
    cases (m.listening && !m.topics.isEmpty) <;> rfl
  | cons e rest => simp only [hsame, hqueue]

end Broker

theorem Broker.capacity_cancel (b : Broker) (id : Nat) : (b.cancel id).capacity = b.capacity := by
  unfold cancel
  split
  · rfl
  · split <;> rfl

theorem Broker.capacity_perform (b : Broker) (c : Call) :
    (b.perform c).2.capacity = b.capacity := by
  cases c with
  | subscribe topics =>
    rw [perform]
    split
    · next hsub => rw [(subscribe?_eq_some hsub).2, subscribed]
    · rfl
  | publish e => rfl
  | receive id =>
    obtain ⟨f, -, heq⟩ := b.exists_snd_receive id
    show (b.receive id).2.capacity = b.capacity
    rw [heq, mapSubscriptions]
  | cancel id => exact capacity_cancel b id
  | drop id => exact capacity_cancel b id
  | awaitChange =>
    rw [perform]
    split <;> rfl
  | stopWaiting => rfl

/-! ## Every subscription has its mailbox -/

namespace LoggedBroker

/-- Each subscription is what its mailbox says. -/
structure Served (s : LoggedBroker) : Prop where
  registered : Registered s
  subscription : ∀ id, s.broker.subscription? id =
    (mailbox? s.broker.capacity (s.past.errands id)).map (Mailbox.subscription id)

theorem served_new (capacity : Nat) : Served (new capacity) :=
  ⟨registered_new capacity, fun _ => rfl⟩

theorem Served.subscribe {s : LoggedBroker} (h : Served s) (topics : List String) (id : Nat) :
    (s.step (.subscribe topics)).broker.subscription? id =
      (mailbox? s.broker.capacity ((s.step (.subscribe topics)).past.errands id)).map
        (Mailbox.subscription id) := by
  rcases s.subscribe_cases topics with hrefused | hmade
  · rw [hrefused, errands_cons_of_none rfl]
    exact h.subscription id
  · rw [hmade, subscription?_subscribed h.registered.coherent]
    by_cases hid : s.broker.nextId = id
    · rw [if_pos hid, errands_cons_of_some ((Record.errand?_subscribed ..).trans (if_pos hid))]
      subst hid
      rfl
    · rw [if_neg hid, errands_cons_of_none ((Record.errand?_subscribed ..).trans (if_neg hid))]
      exact h.subscription id

/-- A call that is about the subscription of an id only. -/
theorem Served.about {s : LoggedBroker} (h : Served s) {c : Call} {e : Errand} {id : Nat}
    {r : Reply} {b : Broker} {f : Option Subscription → Option Subscription}
    (herrand : ∀ other, (⟨c, r⟩ : Record).errand? other = if id = other then some e else none)
    (hb : ∀ other, b.subscription? other =
      if id = other then f (s.broker.subscription? other) else s.broker.subscription? other)
    (hf : ∀ m : Option Mailbox, f (m.map (Mailbox.subscription id)) =
      (Mailbox.after s.broker.capacity e m).map (Mailbox.subscription id)) (other : Nat) :
    b.subscription? other =
      (mailbox? s.broker.capacity (errands other (⟨c, r⟩ :: s.past))).map
        (Mailbox.subscription other) := by
  rw [hb]
  by_cases hother : id = other
  · subst hother
    rw [if_pos rfl, errands_cons_of_some ((herrand id).trans (if_pos rfl)), h.subscription, hf,
      mailbox?_cons]
  · rw [if_neg hother, errands_cons_of_none ((herrand other).trans (if_neg hother)), h.subscription]

/-- **Every call serves each subscription as its mailbox is.** -/
theorem Served.step {s : LoggedBroker} (h : Served s) (c : Call) : Served (s.step c) := by
  have hc := h.registered.coherent
  have hcapacity : (s.step c).broker.capacity = s.broker.capacity := s.broker.capacity_perform c
  refine ⟨h.registered.step c, fun other => ?_⟩
  rw [hcapacity]
  cases c with
  | subscribe topics => exact h.subscribe topics other
  | publish e =>
    rw [step_eq (b := s.broker.mapSubscriptions (offer s.broker.capacity e))
      (congrArg _ (hc.snd_publish e)), errands_cons_of_some rfl, mailbox?_cons, Mailbox.after,
      subscription?_mapSubscriptions _ (keepsListening_offer _ e).id, h.subscription, Option.map_map,
      Option.map_map]
    congr 1
    funext m
    exact m.offer_subscription s.broker.capacity e other
  | receive id =>
    refine h.about (e := .collected) (fun i => Record.errand?_receive i id _)
      (hc.subscription?_receive id) (fun m => ?_) other
    cases m <;> rfl
  | cancel id =>
    refine h.about (e := .cancelled) (fun i => Record.errand?_cancel i id _)
      (hc.subscription?_cancel id) (fun m => ?_) other
    cases m <;> rfl
  | drop id =>
    exact h.about (e := .dropped) (fun i => Record.errand?_drop i id _)
      (hc.subscription?_drop id) (f := fun _ => none) (fun m => rfl) other
  | awaitChange =>
    have hsame : (s.broker.perform .awaitChange).2.subscription? other =
        s.broker.subscription? other := by
      rw [perform]
      split <;> rfl
    have hnone : Record.errand? other ⟨.awaitChange, (s.broker.perform .awaitChange).1⟩ = none := rfl
    rw [LoggedBroker.step, hsame, errands_cons_of_none hnone]
    exact h.subscription other
  | stopWaiting =>
    have hnone : Record.errand? other ⟨.stopWaiting, .done⟩ = none := rfl
    show s.broker.subscription? other = _
    rw [h.subscription]
    exact congrArg _ (congrArg _ (errands_cons_of_none hnone).symm)

/-- What a whole run preserves. -/
theorem Served.run {s : LoggedBroker} (h : Served s) (calls : List Call) : Served (s.run calls) :=
  run_induction (fun _ c h => h.step c) h calls

/-! ## What a subscription receives -/

/-- What a subscription received is, in order, what its mailbox took; the rest of it is what the
mailbox holds, which is at most its capacity. -/
structure Fifo (capacity id : Nat) (past : History) : Prop where
  in_order : past.delivered id <+: accepted capacity (past.errands id)
  queue : ∀ m, mailbox? capacity (past.errands id) = some m →
    past.delivered id ++ m.queue = accepted capacity (past.errands id) ∧ m.queue.length ≤ capacity

theorem fifo_nil (capacity id : Nat) : Fifo capacity id [] :=
  ⟨List.prefix_refl _, fun m hm => by cases hm⟩

/-- A record that is about another subscription, or about none. -/
theorem Fifo.of_none {capacity id : Nat} {past : History} (h : Fifo capacity id past) {x : Record}
    (herrand : x.errand? id = none) (hdelivered : delivered id (x :: past) = past.delivered id) :
    Fifo capacity id (x :: past) := by
  have herrands : errands id (x :: past) = past.errands id := errands_cons_of_none herrand
  refine ⟨?_, fun m hm => ?_⟩
  · rw [hdelivered, herrands]
    exact h.in_order
  · rw [herrands] at hm
    rw [hdelivered, herrands]
    exact h.queue m hm

theorem Fifo.offered {capacity id : Nat} {past : History} (h : Fifo capacity id past) (e : Event)
    (r : Reply) : Fifo capacity id (⟨.publish e, r⟩ :: past) := by
  have herrands : errands id (⟨.publish e, r⟩ :: past) = .offered e :: past.errands id :=
    errands_cons_of_some rfl
  have hdelivered : delivered id (⟨.publish e, r⟩ :: past) = past.delivered id := rfl
  refine ⟨?_, fun m hm => ?_⟩
  · rw [hdelivered, herrands, accepted]
    split
    · exact h.in_order.trans (List.prefix_append _ _)
    · exact h.in_order
  · rw [herrands, mailbox?_cons] at hm
    obtain ⟨m₀, hm₀, rfl⟩ := Option.map_eq_some_iff.mp hm
    obtain ⟨hall, hlength⟩ := h.queue m₀ hm₀
    rw [hdelivered, herrands, accepted, hm₀, Option.any_some]
    by_cases htakes : m₀.takes capacity e = true
    · rw [if_pos htakes, if_pos htakes, ← hall, List.append_assoc]
      have hroom : m₀.queue.length < capacity := by
        rw [Mailbox.takes, Bool.and_eq_true, decide_eq_true_eq] at htakes
        exact htakes.2
      exact ⟨rfl, by simpa using Nat.succ_le_of_lt hroom⟩
    · rw [if_neg htakes, if_neg htakes]
      exact ⟨hall, hlength⟩

/-- A subscription that looks for an event is answered by its mailbox. -/
theorem Fifo.collected {capacity id : Nat} {past : History} (h : Fifo capacity id past) {r : Receipt}
    (hr : r = (mailbox? capacity (past.errands id)).elim .ended Mailbox.receipt) :
    Fifo capacity id (⟨.receive id, .received r⟩ :: past) := by
  have herrands : errands id (⟨.receive id, .received r⟩ :: past) = .collected :: past.errands id :=
    errands_cons_of_some (if_pos rfl)
  have hevent : ∀ e, r = .event e →
      delivered id (⟨.receive id, .received r⟩ :: past) = past.delivered id ++ [e] := by
    rintro e rfl
    exact if_pos rfl
  have haccepted : accepted capacity (.collected :: past.errands id) =
      accepted capacity (past.errands id) := rfl
  have hother : (∀ e, r ≠ .event e) →
      delivered id (⟨.receive id, .received r⟩ :: past) = past.delivered id := by
    intro hne
    cases r with
    | event e => exact absurd rfl (hne e)
    | ended => rfl
    | pending => rfl
  cases hm : mailbox? capacity (past.errands id) with
  | none =>
    rw [hm] at hr
    refine ⟨?_, fun m hm' => ?_⟩
    · rw [hother (by simp [hr]), herrands]
      exact h.in_order
    · rw [herrands, mailbox?_cons, hm] at hm'
      cases hm'
  | some m₀ =>
    rw [hm, Option.elim_some] at hr
    obtain ⟨hall, hlength⟩ := h.queue m₀ hm
    have hqueue : delivered id (⟨.receive id, .received r⟩ :: past) ++ m₀.queue.tail =
        accepted capacity (past.errands id) := by
      cases hq : m₀.queue with
      | nil =>
        have hne : ∀ e, r ≠ .event e := by
          intro e he
          rw [hr, Mailbox.receipt, hq] at he
          dsimp only at he
          split at he <;> cases he
        rw [hother hne, ← hall, hq, List.tail_nil]
      | cons e rest =>
        have hfirst : r = .event e := by rw [hr, Mailbox.receipt, hq]
        rw [hevent e hfirst, ← hall, hq, List.tail_cons, List.append_assoc, List.singleton_append]
    refine ⟨?_, fun m hm' => ?_⟩
    · rw [herrands, haccepted, ← hqueue]
      exact List.prefix_append _ _
    · rw [herrands, mailbox?_cons, hm] at hm'
      obtain rfl := Option.some.inj hm'
      rw [herrands, haccepted]
      refine ⟨hqueue, ?_⟩
      exact Nat.le_trans (by simp) hlength

theorem Fifo.ended {capacity id : Nat} {past : History} (h : Fifo capacity id past) {x : Record}
    {e : Errand} (he : e = .cancelled ∨ e = .dropped) (herrand : x.errand? id = some e)
    (hdelivered : delivered id (x :: past) = past.delivered id) : Fifo capacity id (x :: past) := by
  have herrands : errands id (x :: past) = e :: past.errands id := errands_cons_of_some herrand
  have haccepted : accepted capacity (e :: past.errands id) = accepted capacity (past.errands id) := by
    rcases he with rfl | rfl <;> rfl
  refine ⟨?_, fun m hm => ?_⟩
  · rw [hdelivered, herrands, haccepted]
    exact h.in_order
  · rw [herrands, mailbox?_cons] at hm
    rw [hdelivered, herrands, haccepted]
    rcases he with rfl | rfl
    · obtain ⟨m₀, hm₀, rfl⟩ := Option.map_eq_some_iff.mp hm
      exact h.queue m₀ hm₀
    · cases hm

theorem Served.fst_receive {s : LoggedBroker} (h : Served s) (id : Nat) :
    (s.broker.receive id).1 =
      (mailbox? s.broker.capacity (s.past.errands id)).elim .ended Mailbox.receipt := by
  have hsub := h.subscription id
  cases hm : mailbox? s.broker.capacity (s.past.errands id) with
  | none =>
    rw [hm, Option.map_none] at hsub
    rw [receive, hsub]
    rfl
  | some m =>
    rw [hm, Option.map_some] at hsub
    exact Broker.fst_receive hsub

/-- **Every call keeps the order of what each subscription receives.** -/
theorem Fifo.step {s : LoggedBroker} (hs : Served s) {id : Nat}
    (h : Fifo s.broker.capacity id s.past) (c : Call) :
    Fifo s.broker.capacity id (s.step c).past := by
  cases c with
  | subscribe topics =>
    rcases s.subscribe_cases topics with hrefused | hmade
    · rw [hrefused]
      exact h.of_none rfl rfl
    · rw [hmade]
      by_cases hid : s.broker.nextId = id
      · have herrands : errands id (⟨.subscribe topics, .subscribed s.broker.nextId⟩ :: s.past) =
            .made topics :: s.past.errands id := errands_cons_of_some (if_pos hid)
        have hdelivered :
            delivered id (⟨.subscribe topics, .subscribed s.broker.nextId⟩ :: s.past) = [] :=
          if_pos hid
        refine ⟨hdelivered ▸ List.nil_prefix, fun m hm => ?_⟩
        rw [herrands, mailbox?_cons] at hm
        obtain rfl := Option.some.inj hm
        rw [hdelivered, herrands]
        exact ⟨rfl, Nat.zero_le _⟩
      · exact h.of_none ((Record.errand?_subscribed ..).trans (if_neg hid)) (if_neg hid)
  | publish e => exact h.offered e _
  | receive i =>
    by_cases hid : i = id
    · subst hid
      exact h.collected (hs.fst_receive i)
    · refine h.of_none ((Record.errand?_receive ..).trans (if_neg hid)) ?_
      show delivered id (⟨.receive i, .received (s.broker.receive i).1⟩ :: s.past) = _
      cases (s.broker.receive i).1 with
      | event e => exact if_neg hid
      | ended | pending => rfl
  | cancel i =>
    by_cases hid : i = id
    · exact h.ended (.inl rfl) ((Record.errand?_cancel ..).trans (if_pos hid)) rfl
    · exact h.of_none ((Record.errand?_cancel ..).trans (if_neg hid)) rfl
  | drop i =>
    by_cases hid : i = id
    · exact h.ended (.inr rfl) ((Record.errand?_drop ..).trans (if_pos hid)) rfl
    · exact h.of_none ((Record.errand?_drop ..).trans (if_neg hid)) rfl
  | awaitChange | stopWaiting => exact h.of_none rfl rfl

/-! ## How many an event reaches -/

/-- The subscriptions whose mailboxes take an event, in the order in which they were made. -/
def takers (capacity : Nat) (e : Event) (past : History) : List Nat :=
  past.made.filter fun id => (mailbox? capacity (past.errands id)).any (Mailbox.takes capacity e)

/-- An event reaches as many subscriptions as there are mailboxes that take it. -/
theorem Served.fst_publish {s : LoggedBroker} (h : Served s) (e : Event) :
    (s.broker.publish e).1 = (takers s.broker.capacity e s.past).length := by
  have hc := h.registered.coherent
  have hcount : (s.broker.publish e).1 =
      ((s.broker.subscriptions.filter (s.broker.accepts (s.broker.subscribersOf e.topic))).map
        (·.id)).length := (List.length_map _).symm
  have hreached : ((s.broker.subscriptions.filter
      (s.broker.accepts (s.broker.subscribersOf e.topic))).map (·.id)).Nodup :=
    hc.nodup.sublist (List.filter_sublist.map _)
  have htakers : (takers s.broker.capacity e s.past).Nodup := h.registered.nodup_made.filter _
  rw [hcount]
  -- neither list has an id twice, and they have the same ids
  refine ((List.perm_ext_iff_of_nodup hreached htakers).mpr fun id => ?_).length_eq
  have hmailbox : (∃ sub ∈ s.broker.subscriptions, sub.id = id ∧
      s.broker.accepts (s.broker.subscribersOf e.topic) sub = true) ↔
      ∃ m, mailbox? s.broker.capacity (s.past.errands id) = some m ∧
        m.takes s.broker.capacity e = true := by
    have hsub := h.subscription id
    constructor
    · rintro ⟨sub, hmem, hid, haccepts⟩
      rw [hc.subscription?_eq_some_iff.mpr ⟨hmem, hid⟩] at hsub
      obtain ⟨m, hm, rfl⟩ := Option.map_eq_some_iff.mp hsub.symm
      rw [accepts, hc.contains_subscribersOf hmem, m.accepts_subscription] at haccepts
      exact ⟨m, hm, haccepts⟩
    · rintro ⟨m, hm, htakes⟩
      rw [hm, Option.map_some] at hsub
      obtain ⟨hmem, hid⟩ := hc.subscription?_eq_some_iff.mp hsub
      refine ⟨_, hmem, hid, ?_⟩
      rw [accepts, hc.contains_subscribersOf hmem, m.accepts_subscription]
      exact htakes
  constructor
  · intro hid
    obtain ⟨sub, hsub, hsubid⟩ := List.mem_map.mp hid
    obtain ⟨hmem, haccepts⟩ := List.mem_filter.mp hsub
    obtain ⟨m, hm, htakes⟩ := hmailbox.mp ⟨sub, hmem, hsubid, haccepts⟩
    refine List.mem_filter.mpr ⟨mem_made_of_mailbox? hm, ?_⟩
    rw [hm]
    exact htakes
  · intro hid
    obtain ⟨m, hm, htakes⟩ := Option.any_eq_true _ _ |>.mp (List.mem_filter.mp hid).2
    obtain ⟨sub, hmem, hsubid, haccepts⟩ := hmailbox.mpr ⟨m, hm, htakes⟩
    exact List.mem_map.mpr ⟨sub, List.mem_filter.mpr ⟨hmem, haccepts⟩, hsubid⟩

/-! ## What is found -/

/-- What a subscription finds is what its mailbox gives at the same errand. -/
theorem found_step {s : LoggedBroker} (hs : Served s) {id : Nat}
    (h : s.past.found id = receipts s.broker.capacity (s.past.errands id)) (c : Call) :
    (s.step c).past.found id = receipts s.broker.capacity ((s.step c).past.errands id) := by
  by_cases hc : c = .receive id
  · subst hc
    have hfound : (s.step (.receive id)).past.found id =
        s.past.found id ++ [(s.broker.receive id).1] := if_pos rfl
    have herrands : (s.step (.receive id)).past.errands id = .collected :: s.past.errands id :=
      errands_cons_of_some ((Record.errand?_receive ..).trans (if_pos rfl))
    rw [hfound, herrands, receipts, h, hs.fst_receive]
  · have hfound : (s.step c).past.found id = s.past.found id := found_cons_of_call_ne hc
    have hreceipts : receipts s.broker.capacity ((s.step c).past.errands id) =
        receipts s.broker.capacity (s.past.errands id) := receipts_cons_of_call_ne hc
    rw [hfound, hreceipts, h]

/-! ## Exact delivery -/

/-- In every broker that calls can build, mailboxes tell what subscriptions receive. -/
structure Delivering (capacity : Nat) (s : LoggedBroker) : Prop where
  served : Served s
  capacity_eq : s.broker.capacity = capacity
  fifo : ∀ id, Fifo capacity id s.past
  found : ∀ id, s.past.found id = receipts capacity (s.past.errands id)

theorem delivering_new (capacity : Nat) : Delivering (max capacity 1) (new capacity) :=
  ⟨served_new capacity, rfl, fun id => fifo_nil _ id, fun _ => rfl⟩

theorem Delivering.step {capacity : Nat} {s : LoggedBroker} (h : Delivering capacity s) (c : Call) :
    Delivering capacity (s.step c) := by
  obtain ⟨hs, rfl, hfifo, hfound⟩ := h
  exact ⟨hs.step c, s.broker.capacity_perform c, fun id => (hfifo id).step hs c,
    fun id => found_step hs (hfound id) c⟩

theorem Delivering.run {capacity : Nat} {s : LoggedBroker} (h : Delivering capacity s)
    (calls : List Call) : Delivering capacity (s.run calls) :=
  run_induction (fun _ c h => h.step c) h calls

/-- Nothing comes to a subscription that was cancelled but what its queue held then. -/
theorem Delivering.drained {capacity : Nat} {s : LoggedBroker} (h : Delivering capacity s)
    {id : Nat} {m : Mailbox} (hm : mailbox? capacity (s.past.errands id) = some m)
    (calls : List Call) :
    accepted capacity (((s.step (.cancel id)).run calls).past.errands id) =
      s.past.delivered id ++ m.queue := by
  have hrun := (h.step (.cancel id)).run calls
  obtain ⟨later, hpast⟩ := exists_past_run (s.step (.cancel id)) calls
  have herrands : (s.step (.cancel id)).past.errands id = .cancelled :: s.past.errands id :=
    errands_cons_of_some ((Record.errand?_cancel ..).trans (if_pos rfl))
  have hclosed : Errands.Closed capacity ((s.step (.cancel id)).past.errands id) := by
    rw [herrands]
    exact closed_cancelled capacity _
  -- the id was given before, and no id is given twice
  have hmade : id ∉ later.made := by
    intro hagain
    have hnodup := hrun.served.registered.nodup_made
    rw [hpast, made_append] at hnodup
    have hbefore : id ∈ s.past.made := mem_made_of_mailbox? hm
    exact (List.nodup_append.mp hnodup).2.2 id hbefore id hagain rfl
  rw [hpast, (accepted_of_closed hclosed hmade).2, herrands]
  exact ((h.fifo id).queue m hm).1.symm

/-- What subscriptions receive from a broker whose queues hold up to `capacity` events. -/
structure DeliveryExact (capacity : Nat) (s : LoggedBroker) : Prop where
  /-- Wherever there is a queue for it, a subscription is made, with a mailbox that is empty. -/
  made : capacity ≤ queueLimit → ∀ topics, ∃ id,
    (s.broker.perform (.subscribe topics)).1 = .subscribed id ∧
      mailbox? capacity ((s.step (.subscribe topics)).past.errands id) = some ⟨topics, [], true⟩
  /-- What waits for a subscription is what its own mailbox holds. -/
  waiting : ∀ id, (s.broker.subscription? id).map (·.queue) =
    (mailbox? capacity (s.past.errands id)).map (·.queue)
  /-- It received, in order, what its mailbox took, up to what still waits for it. -/
  fifo : ∀ id, Fifo capacity id s.past
  /-- An event reaches as many subscriptions as there are mailboxes that take it. -/
  reached : ∀ e, (s.broker.publish e).1 = (takers capacity e s.past).length
  /-- What a subscription found is what its own errands tell. -/
  found : ∀ id, s.past.found id = receipts capacity (s.past.errands id)
  /-- What it finds next is what its mailbox gives, -/
  receive : ∀ id m, mailbox? capacity (s.past.errands id) = some m →
    (s.broker.receive id).1 = m.receipt
  /-- and this is the end iff nothing waits and nothing more can come. -/
  ended : ∀ id m, mailbox? capacity (s.past.errands id) = some m →
    ((s.broker.receive id).1 = .ended ↔ m.queue = [] ∧ (m.listening = false ∨ m.topics = []))
  /-- Once it is cancelled it receives what waits for it, in order, and nothing else. -/
  drained : ∀ id m, mailbox? capacity (s.past.errands id) = some m → ∀ calls : List Call,
    let past := ((s.step (.cancel id)).run calls).past
    past.delivered id <+: s.past.delivered id ++ m.queue ∧
      ∀ left, mailbox? capacity (past.errands id) = some left →
        past.delivered id ++ left.queue = s.past.delivered id ++ m.queue

theorem Delivering.exact {capacity : Nat} {s : LoggedBroker} (h : Delivering capacity s) :
    DeliveryExact capacity s := by
  have hcapacity := h.capacity_eq
  have hreceive : ∀ id m, mailbox? capacity (s.past.errands id) = some m →
      (s.broker.receive id).1 = m.receipt := by
    intro id m hm
    rw [h.served.fst_receive, hcapacity, hm, Option.elim_some]
  exact
    { made := fun hlimit topics => ⟨s.broker.nextId, by
        have hreply : s.broker.perform (.subscribe topics) =
            (.subscribed s.broker.nextId, s.broker.subscribed topics) := by
          rw [perform, subscribe?, if_neg (by omega)]
          rfl
        have hmade := step_eq (s := s) hreply
        rw [hreply, hmade, errands_cons_of_some ((Record.errand?_subscribed ..).trans (if_pos rfl))]
        exact ⟨rfl, rfl⟩⟩
      waiting := fun id => by
        rw [h.served.subscription, hcapacity, Option.map_map]
        rfl
      fifo := h.fifo
      reached := fun e => hcapacity ▸ h.served.fst_publish e
      found := h.found
      receive := hreceive
      ended := fun id m hm => by
        rw [hreceive id m hm]
        exact m.receipt_eq_ended
      drained := fun id m hm calls => by
        have hrun := ((h.step (.cancel id)).run calls).fifo id
        have hall := h.drained hm calls
        refine ⟨hall ▸ hrun.in_order, fun left hleft => ?_⟩
        exact (hrun.queue left hleft).1.trans hall }

/-- **Delivery is exact.** In every broker that calls can build each subscription is served as a
bounded queue of its own; and in any two brokers of one capacity, subscriptions with the same errands
find the same, whatever is done about the other ones. -/
theorem delivery_exact (capacity : Nat) (calls : List Call) :
    DeliveryExact (max capacity 1) ((new capacity).run calls) ∧
      ∀ (calls' : List Call) (id id' : Nat),
        ((new capacity).run calls').past.errands id' = ((new capacity).run calls).past.errands id →
        ((new capacity).run calls').past.found id' = ((new capacity).run calls).past.found id := by
  have h : ∀ calls, Delivering (max capacity 1) ((new capacity).run calls) := by
    intro calls
    exact (delivering_new capacity).run calls
  refine ⟨(h calls).exact, fun calls' id id' hsame => ?_⟩
  rw [(h calls').found id', (h calls).found id, hsame]

/-- Two subscriptions with queues of one event; one is cancelled with a full queue, and looks for
events afterwards. -/
def fullQueue : List Call :=
  [.subscribe ["a"], .subscribe ["a", "b"], .publish ⟨"a", "1"⟩, .receive 2, .publish ⟨"a", "2"⟩,
    .cancel 1, .publish ⟨"b", "3"⟩, .receive 1, .receive 1, .receive 2]

/-- The second event finds the queue of the first subscription full, and that of the other one free;
what waits for the first one is there after its end. -/
theorem delivery_exact_of_fullQueue :
    let s := (new 1).run fullQueue
    DeliveryExact 1 s ∧
      s.past.map (·.reply) = [.received (.event ⟨"a", "2"⟩), .received .ended,
        .received (.event ⟨"a", "1"⟩), .published 0, .done, .published 1,
        .received (.event ⟨"a", "1"⟩), .published 2, .subscribed 2, .subscribed 1] ∧
      s.past.found 1 = [.event ⟨"a", "1"⟩, .ended] ∧
      s.past.found 2 = [.event ⟨"a", "1"⟩, .event ⟨"a", "2"⟩] := by
  intro s
  exact ⟨(delivery_exact 1 fullQueue).1, rfl, rfl, rfl⟩

end LoggedBroker

end FilterFleet
