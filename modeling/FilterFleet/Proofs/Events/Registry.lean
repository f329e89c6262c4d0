import FilterFleet.Proofs.Events.Channels
import FilterFleet.Proofs.Events.Signal
import FilterFleet.Proofs.Lists

/-!
# The registry of a broker

A broker counts its live subscriptions, lists them under their topics and gives a signal when their
number changes. In every broker that calls can build these three agree with the subscriptions
themselves (`Coherent`) and with the history (`Registered`): the count is the number of subscriptions
that were made and neither cancelled nor dropped, each topic lists the live ones that were made with
it, and a change is pending as long as nobody took notice of it (`registry_exact`). A change is
pending, too, though nothing has changed, after a wait that was overrun by changes
(`stale_change_pending`).
-/

namespace FilterFleet

namespace Broker

/-! ## Live subscriptions -/

/-- The subscriptions that are not cancelled. -/
def live (b : Broker) : List Subscription := b.subscriptions.filter fun s => !s.cancelled

/-- The count and the channels of a broker agree with its subscriptions. -/
structure Coherent (b : Broker) : Prop where
  channels : ChannelsSound b.channels
  /-- A topic lists the live subscriptions to it, in the order in which they were made. -/
  listeners : ∀ topic, listeners b.channels topic =
    (b.live.filter fun s => s.topics.contains topic).map (·.id)
  count : b.subscribers = b.live.length
  nodup : (b.subscriptions.map (·.id)).Nodup
  fresh : ∀ s ∈ b.subscriptions, s.id < b.nextId

theorem coherent_new (capacity : Nat) : Coherent (new capacity) :=
  ⟨channelsSound_nil, fun _ => rfl, rfl, List.nodup_nil, fun _ h => by cases h⟩

theorem Coherent.nodup_live {b : Broker} (h : Coherent b) : (b.live.map (·.id)).Nodup :=
  h.nodup.sublist (List.filter_sublist.map _)

theorem Coherent.subscription?_eq_some_iff {b : Broker} (h : Coherent b) {id : Nat}
    {s : Subscription} : b.subscription? id = some s ↔ s ∈ b.subscriptions ∧ s.id = id :=
  find?_key_eq_some_iff h.nodup

theorem mem_live {b : Broker} {s : Subscription} :
    s ∈ b.live ↔ s ∈ b.subscriptions ∧ s.cancelled = false := by
  simp [live]

/-- A live subscription is found under its id. -/
theorem Coherent.mem_liveIds_iff {b : Broker} (h : Coherent b) (id : Nat) :
    id ∈ b.live.map (·.id) ↔ ∃ s, b.subscription? id = some s ∧ s.cancelled = false := by
  simp only [List.mem_map, mem_live, h.subscription?_eq_some_iff]
  constructor
  · rintro ⟨s, ⟨hmem, hlive⟩, hid⟩
    exact ⟨s, ⟨hmem, hid⟩, hlive⟩
  · rintro ⟨s, ⟨hmem, hid⟩, hlive⟩
    exact ⟨s, ⟨hmem, hlive⟩, hid⟩

/-! ## A new subscription -/

/-- The subscription that `subscribe?` makes. -/
def newcomer (b : Broker) (topics : List String) : Subscription :=
  ⟨b.nextId, topicSet topics, [], false⟩

/-- The broker with a new subscription. -/
def subscribed (b : Broker) (topics : List String) : Broker :=
  { b with
    nextId := b.nextId + 1
    channels := (topicSet topics).foldl (addSubscriber b.nextId) b.channels
    subscribers := b.subscribers + 1
    signal := b.signal.give
    subscriptions := b.subscriptions ++ [b.newcomer topics] }

theorem subscribe?_eq_some {b b' : Broker} {topics : List String} {id : Nat}
    (h : b.subscribe? topics = some (id, b')) : id = b.nextId ∧ b' = b.subscribed topics := by
  unfold subscribe? at h
  split at h
  · cases h
  · obtain ⟨rfl, rfl⟩ := Prod.mk.inj (Option.some.inj h)
    exact ⟨rfl, rfl⟩

theorem live_subscribed (b : Broker) (topics : List String) :
    (b.subscribed topics).live = b.live ++ [b.newcomer topics] := by
  rw [live, subscribed, List.filter_append]
  rfl

theorem Coherent.subscribed {b : Broker} (h : Coherent b) (topics : List String) :
    Coherent (b.subscribed topics) where
  channels := h.channels.foldl_add _ _
  listeners := by
    intro topic
    rw [live_subscribed, List.filter_append, List.map_append, ← h.listeners topic, Broker.subscribed,
      listeners_foldl_add _ (nodup_topicSet topics)]
    by_cases ht : topic ∈ topicSet topics
    · simp [newcomer, ht]
    · simp [newcomer, ht]
  count := by
    rw [live_subscribed, List.length_append, ← h.count]
    rfl
  nodup := by
    rw [Broker.subscribed, List.map_append, List.nodup_append]
    refine ⟨h.nodup, List.pairwise_singleton _ _, ?_⟩
    intro i hi j hj heq
    obtain ⟨s, hs, rfl⟩ := List.mem_map.mp hi
    have hj : j = b.nextId := List.mem_singleton.mp hj
    exact absurd (heq.trans hj) (Nat.ne_of_lt (h.fresh s hs))
  fresh := by
    intro s hs
    rcases List.mem_append.mp hs with hs | hs
    · exact Nat.lt_succ_of_lt (h.fresh s hs)
    · obtain rfl := List.mem_singleton.mp hs
      exact Nat.lt_succ_self _

/-! ## What happens to queues only -/

/-- Change every subscription. -/
def mapSubscriptions (b : Broker) (f : Subscription → Subscription) : Broker :=
  { b with subscriptions := b.subscriptions.map f }

/-- A change of a subscription that keeps who it is, its topics and whether it is cancelled. -/
structure KeepsListening (f : Subscription → Subscription) : Prop where
  id : ∀ s, (f s).id = s.id
  topics : ∀ s, (f s).topics = s.topics
  cancelled : ∀ s, (f s).cancelled = s.cancelled

theorem live_mapSubscriptions (b : Broker) {f : Subscription → Subscription}
    (hf : KeepsListening f) : (b.mapSubscriptions f).live = b.live.map f := by
  rw [live, mapSubscriptions, List.filter_map, live]
  congr 1
  exact List.filter_congr fun s _ => by rw [Function.comp_apply, hf.cancelled]

theorem Coherent.mapSubscriptions {b : Broker} (h : Coherent b) {f : Subscription → Subscription}
    (hf : KeepsListening f) : Coherent (b.mapSubscriptions f) where
  channels := h.channels
  listeners := by
    intro topic
    rw [live_mapSubscriptions b hf, List.filter_map, List.map_map]
    have hsame : (fun s : Subscription => s.topics.contains topic) ∘ f =
        fun s => s.topics.contains topic := by
      funext s
      rw [Function.comp_apply, hf.topics]
    have hids : (fun s : Subscription => s.id) ∘ f = fun s => s.id := by
      funext s
      exact hf.id s
    rw [hsame, hids]
    exact h.listeners topic
  count := by
    rw [live_mapSubscriptions b hf, List.length_map]
    exact h.count
  nodup := by
    have hids : (b.subscriptions.map f).map (·.id) = b.subscriptions.map (·.id) := by
      rw [List.map_map]
      exact List.map_congr_left fun s _ => hf.id s
    exact hids ▸ h.nodup
  fresh := by
    intro s hs
    obtain ⟨s₀, hs₀, rfl⟩ := List.mem_map.mp hs
    rw [hf.id]
    exact h.fresh s₀ hs₀

/-- What publishing an event does to a subscription by itself. -/
def offer (capacity : Nat) (e : Event) (s : Subscription) : Subscription :=
  if !s.cancelled && s.topics.contains e.topic && decide (s.queue.length < capacity) then
    { s with queue := s.queue ++ [e] }
  else s

theorem keepsListening_offer (capacity : Nat) (e : Event) : KeepsListening (offer capacity e) := by
  refine ⟨fun s => ?_, fun s => ?_, fun s => ?_⟩
  all_goals
    unfold offer
    split <;> rfl

/-- The subscribers of its topic are asked to take an event; these are the live subscriptions to the
topic. -/
theorem Coherent.contains_subscribersOf {b : Broker} (h : Coherent b) {s : Subscription}
    (hs : s ∈ b.subscriptions) (topic : String) :
    (b.subscribersOf topic).contains s.id = (!s.cancelled && s.topics.contains topic) := by
  have hmem : s.id ∈ b.subscribersOf topic ↔ s.cancelled = false ∧ topic ∈ s.topics := by
    rw [subscribersOf_eq, h.listeners topic]
    simp only [List.mem_map, List.mem_filter, mem_live]
    constructor
    · rintro ⟨x, ⟨⟨hx, hlive⟩, htopic⟩, hid⟩
      obtain rfl := List.inj_on_of_nodup_map h.nodup hx hs hid
      exact ⟨hlive, by simpa using htopic⟩
    · rintro ⟨hlive, htopic⟩
      exact ⟨s, ⟨⟨hs, hlive⟩, by simpa using htopic⟩, rfl⟩
  rw [Bool.eq_iff_iff]
  simpa using hmem

/-- Publishing offers the event to each subscription by itself. -/
theorem Coherent.snd_publish {b : Broker} (h : Coherent b) (e : Event) :
    (b.publish e).2 = b.mapSubscriptions (offer b.capacity e) := by
  have hqueues : (b.subscriptions.map fun s =>
      if b.accepts (b.subscribersOf e.topic) s then { s with queue := s.queue ++ [e] } else s) =
        b.subscriptions.map (offer b.capacity e) := by
    refine List.map_congr_left fun s hs => ?_
    rw [accepts, h.contains_subscribersOf hs, offer]
  exact congrArg (fun subscriptions => { b with subscriptions }) hqueues

theorem keepsListening_modify {f : Subscription → Subscription} (hf : KeepsListening f) (id : Nat) :
    KeepsListening fun s => if s.id == id then f s else s := by
  refine ⟨fun s => ?_, fun s => ?_, fun s => ?_⟩
  · split
    · exact hf.id s
    · rfl
  · split
    · exact hf.topics s
    · rfl
  · split
    · exact hf.cancelled s
    · rfl

/-- Receiving changes at most a queue. -/
theorem exists_snd_receive (b : Broker) (id : Nat) :
    ∃ f, KeepsListening f ∧ (b.receive id).2 = b.mapSubscriptions f := by
  have hid : b.mapSubscriptions (fun s => s) = b := by
    rw [mapSubscriptions, List.map_id']
  rw [receive]
  split
  · exact ⟨fun s => s, ⟨fun _ => rfl, fun _ => rfl, fun _ => rfl⟩, hid.symm⟩
  · split
    · next e rest _ =>
      have hf : KeepsListening fun s => { s with queue := rest } :=
        ⟨fun _ => rfl, fun _ => rfl, fun _ => rfl⟩
      exact ⟨_, keepsListening_modify hf id, rfl⟩
    · exact ⟨fun s => s, ⟨fun _ => rfl, fun _ => rfl, fun _ => rfl⟩, hid.symm⟩

/-! ## The end of a subscription -/

/-- The broker after a live subscription was cancelled. -/
def cancelled (b : Broker) (s : Subscription) : Broker :=
  { b.modify s.id fun s => { s with cancelled := true } with
    channels := s.topics.foldl (removeSubscriber s.id) b.channels
    subscribers := b.subscribers - 1
    signal := b.signal.give }

/-- Cancelling does something for a live subscription only. -/
theorem Coherent.cancel_cases {b : Broker} (h : Coherent b) (id : Nat) :
    (id ∉ b.live.map (·.id) ∧ b.cancel id = b) ∨
      ∃ s ∈ b.live, s.id = id ∧ b.cancel id = b.cancelled s := by
  rw [cancel]
  split
  · next hnone =>
    refine .inl ⟨fun hid => ?_, rfl⟩
    obtain ⟨s, hs, -⟩ := (h.mem_liveIds_iff id).mp hid
    cases hnone.symm.trans hs
  · next s hs =>
    obtain ⟨hmem, hid⟩ := h.subscription?_eq_some_iff.mp hs
    split
    · next hcancelled =>
      refine .inl ⟨fun hid => ?_, rfl⟩
      obtain ⟨s', hs', hlive⟩ := (h.mem_liveIds_iff id).mp hid
      obtain rfl := Option.some.inj (hs.symm.trans hs')
      cases hlive.symm.trans hcancelled
    · next hlive =>
      refine .inr ⟨s, mem_live.mpr ⟨hmem, by simpa using hlive⟩, hid, ?_⟩
      rw [cancelled, hid]

theorem live_cancelled (b : Broker) (s : Subscription) :
    (b.cancelled s).live = b.live.filter (·.id != s.id) := by
  show ((b.subscriptions.map fun x => if x.id == s.id then { x with cancelled := true } else x).filter
    fun x => !x.cancelled) = _
  rw [List.filter_map, live, List.filter_filter]
  have hkept : ((fun x : Subscription => !x.cancelled) ∘
      fun x => if x.id == s.id then { x with cancelled := true } else x) =
        fun x => x.id != s.id && !x.cancelled := by
    funext x
    by_cases hx : x.id = s.id <;> simp [hx]
  rw [hkept]
  conv_rhs => rw [← List.map_id (b.subscriptions.filter _)]
  refine List.map_congr_left fun x hx => if_neg ?_
  have hne := (List.mem_filter.mp hx).2
  simp only [Bool.and_eq_true, bne_iff_ne] at hne
  simpa using hne.1

theorem Coherent.cancelled {b : Broker} (h : Coherent b) {s : Subscription} (hs : s ∈ b.live) :
    Coherent (b.cancelled s) where
  channels := h.channels.foldl_remove _ _
  listeners := by
    intro topic
    have hcommute : (b.live.filter (·.id != s.id)).filter (fun x => x.topics.contains topic) =
        (b.live.filter fun x => x.topics.contains topic).filter (·.id != s.id) := by
      rw [List.filter_filter, List.filter_filter]
      exact List.filter_congr fun x _ => Bool.and_comm _ _
    have hids : ((b.live.filter fun x => x.topics.contains topic).filter (·.id != s.id)).map (·.id) =
        (Broker.listeners b.channels topic).filter (· != s.id) := by
      rw [h.listeners topic, List.filter_map]
      rfl
    rw [live_cancelled, hcommute, hids, Broker.cancelled, listeners_foldl_remove _ h.channels]
    split
    · rfl
    · next hnot =>
      refine (List.filter_eq_self.mpr fun i hi => ?_).symm
      -- only `s` has its id, and `s` does not listen on the topic
      rw [h.listeners topic] at hi
      obtain ⟨x, hx, rfl⟩ := List.mem_map.mp hi
      obtain ⟨hlive, htopic⟩ := List.mem_filter.mp hx
      refine bne_iff_ne.mpr fun heq => ?_
      obtain rfl := List.inj_on_of_nodup_map h.nodup_live hlive hs heq
      exact hnot (by simpa using htopic)
  count := by
    have hlen := length_filter_key_add_one h.nodup_live (List.mem_map_of_mem hs)
    rw [live_cancelled]
    show b.subscribers - 1 = _
    rw [h.count, ← hlen, Nat.add_sub_cancel]
  nodup := by
    have hids : (b.cancelled s).subscriptions.map (·.id) = b.subscriptions.map (·.id) := by
      show (b.subscriptions.map _).map _ = _
      rw [List.map_map]
      refine List.map_congr_left fun x _ => ?_
      rw [Function.comp_apply]
      split <;> rfl
    exact hids ▸ h.nodup
  fresh := by
    intro x hx
    obtain ⟨x₀, hx₀, rfl⟩ := List.mem_map.mp hx
    have hid : (if x₀.id == s.id then { x₀ with cancelled := true } else x₀).id = x₀.id := by
      split <;> rfl
    rw [hid]
    exact h.fresh x₀ hx₀

/-- After cancelling an id it is not live, and every other one is live as before. -/
theorem Coherent.cancel {b : Broker} (h : Coherent b) (id : Nat) :
    Coherent (b.cancel id) ∧ (b.cancel id).live = b.live.filter (·.id != id) := by
  rcases h.cancel_cases id with ⟨hnot, heq⟩ | ⟨s, hs, rfl, heq⟩
  · rw [heq]
    refine ⟨h, (List.filter_eq_self.mpr fun s hs => ?_).symm⟩
    exact bne_iff_ne.mpr fun hid => hnot (List.mem_map.mpr ⟨s, hs, hid⟩)
  · rw [heq]
    exact ⟨h.cancelled hs, live_cancelled b s⟩

theorem drop_eq (b : Broker) (id : Nat) :
    b.drop id =
      { b.cancel id with subscriptions := (b.cancel id).subscriptions.filter (·.id != id) } := rfl

/-- So it is after dropping. -/
theorem Coherent.drop {b : Broker} (h : Coherent b) (id : Nat) :
    Coherent (b.drop id) ∧ (b.drop id).live = b.live.filter (·.id != id) := by
  obtain ⟨hc, hlive⟩ := h.cancel id
  have hsame : (b.drop id).live = (b.cancel id).live := by
    rw [live, drop_eq, List.filter_filter, live]
    refine List.filter_congr fun s hs => ?_
    cases hcancelled : s.cancelled with
    | true => rfl
    | false =>
      have hmem : s ∈ b.live.filter (·.id != id) := hlive ▸ mem_live.mpr ⟨hs, hcancelled⟩
      simpa using (List.mem_filter.mp hmem).2
  have hsub : ((b.drop id).subscriptions.map (·.id)).Sublist
      ((b.cancel id).subscriptions.map (·.id)) := List.filter_sublist.map _
  refine ⟨⟨hc.channels, fun topic => ?_, ?_, hc.nodup.sublist hsub, fun s hs => ?_⟩,
    hsame.trans hlive⟩
  · rw [hsame]
    exact hc.listeners topic
  · rw [hsame]
    exact hc.count
  · exact hc.fresh s (List.mem_filter.mp hs).1

/-- Cancelling or dropping a live subscription gives the signal. -/
theorem Coherent.signal_cancel {b : Broker} (h : Coherent b) (id : Nat) :
    (b.cancel id).signal = if id ∈ b.live.map (·.id) then b.signal.give else b.signal := by
  rcases h.cancel_cases id with ⟨hnot, heq⟩ | ⟨s, hs, rfl, heq⟩
  · rw [heq, if_neg hnot]
  · rw [heq, if_pos (List.mem_map_of_mem hs)]
    rfl

theorem nextId_cancel (b : Broker) (id : Nat) : (b.cancel id).nextId = b.nextId := by
  unfold cancel
  split
  · rfl
  · split <;> rfl

/-- The signal has no part in this. -/
theorem Coherent.with_signal {b : Broker} (h : Coherent b) (signal : ChangeSignal) :
    Coherent { b with signal } :=
  ⟨h.channels, h.listeners, h.count, h.nodup, h.fresh⟩

/-- Every answered call keeps the count and the channels in agreement with the subscriptions. -/
theorem Coherent.perform {b : Broker} (h : Coherent b) (c : Call) : Coherent (b.perform c).2 := by
  cases c with
  | subscribe topics =>
    rw [Broker.perform]
    split
    · next id b' hsub =>
      obtain ⟨-, rfl⟩ := subscribe?_eq_some hsub
      exact h.subscribed topics
    · exact h
  | publish e => exact h.snd_publish e ▸ h.mapSubscriptions (keepsListening_offer _ e)
  | receive id =>
    obtain ⟨f, hf, heq⟩ := b.exists_snd_receive id
    exact heq ▸ h.mapSubscriptions hf
  | cancel id => exact (h.cancel id).1
  | drop id => exact (h.drop id).1
  | awaitChange =>
    rw [Broker.perform]
    split
    · exact h.with_signal _
    · exact h.with_signal _
  | stopWaiting => exact h.with_signal _

end Broker

/-! ## The registry and the history -/

namespace LoggedBroker

open Broker Broker.History

/-- What a broker holds of its subscriptions is what its history tells. -/
structure Registered (s : LoggedBroker) : Prop where
  coherent : Coherent s.broker
  live : s.past.live.map (fun l => (l.1, topicSet l.2)) =
    s.broker.live.map fun x => (x.id, x.topics)
  made_lt : ∀ id ∈ s.past.made, id < s.broker.nextId
  nodup_made : s.past.made.Nodup
  signal : s.broker.signal.Heeds s.past

theorem registered_new (capacity : Nat) : Registered (new capacity) where
  coherent := coherent_new capacity
  live := rfl
  made_lt := fun _ h => (List.not_mem_nil h).elim
  nodup_made := List.nodup_nil
  signal := ChangeSignal.heeds_new

theorem Registered.liveIds {s : LoggedBroker} (h : Registered s) :
    s.past.liveIds = s.broker.live.map (·.id) := by
  have hids := congrArg (List.map Prod.fst) h.live
  rw [List.map_map, List.map_map] at hids
  exact hids

theorem step_eq {s : LoggedBroker} {c : Call} {r : Reply} {b : Broker}
    (h : s.broker.perform c = (r, b)) : s.step c = ⟨b, ⟨c, r⟩ :: s.past⟩ := by
  rw [step, h]

/-- A call that leaves the registry alone. -/
theorem Registered.aside {s : LoggedBroker} (h : Registered s) {b : Broker} {x : Record}
    (hb : Coherent b)
    (hsame : (b.live.map fun y => (y.id, y.topics)) = s.broker.live.map fun y => (y.id, y.topics))
    (hnext : b.nextId = s.broker.nextId) (hlive : History.live (x :: s.past) = s.past.live)
    (hmade : made (x :: s.past) = s.past.made) (hsignal : b.signal.Heeds (x :: s.past)) :
    Registered ⟨b, x :: s.past⟩ where
  coherent := hb
  live := by rw [hlive, hsame, h.live]
  made_lt := by
    rw [hmade, hnext]
    exact h.made_lt
  nodup_made := by
    rw [hmade]
    exact h.nodup_made
  signal := hsignal

/-- A subscription is refused, or it is made under the next id. -/
theorem subscribe_cases (s : LoggedBroker) (topics : List String) :
    s.step (.subscribe topics) = ⟨s.broker, ⟨.subscribe topics, .refused⟩ :: s.past⟩ ∨
      s.step (.subscribe topics) =
        ⟨s.broker.subscribed topics, ⟨.subscribe topics, .subscribed s.broker.nextId⟩ :: s.past⟩ := by
  cases hsub : s.broker.subscribe? topics with
  | none => exact .inl (step_eq (by rw [perform, hsub]))
  | some made =>
    obtain ⟨id, b⟩ := made
    obtain ⟨rfl, rfl⟩ := subscribe?_eq_some hsub
    exact .inr (step_eq (by rw [perform, hsub]))

theorem Registered.subscribe {s : LoggedBroker} (h : Registered s) (topics : List String) :
    Registered (s.step (.subscribe topics)) := by
  rcases s.subscribe_cases topics with hrefused | hmade
  · rw [hrefused]
    exact h.aside h.coherent rfl rfl rfl rfl (h.signal.quiet nofun nofun id nofun)
  · rw [hmade]
    refine ⟨h.coherent.subscribed topics, ?_, fun id hid => ?_, ?_, ?_⟩
    · rw [live_subscribed, List.map_append, ← h.live]
      show (s.past.live ++ [(s.broker.nextId, topics)]).map _ = _
      rw [List.map_append]
      rfl
    · rcases List.mem_append.mp hid with hid | hid
      · exact Nat.lt_succ_of_lt (h.made_lt id hid)
      · obtain rfl := List.mem_singleton.mp hid
        exact Nat.lt_succ_self _
    · refine List.nodup_append.mpr ⟨h.nodup_made, List.pairwise_singleton _ _, ?_⟩
      intro i hi j hj heq
      have hj : j = s.broker.nextId := List.mem_singleton.mp hj
      exact absurd (heq.trans hj) (Nat.ne_of_lt (h.made_lt i hi))
    · exact h.signal.change trivial nofun

/-- The end of a subscription, by cancelling or dropping it. -/
theorem Registered.ended {s : LoggedBroker} (h : Registered s) {b : Broker} {c : Call} {id : Nat}
    (hc : c = .cancel id ∨ c = .drop id) (hb : Coherent b)
    (hlive : b.live = s.broker.live.filter (·.id != id)) (hnext : b.nextId = s.broker.nextId)
    (hsignal : b.signal =
      if id ∈ s.broker.live.map (·.id) then s.broker.signal.give else s.broker.signal) :
    Registered ⟨b, ⟨c, .done⟩ :: s.past⟩ := by
  have hpast : History.live (⟨c, .done⟩ :: s.past) = s.past.live.filter (·.1 != id) := by
    rcases hc with rfl | rfl <;> rfl
  have hchange : IsChange ⟨c, .done⟩ s.past ↔ id ∈ s.past.liveIds := by
    rcases hc with rfl | rfl <;> exact Iff.rfl
  refine ⟨hb, ?_, fun i hi => ?_, h.nodup_made, ?_⟩
  · calc
      (History.live (⟨c, .done⟩ :: s.past)).map (fun l => (l.1, topicSet l.2))
        = (s.past.live.map fun l => (l.1, topicSet l.2)).filter (·.1 != id) := by
          rw [hpast, List.filter_map]
          rfl
      _ = (s.broker.live.map fun x => (x.id, x.topics)).filter (·.1 != id) := by rw [h.live]
      _ = b.live.map fun x => (x.id, x.topics) := by
          rw [List.filter_map, hlive]
          rfl
  · show i < b.nextId
    rw [hnext]
    exact h.made_lt i hi
  · show b.signal.Heeds _
    rw [hsignal, ← h.liveIds]
    split
    · next hid => exact h.signal.change (hchange.mpr hid) nofun
    · next hid =>
      have hcall : c ≠ .awaitChange ∧ c ≠ .stopWaiting := by
        rcases hc with rfl | rfl <;> exact ⟨nofun, nofun⟩
      exact h.signal.quiet hcall.1 hcall.2 (hchange.not.mpr hid) nofun

/-- A call that changes queues at most. -/
theorem Registered.queues {s : LoggedBroker} (h : Registered s) {f : Subscription → Subscription}
    (hf : KeepsListening f) {x : Record}
    (hlive : History.live (x :: s.past) = s.past.live) (hmade : made (x :: s.past) = s.past.made)
    (hsignal : s.broker.signal.Heeds (x :: s.past)) :
    Registered ⟨s.broker.mapSubscriptions f, x :: s.past⟩ := by
  have hsame : ((s.broker.mapSubscriptions f).live.map fun y => (y.id, y.topics)) =
      s.broker.live.map fun y => (y.id, y.topics) := by
    rw [live_mapSubscriptions _ hf, List.map_map]
    refine List.map_congr_left fun y _ => ?_
    rw [Function.comp_apply, hf.id, hf.topics]
  exact h.aside (h.coherent.mapSubscriptions hf) hsame rfl hlive hmade hsignal

theorem Registered.awaitChange {s : LoggedBroker} (h : Registered s) :
    Registered (s.step .awaitChange) := by
  cases hchanged : s.broker.changed with
  | false =>
    rw [step_eq (r := .nothingNew) (b := s.broker.await) (by simp [perform, hchanged])]
    exact h.aside (h.coherent.with_signal _) rfl rfl rfl rfl (h.signal.nothingNew hchanged)
  | true =>
    rw [step_eq (r := .noticed) (b := s.broker.acknowledge) (by simp [perform, hchanged])]
    exact h.aside (h.coherent.with_signal _) rfl rfl rfl rfl (h.signal.noticed hchanged)

/-- **Every call keeps what a broker holds of its subscriptions in agreement with the history.** -/
theorem Registered.step {s : LoggedBroker} (h : Registered s) (c : Call) : Registered (s.step c) := by
  cases c with
  | subscribe topics => exact h.subscribe topics
  | publish e =>
    rw [step_eq (b := s.broker.mapSubscriptions (offer s.broker.capacity e))
      (congrArg _ (h.coherent.snd_publish e))]
    exact h.queues (keepsListening_offer _ e) rfl rfl (h.signal.quiet nofun nofun id nofun)
  | receive id =>
    obtain ⟨f, hf, heq⟩ := s.broker.exists_snd_receive id
    rw [step_eq (b := s.broker.mapSubscriptions f) (congrArg _ heq)]
    exact h.queues hf rfl rfl (h.signal.quiet nofun nofun (fun hchange => hchange) nofun)
  | cancel id =>
    obtain ⟨hb, hlive⟩ := h.coherent.cancel id
    exact h.ended (.inl rfl) hb hlive (nextId_cancel _ _) (h.coherent.signal_cancel id)
  | drop id =>
    obtain ⟨hb, hlive⟩ := h.coherent.drop id
    exact h.ended (.inr rfl) hb hlive (nextId_cancel _ _) (h.coherent.signal_cancel id)
  | awaitChange => exact h.awaitChange
  | stopWaiting => exact h.aside (h.coherent.with_signal _) rfl rfl rfl rfl h.signal.left

/-- What a whole run preserves. -/
theorem Registered.run {s : LoggedBroker} (h : Registered s) (calls : List Call) :
    Registered (s.run calls) :=
  run_induction (fun _ c h => h.step c) h calls

/-! ## What the registry says -/

theorem Registered.count {s : LoggedBroker} (h : Registered s) :
    s.broker.subscribers = s.past.live.length := by
  have hlen := congrArg List.length h.live
  rw [List.length_map, List.length_map] at hlen
  rw [h.coherent.count, hlen]

theorem Registered.topicSubscribers {s : LoggedBroker} (h : Registered s) (topic : String) :
    s.broker.topicSubscribers topic = (s.past.live.filter fun l => l.2.contains topic).length := by
  have hset : (fun l : Nat × List String => l.2.contains topic) =
      (fun l : Nat × List String => l.2.contains topic) ∘ fun l => (l.1, topicSet l.2) := by
    funext l
    rw [Bool.eq_iff_iff]
    simp
  rw [Broker.topicSubscribers, subscribersOf_eq, h.coherent.listeners, List.length_map, hset,
    ← List.length_map (fun l : Nat × List String => (l.1, topicSet l.2)), ← List.filter_map, h.live,
    List.filter_map, List.length_map]
  rfl

/-- After a live subscription was cancelled or dropped there is one less, and it is never live
again. -/
theorem Registered.ended_once {s : LoggedBroker} (h : Registered s) {c : Call} {id : Nat}
    (hc : c = .cancel id ∨ c = .drop id) (hid : id ∈ s.past.liveIds) :
    (s.step c).broker.subscribers + 1 = s.broker.subscribers ∧
      ∀ calls, id ∉ ((s.step c).run calls).past.liveIds := by
  have hlive : (s.step c).past.live = s.past.live.filter (·.1 != id) := by
    rcases hc with rfl | rfl <;> rfl
  have hnodup : (s.past.live.map (·.1)).Nodup := by
    show s.past.liveIds.Nodup
    rw [h.liveIds]
    exact h.coherent.nodup_live
  refine ⟨?_, fun calls hagain => ?_⟩
  · rw [(h.step c).count, h.count, hlive]
    exact length_filter_key_add_one hnodup hid
  · obtain ⟨later, hpast⟩ := exists_past_run (s.step c) calls
    have hrun := (h.step c).run calls
    rw [hpast] at hagain
    rcases mem_liveIds_append hagain with hstill | hmade
    · rw [History.liveIds, hlive] at hstill
      obtain ⟨l, hl, rfl⟩ := List.mem_map.mp hstill
      simpa using (List.mem_filter.mp hl).2
    · -- no id is given twice
      have hbefore : id ∈ (s.step c).past.made := by
        have hsame : (s.step c).past.made = s.past.made := by
          rcases hc with rfl | rfl <;> rfl
        rw [hsame]
        exact mem_made_of_mem_liveIds hid
      have hnodup := hrun.nodup_made
      rw [hpast, made_append] at hnodup
      exact (List.nodup_append.mp hnodup).2.2 id hbefore id hmade rfl

/-- No other call makes the count smaller. -/
theorem Registered.count_le {s : LoggedBroker} (h : Registered s) {c : Call}
    (hc : ∀ id ∈ s.past.liveIds, c ≠ .cancel id ∧ c ≠ .drop id) :
    s.broker.subscribers ≤ (s.step c).broker.subscribers := by
  rw [h.count, (h.step c).count]
  have hfilter : ∀ id, id ∉ s.past.liveIds → s.past.live.filter (·.1 != id) = s.past.live := by
    intro id hid
    refine List.filter_eq_self.mpr fun l hl => bne_iff_ne.mpr fun heq => hid ?_
    exact heq ▸ List.mem_map_of_mem hl
  show _ ≤ (History.live (⟨c, _⟩ :: s.past)).length
  rw [History.live]
  split
  · rw [List.length_append]
    exact Nat.le_add_right _ _
  · next id hcall =>
    have hsame := hfilter id fun hid => (hc id hid).1 hcall
    exact Nat.le_of_eq (congrArg List.length hsame).symm
  · next id hcall =>
    have hsame := hfilter id fun hid => (hc id hid).2 hcall
    exact Nat.le_of_eq (congrArg List.length hsame).symm
  · exact Nat.le_refl _

/-- What the registry of a broker says about its subscriptions. -/
structure RegistryExact (s : LoggedBroker) : Prop where
  /-- The count is the number of subscriptions that were made and neither cancelled nor dropped. -/
  count : s.broker.subscribers = s.past.live.length
  /-- It goes down by one, from more than zero, when a live subscription is cancelled or dropped,
  and a subscription is not live a second time. -/
  ended_once : ∀ c id, c = .cancel id ∨ c = .drop id → id ∈ s.past.liveIds →
    (s.step c).broker.subscribers + 1 = s.broker.subscribers ∧
      ∀ calls, id ∉ ((s.step c).run calls).past.liveIds
  /-- It goes down at no other call. -/
  count_le : ∀ c, (∀ id ∈ s.past.liveIds, c ≠ .cancel id ∧ c ≠ .drop id) →
    s.broker.subscribers ≤ (s.step c).broker.subscribers
  /-- A topic has the live subscriptions that were made with it. -/
  topicSubscribers : ∀ topic, s.broker.topicSubscribers topic =
    (s.past.live.filter fun l => l.2.contains topic).length
  /-- No topic is kept without subscribers. -/
  ne_nil : ∀ c ∈ s.broker.channels, c.2 ≠ []
  /-- A change is pending, so that a wait is over at once, iff there was one since notice was taken
  last, or the wait that was over then was overrun by changes. -/
  changed : s.broker.changed = true ↔ s.past.HasNews ∨ s.past.Overrun
  /-- A subscription is made wherever there is a queue for it. -/
  subscribed : s.broker.capacity ≤ queueLimit → ∀ topics,
    (s.broker.perform (.subscribe topics)).1 = .subscribed s.broker.nextId

/-- **The registry of a broker is exact.** After any calls the count, the topics and the pending
change of a broker are what the history of its subscriptions tells. -/
theorem registry_exact (capacity : Nat) (calls : List Call) :
    RegistryExact ((new capacity).run calls) := by
  have h : Registered ((new capacity).run calls) := (registered_new capacity).run calls
  exact
    { count := h.count
      ended_once := fun _ _ hc hid => h.ended_once hc hid
      count_le := fun _ hc => h.count_le hc
      topicSubscribers := h.topicSubscribers
      ne_nil := h.coherent.channels.ne_nil
      changed := h.signal.isPending_iff
      subscribed := fun hcapacity topics => by
        rw [perform, subscribe?, if_neg (Nat.not_lt.mpr hcapacity)] }

/-- Somebody takes notice of a subscription and goes on waiting; then there is another one that shares
a topic with the first, which is cancelled twice. -/
def twoListeners : List Call :=
  [.subscribe ["a", "b", "a"], .awaitChange, .awaitChange, .subscribe ["a"], .cancel 1, .cancel 1]

/-- One subscription is left, on its topic, and there is news for the one who waits. -/
theorem registry_exact_of_twoListeners :
    let s := (new 8).run twoListeners
    RegistryExact s ∧ s.broker.subscribers = 1 ∧ s.broker.topicSubscribers "a" = 1 ∧
      s.broker.topicSubscribers "b" = 0 ∧ s.broker.changed = true ∧ s.past.live = [(2, ["a"])] ∧
      s.past.map (·.reply) =
        [.done, .done, .subscribed 2, .nothingNew, .noticed, .subscribed 1] := by
  intro s
  exact ⟨registry_exact 8 twoListeners, rfl, rfl, rfl, rfl, rfl, rfl⟩

/-! ## A wait that is overrun -/

/-- Somebody waits, two subscriptions are made, and the wait is over. -/
def overrunWait : List Call := [.awaitChange, .subscribe [], .subscribe [], .awaitChange]

/-- **After a wait that was overrun a change is pending that is none.**  Nothing has changed since
notice was taken last, and the next wait is over at once. -/
theorem stale_change_pending :
    let s := (new 8).run overrunWait
    s.past.map (·.reply) = [.noticed, .subscribed 2, .subscribed 1, .nothingNew] ∧
      s.broker.changed = true ∧ ¬ s.past.HasNews ∧
      (s.broker.perform .awaitChange).1 = .noticed := by
  intro s
  refine ⟨rfl, rfl, ?_, rfl⟩
  rw [show s.past = ⟨.awaitChange, .noticed⟩ :: ((new 8).run (overrunWait.take 3)).past from rfl,
    hasNews_cons]
  rintro (hchange | ⟨-, hreply⟩)
  · exact hchange
  · exact hreply rfl

end LoggedBroker

end FilterFleet
