import FilterFleet.Events.Stream
import FilterFleet.Proofs.Events.Registry

/-!
# What brokers and streams rely on

Queues have a greatest length, tickers need a period, and numbers are counted in 64 bits; what goes
beyond breaks down. A `Need` is one thing that a step relies on, and `Need.Met` says that it gets
it. This module lists the needs of a broker and of a stream beside what they do, and shows that a
broker that `Fits` gets all of them. It fits if its queues have a length that there is and it has no
more subscriptions than can be counted; everything that is asked of it leaves it that way
(`Fits.perform`).
-/

namespace FilterFleet

/-- What a step relies on. -/
inductive Need where
  /-- A queue of this length is made. -/
  | queue (length : Nat)
  /-- Something is done at intervals. -/
  | period (d : Span)
  /-- A span is computed, with its whole seconds in 64 bits. -/
  | span (d : Span)
  /-- A point in time is computed that lies so far ahead. -/
  | ahead (d : Span)
  /-- A counter of 64 bits comes to this number. -/
  | count (n : Nat)
  /-- A number that cannot be negative has another one taken from it. -/
  | difference (n taken : Nat)
deriving DecidableEq

/-- Whether a step gets what it relies on, where the clock goes on for `longest` at least. -/
def Need.Met (longest : Span) : Need → Prop
  | queue n => 0 < n ∧ n ≤ Broker.queueLimit
  | period d => d ≠ 0
  | span d => d < Span.ofSecs UInt64.size
  | ahead d => d ≤ longest
  | count n => n < UInt64.size
  | difference n taken => taken ≤ n

/-- What taking a tick relies on. -/
def Ticker.needs (t : Ticker) : List Need := [.ahead tolerance, .ahead t.period]

/-- There is a ticker iff its period is one. -/
theorem Ticker.startingAt?_isSome_iff (first : Instant) (period longest : Span) :
    (startingAt? first period).isSome ↔ (Need.period period).Met longest := by
  simp [startingAt?, Need.Met]

@[simp] theorem Ticker.period_take (t : Ticker) (now : Instant) :
    (t.take now).period = t.period := by
  unfold take
  split <;> rfl

namespace Broker

variable {b : Broker} {capacity bound : Nat} {longest : Span}

/-- What a call relies on. -/
def needs (b : Broker) : Call → List Need
  | .subscribe _ => [.queue b.capacity, .count (b.subscribers + 1)]
  | .publish e => [.count (b.publish e).1]
  | .cancel id | .drop id =>
    match b.subscription? id with
    | some s => if s.cancelled then [] else [.difference b.subscribers 1]
    | none => []
  | .receive _ | .awaitChange | .stopWaiting => []

/-- Whether a call asks for a subscription. -/
def Call.subscribes : Call → Bool
  | .subscribe _ => true
  | _ => false

/-- What publishing events one after another relies on. -/
def publishNeeds (b : Broker) : List Event → List Need
  | [] => []
  | e :: rest => b.needs (.publish e) ++ publishNeeds (b.publish e).2 rest

/-- A broker takes subscriptions iff there is a queue of its capacity. -/
theorem subscribe?_isSome_iff (h : 0 < b.capacity) (topics : List String) (longest : Span) :
    (b.subscribe? topics).isSome ↔ (Need.queue b.capacity).Met longest := by
  simp [subscribe?, Need.Met, h]

/-! ## Brokers that fit -/

/-- A broker has queues of a length and at most so many subscriptions. -/
structure Fits (b : Broker) (capacity bound : Nat) : Prop where
  capacity : b.capacity = capacity
  coherent : Coherent b
  length : b.subscriptions.length ≤ bound

theorem fits_new (capacity bound : Nat) : (new capacity).Fits (max capacity 1) bound :=
  ⟨rfl, coherent_new capacity, Nat.zero_le _⟩

theorem Fits.mono (h : b.Fits capacity bound) {more : Nat} (hle : bound ≤ more) :
    b.Fits capacity more :=
  ⟨h.capacity, h.coherent, Nat.le_trans h.length hle⟩

/-- The live subscriptions are among all of them. -/
theorem Fits.subscribers_le (h : b.Fits capacity bound) : b.subscribers ≤ bound := by
  have hlive : b.live.length ≤ b.subscriptions.length := List.length_filter_le _ _
  rw [h.coherent.count]
  exact Nat.le_trans hlive h.length

theorem Fits.mapSubscriptions (h : b.Fits capacity bound) {f : Subscription → Subscription}
    (hf : KeepsListening f) : (b.mapSubscriptions f).Fits capacity bound := by
  refine ⟨h.capacity, h.coherent.mapSubscriptions hf, ?_⟩
  show (b.subscriptions.map f).length ≤ bound
  rw [List.length_map]
  exact h.length

theorem Fits.publish (h : b.Fits capacity bound) (e : Event) :
    (b.publish e).2.Fits capacity bound :=
  h.coherent.snd_publish e ▸ h.mapSubscriptions (keepsListening_offer _ e)

theorem Fits.receive (h : b.Fits capacity bound) (id : Nat) :
    (b.receive id).2.Fits capacity bound := by
  obtain ⟨f, hf, heq⟩ := b.exists_snd_receive id
  exact heq ▸ h.mapSubscriptions hf

theorem Fits.cancel (h : b.Fits capacity bound) (id : Nat) : (b.cancel id).Fits capacity bound := by
  have hcoherent := (h.coherent.cancel id).1
  rcases h.coherent.cancel_cases id with ⟨-, heq⟩ | ⟨s, -, -, heq⟩
  · rw [heq]
    exact h
  · refine ⟨?_, hcoherent, ?_⟩
    · rw [heq]
      exact h.capacity
    · rw [heq]
      show (b.subscriptions.map _).length ≤ bound
      rw [List.length_map]
      exact h.length

theorem Fits.drop (h : b.Fits capacity bound) (id : Nat) : (b.drop id).Fits capacity bound := by
  have hcancel := h.cancel id
  have hless : (b.drop id).subscriptions.length ≤ (b.cancel id).subscriptions.length := by
    rw [drop_eq]
    exact List.length_filter_le _ _
  exact ⟨hcancel.capacity, (h.coherent.drop id).1, Nat.le_trans hless hcancel.length⟩

theorem Fits.with_signal (h : b.Fits capacity bound) (signal : ChangeSignal) :
    Fits { b with signal } capacity bound :=
  ⟨h.capacity, h.coherent.with_signal signal, h.length⟩

theorem Fits.subscribed (h : b.Fits capacity bound) (topics : List String) :
    (b.subscribed topics).Fits capacity (bound + 1) := by
  refine ⟨h.capacity, h.coherent.subscribed topics, ?_⟩
  show (b.subscriptions ++ [b.newcomer topics]).length ≤ bound + 1
  rw [List.length_append]
  exact Nat.succ_le_succ h.length

/-- Every call leaves at most one subscription more. -/
theorem Fits.perform (h : b.Fits capacity bound) (c : Call) :
    (b.perform c).2.Fits capacity (bound + 1) := by
  have hle : bound ≤ bound + 1 := Nat.le_succ bound
  cases c with
  | subscribe topics =>
    rw [Broker.perform]
    split
    · next id b' hsub =>
      obtain ⟨-, rfl⟩ := subscribe?_eq_some hsub
      exact h.subscribed topics
    · exact h.mono hle
  | publish e => exact (h.publish e).mono hle
  | receive id => exact (h.receive id).mono hle
  | cancel id => exact (h.cancel id).mono hle
  | drop id => exact (h.drop id).mono hle
  | awaitChange =>
    rw [Broker.perform]
    split
    · exact (h.with_signal _).mono hle
    · exact (h.with_signal _).mono hle
  | stopWaiting => exact (h.with_signal _).mono hle

/-! ## They get what they rely on -/

/-- An event reaches no more subscriptions than there are. -/
theorem Fits.met_publish (h : b.Fits capacity bound) (hbound : bound < UInt64.size) (e : Event) :
    ∀ need ∈ b.needs (.publish e), need.Met longest := by
  intro need hneed
  obtain rfl := List.mem_singleton.mp hneed
  have hreached : (b.publish e).1 ≤ b.subscriptions.length := List.length_filter_le _ _
  exact Nat.lt_of_le_of_lt (Nat.le_trans hreached h.length) hbound

theorem Fits.met_publishNeeds (h : b.Fits capacity bound) (hbound : bound < UInt64.size)
    (events : List Event) : ∀ need ∈ b.publishNeeds events, need.Met longest := by
  induction events generalizing b with
  | nil => exact nofun
  | cons e rest ih =>
    intro need hneed
    rcases List.mem_append.mp hneed with hneed | hneed
    · exact h.met_publish hbound e need hneed
    · exact ih (h.publish e) need hneed

/-- Whoever cancels a live subscription was counted. -/
theorem Fits.met_cancel (h : b.Fits capacity bound) (id : Nat) :
    ∀ need ∈ b.needs (.cancel id), need.Met longest := by
  intro need hneed
  rw [needs] at hneed
  split at hneed
  · next s hs =>
    split at hneed
    · cases hneed
    · next hlive =>
      obtain rfl := List.mem_singleton.mp hneed
      have hmem : id ∈ b.live.map (·.id) :=
        (h.coherent.mem_liveIds_iff id).mpr ⟨s, hs, by simpa using hlive⟩
      have hpos : 0 < (b.live.map (·.id)).length := List.length_pos_of_mem hmem
      rw [List.length_map, ← h.coherent.count] at hpos
      exact hpos
  · cases hneed

/-- A broker that fits gets what it relies on, if there is a queue for the subscription that it is
asked for. -/
theorem Fits.met (h : b.Fits capacity bound) (hbound : bound + 1 < UInt64.size) (c : Call)
    (hqueue : c.subscribes = true → (Need.queue capacity).Met longest) :
    ∀ need ∈ b.needs c, need.Met longest := by
  cases c with
  | subscribe topics =>
    have hcount : b.subscribers + 1 < UInt64.size :=
      Nat.lt_of_le_of_lt (Nat.succ_le_succ h.subscribers_le) hbound
    intro need hneed
    rcases List.mem_pair.mp hneed with rfl | rfl
    · rw [h.capacity]
      exact hqueue rfl
    · exact hcount
  | publish e => exact h.met_publish (Nat.lt_of_succ_lt hbound) e
  | cancel id => exact h.met_cancel id
  | drop id => exact h.met_cancel id
  | receive _ | awaitChange | stopWaiting => exact nofun

end Broker

/-! ## Streams -/

namespace EventStream

variable {b : Broker} {capacity bound : Nat} {longest : Span}

/-- What opening a stream relies on. -/
def openNeeds (b : Broker) (topics : List String) (period : Span) : List Need :=
  b.needs (.subscribe topics) ++ [.ahead period, .period period]

/-- What waking a stream relies on. -/
def needs (x : EventStream) (b : Broker) : StreamWake → List Need
  | .shutdown => b.needs (.cancel x.subscription)
  | .mail =>
    match b.receive x.subscription with
    | (.event _, _) => []
    | (_, b) => b.needs (.cancel x.subscription)
  | .heartbeat => x.heartbeat.needs

/-- An open stream has subscribed, and its heartbeats have the period. -/
theorem open?_eq_some {topics : List String} {period : Span} {signal : ShutdownSignal}
    {now : Instant} {x : EventStream} {b' : Broker}
    (h : open? b topics period signal now = some (x, b')) :
    b' = b.subscribed topics ∧ x.heartbeat.period = period := by
  obtain ⟨⟨id, b₁⟩, hsub, h⟩ := Option.bind_eq_some_iff.mp h
  obtain ⟨heartbeat, hstart, h⟩ := Option.bind_eq_some_iff.mp h
  obtain ⟨rfl, rfl⟩ := Prod.mk.inj (Option.some.inj h)
  refine ⟨(Broker.subscribe?_eq_some hsub).2, ?_⟩
  rw [Ticker.startingAt?] at hstart
  split at hstart
  · cases hstart
  · obtain rfl := Option.some.inj hstart
    rfl

/-- There is a stream iff there are its queue and its heartbeats. -/
theorem open?_isSome_iff (h : 0 < b.capacity) (topics : List String) (period longest : Span)
    (signal : ShutdownSignal) (now : Instant) :
    (open? b topics period signal now).isSome ↔
      (Need.queue b.capacity).Met longest ∧ (Need.period period).Met longest := by
  rw [← Broker.subscribe?_isSome_iff h topics, ← Ticker.startingAt?_isSome_iff (now + period),
    open?]
  cases b.subscribe? topics with
  | none => simp
  | some subscribed => cases Ticker.startingAt? (now + period) period <;> simp

theorem fits_wake (h : b.Fits capacity bound) (x : EventStream) (now : Instant) (w : StreamWake) :
    (x.wake b now w).2.2.Fits capacity bound := by
  cases w with
  | shutdown => exact h.cancel x.subscription
  | mail =>
    have hreceive := h.receive x.subscription
    rw [wake]
    split
    · next b' heq =>
      rw [heq] at hreceive
      exact hreceive
    · next b' _ heq =>
      rw [heq] at hreceive
      exact hreceive.cancel x.subscription
  | heartbeat => exact h

theorem period_wake (x : EventStream) (b : Broker) (now : Instant) (w : StreamWake) :
    (x.wake b now w).2.1.heartbeat.period = x.heartbeat.period := by
  cases w with
  | shutdown => rfl
  | mail =>
    rw [wake]
    split <;> rfl
  | heartbeat => exact Ticker.period_take _ _

/-- A stream gets what it relies on from a broker that fits, if its heartbeats can be timed. -/
theorem met_needs (h : b.Fits capacity bound) {x : EventStream}
    (hticker : ∀ need ∈ x.heartbeat.needs, need.Met longest) (w : StreamWake) :
    ∀ need ∈ x.needs b w, need.Met longest := by
  cases w with
  | shutdown => exact h.met_cancel x.subscription
  | mail =>
    have hreceive := h.receive x.subscription
    rw [needs]
    split
    · exact nofun
    · next b' _ heq =>
      rw [heq] at hreceive
      exact hreceive.met_cancel x.subscription
  | heartbeat => exact hticker

end EventStream

end FilterFleet
