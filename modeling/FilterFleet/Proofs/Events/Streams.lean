import FilterFleet.Events.Stream
import FilterFleet.Proofs.Events.Delivery

/-!
# Streams and their readers

A `StreamRun` is an event stream with everything around it: the broker and its history, the shutdown
signal, the clock, and a reader who asks for one frame after another. A call of the reader waits
until something wakes the stream, and any wake-up that is possible may be the one (`StreamRun.step?`);
the reader may also give up a call that waits. Meanwhile anything may be asked of the broker that is
not for the owner of the stream's subscription alone.

`StreamRun.streams_exact` says what comes of it. The events of the stream are those that its
mailbox took, in order, without what still waits; the stream ends after a shutdown only; and when it
ends its subscription is gone. The invariant is `StreamRun.Kept`: one more move keeps it
(`StreamRun.Kept.step`), and so does every run.
-/

namespace FilterFleet

open Broker Broker.History Errands

/-! ## Topics that are asked for -/

/-- Whatever is asked for, a stream has topics. -/
theorem parseTopics_ne_nil (value : Option String) : parseTopics value ≠ [] := by
  rw [parseTopics]
  split
  · exact List.cons_ne_nil _ _
  · next hsome => simpa using hsome

/-! ## What a stream asks of its broker -/

/-- Whether a call is for the owner of a subscription alone. -/
def Broker.Call.isOwn (id : Nat) : Call → Bool
  | .receive i | .cancel i | .drop i => i == id
  | .subscribe _ | .publish _ | .awaitChange | .stopWaiting => false

/-- The calls that a stream makes when it is woken. -/
def EventStream.calls (x : EventStream) (b : Broker) : StreamWake → List Call
  | .shutdown => [.cancel x.subscription]
  | .mail =>
    match (b.receive x.subscription).1 with
    | .event _ => [.receive x.subscription]
    | .ended | .pending => [.receive x.subscription, .cancel x.subscription]
  | .heartbeat => []

/-- These calls leave the broker as the stream does. -/
theorem EventStream.broker_run_calls (x : EventStream) (log : LoggedBroker) (now : Instant)
    (w : StreamWake) :
    (log.run (x.calls log.broker w)).broker = (x.wake log.broker now w).2.2 := by
  cases w with
  | shutdown | heartbeat => rfl
  | mail =>
    rw [calls, wake]
    rcases hr : log.broker.receive x.subscription with ⟨_ | _ | _, b⟩ <;>
      simp [LoggedBroker.run, LoggedBroker.step, perform, finish, hr]

/-- The event of a frame, if it is not a heartbeat. -/
def Frame.event? : Frame → Option Event
  | .event e => some e
  | .heartbeat => none

/-! ## Runs -/

/-- A stream with what goes on around it. -/
structure StreamRun where
  stream : EventStream
  log : LoggedBroker
  signal : ShutdownSignal
  now : Instant
  /-- A call for the next frame waits. -/
  waiting : Bool
  /-- What the calls returned, in their order. -/
  answers : List (Option Frame)

namespace StreamRun

/-- What happens to a stream and around it. -/
inductive Move where
  | passed (time : Span)
  /-- A shutdown is signalled. -/
  | sent
  /-- The sender of the signal is gone. -/
  | closed
  /-- Something is asked of the broker or of another subscription. -/
  | called (c : Call)
  /-- The reader asks for the next frame. -/
  | asked
  /-- The stream is woken and answers. -/
  | woken (w : StreamWake)
  /-- The reader gives up waiting. -/
  | abandoned

variable {s t u : StreamRun} {m : Move}

/-- Wake the stream. -/
def wake (s : StreamRun) (w : StreamWake) : StreamRun :=
  let (answer, stream, broker) := s.stream.wake s.log.broker s.now w
  { s with
    stream
    log := ⟨broker, (s.log.run (s.stream.calls s.log.broker w)).past⟩
    waiting := false
    answers := s.answers ++ [answer] }

/-- What a move does, if it can be made. A stream that has ended answers at once. -/
def step? (s : StreamRun) : Move → Option StreamRun
  | .passed time => some { s with now := s.now + time }
  | .sent => some { s with signal := s.signal.send }
  | .closed => some { s with signal := { s.signal with closed := true } }
  | .called c => if c.isOwn s.stream.subscription then none else some { s with log := s.log.step c }
  | .asked =>
    if s.waiting then none
    else if s.stream.finished then some { s with answers := s.answers ++ [none] }
    else some { s with waiting := true }
  | .woken w =>
    if s.waiting && s.stream.isReady s.log.broker s.signal s.now w then some (s.wake w) else none
  | .abandoned => if s.waiting then some { s with waiting := false } else none

/-- Make moves one after another. -/
def run? (s : StreamRun) (moves : List Move) : Option StreamRun := runMoves? step? s moves

/-- The events among answers, in order. -/
def eventsIn (answers : List (Option Frame)) : List Event :=
  answers.filterMap fun a => a.bind Frame.event?

theorem eventsIn_concat (answers : List (Option Frame)) (e : Event) :
    eventsIn (answers ++ [some (.event e)]) = eventsIn answers ++ [e] :=
  List.filterMap_append

theorem eventsIn_concat_of_none (answers : List (Option Frame)) {a : Option Frame}
    (ha : a.bind Frame.event? = none) : eventsIn (answers ++ [a]) = eventsIn answers := by
  have hnone : eventsIn [a] = [] := List.filterMap_cons_none ha
  rw [eventsIn, List.filterMap_append]
  exact (congrArg _ hnone).trans (List.append_nil _)

/-- The stream was opened just now over a live subscription of a broker that calls can build. -/
structure Fresh (s : StreamRun) : Prop where
  log : ∃ capacity calls, s.log = (LoggedBroker.new capacity).run calls
  subscription : ∃ x, s.log.broker.subscription? s.stream.subscription = some x ∧
    x.topics = s.stream.topics ∧ x.cancelled = false
  listener : s.stream.listener = s.signal.listen
  unfinished : s.stream.finished = false
  idle : s.waiting = false
  unanswered : s.answers = []

/-- A stream that was opened on topics is fresh. -/
theorem fresh_of_open? {log : LoggedBroker} {capacity : Nat} {calls : List Call}
    (hlog : log = (LoggedBroker.new capacity).run calls) {topics : List String} {period : Span}
    {signal : ShutdownSignal} {now : Instant} {x : EventStream} {b : Broker}
    (h : EventStream.open? log.broker topics period signal now = some (x, b)) :
    (log.step (.subscribe topics)).broker = b ∧ x.topics = topicSet topics ∧
      Fresh ⟨x, log.step (.subscribe topics), signal, now, false, []⟩ := by
  obtain ⟨⟨id, b₁⟩, hsub, h⟩ := Option.bind_eq_some_iff.mp h
  obtain ⟨heartbeat, -, h⟩ := Option.bind_eq_some_iff.mp h
  obtain ⟨rfl, rfl⟩ := Prod.mk.inj (Option.some.inj h)
  obtain ⟨rfl, rfl⟩ := subscribe?_eq_some hsub
  have hcoherent : Coherent log.broker :=
    hlog ▸ ((LoggedBroker.registered_new capacity).run calls).coherent
  have hmade : (log.step (.subscribe topics)).broker = log.broker.subscribed topics := by
    rw [LoggedBroker.step, perform, hsub]
  refine ⟨hmade, rfl, ⟨capacity, calls ++ [.subscribe topics], ?_⟩,
    ⟨log.broker.newcomer topics, ?_, rfl, rfl⟩, rfl, rfl, rfl, rfl⟩
  · rw [hlog, LoggedBroker.run, LoggedBroker.run, List.foldl_concat]
  · show Broker.subscription? (log.step (.subscribe topics)).broker log.broker.nextId = _
    rw [hmade, subscription?_subscribed hcoherent, if_pos rfl]

/-- What the next frame is computed to be, moves lead to. -/
theorem exists_run_of_next? (hidle : s.waiting = false) {answer : Option Frame} {x : EventStream}
    {b : Broker} (h : s.stream.next? s.log.broker s.signal s.now = some (answer, x, b)) :
    ∃ moves t, s.run? moves = some t ∧ t.stream = x ∧ t.log.broker = b ∧
      t.answers = s.answers ++ [answer] := by
  rw [EventStream.next?] at h
  split at h
  · next hfinished =>
    obtain ⟨rfl, rfl, rfl⟩ : none = answer ∧ s.stream = x ∧ s.log.broker = b := by simpa using h
    refine ⟨[.asked], { s with answers := s.answers ++ [none] }, ?_, rfl, rfl, rfl⟩
    simp [run?, runMoves?, step?, hidle, hfinished]
  · next hfinished =>
    obtain ⟨w, hw, hwake⟩ := Option.map_eq_some_iff.mp h
    have hready := List.find?_some hw
    refine ⟨[.asked, .woken w], { s with waiting := true }.wake w, ?_, ?_⟩
    · simp [run?, runMoves?, step?, hidle, hfinished, hready]
    · simp [wake, hwake]

end StreamRun

/-! ## What calls do to one mailbox -/

namespace LoggedBroker

variable {s : LoggedBroker} {capacity id : Nat} {m : Mailbox}

/-- What is not for the owner of a subscription alone can only put events into its mailbox. -/
theorem Delivering.foreign (h : Delivering capacity s)
    (hm : mailbox? capacity (s.past.errands id) = some m) {c : Call} (hc : c.isOwn id = false) :
    (s.step c).past.delivered id = s.past.delivered id ∧
      ∃ queue, mailbox? capacity ((s.step c).past.errands id) = some { m with queue } := by
  have aside : ∀ x : Record, x.errand? id = none →
      delivered id (x :: s.past) = s.past.delivered id →
      delivered id (x :: s.past) = s.past.delivered id ∧
        ∃ queue, mailbox? capacity (errands id (x :: s.past)) = some { m with queue } := by
    intro x hx hdelivered
    exact ⟨hdelivered, m.queue, by rw [errands_cons_of_none hx, hm]⟩
  cases c with
  | subscribe topics =>
    rcases s.subscribe_cases topics with hrefused | hmade
    · rw [hrefused]
      exact aside _ rfl rfl
    · rw [hmade]
      -- the mailbox was made before, and no id is given twice
      have hne : s.broker.nextId ≠ id := by
        have hlt := h.served.registered.made_lt id (mem_made_of_mailbox? hm)
        exact Nat.ne_of_gt hlt
      exact aside _ ((Record.errand?_subscribed ..).trans (if_neg hne)) (if_neg hne)
  | publish e =>
    have herrands : (s.step (.publish e)).past.errands id = .offered e :: s.past.errands id :=
      errands_cons_of_some rfl
    refine ⟨rfl, if m.takes capacity e then m.queue ++ [e] else m.queue, ?_⟩
    rw [herrands, mailbox?_cons, hm, Mailbox.after, Option.map_some]
    split <;> rfl
  | receive i =>
    have hne : i ≠ id := by simpa [Call.isOwn] using hc
    refine aside _ ((Record.errand?_receive ..).trans (if_neg hne)) ?_
    show delivered id (⟨.receive i, .received (s.broker.receive i).1⟩ :: s.past) = _
    cases (s.broker.receive i).1 with
    | event e => exact if_neg hne
    | ended | pending => rfl
  | cancel i =>
    have hne : i ≠ id := by simpa [Call.isOwn] using hc
    exact aside _ ((Record.errand?_cancel ..).trans (if_neg hne)) rfl
  | drop i =>
    have hne : i ≠ id := by simpa [Call.isOwn] using hc
    exact aside _ ((Record.errand?_drop ..).trans (if_neg hne)) rfl
  | awaitChange => exact aside _ rfl rfl
  | stopWaiting => exact aside _ rfl rfl

/-- An event that is received was the first of the mailbox. -/
theorem received (hm : mailbox? capacity (s.past.errands id) = some m) {e : Event}
    (he : (s.broker.receive id).1 = .event e) :
    (s.step (.receive id)).past.delivered id = s.past.delivered id ++ [e] ∧
      mailbox? capacity ((s.step (.receive id)).past.errands id) =
        some { m with queue := m.queue.tail } := by
  have herrands : (s.step (.receive id)).past.errands id = .collected :: s.past.errands id :=
    errands_cons_of_some ((Record.errand?_receive ..).trans (if_pos rfl))
  refine ⟨?_, by rw [herrands, mailbox?_cons, hm]; rfl⟩
  show delivered id (⟨.receive id, .received (s.broker.receive id).1⟩ :: s.past) = _
  rw [he]
  exact if_pos rfl

/-- A mailbox that is cancelled keeps what it holds. -/
theorem cancelled (hm : mailbox? capacity (s.past.errands id) = some m) :
    (s.step (.cancel id)).past.delivered id = s.past.delivered id ∧
      mailbox? capacity ((s.step (.cancel id)).past.errands id) =
        some { m with listening := false } := by
  have herrands : (s.step (.cancel id)).past.errands id = .cancelled :: s.past.errands id :=
    errands_cons_of_some ((Record.errand?_cancel ..).trans (if_pos rfl))
  exact ⟨rfl, by rw [herrands, mailbox?_cons, hm]; rfl⟩

/-- A mailbox has its subscription. -/
theorem Delivering.subscription?_eq (h : Delivering capacity s)
    (hm : mailbox? capacity (s.past.errands id) = some m) :
    s.broker.subscription? id = some (m.subscription id) := by
  rw [h.served.subscription, h.capacity_eq, hm, Option.map_some]

/-- A topic lists the subscription of a mailbox as long as it listens on the topic. -/
theorem Delivering.mem_subscribersOf_iff (h : Delivering capacity s)
    (hm : mailbox? capacity (s.past.errands id) = some m) (topic : String) :
    id ∈ s.broker.subscribersOf topic ↔ m.listening = true ∧ topic ∈ m.topics := by
  have hcoherent := h.served.registered.coherent
  have hmem := (hcoherent.subscription?_eq_some_iff.mp (h.subscription?_eq hm)).1
  have hcontains := hcoherent.contains_subscribersOf hmem topic
  have hiff := Bool.eq_iff_iff.mp hcontains
  simpa [Mailbox.subscription] using hiff

/-- The mailbox of a live subscription is open. -/
theorem Delivering.mem_liveIds_iff (h : Delivering capacity s)
    (hm : mailbox? capacity (s.past.errands id) = some m) :
    id ∈ s.past.liveIds ↔ m.listening = true := by
  rw [h.served.registered.liveIds, h.served.registered.coherent.mem_liveIds_iff,
    h.subscription?_eq hm]
  simp [Mailbox.subscription]

end LoggedBroker

namespace StreamRun

variable {s t u : StreamRun} {m : Move}

/-! ## Answers in order -/

/-- Answers are frames, and then nothing but the end, if the stream has ended. -/
def Orderly (ended : Bool) (answers : List (Option Frame)) : Prop :=
  ∃ frames n, answers = List.map some frames ++ List.replicate n none ∧ (ended = true ↔ 0 < n)

theorem orderly_nil : Orderly false [] := ⟨[], 0, rfl, by simp⟩

theorem Orderly.frame {ended : Bool} {answers : List (Option Frame)} (h : Orderly ended answers)
    (hopen : ended = false) (f : Frame) : Orderly ended (answers ++ [some f]) := by
  subst hopen
  obtain ⟨frames, n, rfl, hn⟩ := h
  obtain rfl : n = 0 := by simpa using hn
  exact ⟨frames ++ [f], 0, by simp, by simp⟩

theorem Orderly.ending {ended : Bool} {answers : List (Option Frame)} (h : Orderly ended answers) :
    Orderly true (answers ++ [none]) := by
  obtain ⟨frames, n, rfl, -⟩ := h
  refine ⟨frames, n + 1, ?_, by simp⟩
  rw [List.replicate_succ', List.append_assoc]

theorem Orderly.none_mem_iff {ended : Bool} {answers : List (Option Frame)}
    (h : Orderly ended answers) : none ∈ answers ↔ ended = true := by
  obtain ⟨frames, n, rfl, hn⟩ := h
  simp [hn, Nat.pos_iff_ne_zero]

/-! ## Waking -/

/-- The history goes on with the calls that the stream makes. -/
theorem wake_eq (t : StreamRun) (w : StreamWake) :
    t.wake w =
      { t with
        stream := (t.stream.wake t.log.broker t.now w).2.1
        log := t.log.run (t.stream.calls t.log.broker w)
        waiting := false
        answers := t.answers ++ [(t.stream.wake t.log.broker t.now w).1] } := by
  have hbroker := t.stream.broker_run_calls t.log t.now w
  have hlog : (t.wake w).log = t.log.run (t.stream.calls t.log.broker w) :=
    congrArg (LoggedBroker.mk · _) hbroker.symm
  rw [← hlog]
  rfl

theorem wake_shutdown (t : StreamRun) :
    t.wake .shutdown =
      { t with
        stream := { t.stream with finished := true }
        log := t.log.step (.cancel t.stream.subscription)
        waiting := false
        answers := t.answers ++ [none] } := rfl

/-- After a heartbeat the ticker goes on in some way. -/
theorem wake_heartbeat (t : StreamRun) :
    ∃ heartbeat, t.wake .heartbeat =
      { t with
        stream := { t.stream with heartbeat }
        waiting := false
        answers := t.answers ++ [some .heartbeat] } := ⟨_, rfl⟩

theorem wake_mail {e : Event} (he : (t.log.broker.receive t.stream.subscription).1 = .event e) :
    t.wake .mail =
      { t with
        log := t.log.step (.receive t.stream.subscription)
        waiting := false
        answers := t.answers ++ [some (.event e)] } := by
  have hcalls : t.stream.calls t.log.broker .mail = [.receive t.stream.subscription] := by
    rw [EventStream.calls, he]
  rw [wake_eq, hcalls]
  rcases hr : t.log.broker.receive t.stream.subscription with ⟨r, b⟩
  obtain rfl : r = .event e := by simpa [hr] using he
  simp [EventStream.wake, hr, LoggedBroker.run]

theorem step?_woken {w : StreamWake} (h : t.step? (.woken w) = some u) :
    t.waiting = true ∧ t.stream.isReady t.log.broker t.signal t.now w = true ∧ u = t.wake w := by
  obtain ⟨hguard, hwake⟩ := Option.ite_none_right_eq_some.mp h
  obtain ⟨hwaiting, hready⟩ := Bool.and_eq_true_iff.mp hguard
  exact ⟨hwaiting, hready, (Option.some.inj hwake).symm⟩

/-- A stream changes only when it is woken. -/
theorem stream_eq_or_woken (h : t.step? m = some u) :
    u.stream = t.stream ∨ ∃ w, t.waiting = true ∧
      t.stream.isReady t.log.broker t.signal t.now w = true ∧ u = t.wake w := by
  cases m with
  | passed time | sent | closed =>
    obtain rfl := Option.some.inj h
    exact .inl rfl
  | called c =>
    obtain ⟨-, h⟩ := Option.ite_none_left_eq_some.mp h
    obtain rfl := Option.some.inj h
    exact .inl rfl
  | asked =>
    obtain ⟨-, h⟩ := Option.ite_none_left_eq_some.mp h
    split at h
    · obtain rfl := Option.some.inj h
      exact .inl rfl
    · obtain rfl := Option.some.inj h
      exact .inl rfl
  | woken w => exact .inr ⟨w, step?_woken h⟩
  | abandoned =>
    obtain ⟨-, h⟩ := Option.ite_none_right_eq_some.mp h
    obtain rfl := Option.some.inj h
    exact .inl rfl

/-! ## What every move keeps -/

/-- What is true of a stream at every time after it was opened as `s`. -/
structure Kept (capacity : Nat) (s t : StreamRun) : Prop where
  delivering : LoggedBroker.Delivering capacity t.log
  subscription : t.stream.subscription = s.stream.subscription
  listener : t.stream.listener = s.signal.listen
  /-- The mailbox listens on the topics of the stream until the stream ends. -/
  mailbox : ∃ topics queue, mailbox? capacity (t.log.past.errands s.stream.subscription) =
    some ⟨topics, queue, !t.stream.finished⟩ ∧ topicSet topics = s.stream.topics
  events : t.log.past.delivered s.stream.subscription =
    s.log.past.delivered s.stream.subscription ++ eventsIn t.answers
  answers : Orderly t.stream.finished t.answers
  reached : t.stream.finished = true → t.signal.reaches t.stream.listener = true
  waiting : t.waiting = true → t.stream.finished = false

namespace Kept

variable {capacity : Nat}

/-- A fresh stream has a mailbox, which is open. -/
theorem of_fresh (h : s.Fresh) : Kept s.log.broker.capacity s s := by
  obtain ⟨capacity, calls, hlog⟩ := h.log
  have hdelivering : LoggedBroker.Delivering (max capacity 1) s.log :=
    hlog ▸ (LoggedBroker.delivering_new capacity).run calls
  obtain ⟨x, hx, htopics, hlive⟩ := h.subscription
  have hcapacity := hdelivering.capacity_eq
  have hsub := hdelivering.served.subscription s.stream.subscription
  rw [hx] at hsub
  obtain ⟨m, hm, rfl⟩ := Option.map_eq_some_iff.mp hsub.symm
  have hlistening : m.listening = true := by simpa [Mailbox.subscription] using hlive
  refine
    { delivering := hcapacity ▸ hdelivering
      subscription := rfl
      listener := h.listener
      mailbox := ⟨m.topics, m.queue, ?_, htopics⟩
      events := ?_
      answers := ?_
      reached := fun hf => ?_
      waiting := fun hw => ?_ }
  · rw [hm, h.unfinished, Bool.not_false, ← hlistening]
  · rw [h.unanswered, eventsIn, List.filterMap_nil, List.append_nil]
  · rw [h.unanswered, h.unfinished]
    exact orderly_nil
  · rw [h.unfinished] at hf
    cases hf
  · rw [h.idle] at hw
    cases hw

/-- An open stream over topics finds an event, or has to wait for one. -/
theorem exists_event (h : Kept capacity s t) (htopics : s.stream.topics ≠ [])
    (hopen : t.stream.finished = false)
    (hready : (t.log.broker.receive t.stream.subscription).1 ≠ .pending) :
    ∃ e, (t.log.broker.receive t.stream.subscription).1 = .event e := by
  obtain ⟨topics, queue, hm, hset⟩ := h.mailbox
  have hreceive : (t.log.broker.receive t.stream.subscription).1 =
      (⟨topics, queue, true⟩ : Mailbox).receipt := by
    have hserved := h.delivering.served.fst_receive s.stream.subscription
    rw [h.subscription, hserved, h.delivering.capacity_eq, hm, hopen]
    rfl
  have hne : topics ≠ [] := by
    rintro rfl
    exact htopics hset.symm
  rw [hreceive] at hready ⊢
  cases queue with
  | nil => simp [Mailbox.receipt, hne] at hready
  | cons e rest => exact ⟨e, rfl⟩

theorem called (h : Kept capacity s t) {c : Call} (hc : c.isOwn t.stream.subscription = false) :
    Kept capacity s { t with log := t.log.step c } := by
  rw [h.subscription] at hc
  obtain ⟨topics, queue, hm, hset⟩ := h.mailbox
  obtain ⟨hdelivered, queue', hm'⟩ := h.delivering.foreign hm hc
  exact
    { h with
      delivering := h.delivering.step c
      mailbox := ⟨topics, queue', hm', hset⟩
      events := hdelivered.trans h.events }

theorem ended (h : Kept capacity s t) (hreaches : t.signal.reaches t.stream.listener = true) :
    Kept capacity s (t.wake .shutdown) := by
  obtain ⟨topics, queue, hm, hset⟩ := h.mailbox
  obtain ⟨hdelivered, hm'⟩ := LoggedBroker.cancelled hm
  rw [wake_shutdown, h.subscription]
  exact
    { delivering := h.delivering.step _
      subscription := h.subscription
      listener := h.listener
      mailbox := ⟨topics, queue, hm', hset⟩
      events := by rw [hdelivered, h.events, eventsIn_concat_of_none _ rfl]
      answers := h.answers.ending
      reached := fun _ => hreaches
      waiting := fun hw => Bool.noConfusion hw }

theorem received (h : Kept capacity s t) (hopen : t.stream.finished = false) {e : Event}
    (he : (t.log.broker.receive t.stream.subscription).1 = .event e) :
    Kept capacity s (t.wake .mail) := by
  rw [wake_mail he, h.subscription]
  rw [h.subscription] at he
  obtain ⟨topics, queue, hm, hset⟩ := h.mailbox
  obtain ⟨hdelivered, hm'⟩ := LoggedBroker.received hm he
  exact
    { delivering := h.delivering.step _
      subscription := h.subscription
      listener := h.listener
      mailbox := ⟨topics, queue.tail, hm', hset⟩
      events := by rw [hdelivered, h.events, eventsIn_concat, List.append_assoc]
      answers := h.answers.frame hopen _
      reached := h.reached
      waiting := fun hw => Bool.noConfusion hw }

theorem beaten (h : Kept capacity s t) (hopen : t.stream.finished = false) :
    Kept capacity s (t.wake .heartbeat) := by
  obtain ⟨heartbeat, hwake⟩ := t.wake_heartbeat
  rw [hwake]
  exact
    { delivering := h.delivering
      subscription := h.subscription
      listener := h.listener
      mailbox := h.mailbox
      events := by rw [h.events, eventsIn_concat_of_none _ rfl]
      answers := h.answers.frame hopen _
      reached := h.reached
      waiting := fun hw => Bool.noConfusion hw }

/-- A signal that reaches a listener does so for good. -/
theorem signalled (h : Kept capacity s t) {signal : ShutdownSignal}
    (hsent : t.signal.sent ≤ signal.sent) (hclosed : t.signal.closed = true → signal.closed = true) :
    Kept capacity s { t with signal } := by
  refine { h with reached := fun hf => ?_ }
  have hreaches := h.reached hf
  simp only [ShutdownSignal.reaches, Bool.or_eq_true, decide_eq_true_eq] at hreaches ⊢
  exact hreaches.imp (fun hlt => Nat.lt_of_lt_of_le hlt hsent) hclosed

/-- **Every move keeps what is true of a stream.** -/
theorem step (h : Kept capacity s t) (htopics : s.stream.topics ≠ [])
    (hstep : t.step? m = some u) : Kept capacity s u := by
  cases m with
  | passed time =>
    obtain rfl := Option.some.inj hstep
    exact { h with }
  | sent =>
    obtain rfl := Option.some.inj hstep
    exact h.signalled (Nat.le_succ _) id
  | closed =>
    obtain rfl := Option.some.inj hstep
    exact h.signalled (Nat.le_refl _) fun _ => rfl
  | called c =>
    obtain ⟨hc, hstep⟩ := Option.ite_none_left_eq_some.mp hstep
    obtain rfl := Option.some.inj hstep
    exact h.called (by simpa using hc)
  | asked =>
    obtain ⟨hidle, hstep⟩ := Option.ite_none_left_eq_some.mp hstep
    split at hstep
    · next hfinished =>
      obtain rfl := Option.some.inj hstep
      exact
        { h with
          events := by rw [eventsIn_concat_of_none _ rfl, h.events]
          answers := hfinished ▸ h.answers.ending }
    · next hopen =>
      obtain rfl := Option.some.inj hstep
      exact { h with waiting := fun _ => by simpa using hopen }
  | woken w =>
    obtain ⟨hwaiting, hready, rfl⟩ := step?_woken hstep
    have hopen := h.waiting hwaiting
    cases w with
    | shutdown => exact h.ended hready
    | mail =>
      obtain ⟨e, he⟩ := h.exists_event htopics hopen (bne_iff_ne.mp hready)
      exact h.received hopen he
    | heartbeat => exact h.beaten hopen
  | abandoned =>
    obtain ⟨hwaiting, hstep⟩ := Option.ite_none_right_eq_some.mp hstep
    obtain rfl := Option.some.inj hstep
    exact { h with waiting := fun hw => Bool.noConfusion hw }

/-- What a whole run keeps. -/
theorem run (h : Kept capacity s t) (htopics : s.stream.topics ≠ []) {moves : List Move}
    (hrun : t.run? moves = some u) : Kept capacity s u :=
  runMoves?_induction (fun _ _ _ hs hstep => hs.step htopics hstep) h hrun

/-! ## The end -/

/-- A stream answers that it has ended for the first time when the shutdown wakes it. -/
theorem eq_wake_shutdown (h : Kept capacity s t) (htopics : s.stream.topics ≠ [])
    (hstep : t.step? m = some u) (hbefore : none ∉ t.answers) (hafter : none ∈ u.answers) :
    u = t.wake .shutdown ∧ t.stream.finished = false := by
  have hopen : t.stream.finished = false := by
    simpa [h.answers.none_mem_iff] using hbefore
  have hended : u.stream.finished = true :=
    (h.step htopics hstep).answers.none_mem_iff.mp hafter
  have hnot : u.stream.finished ≠ t.stream.finished := by simp [hopen, hended]
  rcases stream_eq_or_woken hstep with hsame | ⟨w, -, hready, rfl⟩
  · exact absurd (congrArg EventStream.finished hsame) hnot
  · cases w with
    | shutdown => exact ⟨rfl, hopen⟩
    | mail =>
      obtain ⟨e, he⟩ := h.exists_event htopics hopen (bne_iff_ne.mp hready)
      rw [wake_mail he] at hnot
      exact absurd rfl hnot
    | heartbeat =>
      obtain ⟨heartbeat, hwake⟩ := t.wake_heartbeat
      rw [hwake] at hnot
      exact absurd rfl hnot

end Kept

/-- What is true of a stream at a time `t` after it was opened as `s`. -/
structure StreamExact (s t : StreamRun) : Prop where
  /-- What the stream's subscription received before, the events that the reader was given and those
  that still wait are, in this order, the events that the subscription took. -/
  in_order : ∃ x, t.log.broker.subscription? s.stream.subscription = some x ∧
    s.log.past.delivered s.stream.subscription ++ eventsIn t.answers ++ x.queue =
      accepted t.log.broker.capacity (t.log.past.errands s.stream.subscription)
  /-- Until the end, an event that waits can wake the stream, and nothing else is taken for one. -/
  mail : none ∉ t.answers → (t.stream.isReady t.log.broker t.signal t.now .mail = true ↔
    ∃ e, (t.log.broker.receive t.stream.subscription).1 = .event e)
  /-- The reader is given frames, and then nothing but the end. -/
  ends_once : ∃ frames n, t.answers = List.map some frames ++ List.replicate n none
  /-- Once it has ended, a stream says so at once. -/
  stays_ended : none ∈ t.answers → ∀ signal now,
    t.stream.next? t.log.broker signal now = some (none, t.stream, t.log.broker)
  /-- A stream ends only after a shutdown that was signalled since it was opened, or if no signal
  can come any more. -/
  after_shutdown : none ∈ t.answers → s.signal.sent < t.signal.sent ∨ t.signal.closed = true
  /-- Its topics list the subscription until the end, and no topic does from then on. -/
  registered : ∀ topic, s.stream.subscription ∈ t.log.broker.subscribersOf topic ↔
    none ∉ t.answers ∧ topic ∈ s.stream.topics
  /-- With the first answer that it has ended there is one subscriber less. -/
  count : ∀ m u, t.step? m = some u → none ∉ t.answers → none ∈ u.answers →
    u.log.broker.subscribers + 1 = t.log.broker.subscribers
  /-- To give up a stream that has ended changes nothing but that its queue is gone. -/
  dropped : none ∈ t.answers → t.stream.drop t.log.broker =
    { t.log.broker with
      subscriptions := t.log.broker.subscriptions.filter (·.id != s.stream.subscription) }

namespace Kept

variable {capacity : Nat}

theorem in_order (h : Kept capacity s t) :
    ∃ x, t.log.broker.subscription? s.stream.subscription = some x ∧
      s.log.past.delivered s.stream.subscription ++ eventsIn t.answers ++ x.queue =
        accepted t.log.broker.capacity (t.log.past.errands s.stream.subscription) := by
  obtain ⟨topics, queue, hm, -⟩ := h.mailbox
  have hqueue := ((h.delivering.fifo s.stream.subscription).queue _ hm).1
  rw [h.events] at hqueue
  exact ⟨_, h.delivering.subscription?_eq hm, h.delivering.capacity_eq.symm ▸ hqueue⟩

theorem registered (h : Kept capacity s t) (topic : String) :
    s.stream.subscription ∈ t.log.broker.subscribersOf topic ↔
      none ∉ t.answers ∧ topic ∈ s.stream.topics := by
  obtain ⟨topics, queue, hm, hset⟩ := h.mailbox
  rw [h.delivering.mem_subscribersOf_iff hm topic, h.answers.none_mem_iff, ← hset, mem_topicSet]
  simp

theorem exact (h : Kept capacity s t) (htopics : s.stream.topics ≠ []) : StreamExact s t where
  in_order := h.in_order
  mail := by
    intro hopen
    rw [h.answers.none_mem_iff, Bool.not_eq_true] at hopen
    refine ⟨fun hready => h.exists_event htopics hopen (bne_iff_ne.mp hready), ?_⟩
    rintro ⟨e, he⟩
    exact bne_iff_ne.mpr (by rw [he]; exact Receipt.noConfusion)
  ends_once := by
    obtain ⟨frames, n, hanswers, -⟩ := h.answers
    exact ⟨frames, n, hanswers⟩
  stays_ended := by
    intro hended signal now
    exact if_pos (h.answers.none_mem_iff.mp hended)
  after_shutdown := by
    intro hended
    have hreaches := h.reached (h.answers.none_mem_iff.mp hended)
    rw [h.listener, ShutdownSignal.reaches, Bool.or_eq_true, decide_eq_true_eq] at hreaches
    exact hreaches
  registered := h.registered
  count := by
    intro m u hstep hbefore hafter
    obtain ⟨rfl, hopen⟩ := h.eq_wake_shutdown htopics hstep hbefore hafter
    obtain ⟨topics, queue, hm, -⟩ := h.mailbox
    have hlive := (h.delivering.mem_liveIds_iff hm).mpr (by rw [hopen]; rfl)
    rw [wake_shutdown, h.subscription]
    exact (h.delivering.served.registered.ended_once (.inl rfl) hlive).1
  dropped := by
    intro hended
    obtain ⟨topics, queue, hm, -⟩ := h.mailbox
    have hregistered := h.delivering.served.registered
    -- the subscription is not live any more, so that there is nothing to cancel
    have hnot : s.stream.subscription ∉ t.log.broker.live.map (·.id) := by
      rw [← hregistered.liveIds, h.delivering.mem_liveIds_iff hm,
        h.answers.none_mem_iff.mp hended]
      exact Bool.noConfusion
    rw [EventStream.drop, h.subscription, drop_eq]
    rcases hregistered.coherent.cancel_cases s.stream.subscription with ⟨-, heq⟩ | ⟨x, hx, hid, -⟩
    · rw [heq]
    · exact absurd (hid ▸ List.mem_map_of_mem hx) hnot

end Kept

/-- **A stream loses no event, hands out none twice and ends once.** Whatever is asked for, a stream
has topics; and a stream over topics is exact at every time after it was opened, whatever is
published and signalled, whenever its reader asks for a frame or gives up waiting, and whichever
wake-up of those that are possible is taken. -/
theorem streams_exact : (∀ value, parseTopics value ≠ []) ∧
    ∀ s t : StreamRun, s.Fresh → s.stream.topics ≠ [] → ∀ moves, s.run? moves = some t →
      StreamExact s t := by
  refine ⟨parseTopics_ne_nil, fun s t hfresh htopics moves hrun => ?_⟩
  exact ((Kept.of_fresh hfresh).run htopics hrun).exact htopics

/-- A stream on one topic, with a heartbeat every ten units of time. -/
def opened : StreamRun :=
  ⟨⟨1, ["a"], ⟨10, 10⟩, ⟨0⟩, false⟩, (LoggedBroker.new 2).run [.subscribe ["a"]], .new, 0, false, []⟩

/-- The reader gets an event and a heartbeat, gives up once, and is not given the event that comes
just before the shutdown. -/
def visit : List Move :=
  [.called (.publish ⟨"a", "1"⟩), .asked, .woken .mail, .passed 10, .asked, .woken .heartbeat,
    .asked, .abandoned, .called (.publish ⟨"a", "2"⟩), .sent, .sent, .asked, .woken .shutdown, .asked]

theorem streams_exact_opened : ∃ t, opened.run? visit = some t ∧
    t.answers = [some (.event ⟨"a", "1"⟩), some .heartbeat, none, none] ∧ StreamExact opened t := by
  have hfresh : opened.Fresh :=
    ⟨⟨2, [.subscribe ["a"]], rfl⟩, ⟨_, rfl, rfl, rfl⟩, rfl, rfl, rfl, rfl⟩
  have hanswers : (opened.run? visit).map (·.answers) =
      some [some (.event ⟨"a", "1"⟩), some .heartbeat, none, none] := rfl
  obtain ⟨t, hrun, ht⟩ := Option.map_eq_some_iff.mp hanswers
  exact ⟨t, hrun, ht, streams_exact.2 opened t hfresh (by decide) visit hrun⟩

end StreamRun

end FilterFleet
