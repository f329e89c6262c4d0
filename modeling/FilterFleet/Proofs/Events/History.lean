import FilterFleet.Events.Broker

/-!
# The history of a broker

A `LoggedBroker` is a broker with everything that was asked of it and what it answered, latest first.
The history alone tells which subscriptions were made (`made`), which of them are live (`live`: made
and neither cancelled nor dropped), whether their number changed since somebody last took notice of
a change (`HasNews`), and how often it changed while somebody waits (`wait?`), so that it tells of a
wait that is over whether it was overrun by changes (`Overrun`).
-/

namespace FilterFleet

namespace Broker

/-- What is asked of a broker or of one of its subscriptions. -/
inductive Call where
  | subscribe (topics : List String)
  | publish (e : Event)
  | receive (id : Nat)
  | cancel (id : Nat)
  | drop (id : Nat)
  /-- The one who waits for a change looks for it, and goes on waiting if there is none. -/
  | awaitChange
  /-- The one who waits for a change gives up. -/
  | stopWaiting
deriving DecidableEq

/-- What is answered. -/
inductive Reply where
  /-- There is no queue of the length that the subscription needs. -/
  | refused
  | subscribed (id : Nat)
  /-- The number of subscriptions that an event reached. -/
  | published (count : Nat)
  | received (r : Receipt)
  /-- There was a change, of which notice is taken now. -/
  | noticed
  | nothingNew
  | done
deriving DecidableEq

/-- A call with its answer. -/
structure Record where
  call : Call
  reply : Reply
deriving DecidableEq

/-- Everything that was asked of a broker, latest first. -/
abbrev History := List Record

/-- Answer a call. -/
def perform (b : Broker) : Call → Reply × Broker
  | .subscribe topics =>
    match b.subscribe? topics with
    | some (id, b) => (.subscribed id, b)
    | none => (.refused, b)
  | .publish e => (.published (b.publish e).1, (b.publish e).2)
  | .receive id => (.received (b.receive id).1, (b.receive id).2)
  | .cancel id => (.done, b.cancel id)
  | .drop id => (.done, b.drop id)
  | .awaitChange => if b.changed then (.noticed, b.acknowledge) else (.nothingNew, b.await)
  | .stopWaiting => (.done, b.leave)

/-! ## What a history tells -/

namespace History

/-- The ids of all subscriptions that were made, in the order in which they were made. -/
def made : History → List Nat
  | [] => []
  | x :: before =>
    match x.reply with
    | .subscribed id => made before ++ [id]
    | _ => made before

/-- The subscriptions that were made and neither cancelled nor dropped, in the order in which they
were made, each with the topics it was made with. -/
def live : History → List (Nat × List String)
  | [] => []
  | x :: before =>
    match x.call, x.reply with
    | .subscribe topics, .subscribed id => live before ++ [(id, topics)]
    | .cancel id, _ => (live before).filter (·.1 != id)
    | .drop id, _ => (live before).filter (·.1 != id)
    | _, _ => live before

/-- The ids of the live subscriptions. -/
def liveIds (past : History) : List Nat := past.live.map (·.1)

/-- After a past, a call changes the number of live subscriptions: it makes one, or it is the first
to cancel or drop one. -/
def IsChange (x : Record) (past : History) : Prop :=
  match x.call, x.reply with
  | .subscribe _, .subscribed _ => True
  | .cancel id, _ => id ∈ past.liveIds
  | .drop id, _ => id ∈ past.liveIds
  | _, _ => False

/-- The number of live subscriptions changed, and notice has not been taken since. -/
def HasNews (past : History) : Prop :=
  ∃ since x before, past = since ++ x :: before ∧ IsChange x before ∧
    ∀ r ∈ since, r.reply ≠ .noticed

instance (x : Record) (past : History) : Decidable (IsChange x past) := by
  unfold IsChange
  split <;> infer_instance

/-- If somebody waits for a change, how often the number of live subscriptions changed since. -/
def wait? : History → Option Nat
  | [] => none
  | x :: before =>
    match x.call with
    | .awaitChange => if x.reply = .noticed then none else some 0
    | .stopWaiting => none
    | _ => (wait? before).map fun n => if IsChange x before then n + 1 else n

theorem wait?_cons {x : Record} (hawait : x.call ≠ .awaitChange) (hstop : x.call ≠ .stopWaiting)
    (past : History) :
    wait? (x :: past) = (wait? past).map fun n => if IsChange x past then n + 1 else n := by
  rw [wait?]
  split
  · next h => exact absurd h hawait
  · next h => exact absurd h hstop
  · rfl

/-- The wait that was the last to be over was overrun: more than one change came while it lasted, and
it has taken notice of the first. -/
def Overrun : History → Prop
  | [] => False
  | x :: before =>
    if x.reply = .noticed then ∃ n, wait? before = some n ∧ 2 ≤ n else Overrun before

theorem overrun_noticed {x : Record} (h : x.reply = .noticed) (past : History) :
    Overrun (x :: past) ↔ ∃ n, wait? past = some n ∧ 2 ≤ n := by
  rw [Overrun, if_pos h]

theorem overrun_cons {x : Record} (h : x.reply ≠ .noticed) (past : History) :
    Overrun (x :: past) ↔ Overrun past := by
  rw [Overrun, if_neg h]

theorem not_hasNews_nil : ¬ HasNews [] := by
  rintro ⟨since, x, before, h, -⟩
  simp at h

theorem hasNews_cons (r : Record) (past : History) :
    HasNews (r :: past) ↔ IsChange r past ∨ (HasNews past ∧ r.reply ≠ .noticed) := by
  constructor
  · rintro ⟨since, x, before, hsplit, hchange, hsince⟩
    cases since with
    | nil =>
      obtain ⟨rfl, rfl⟩ := List.cons.inj hsplit
      exact .inl hchange
    | cons y since =>
      obtain ⟨rfl, rfl⟩ := List.cons.inj hsplit
      refine .inr ⟨⟨since, x, before, rfl, hchange, fun q hq => ?_⟩, ?_⟩
      · exact hsince q (List.mem_cons_of_mem _ hq)
      · exact hsince r List.mem_cons_self
  · rintro (hchange | ⟨⟨since, x, before, rfl, hchange, hsince⟩, hr⟩)
    · exact ⟨[], r, past, rfl, hchange, by simp⟩
    · refine ⟨r :: since, x, before, rfl, hchange, fun q hq => ?_⟩
      rcases List.mem_cons.mp hq with rfl | hq
      · exact hr
      · exact hsince q hq

theorem made_append (later past : History) : made (later ++ past) = past.made ++ later.made := by
  induction later with
  | nil => exact (List.append_nil _).symm
  | cons x rest ih =>
    rw [List.cons_append, made, made, ih]
    split <;> simp

/-- A subscription that is not live becomes live only by being made. -/
theorem mem_liveIds_append {id : Nat} {later past : History}
    (h : id ∈ liveIds (later ++ past)) : id ∈ past.liveIds ∨ id ∈ later.made := by
  induction later with
  | nil => exact .inl h
  | cons x rest ih =>
    have keep : id ∈ liveIds (rest ++ past) → id ∈ past.liveIds ∨ id ∈ made (x :: rest) := by
      intro hrest
      refine (ih hrest).imp_right fun hmade => ?_
      rw [made]
      split <;> simp [hmade]
    rw [List.cons_append, liveIds, live] at h
    split at h
    · next topics i hcall hreply =>
      rw [List.map_append, List.mem_append] at h
      rcases h with h | h
      · exact keep h
      · refine .inr ?_
        rw [made, hreply]
        exact List.mem_append_right _ h
    · have hkept := (List.filter_sublist.map Prod.fst).subset h
      exact keep hkept
    · have hkept := (List.filter_sublist.map Prod.fst).subset h
      exact keep hkept
    · exact keep h

theorem mem_made_of_mem_liveIds {id : Nat} {past : History} (h : id ∈ past.liveIds) :
    id ∈ past.made := by
  have hall : id ∈ liveIds [] ∨ id ∈ past.made := mem_liveIds_append (by rwa [List.append_nil])
  exact hall.resolve_left List.not_mem_nil

end History

end Broker

/-! ## Brokers with their history -/

/-- A broker with its history. -/
structure LoggedBroker where
  broker : Broker
  past : Broker.History

namespace LoggedBroker

/-- A new broker has no history. -/
def new (capacity : Nat) : LoggedBroker := ⟨.new capacity, []⟩

/-- Answer a call and remember it. -/
def step (s : LoggedBroker) (c : Broker.Call) : LoggedBroker :=
  ⟨(s.broker.perform c).2, ⟨c, (s.broker.perform c).1⟩ :: s.past⟩

/-- Answer calls one after another. -/
def run (s : LoggedBroker) (calls : List Broker.Call) : LoggedBroker := calls.foldl step s

/-- What one step preserves, a run preserves. -/
theorem run_induction {P : LoggedBroker → Prop} (hstep : ∀ s c, P s → P (s.step c))
    {s : LoggedBroker} (h : P s) (calls : List Broker.Call) : P (s.run calls) := by
  induction calls generalizing s with
  | nil => exact h
  | cons c rest ih => exact ih (hstep s c h)

/-- A run keeps what was remembered before. -/
theorem exists_past_run (s : LoggedBroker) (calls : List Broker.Call) :
    ∃ later, (s.run calls).past = later ++ s.past := by
  refine run_induction (P := fun t => ∃ later, t.past = later ++ s.past) ?_ ⟨[], rfl⟩ calls
  rintro t c ⟨later, h⟩
  exact ⟨⟨c, (t.broker.perform c).1⟩ :: later, congrArg (_ :: ·) h⟩

end LoggedBroker

end FilterFleet
