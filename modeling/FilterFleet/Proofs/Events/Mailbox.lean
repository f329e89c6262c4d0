import FilterFleet.Proofs.Events.History

/-!
# One subscriber's queue by itself

A `Mailbox` is a bounded first-in-first-out queue that belongs to one subscription and knows of no
other. What concerns the subscription in the history of a broker are its `errands`: that it was made,
the events that were published, that it looked for an event, that it was cancelled or dropped. They
alone tell the mailbox (`mailbox?`), the events that it took (`accepted`) and what its owner finds
(`receipts`).
-/

namespace FilterFleet

/-- What concerns one subscription. -/
inductive Errand where
  | made (topics : List String)
  /-- An event was published, on any topic. -/
  | offered (e : Event)
  /-- The subscription looked for an event. -/
  | collected
  | cancelled
  | dropped
deriving DecidableEq

/-- The queue of one subscription. -/
structure Mailbox where
  /-- The topics that the subscription was made with. -/
  topics : List String
  queue : List Event
  /-- It was not cancelled. -/
  listening : Bool
deriving DecidableEq

namespace Mailbox

/-- Whether an event is taken: it is on one of the topics, and there is room for it. -/
def takes (capacity : Nat) (e : Event) (m : Mailbox) : Bool :=
  m.listening && m.topics.contains e.topic && decide (m.queue.length < capacity)

/-- What is found in a mailbox. -/
def receipt (m : Mailbox) : Receipt :=
  match m.queue with
  | e :: _ => .event e
  | [] => if m.listening && !m.topics.isEmpty then .pending else .ended

/-- A mailbox is found at its end iff it is empty and nothing more can come. -/
theorem receipt_eq_ended (m : Mailbox) :
    m.receipt = .ended ↔ m.queue = [] ∧ (m.listening = false ∨ m.topics = []) := by
  unfold receipt
  split
  · next e rest hqueue => simp [hqueue]
  · next hqueue =>
    by_cases hl : m.listening = true <;> by_cases ht : m.topics = [] <;> simp [hqueue, hl, ht]

/-- What an errand does to a mailbox, if there is one. -/
def after (capacity : Nat) (x : Errand) (m : Option Mailbox) : Option Mailbox :=
  match x with
  | .made topics => some ⟨topics, [], true⟩
  | .offered e =>
    m.map fun m => if m.takes capacity e then { m with queue := m.queue ++ [e] } else m
  | .collected => m.map fun m => { m with queue := m.queue.tail }
  | .cancelled => m.map fun m => { m with listening := false }
  | .dropped => none

end Mailbox

/-- The errands of a subscription, latest first. -/
abbrev Errands := List Errand

namespace Errands

/-- The mailbox after errands; none before it was made and after it was dropped. -/
def mailbox? (capacity : Nat) (errands : Errands) : Option Mailbox :=
  errands.foldr (Mailbox.after capacity) none

/-- The events that a mailbox took since it was made, in the order in which they were published. -/
def accepted (capacity : Nat) : Errands → List Event
  | [] => []
  | .made _ :: _ => []
  | .offered e :: before =>
    if (mailbox? capacity before).any (Mailbox.takes capacity e) then accepted capacity before ++ [e]
    else accepted capacity before
  | _ :: before => accepted capacity before

/-- What the owner of a mailbox finds, each time it looks for an event. -/
def receipts (capacity : Nat) : Errands → List Receipt
  | [] => []
  | .collected :: before =>
    receipts capacity before ++ [(mailbox? capacity before).elim .ended Mailbox.receipt]
  | _ :: before => receipts capacity before

@[simp] theorem mailbox?_cons (capacity : Nat) (x : Errand) (before : Errands) :
    mailbox? capacity (x :: before) = Mailbox.after capacity x (mailbox? capacity before) := rfl

/-- A mailbox that was cancelled or dropped. -/
def Closed (capacity : Nat) (errands : Errands) : Prop :=
  ∀ m, mailbox? capacity errands = some m → m.listening = false

/-- A closed mailbox takes nothing more, unless it is made anew. -/
theorem Closed.cons {capacity : Nat} {before : Errands} (h : Closed capacity before) {x : Errand}
    (hx : ∀ topics, x ≠ .made topics) :
    Closed capacity (x :: before) ∧ accepted capacity (x :: before) = accepted capacity before := by
  have hmap : ∀ f : Mailbox → Mailbox, (∀ m, m.listening = false → (f m).listening = false) →
      ∀ m, (mailbox? capacity before).map f = some m → m.listening = false := by
    intro f hf m hm
    obtain ⟨m₀, hm₀, rfl⟩ := Option.map_eq_some_iff.mp hm
    exact hf m₀ (h m₀ hm₀)
  cases x with
  | made topics => exact absurd rfl (hx topics)
  | offered e =>
    refine ⟨hmap _ fun m hm => ?_, ?_⟩
    · split
      · exact hm
      · exact hm
    · rw [accepted, if_neg]
      rw [Option.any_eq_true]
      rintro ⟨m, hm, htakes⟩
      simp [Mailbox.takes, h m hm] at htakes
  | collected => exact ⟨hmap _ fun m hm => hm, rfl⟩
  | cancelled => exact ⟨hmap _ fun m _ => rfl, rfl⟩
  | dropped => exact ⟨fun m hm => (by cases hm), rfl⟩

theorem closed_cancelled (capacity : Nat) (before : Errands) :
    Closed capacity (.cancelled :: before) := by
  intro m hm
  obtain ⟨m₀, -, rfl⟩ := Option.map_eq_some_iff.mp hm
  rfl

end Errands

/-! ## Errands in a history -/

namespace Broker

/-- What a record means to a subscription, if it concerns it. -/
def Record.errand? (id : Nat) (x : Record) : Option Errand :=
  match x.call, x.reply with
  | .subscribe topics, .subscribed i => if i = id then some (.made topics) else none
  | .publish e, _ => some (.offered e)
  | .receive i, _ => if i = id then some .collected else none
  | .cancel i, _ => if i = id then some .cancelled else none
  | .drop i, _ => if i = id then some .dropped else none
  | _, _ => none

theorem Record.errand?_subscribed (id i : Nat) (topics : List String) :
    Record.errand? id ⟨.subscribe topics, .subscribed i⟩ =
      if i = id then some (.made topics) else none := rfl

theorem Record.errand?_receive (id i : Nat) (r : Reply) :
    Record.errand? id ⟨.receive i, r⟩ = if i = id then some .collected else none := rfl

theorem Record.errand?_cancel (id i : Nat) (r : Reply) :
    Record.errand? id ⟨.cancel i, r⟩ = if i = id then some .cancelled else none := rfl

theorem Record.errand?_drop (id i : Nat) (r : Reply) :
    Record.errand? id ⟨.drop i, r⟩ = if i = id then some .dropped else none := rfl

namespace History

/-- The errands of a subscription. -/
def errands (id : Nat) (past : History) : Errands := past.filterMap (Record.errand? id)

/-- The events that a subscription received since it was made, in the order in which it received
them. -/
def delivered (id : Nat) : History → List Event
  | [] => []
  | x :: before =>
    match x.call, x.reply with
    | .subscribe _, .subscribed i => if i = id then [] else delivered id before
    | .receive i, .received (.event e) =>
      if i = id then delivered id before ++ [e] else delivered id before
    | _, _ => delivered id before

/-- What a subscription was answered, each time it looked for an event. -/
def found (id : Nat) : History → List Receipt
  | [] => []
  | x :: before =>
    match x.call, x.reply with
    | .receive i, .received r => if i = id then found id before ++ [r] else found id before
    | _, _ => found id before

theorem errands_cons_of_some {id : Nat} {x : Record} {before : History} {e : Errand}
    (h : x.errand? id = some e) : errands id (x :: before) = e :: before.errands id :=
  List.filterMap_cons_some h

theorem errands_cons_of_none {id : Nat} {x : Record} {before : History}
    (h : x.errand? id = none) : errands id (x :: before) = before.errands id :=
  List.filterMap_cons_none h

theorem eq_made_of_errand? {id : Nat} {x : Record} {topics : List String}
    (h : x.errand? id = some (.made topics)) : x.reply = .subscribed id := by
  unfold Record.errand? at h
  split at h
  · next given i _ hreply =>
    obtain ⟨hi, -⟩ := Option.ite_none_right_eq_some.mp h
    rw [hreply, hi]
  · cases h
  · simp at h
  · simp at h
  · simp at h
  · cases h

theorem call_eq_of_errand? {id : Nat} {x : Record} (h : x.errand? id = some .collected) :
    x.call = .receive id := by
  unfold Record.errand? at h
  split at h
  · simp at h
  · simp at h
  · next i hcall =>
    obtain ⟨hi, -⟩ := Option.ite_none_right_eq_some.mp h
    rw [hcall, hi]
  · simp at h
  · simp at h
  · cases h

/-- A subscription finds something only when it looks for it. -/
theorem found_cons_of_call_ne {id : Nat} {x : Record} {before : History}
    (h : x.call ≠ .receive id) : found id (x :: before) = before.found id := by
  rw [found]
  split
  · next i r hcall _ =>
    refine if_neg ?_
    rintro rfl
    exact h hcall
  · rfl

theorem receipts_cons_of_call_ne {capacity id : Nat} {x : Record} {before : History}
    (h : x.call ≠ .receive id) :
    Errands.receipts capacity (errands id (x :: before)) =
      Errands.receipts capacity (before.errands id) := by
  cases hx : x.errand? id with
  | none => rw [errands_cons_of_none hx]
  | some e =>
    rw [errands_cons_of_some hx]
    cases e with
    | collected => exact absurd (call_eq_of_errand? hx) h
    | made _ | offered _ | cancelled | dropped => rfl

/-- Only a subscription that was made has a mailbox. -/
theorem mem_made_of_mailbox? {capacity id : Nat} {past : History} {m : Mailbox}
    (h : Errands.mailbox? capacity (past.errands id) = some m) : id ∈ past.made := by
  induction past generalizing m with
  | nil => cases h
  | cons x before ih =>
    have keep : id ∈ made before → id ∈ made (x :: before) := by
      intro hmade
      rw [made]
      split <;> simp [hmade]
    cases hx : x.errand? id with
    | none =>
      rw [errands_cons_of_none hx] at h
      exact keep (ih h)
    | some e =>
      rw [errands_cons_of_some hx, Errands.mailbox?_cons] at h
      cases e with
      | made topics =>
        rw [made, eq_made_of_errand? hx]
        exact List.mem_append_right _ List.mem_cons_self
      | offered _ | collected | cancelled =>
        obtain ⟨m₀, hm₀, -⟩ := Option.map_eq_some_iff.mp h
        exact keep (ih hm₀)
      | dropped => cases h

/-- What is closed takes nothing more in a history that does not make it anew. -/
theorem accepted_of_closed {capacity id : Nat} {later before : History}
    (h : Errands.Closed capacity (before.errands id)) (hmade : id ∉ later.made) :
    Errands.Closed capacity (errands id (later ++ before)) ∧
      Errands.accepted capacity (errands id (later ++ before)) =
        Errands.accepted capacity (before.errands id) := by
  induction later with
  | nil => exact ⟨h, rfl⟩
  | cons x rest ih =>
    have hrest : id ∉ made rest := by
      intro hmem
      refine hmade ?_
      rw [made]
      split <;> simp [hmem]
    obtain ⟨hclosed, haccepted⟩ := ih hrest
    rw [List.cons_append]
    cases hx : x.errand? id with
    | none =>
      rw [errands_cons_of_none hx]
      exact ⟨hclosed, haccepted⟩
    | some e =>
      rw [errands_cons_of_some hx]
      have hnot : ∀ topics, e ≠ .made topics := by
        rintro topics rfl
        refine hmade ?_
        rw [made, eq_made_of_errand? hx]
        exact List.mem_append_right _ List.mem_cons_self
      obtain ⟨hclosed', haccepted'⟩ := hclosed.cons hnot
      exact ⟨hclosed', haccepted'.trans haccepted⟩

end History

end Broker

end FilterFleet
