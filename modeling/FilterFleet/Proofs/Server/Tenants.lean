import FilterFleet.Proofs.Node.Map
import FilterFleet.Server.Basic

/-!
# Who stands behind an id

An id outlives the node that it names: a node may be removed and another one added under its id, and
a member may be given settings with another address. A `Tenant` is a node for as long as it is a
member under its id, with the moves of a run at which it came to the fleet and to its address. A
`Roll` lists the tenants after a number of moves, and is kept by looking at the server after each of
them (`Roll.next`).

Of two rolls of a run the earlier one has every tenant of the later one that came before it
(`Roll.Later`).
-/

namespace FilterFleet

/-- Host and port under which a server reaches a member. -/
def Server.address? (s : Server) (id : NodeId) : Option (String × UInt16) :=
  (s.settings.find? id).map fun n => (n.host, n.port)

/-- A node for as long as it is a member. -/
structure Tenant where
  /-- The number of the move that added it. -/
  added : Nat
  /-- The number of the move that gave it its address. -/
  moved : Nat
  address : Option (String × UInt16)
deriving DecidableEq

/-- The tenant after a move, by the address that it has then. -/
def Tenant.settle (t : Tenant) (address : Option (String × UInt16)) (move : Nat) : Tenant :=
  if t.address = address then t else { t with moved := move, address }

namespace Tenant

variable (t : Tenant) (address : Option (String × UInt16)) (move : Nat)

@[simp] theorem added_settle : (t.settle address move).added = t.added := by
  unfold settle
  split <;> rfl

@[simp] theorem address_settle : (t.settle address move).address = address := by
  unfold settle
  split
  · next hsame => exact hsame
  · rfl

/-- A tenant that keeps its address is the same tenant; any other one has just moved. -/
theorem settle_cases : t.settle address move = t ∨ (t.settle address move).moved = move := by
  unfold settle
  split
  · exact .inl rfl
  · exact .inr rfl

end Tenant

/-- The tenants after a number of moves. -/
structure Roll where
  tenants : NodeMap Tenant
  moves : Nat

namespace Roll

/-- The roll after one move more, which has led to a server. A node whose id was not there before is
a new tenant. -/
def next (roll : Roll) (s : Server) : Roll where
  tenants := s.cluster.members.map fun id _ =>
    match roll.tenants.find? id with
    | some t => t.settle (s.address? id) roll.moves
    | none => ⟨roll.moves, roll.moves, s.address? id⟩
  moves := roll.moves + 1

/-- The roll of a server at the beginning of a run. -/
def first (s : Server) : Roll := next ⟨.empty, 0⟩ s

variable {roll roll' : Roll} {s : Server} {id : NodeId} {t : Tenant}

/-- A tenant after a move was there before it, or has come with it. -/
theorem find?_next (h : (roll.next s).tenants.find? id = some t) :
    (∃ t₀, roll.tenants.find? id = some t₀ ∧ t = t₀.settle (s.address? id) roll.moves) ∨
      (roll.tenants.find? id = none ∧ t = ⟨roll.moves, roll.moves, s.address? id⟩) := by
  rw [next, NodeMap.find?_map] at h
  obtain ⟨m, -, h⟩ := Option.map_eq_some_iff.mp h
  cases hbefore : roll.tenants.find? id with
  | none =>
    rw [hbefore] at h
    exact .inr ⟨rfl, h.symm⟩
  | some t₀ =>
    rw [hbefore] at h
    exact .inl ⟨t₀, rfl, h.symm⟩

/-- A tenant whose id is among the members after the move is there still. -/
theorem exists_next (ht : roll.tenants.find? id = some t) (hid : id ∈ s.cluster.members.ids) :
    ∃ t', (roll.next s).tenants.find? id = some t' ∧ t'.added = t.added := by
  obtain ⟨m, hm⟩ := (NodeMap.mem_ids_iff _ _).mp hid
  refine ⟨t.settle (s.address? id) roll.moves, ?_, t.added_settle _ _⟩
  rw [next, NodeMap.find?_map, hm, Option.map_some, ht]

/-! ## What a roll says of its server -/

/-- A roll lists the members of a server, each with its address and with a move that was made. -/
structure Describes (roll : Roll) (s : Server) : Prop where
  ids : roll.tenants.ids = s.cluster.members.ids
  address : ∀ id t, roll.tenants.find? id = some t → t.address = s.address? id
  added : ∀ id t, roll.tenants.find? id = some t → t.added < roll.moves

/-- The next roll describes the server that it was made of. -/
theorem Describes.next {s₀ : Server} (h : roll.Describes s₀) (s : Server) :
    (roll.next s).Describes s where
  ids := NodeMap.ids_map _ _
  address id t ht := by
    rcases find?_next ht with ⟨t₀, -, rfl⟩ | ⟨-, rfl⟩
    · exact t₀.address_settle _ _
    · rfl
  added id t ht := by
    rcases find?_next ht with ⟨t₀, ht₀, rfl⟩ | ⟨-, rfl⟩
    · rw [Tenant.added_settle]
      exact Nat.lt_succ_of_lt (h.added id t₀ ht₀)
    · exact Nat.lt_succ_self _

theorem describes_first (s : Server) : (first s).Describes s := by
  have hempty : (⟨.empty, 0⟩ : Roll).Describes
      { s with cluster := { s.cluster with members := .empty } } := by
    refine ⟨rfl, ?_, ?_⟩ <;> simp
  exact hempty.next s

/-! ## Earlier and later rolls -/

/-- One roll of a run is another one or comes later. -/
structure Later (roll roll' : Roll) : Prop where
  moves : roll.moves ≤ roll'.moves
  /-- Who came before the earlier roll is in it. -/
  stayed : ∀ id t', roll'.tenants.find? id = some t' → t'.added < roll.moves →
    ∃ t, roll.tenants.find? id = some t ∧ t.added = t'.added
  /-- Who has had the address since before the earlier roll is in it as the same tenant. -/
  settled : ∀ id t', roll'.tenants.find? id = some t' → t'.moved < roll.moves →
    roll.tenants.find? id = some t'

theorem Later.refl (roll : Roll) : roll.Later roll :=
  ⟨Nat.le_refl _, fun _ t' ht' _ => ⟨t', ht', rfl⟩, fun _ _ ht' _ => ht'⟩

/-- **Every move keeps a roll a later one.** -/
theorem Later.next (h : roll.Later roll') (s : Server) : roll.Later (roll'.next s) where
  moves := Nat.le_succ_of_le h.moves
  stayed id t' ht' hadded := by
    rcases find?_next ht' with ⟨t₀, ht₀, rfl⟩ | ⟨-, rfl⟩
    · rw [Tenant.added_settle] at hadded ⊢
      exact h.stayed id t₀ ht₀ hadded
    · exact absurd hadded (Nat.not_lt.mpr h.moves)
  settled id t' ht' hmoved := by
    rcases find?_next ht' with ⟨t₀, ht₀, rfl⟩ | ⟨-, rfl⟩
    · rcases t₀.settle_cases (s.address? id) roll'.moves with hsame | hnew
      · rw [hsame] at hmoved ⊢
        exact h.settled id t₀ ht₀ hmoved
      · rw [hnew] at hmoved
        exact absurd hmoved (Nat.not_lt.mpr h.moves)
    · exact absurd hmoved (Nat.not_lt.mpr h.moves)

/-- The tenant of an id that is in an earlier roll and in a later one is the same node, or the later
one has come since. -/
theorem Later.same_or_new (h : roll.Later roll') {t' : Tenant}
    (ht : roll.tenants.find? id = some t) (ht' : roll'.tenants.find? id = some t') :
    t'.added = t.added ∨ roll.moves ≤ t'.added := by
  by_cases hadded : t'.added < roll.moves
  · obtain ⟨t₀, ht₀, hsame⟩ := h.stayed id t' ht' hadded
    obtain rfl := Option.some.inj (ht.symm.trans ht₀)
    exact .inl hsame.symm
  · exact .inr (Nat.le_of_not_lt hadded)

/-- The same, with its address. -/
theorem Later.same_or_moved (h : roll.Later roll') {t' : Tenant}
    (ht : roll.tenants.find? id = some t) (ht' : roll'.tenants.find? id = some t') :
    t' = t ∨ roll.moves ≤ t'.moved := by
  by_cases hmoved : t'.moved < roll.moves
  · exact .inl (Option.some.inj ((h.settled id t' ht' hmoved).symm.trans ht))
  · exact .inr (Nat.le_of_not_lt hmoved)

end Roll

end FilterFleet
