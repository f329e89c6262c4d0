import FilterFleet.Cluster.Basic
import FilterFleet.Proofs.Node.Map

/-!
# Changes of the membership

`Cluster.change` is one call that adds a node, gives a member new settings or removes one; a call
that is refused changes nothing (`add_cases`, `update_cases`). In every cluster that such calls can
build, each member stands under the id of its own identity (`Reachable.keyed`), also after its
settings have been replaced.
-/

namespace FilterFleet.Cluster

/-- A node is refused if its id is that of a member, and added else. -/
theorem add_cases (c : Cluster) (m : Member) :
    (m.identity.id ∈ c.members.ids ∧
      c.add m = (.error (.nodeExists m.identity.id), c)) ∨
    (m.identity.id ∉ c.members.ids ∧
      c.add m = (.ok (), { c with members := c.members.insert m.identity.id m })) := by
  rw [← NodeMap.contains_iff_mem_ids, add, contains]
  by_cases h : c.members.contains m.identity.id = true
  · exact .inl ⟨h, if_pos h⟩
  · exact .inr ⟨h, if_neg h⟩

/-- Settings are refused, or they are acceptable and given to the member of their id. -/
theorem update_cases (c : Cluster) (id : NodeId) (s : NodeSettings) :
    (∃ e, c.update id s = (.error e, c)) ∨
    s.id = id ∧ ∃ m, c.members.find? id = some m ∧
      c.update id s =
        (.ok m.handle, { c with members := c.members.insert id (m.configure s) }) := by
  unfold update
  by_cases hid : s.id = id
  · rw [if_neg (not_not_intro hid)]
    cases s.validate with
    | error e => exact .inl ⟨_, rfl⟩
    | ok _ =>
      cases hm : c.members.find? id with
      | none => exact .inl ⟨_, rfl⟩
      | some m => exact .inr ⟨hid, m, rfl, rfl⟩
  · exact .inl ⟨_, if_pos hid⟩

theorem update_eq_ok {c : Cluster} {s : NodeSettings} {m : Member} (hvalid : s.validate = .ok ())
    (hm : c.members.find? s.id = some m) :
    c.update s.id s =
      (.ok m.handle, { c with members := c.members.insert s.id (m.configure s) }) := by
  simp [update, hvalid, hm]

/-- A call that may change the membership. -/
inductive Change where
  | add (m : Member)
  | update (id : NodeId) (s : NodeSettings)
  | remove (id : NodeId)

/-- The cluster after a call that may change the membership. -/
def change (c : Cluster) : Change → Cluster
  | .add m => (c.add m).2
  | .update id s => (c.update id s).2
  | .remove id => (c.remove id).2

/-- The clusters that changes of the membership lead to, with searches in between. -/
inductive Reachable : Cluster → Prop where
  | empty (callTimeout cursorTtl : Span) : Reachable (.empty callTimeout cursorTtl)
  | change {c : Cluster} (x : Change) : Reachable c → Reachable (c.change x)
  /-- Searches change nothing but the cursors. -/
  | search {c : Cluster} (cursors : CursorTable SearchParams) :
      Reachable c → Reachable { c with cursors }

/-- Every member stands under the id of its identity. -/
def Keyed (c : Cluster) : Prop := ∀ id m, c.members.find? id = some m → m.identity.id = id

theorem keyed_insert {c : Cluster} (hc : c.Keyed) {id : NodeId} {m : Member}
    (hm : m.identity.id = id) : Keyed { c with members := c.members.insert id m } := by
  intro other x hx
  rw [NodeMap.find?_insert] at hx
  split at hx
  · next ho =>
    obtain rfl := Option.some.inj hx
    exact hm.trans ho
  · exact hc other x hx

theorem Keyed.change {c : Cluster} (hc : c.Keyed) (x : Change) : (c.change x).Keyed := by
  cases x with
  | add m =>
    rw [Cluster.change]
    rcases c.add_cases m with ⟨-, h⟩ | ⟨-, h⟩ <;> rw [h]
    · exact hc
    · exact keyed_insert hc rfl
  | update id s =>
    rw [Cluster.change]
    rcases c.update_cases id s with ⟨e, h⟩ | ⟨hid, m, -, h⟩ <;> rw [h]
    · exact hc
    · exact keyed_insert hc hid
  | remove id =>
    intro other m hm
    simp only [Cluster.change, remove, NodeMap.find?_erase] at hm
    split at hm
    · cases hm
    · exact hc other m hm

/-- **In every reachable cluster each member stands under the id of its identity.** -/
theorem Reachable.keyed {c : Cluster} (h : c.Reachable) : c.Keyed := by
  induction h with
  | empty callTimeout cursorTtl =>
    intro id m hm
    cases hm
  | change x _ ih => exact ih.change x
  | search cursors _ ih => exact ih

/-- No change of the membership touches the cursors. -/
theorem cursors_change (c : Cluster) (x : Cluster.Change) : (c.change x).cursors = c.cursors := by
  cases x with
  | add m =>
    rw [Cluster.change]
    rcases c.add_cases m with ⟨-, h⟩ | ⟨-, h⟩ <;> rw [h]
  | update id s =>
    rw [Cluster.change]
    rcases c.update_cases id s with ⟨e, h⟩ | ⟨-, m, -, h⟩ <;> rw [h]
  | remove id => rfl

end FilterFleet.Cluster
