import FilterFleet.Proofs.Config.Nodes
import Mathlib.Data.List.Induction
import Mathlib.Order.Bounds.Defs

/-!
# The fault that is reported

A list of nodes that is not accepted is refused with one fault. An entry is at fault if it is not
acceptable by itself, or repeats the id or the host and port of an entry before it (`IsFaulty`). The
fault that is reported is that of the first such entry (the least `FaultyAt`), and of several faults
of one entry the first in this order (`EntryFault`).

The check is read from the end of the list: the last entry is looked at only when the entries before
it are accepted, and it is compared with exactly these (`validateNodes_concat_eq_error_iff`).
-/

namespace FilterFleet

/-! ## Faults of an entry -/

/-- The name of the entry that stands behind so many others. -/
def entryField (position : Nat) : String := "nodes[" ++ toString position ++ "]"

/-- The report of the fault of an entry that stands behind others. -/
inductive EntryFault (before : List NodeSettings) (node : NodeSettings) : FleetError → Prop
  | unacceptable {e : InputError} (h : node.validate = .error e) :
      EntryFault before node (.configInvalid (entryField before.length) e.message)
  | repeatedId (hvalid : node.validate = .ok ()) (h : ∃ n ∈ before, n.id = node.id) :
      EntryFault before node
        (.configInvalid (entryField before.length ++ ".id") ("duplicate node id " ++ node.id.text))
  | repeatedAddress (hvalid : node.validate = .ok ()) (hid : ∀ n ∈ before, n.id ≠ node.id)
      (h : ∃ n ∈ before, n.host = node.host ∧ n.port = node.port) :
      EntryFault before node
        (.configInvalid (entryField before.length ++ ".host")
          ("duplicate host:port " ++ node.address))

/-- An entry is not acceptable by itself, or it repeats the id or the host and port of an entry
before it. -/
def IsFaulty (before : List NodeSettings) (node : NodeSettings) : Prop :=
  node.validate ≠ .ok () ∨ (∃ n ∈ before, n.id = node.id) ∨
    ∃ n ∈ before, n.host = node.host ∧ n.port = node.port

/-- An entry is at fault iff there is a fault to report. -/
theorem isFaulty_iff_exists_fault (before : List NodeSettings) (node : NodeSettings) :
    IsFaulty before node ↔ ∃ e, EntryFault before node e := by
  constructor
  · intro h
    cases hvalid : node.validate with
    | error e => exact ⟨_, .unacceptable hvalid⟩
    | ok _ =>
      by_cases hid : ∃ n ∈ before, n.id = node.id
      · exact ⟨_, .repeatedId hvalid hid⟩
      · have haddress := (h.resolve_left (absurd hvalid)).resolve_left hid
        exact ⟨_, .repeatedAddress hvalid (by simpa using hid) haddress⟩
  · rintro ⟨_, hfault⟩
    cases hfault with
    | unacceptable h => exact .inl (by simp [h])
    | repeatedId _ h => exact .inr (.inl h)
    | repeatedAddress _ _ h => exact .inr (.inr h)

/-! ## The check from the end of the list -/

theorem validateNodesFrom_append (i : Nat) (ids : List NodeId) (addresses : List String)
    (nodes more : List NodeSettings) :
    validateNodesFrom i ids addresses (nodes ++ more) =
      (validateNodesFrom i ids addresses nodes).bind fun _ =>
        validateNodesFrom (i + nodes.length) ((nodes.map (·.id)).reverse ++ ids)
          ((nodes.map (·.address)).reverse ++ addresses) more := by
  induction nodes generalizing i ids addresses with
  | nil => rfl
  | cons node rest ih =>
    simp only [List.cons_append, validateNodesFrom, fault]
    split
    · rfl
    · split
      · rfl
      · split
        · rfl
        · rw [ih]
          simp [Nat.add_assoc, Nat.add_comm 1]

/-- One entry is refused with its fault. -/
theorem validateNodesFrom_singleton_eq_error_iff (before : List NodeSettings) (node : NodeSettings)
    (e : FleetError) :
    validateNodesFrom before.length (before.map (·.id)).reverse (before.map (·.address)).reverse
        [node] = .error e ↔ EntryFault before node e := by
  have hids : (before.map (·.id)).reverse.contains node.id = true ↔
      ∃ n ∈ before, n.id = node.id := by simp
  have haddresses : (before.map (·.address)).reverse.contains node.address = true ↔
      ∃ n ∈ before, n.host = node.host ∧ n.port = node.port := by
    simp [NodeSettings.address_eq_iff]
  simp only [validateNodesFrom, fault]
  constructor
  · intro h
    split at h
    · next hinvalid =>
      obtain rfl := Except.error.inj h
      exact .unacceptable hinvalid
    · next hvalid =>
      split at h
      · next hid =>
        obtain rfl := Except.error.inj h
        exact .repeatedId hvalid (hids.mp hid)
      · next hid =>
        split at h
        · next haddress =>
          obtain rfl := Except.error.inj h
          exact .repeatedAddress hvalid (by simpa using hids.not.mp hid) (haddresses.mp haddress)
        · cases h
  · intro h
    cases h with
    | unacceptable hinvalid => rw [hinvalid]; rfl
    | repeatedId hvalid hid =>
      rw [hvalid]
      simp only [hids.mpr hid, if_true]
      rfl
    | repeatedAddress hvalid hid haddress =>
      have hnew : ¬ (before.map (·.id)).reverse.contains node.id = true := by
        rw [hids]
        simpa using hid
      rw [hvalid]
      simp only [hnew, haddresses.mpr haddress, if_true]
      rfl

/-- The last entry is looked at when the others are accepted, and it is compared with these. -/
theorem validateNodes_concat_eq_error_iff (nodes : List NodeSettings) (node : NodeSettings)
    (e : FleetError) :
    validateNodes (nodes ++ [node]) = .error e ↔
      validateNodes nodes = .error e ∨ validateNodes nodes = .ok () ∧ EntryFault nodes node e := by
  have happend := validateNodesFrom_append 0 [] [] nodes [node]
  rw [Nat.zero_add, List.append_nil, List.append_nil] at happend
  rw [validateNodes, happend, ← validateNodes]
  cases hnodes : validateNodes nodes with
  | error e' => simp [Except.bind]
  | ok _ =>
    simpa [Except.bind] using validateNodesFrom_singleton_eq_error_iff nodes node e

/-! ## The first entry at fault -/

/-- A list is refused with the fault of an entry that stands behind an accepted list. -/
theorem validateNodes_eq_error_iff_split (nodes : List NodeSettings) (e : FleetError) :
    validateNodes nodes = .error e ↔
      ∃ before node after, nodes = before ++ node :: after ∧ validateNodes before = .ok () ∧
        EntryFault before node e := by
  induction nodes using List.reverseRecOn with
  | nil => simp [validateNodes, validateNodesFrom]
  | append_singleton nodes last ih =>
    rw [validateNodes_concat_eq_error_iff, ih]
    constructor
    · rintro (⟨before, node, after, rfl, hbefore, hfault⟩ | ⟨hnodes, hfault⟩)
      · exact ⟨before, node, after ++ [last], by simp, hbefore, hfault⟩
      · exact ⟨nodes, last, [], rfl, hnodes, hfault⟩
    · rintro ⟨before, node, after, hsplit, hbefore, hfault⟩
      rcases List.eq_nil_or_concat after with rfl | ⟨after, x, rfl⟩
      · obtain ⟨rfl, hlast⟩ := List.append_inj' hsplit rfl
        obtain rfl := List.singleton_inj.mp hlast
        exact .inr ⟨hbefore, hfault⟩
      · rw [List.concat_eq_append, ← List.cons_append, ← List.append_assoc] at hsplit
        obtain ⟨rfl, -⟩ := List.append_inj' hsplit rfl
        exact .inl ⟨before, node, after, rfl, hbefore, hfault⟩

/-- The entry at `i` is at fault. -/
def FaultyAt (nodes : List NodeSettings) (i : Nat) : Prop :=
  ∃ node, nodes[i]? = some node ∧ IsFaulty (nodes.take i) node

/-- Whether an entry is at fault does not depend on the entries after it. -/
theorem faultyAt_append {nodes more : List NodeSettings} {i : Nat} (hi : i < nodes.length) :
    FaultyAt (nodes ++ more) i ↔ FaultyAt nodes i := by
  rw [FaultyAt, FaultyAt, List.getElem?_append_left hi,
    List.take_append_of_le_length (Nat.le_of_lt hi)]

theorem faultyAt_length {nodes after : List NodeSettings} {node : NodeSettings} :
    FaultyAt (nodes ++ node :: after) nodes.length ↔ IsFaulty nodes node := by
  simp [FaultyAt]

/-- A list is accepted iff no entry is at fault. -/
theorem validateNodes_eq_ok_iff_forall (nodes : List NodeSettings) :
    validateNodes nodes = .ok () ↔ ∀ i, ¬ FaultyAt nodes i := by
  constructor
  · intro hok i ⟨node, hnode, hfaulty⟩
    obtain ⟨e, hfault⟩ := (isFaulty_iff_exists_fault _ _).mp hfaulty
    -- the entries up to this one are accepted, being a part of an accepted list
    have hupTo : validateNodes (nodes.take i ++ [node]) = .ok () := by
      have htake : nodes.take (i + 1) = nodes.take i ++ [node] := by
        rw [List.take_add_one, hnode, Option.toList_some]
      exact htake ▸ validateNodes_of_sublist (List.take_sublist _ _) hok
    have hbefore : validateNodes (nodes.take i) = .ok () :=
      validateNodes_of_sublist (List.take_sublist _ _) hok
    have hrefused := (validateNodes_concat_eq_error_iff _ _ _).mpr (.inr ⟨hbefore, hfault⟩)
    cases hupTo.symm.trans hrefused
  · intro hall
    cases hnodes : validateNodes nodes with
    | ok _ => rfl
    | error e =>
      obtain ⟨before, node, after, rfl, -, hfault⟩ :=
        (validateNodes_eq_error_iff_split nodes e).mp hnodes
      exact absurd (faultyAt_length.mpr ((isFaulty_iff_exists_fault _ _).mpr ⟨e, hfault⟩))
        (hall before.length)

/-- A list is refused with the fault of the first entry at fault. -/
theorem validateNodes_eq_error_iff (nodes : List NodeSettings) (e : FleetError) :
    validateNodes nodes = .error e ↔
      ∃ i, IsLeast {i | FaultyAt nodes i} i ∧
        ∃ node, nodes[i]? = some node ∧ EntryFault (nodes.take i) node e := by
  rw [validateNodes_eq_error_iff_split]
  constructor
  · rintro ⟨before, node, after, rfl, hbefore, hfault⟩
    have hfaulty := (isFaulty_iff_exists_fault before node).mpr ⟨e, hfault⟩
    refine ⟨before.length, ⟨faultyAt_length.mpr hfaulty, fun i hi => ?_⟩, node, ?_⟩
    · by_contra hlt
      have hearlier := (faultyAt_append (Nat.lt_of_not_le hlt)).mp hi
      exact (validateNodes_eq_ok_iff_forall before).mp hbefore i hearlier
    · simpa using hfault
  · rintro ⟨i, ⟨-, hleast⟩, node, hnode, hfault⟩
    obtain ⟨hi, rfl⟩ := List.getElem?_eq_some_iff.mp hnode
    have hsplit : nodes = nodes.take i ++ nodes[i] :: nodes.drop (i + 1) := by
      rw [List.getElem_cons_drop, List.take_append_drop]
    have hlength : (nodes.take i).length = i := List.length_take_of_le (Nat.le_of_lt hi)
    refine ⟨nodes.take i, nodes[i], nodes.drop (i + 1), hsplit, ?_, hfault⟩
    refine (validateNodes_eq_ok_iff_forall _).mpr fun j hj => ?_
    have hlt : j < (nodes.take i).length := by
      obtain ⟨n, hn, -⟩ := hj
      exact (List.getElem?_eq_some_iff.mp hn).1
    have hearlier : FaultyAt nodes j := by
      rw [hsplit]
      exact (faultyAt_append hlt).mpr hj
    exact absurd (hleast hearlier) (Nat.not_le.mpr (hlength ▸ hlt))

/-- **The check of a list of nodes is exact.** A list is accepted iff every entry is acceptable and
neither an id nor a pair of host and port is repeated; two pairs of host and port make the same
address only if they are the same. A list that is not accepted is refused with the fault of the first
entry at fault. -/
theorem validateNodes_exact (nodes : List NodeSettings) :
    (validateNodes nodes = .ok () ↔
      (∀ n ∈ nodes, n.validate = .ok ()) ∧ (nodes.map (·.id)).Nodup ∧
        (nodes.map fun n => (n.host, n.port)).Nodup) ∧
    (∀ a b : NodeSettings, a.address = b.address ↔ (a.host, a.port) = (b.host, b.port)) ∧
    ∀ e, validateNodes nodes = .error e ↔
      ∃ i, IsLeast {i | FaultyAt nodes i} i ∧
        ∃ node, nodes[i]? = some node ∧ EntryFault (nodes.take i) node e := by
  have hkeys : ∀ a b : NodeSettings, a.address = b.address ↔ (a.host, a.port) = (b.host, b.port) := by
    intro a b
    rw [a.address_eq_iff b, Prod.mk.injEq]
  have haddresses : (nodes.map (·.address)).Nodup ↔
      (nodes.map fun n => (n.host, n.port)).Nodup := by
    simp only [List.Nodup, List.pairwise_map, ne_eq, hkeys]
  exact ⟨by rw [validateNodes_eq_ok_iff, haddresses], hkeys, validateNodes_eq_error_iff nodes⟩

-- The second entry repeats the address and the third one the id: the second one is reported.
example : validateNodes [.basic ⟨1⟩ "a" "h:1" "", .basic ⟨2⟩ "b" "h:1" "", .basic ⟨1⟩ "c" "i" ""] =
    .error (.configInvalid "nodes[1].host" "duplicate host:port h:1:80") := by rfl

end FilterFleet
