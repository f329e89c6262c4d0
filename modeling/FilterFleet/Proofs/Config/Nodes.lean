import FilterFleet.Config.Basic
import Mathlib.Data.List.Nodup

/-!
# Lists of nodes that are accepted

The check of a list of nodes reads its entries in order and keeps the ids and the addresses that it
has come across. What it accepts does not depend on the order: a list is accepted iff each entry is
and no id and no address is repeated (`validateNodes_eq_ok_iff`). So an accepted list may be
permuted, and entries may be taken out of it.

Addresses are compared as texts. Since the port is written behind the last colon in digits, two
texts are equal iff host and port are (`NodeSettings.address_eq_iff`).
-/

namespace FilterFleet

/-! ## Addresses -/

/-- What stands behind the last of a mark, and what stands before it. -/
theorem eq_and_eq_of_append_cons_eq {α : Type} {mark : α} {xs ys us vs : List α} (hu : mark ∉ us)
    (hv : mark ∉ vs) (h : xs ++ mark :: us = ys ++ mark :: vs) : xs = ys ∧ us = vs := by
  rcases List.append_eq_append_iff.mp h with ⟨as, rfl, has⟩ | ⟨bs, rfl, hbs⟩
  · cases as with
    | nil => exact ⟨by simp, (List.cons.inj has).2⟩
    | cons a as =>
      obtain ⟨-, rfl⟩ := List.cons.inj has
      simp at hu
  · cases bs with
    | nil => exact ⟨by simp, (List.cons.inj hbs).2.symm⟩
    | cons b bs =>
      obtain ⟨-, rfl⟩ := List.cons.inj hbs
      simp at hv

theorem colon_not_mem_toString (n : Nat) : ':' ∉ (toString n).toList := by
  intro hmem
  rw [Nat.toString_eq_ofList_toDigits, String.toList_ofList] at hmem
  have hdigit : (':' : Char).isDigit = true :=
    Nat.isDigit_of_mem_toDigits (by decide) (by decide) hmem
  revert hdigit
  decide

/-- **Two addresses are the same text iff host and port are the same**, whatever the hosts hold. -/
theorem NodeSettings.address_eq_iff (a b : NodeSettings) :
    a.address = b.address ↔ a.host = b.host ∧ a.port = b.port := by
  constructor
  · intro h
    have hchars : a.host.toList ++ ':' :: (toString a.port.toNat).toList =
        b.host.toList ++ ':' :: (toString b.port.toNat).toList := by
      have := congrArg String.toList h
      simpa [address] using this
    obtain ⟨hhost, hport⟩ := eq_and_eq_of_append_cons_eq (colon_not_mem_toString _)
      (colon_not_mem_toString _) hchars
    have hnat : a.port.toNat = b.port.toNat := by
      have hdigits := congrArg (fun ds => Nat.ofDigitChars 10 ds 0) hport
      simpa [Nat.toString_eq_ofList_toDigits] using hdigits
    exact ⟨String.toList_inj.mp hhost, UInt16.toNat_inj.mp hnat⟩
  · rintro ⟨hhost, hport⟩
    rw [address, address, hhost, hport]

/-! ## The check of a list -/

theorem validateNodesFrom_eq_ok_iff (i : Nat) (ids : List NodeId) (addresses : List String)
    (nodes : List NodeSettings) :
    validateNodesFrom i ids addresses nodes = .ok () ↔
      (∀ n ∈ nodes, n.validate = .ok () ∧ n.id ∉ ids ∧ n.address ∉ addresses) ∧
        (nodes.map (·.id)).Nodup ∧ (nodes.map (·.address)).Nodup := by
  induction nodes generalizing i ids addresses with
  | nil => simp [validateNodesFrom]
  | cons node rest ih =>
    simp only [validateNodesFrom, fault]
    split
    · next e he => simp [he]
    · next hvalid =>
      by_cases hid : node.id ∈ ids
      · simp [hid]
      · by_cases haddress : node.address ∈ addresses
        · simp [hid, haddress]
        · simp only [List.contains_eq_mem, hid, haddress, decide_false, Bool.false_eq_true,
            if_false, ih, List.mem_cons, List.map_cons, List.nodup_cons, List.mem_map, not_or]
          constructor
          · rintro ⟨hrest, hids, haddresses⟩
            refine ⟨?_, ⟨?_, hids⟩, ?_, haddresses⟩
            · rintro n (rfl | hn)
              · exact ⟨hvalid, hid, haddress⟩
              · obtain ⟨hn, ⟨-, hnid⟩, -, hnaddress⟩ := hrest n hn
                exact ⟨hn, hnid, hnaddress⟩
            · rintro ⟨n, hn, heq⟩
              exact (hrest n hn).2.1.1 heq
            · rintro ⟨n, hn, heq⟩
              exact (hrest n hn).2.2.1 heq
          · rintro ⟨hall, ⟨hidRest, hids⟩, haddressRest, haddresses⟩
            refine ⟨fun n hn => ?_, hids, haddresses⟩
            obtain ⟨hn', hnid, hnaddress⟩ := hall n (.inr hn)
            exact ⟨hn', ⟨fun heq => hidRest ⟨n, hn, heq⟩, hnid⟩,
              fun heq => haddressRest ⟨n, hn, heq⟩, hnaddress⟩

/-- **A list of nodes is accepted iff each entry is, and no id and no address is repeated.** -/
theorem validateNodes_eq_ok_iff (nodes : List NodeSettings) :
    validateNodes nodes = .ok () ↔
      (∀ n ∈ nodes, n.validate = .ok ()) ∧ (nodes.map (·.id)).Nodup ∧
        (nodes.map (·.address)).Nodup := by
  rw [validateNodes, validateNodesFrom_eq_ok_iff]
  simp

/-- The order of the entries does not matter. -/
theorem validateNodes_iff_of_perm {nodes nodes' : List NodeSettings} (h : nodes.Perm nodes') :
    validateNodes nodes = .ok () ↔ validateNodes nodes' = .ok () := by
  rw [validateNodes_eq_ok_iff, validateNodes_eq_ok_iff, (h.map _).nodup_iff, (h.map _).nodup_iff]
  simp only [h.mem_iff]

theorem validateNodes_of_sublist {nodes nodes' : List NodeSettings} (h : nodes'.Sublist nodes)
    (hok : validateNodes nodes = .ok ()) : validateNodes nodes' = .ok () := by
  rw [validateNodes_eq_ok_iff] at hok ⊢
  obtain ⟨hall, hids, haddresses⟩ := hok
  exact ⟨fun n hn => hall n (h.subset hn), hids.sublist (h.map _), haddresses.sublist (h.map _)⟩

/-- One more entry is accepted iff it is acceptable and shares neither id nor address. -/
theorem validateNodes_concat_iff (nodes : List NodeSettings) (n : NodeSettings) :
    validateNodes (nodes ++ [n]) = .ok () ↔
      validateNodes nodes = .ok () ∧ n.validate = .ok () ∧
        ∀ m ∈ nodes, m.id ≠ n.id ∧ m.address ≠ n.address := by
  rw [validateNodes_iff_of_perm (List.perm_append_singleton n nodes)]
  simp only [validateNodes_eq_ok_iff, List.mem_cons, List.map_cons, List.nodup_cons, List.mem_map]
  constructor
  · rintro ⟨hall, ⟨hid, hids⟩, haddress, haddresses⟩
    exact ⟨⟨fun m hm => hall m (.inr hm), hids, haddresses⟩, hall n (.inl rfl),
      fun m hm => ⟨fun h => hid ⟨m, hm, h⟩, fun h => haddress ⟨m, hm, h⟩⟩⟩
  · rintro ⟨⟨hall, hids, haddresses⟩, hn, hapart⟩
    refine ⟨?_, ⟨?_, hids⟩, ?_, haddresses⟩
    · rintro m (rfl | hm)
      · exact hn
      · exact hall m hm
    · rintro ⟨m, hm, h⟩
      exact (hapart m hm).1 h
    · rintro ⟨m, hm, h⟩
      exact (hapart m hm).2 h

end FilterFleet
