import FilterFleet.Events.Broker

/-!
# Topics and who listens on them

A subscription listens on a set of topics, whatever list they were given as: `topicSet` keeps every
topic once (`mem_topicSet`, `nodup_topicSet`). The channels of a broker list the subscribers of each
topic. They are well formed (`ChannelsSound`) when each topic stands once and has a subscriber;
`listeners_foldl_add` and `listeners_foldl_remove` say what it does to the lists when a subscription
comes or goes.
-/

namespace FilterFleet

/-! ## Sets of topics -/

theorem mem_insertTopic (topic other : String) (l : List String) :
    other ∈ insertTopic topic l ↔ other = topic ∨ other ∈ l := by
  induction l with
  | nil => simp [insertTopic]
  | cons t rest ih =>
    rw [insertTopic]
    split
    · simp
    · split
      · next heq =>
        subst heq
        simp
      · rw [List.mem_cons, ih, List.mem_cons]
        exact or_left_comm

/-- A set of topics has the topics that were given. -/
@[simp] theorem mem_topicSet (topic : String) (topics : List String) :
    topic ∈ topicSet topics ↔ topic ∈ topics := by
  induction topics with
  | nil => rfl
  | cons t rest ih =>
    have hfold : topicSet (t :: rest) = insertTopic t (topicSet rest) := rfl
    rw [hfold, mem_insertTopic, ih, List.mem_cons]

theorem pairwise_insertTopic (topic : String) {l : List String} (h : l.Pairwise (· < ·)) :
    (insertTopic topic l).Pairwise (· < ·) := by
  induction l with
  | nil => simp [insertTopic]
  | cons t rest ih =>
    obtain ⟨ht, hrest⟩ := List.pairwise_cons.mp h
    rw [insertTopic]
    split
    · next hlt =>
      refine List.pairwise_cons.mpr ⟨fun x hx => ?_, h⟩
      rcases List.mem_cons.mp hx with rfl | hx
      · exact hlt
      · exact String.lt_trans hlt (ht x hx)
    · next hnlt =>
      split
      · exact h
      · next hne =>
        refine List.pairwise_cons.mpr ⟨fun x hx => ?_, ih hrest⟩
        rcases (mem_insertTopic topic x rest).mp hx with rfl | hx
        · exact Std.lt_of_le_of_ne (Std.not_lt.mp hnlt) (Ne.symm hne)
        · exact ht x hx

/-- A set of topics has every topic once. -/
theorem nodup_topicSet (topics : List String) : (topicSet topics).Nodup := by
  have hsorted : (topicSet topics).Pairwise (· < ·) := by
    induction topics with
    | nil => exact .nil
    | cons t rest ih => exact pairwise_insertTopic t ih
  refine hsorted.imp fun {a b} hlt heq => ?_
  subst heq
  exact String.lt_irrefl a hlt

theorem topicSet_eq_nil (topics : List String) : topicSet topics = [] ↔ topics = [] := by
  constructor
  · intro h
    refine List.eq_nil_iff_forall_not_mem.mpr fun t ht => ?_
    have hmem := (mem_topicSet t topics).mpr ht
    rw [h] at hmem
    cases hmem
  · rintro rfl
    rfl

/-! ## Channels -/

namespace Broker

/-- The subscribers of a topic in a list of channels. -/
def listeners (channels : List (String × List Nat)) (topic : String) : List Nat :=
  match channels.find? fun c => c.1 == topic with
  | some c => c.2
  | none => []

theorem subscribersOf_eq (b : Broker) (topic : String) :
    b.subscribersOf topic = listeners b.channels topic := rfl

/-- Each topic stands once, and only with subscribers. -/
structure ChannelsSound (channels : List (String × List Nat)) : Prop where
  nodup : (channels.map (·.1)).Nodup
  ne_nil : ∀ c ∈ channels, c.2 ≠ []

theorem channelsSound_nil : ChannelsSound [] := ⟨List.nodup_nil, fun _ h => by cases h⟩

@[simp] theorem listeners_cons (c : String × List Nat) (rest : List (String × List Nat))
    (topic : String) :
    listeners (c :: rest) topic = if c.1 = topic then c.2 else listeners rest topic := by
  unfold listeners
  by_cases h : c.1 = topic <;> simp [h]

theorem listeners_eq_nil {channels : List (String × List Nat)} {topic : String}
    (h : topic ∉ channels.map (·.1)) : listeners channels topic = [] := by
  induction channels with
  | nil => rfl
  | cons c rest ih =>
    rw [List.map_cons, List.mem_cons, not_or] at h
    rw [listeners_cons, if_neg (Ne.symm h.1), ih h.2]

/-- Changing the list of one topic leaves the others alone. -/
theorem listeners_map_of_ne (f : List Nat → List Nat) {topic other : String} (h : topic ≠ other)
    (channels : List (String × List Nat)) :
    listeners (channels.map fun c => if c.1 == topic then (c.1, f c.2) else c) other =
      listeners channels other := by
  induction channels with
  | nil => rfl
  | cons c rest ih =>
    rw [List.map_cons, listeners_cons, listeners_cons, ih]
    by_cases hc : c.1 = topic
    · simp [hc, h]
    · simp [hc]

theorem listeners_map_self (f : List Nat → List Nat) {topic : String}
    {channels : List (String × List Nat)} (h : topic ∈ channels.map (·.1) ∨ f [] = []) :
    listeners (channels.map fun c => if c.1 == topic then (c.1, f c.2) else c) topic =
      f (listeners channels topic) := by
  induction channels with
  | nil => exact (h.resolve_left List.not_mem_nil).symm
  | cons c rest ih =>
    rw [List.map_cons, listeners_cons, listeners_cons]
    by_cases hc : c.1 = topic
    · simp [hc]
    · have hrest : topic ∈ rest.map (·.1) ∨ f [] = [] :=
        h.imp_left fun hmem => (List.mem_cons.mp hmem).resolve_left (Ne.symm hc)
      have hkept : (if c.1 == topic then (c.1, f c.2) else c) = c := if_neg (by simpa using hc)
      rw [hkept, if_neg hc, if_neg hc, ih hrest]

theorem keys_map (f : List Nat → List Nat) (topic : String) (channels : List (String × List Nat)) :
    (channels.map fun c => if c.1 == topic then (c.1, f c.2) else c).map (·.1) =
      channels.map (·.1) := by
  rw [List.map_map]
  refine List.map_congr_left fun c _ => ?_
  simp only [Function.comp_apply]
  split <;> rfl

theorem listeners_append_singleton (channels : List (String × List Nat)) (c : String × List Nat)
    (h : c.1 ∉ channels.map (·.1)) (other : String) :
    listeners (channels ++ [c]) other =
      if c.1 = other then c.2 else listeners channels other := by
  induction channels with
  | nil => rw [List.nil_append, listeners_cons]
  | cons d rest ih =>
    rw [List.map_cons, List.mem_cons, not_or] at h
    rw [List.cons_append, listeners_cons, listeners_cons, ih h.2]
    by_cases hd : d.1 = other
    · rw [if_pos hd, if_pos hd, if_neg fun hc => h.1 (hc.trans hd.symm)]
    · rw [if_neg hd, if_neg hd]

/-! ### A subscription comes -/

theorem listeners_addSubscriber (id : Nat) (channels : List (String × List Nat))
    (topic other : String) :
    listeners (addSubscriber id channels topic) other =
      if topic = other then listeners channels other ++ [id] else listeners channels other := by
  rw [addSubscriber]
  split
  · next h =>
    have hmem : topic ∈ channels.map (·.1) := by simpa using h
    by_cases ho : topic = other
    · subst ho
      rw [if_pos rfl, listeners_map_self (· ++ [id]) (.inl hmem)]
    · rw [if_neg ho, listeners_map_of_ne (· ++ [id]) ho]
  · next h =>
    have hmem : topic ∉ channels.map (·.1) := by simpa using h
    rw [listeners_append_singleton _ _ hmem]
    by_cases ho : topic = other
    · subst ho
      rw [if_pos rfl, if_pos rfl, listeners_eq_nil hmem, List.nil_append]
    · rw [if_neg ho, if_neg ho]

/-- A new subscription is listed last under each of its topics. -/
theorem listeners_foldl_add (id : Nat) {topics : List String} (hnodup : topics.Nodup)
    (channels : List (String × List Nat)) (other : String) :
    listeners (topics.foldl (addSubscriber id) channels) other =
      if other ∈ topics then listeners channels other ++ [id] else listeners channels other := by
  induction topics generalizing channels with
  | nil => rfl
  | cons t rest ih =>
    obtain ⟨hnot, hrest⟩ := List.nodup_cons.mp hnodup
    rw [List.foldl_cons, ih hrest, listeners_addSubscriber]
    by_cases ho : t = other
    · subst ho
      rw [if_neg hnot, if_pos rfl, if_pos List.mem_cons_self]
    · have hmem : other ∈ t :: rest ↔ other ∈ rest := by simp [Ne.symm ho]
      simp only [hmem, if_neg ho]

theorem ChannelsSound.add {channels : List (String × List Nat)} (h : ChannelsSound channels)
    (id : Nat) (topic : String) : ChannelsSound (addSubscriber id channels topic) := by
  rw [addSubscriber]
  split
  · refine ⟨by rw [keys_map (· ++ [id])]; exact h.nodup, fun c hc => ?_⟩
    obtain ⟨d, hd, rfl⟩ := List.mem_map.mp hc
    split
    · simp
    · exact h.ne_nil d hd
  · next hany =>
    have hnot : topic ∉ channels.map (·.1) := by simpa using hany
    refine ⟨?_, fun c hc => ?_⟩
    · rw [List.map_append, List.map_singleton]
      exact List.nodup_append.mpr ⟨h.nodup, List.pairwise_singleton _ _, by
        intro a ha b hb heq
        rw [List.mem_singleton] at hb
        subst hb
        exact hnot (heq ▸ ha)⟩
    · rcases List.mem_append.mp hc with hc | hc
      · exact h.ne_nil c hc
      · obtain rfl := List.mem_singleton.mp hc
        simp

theorem ChannelsSound.foldl_add {channels : List (String × List Nat)} (h : ChannelsSound channels)
    (id : Nat) (topics : List String) :
    ChannelsSound (topics.foldl (addSubscriber id) channels) := by
  induction topics generalizing channels with
  | nil => exact h
  | cons t rest ih => exact ih (h.add id t)

/-! ### A subscription goes -/

/-- Taking out the empty list of a topic cannot be seen. -/
theorem listeners_filter_empty {channels : List (String × List Nat)}
    (hnodup : (channels.map (·.1)).Nodup) (topic other : String) :
    listeners (channels.filter fun c => !(c.1 == topic && c.2.isEmpty)) other =
      listeners channels other := by
  induction channels with
  | nil => rfl
  | cons c rest ih =>
    rw [List.map_cons] at hnodup
    obtain ⟨hnot, hrest⟩ := List.nodup_cons.mp hnodup
    rw [List.filter_cons]
    split
    · rw [listeners_cons, listeners_cons, ih hrest]
    · next hdrop =>
      obtain ⟨-, hempty⟩ : c.1 = topic ∧ c.2 = [] := by simpa using hdrop
      rw [ih hrest, listeners_cons]
      split
      · next ho => rw [hempty, listeners_eq_nil (ho ▸ hnot)]
      · rfl

theorem listeners_removeSubscriber (id : Nat) {channels : List (String × List Nat)}
    (h : ChannelsSound channels) (topic other : String) :
    listeners (removeSubscriber id channels topic) other =
      if topic = other then (listeners channels other).filter (· != id)
      else listeners channels other := by
  have hkeys := keys_map (fun l => l.filter (· != id)) topic channels
  rw [removeSubscriber, listeners_filter_empty (by rw [hkeys]; exact h.nodup)]
  by_cases ho : topic = other
  · subst ho
    rw [if_pos rfl, listeners_map_self (fun l => l.filter (· != id)) (.inr rfl)]
  · rw [if_neg ho, listeners_map_of_ne (fun l => l.filter (· != id)) ho]

theorem ChannelsSound.remove {channels : List (String × List Nat)} (h : ChannelsSound channels)
    (id : Nat) (topic : String) : ChannelsSound (removeSubscriber id channels topic) := by
  rw [removeSubscriber]
  refine ⟨?_, fun c hc => ?_⟩
  · have hkeys := keys_map (fun l => l.filter (· != id)) topic channels
    exact (hkeys ▸ h.nodup).sublist (List.filter_sublist.map _)
  · obtain ⟨hc, hkept⟩ := List.mem_filter.mp hc
    obtain ⟨d, hd, rfl⟩ := List.mem_map.mp hc
    by_cases htopic : d.1 = topic
    · intro hnil
      simp [htopic] at hkept hnil
      exact absurd hnil (by simpa using hkept)
    · simpa [htopic] using h.ne_nil d hd

/-- A subscription that goes is listed no more under its topics. -/
theorem listeners_foldl_remove (id : Nat) {channels : List (String × List Nat)}
    (h : ChannelsSound channels) (topics : List String) (other : String) :
    listeners (topics.foldl (removeSubscriber id) channels) other =
      if other ∈ topics then (listeners channels other).filter (· != id)
      else listeners channels other := by
  induction topics generalizing channels with
  | nil => rfl
  | cons t rest ih =>
    rw [List.foldl_cons, ih (h.remove id t), listeners_removeSubscriber id h]
    by_cases ho : t = other
    · subst ho
      simp [List.filter_filter]
    · have hmem : other ∈ t :: rest ↔ other ∈ rest := by simp [Ne.symm ho]
      simp only [hmem, if_neg ho]

theorem ChannelsSound.foldl_remove {channels : List (String × List Nat)}
    (h : ChannelsSound channels) (id : Nat) (topics : List String) :
    ChannelsSound (topics.foldl (removeSubscriber id) channels) := by
  induction topics generalizing channels with
  | nil => exact h
  | cons t rest ih => exact ih (h.remove id t)

end Broker

end FilterFleet
