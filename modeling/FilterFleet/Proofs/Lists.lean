import Mathlib.Data.List.Nodup

/-!
# Lists of entries and of moves

Four kinds of lists stand in this development. The history of a run lists what has happened, latest
first, so that what came before an entry is the list behind it; `Throughout` says something of every
entry and of what came before it. A table lists its entries in any order, and they are looked up by a
key; `find?_filter_key` says what taking a key out does to the look-ups, and where no key is repeated
`find?_key_eq_some_iff` says what they find. What is under way is listed too, and one entry of it goes
on at a time (`map_modify_eq`, `countP_set_of_eq`). At last, the moves of a system are listed in the
order in which they are made; what each of them preserves, a run of them preserves
(`runMoves?_induction`).
-/

namespace FilterFleet

variable {α : Type}

/-- Something holds of every entry of a history and of what came before the entry. -/
def Throughout (P : α → List α → Prop) : List α → Prop
  | [] => True
  | x :: before => P x before ∧ Throughout P before

theorem Throughout.of_split {P : α → List α → Prop} {history later before : List α} {x : α}
    (h : Throughout P history) (hsplit : history = later ++ x :: before) : P x before := by
  subst hsplit
  induction later with
  | nil => exact h.1
  | cons _ rest ih => exact ih h.2

theorem Throughout.of_append {P : α → List α → Prop} {later before : List α}
    (h : Throughout P (later ++ before)) : Throughout P before := by
  induction later with
  | nil => exact h
  | cons _ rest ih => exact ih h.2

theorem find?_filter_key {κ : Type} [DecidableEq κ] (key : α → κ) (k other : κ) (l : List α) :
    ((l.filter fun a => key a != k).find? fun a => key a == other) =
      if k = other then none else l.find? fun a => key a == other := by
  rw [List.find?_filter]
  split
  · next h =>
    rw [List.find?_eq_none]
    intro a _
    simp [h]
  · next h =>
    congr 1
    funext a
    by_cases ha : key a = other
    · simp [ha, Ne.symm h]
    · simp [ha]

/-- In a table without repeated keys every entry is found under its key. -/
theorem find?_key_eq_some_iff {κ : Type} [DecidableEq κ] {key : α → κ} {l : List α}
    (h : (l.map key).Nodup) {k : κ} {a : α} :
    (l.find? fun a => key a == k) = some a ↔ a ∈ l ∧ key a = k := by
  constructor
  · intro hfind
    exact ⟨List.mem_of_find?_eq_some hfind, by simpa using List.find?_some hfind⟩
  · rintro ⟨hmem, rfl⟩
    cases hfind : l.find? fun b => key b == key a with
    | none => simpa using List.find?_eq_none.mp hfind a hmem
    | some b =>
      have hkey : key b = key a := by simpa using List.find?_some hfind
      have hb : b ∈ l := List.mem_of_find?_eq_some hfind
      exact congrArg some (List.inj_on_of_nodup_map h hb hmem hkey)

/-- Taking out a key that stands once makes a table shorter by one. -/
theorem length_filter_key_add_one {κ : Type} [DecidableEq κ] {key : α → κ} {l : List α}
    (h : (l.map key).Nodup) {k : κ} (hk : k ∈ l.map key) :
    (l.filter fun a => key a != k).length + 1 = l.length := by
  have hfilter : (l.filter fun a => key a != k).map key = (l.map key).erase k := by
    rw [h.erase_eq_filter, List.filter_map]
    rfl
  rw [← List.length_map key, hfilter, List.length_erase_of_mem hk, List.length_map]
  have hpos : 0 < l.length := by
    rw [← List.length_map key]
    exact List.length_pos_of_mem hk
  omega

/-- What a change of entries leaves alone can be read off the changed list. -/
theorem map_modify_eq {β : Type} {f : α → β} {g : α → α} (h : ∀ a, f (g a) = f a) (l : List α)
    (i : Nat) : (l.modify i g).map f = l.map f := by
  refine List.ext_getElem? fun j => ?_
  rw [List.getElem?_map, List.getElem?_map, List.getElem?_modify]
  cases l[j]? with
  | none => rfl
  | some a =>
    by_cases hij : i = j
    · simp [hij, h]
    · simp [hij]

/-- An entry that counts as much as the one whose place it takes does not change the count. -/
theorem countP_set_of_eq {f : α → Bool} {l : List α} {i : Nat} {a b : α}
    (hget : l[i]? = some a) (heq : f b = f a) : (l.set i b).countP f = l.countP f := by
  obtain ⟨hi, rfl⟩ := List.getElem?_eq_some_iff.mp hget
  rw [List.countP_set hi, heq]
  by_cases hf : f l[i] = true
  · have hpos : 0 < l.countP f := List.countP_pos_iff.mpr ⟨l[i], List.getElem_mem hi, hf⟩
    simp only [hf, if_true]
    omega
  · simp [hf]

/-! ## Moves -/

/-- Make moves one after another, as long as they can be made. -/
def runMoves? {σ μ : Type} (step? : σ → μ → Option σ) : σ → List μ → Option σ
  | s, [] => some s
  | s, m :: rest => (step? s m).bind fun s => runMoves? step? s rest

/-- What one move of a kind preserves, a run of such moves preserves. -/
theorem runMoves?_induction_of_kind {σ μ : Type} {step? : σ → μ → Option σ} {P : σ → Prop}
    {Q : μ → Prop} (hstep : ∀ s m t, P s → Q m → step? s m = some t → P t) {s t : σ} (h : P s)
    {moves : List μ} (hmoves : ∀ m ∈ moves, Q m) (hrun : runMoves? step? s moves = some t) :
    P t := by
  induction moves generalizing s with
  | nil =>
    obtain rfl := Option.some.inj hrun
    exact h
  | cons m rest ih =>
    obtain ⟨next, hm, hrest⟩ := Option.bind_eq_some_iff.mp hrun
    exact ih (hstep s m next h (hmoves m List.mem_cons_self) hm)
      (fun m' hm' => hmoves m' (List.mem_cons_of_mem _ hm')) hrest

/-- What one move preserves, a run preserves. -/
theorem runMoves?_induction {σ μ : Type} {step? : σ → μ → Option σ} {P : σ → Prop}
    (hstep : ∀ s m t, P s → step? s m = some t → P t) {s t : σ} (h : P s) {moves : List μ}
    (hrun : runMoves? step? s moves = some t) : P t :=
  runMoves?_induction_of_kind (Q := fun _ => True) (fun s m t hs _ => hstep s m t hs) h
    (fun _ _ => trivial) hrun

/-- What every move of a kind is from where it is made, all moves of a run are. -/
theorem runMoves?_forall_of_kind {σ μ : Type} {step? : σ → μ → Option σ} {P : σ → Prop}
    {Q R : μ → Prop} (hstep : ∀ s m t, P s → Q m → step? s m = some t → P t ∧ R m) {s t : σ}
    (h : P s) {moves : List μ} (hmoves : ∀ m ∈ moves, Q m)
    (hrun : runMoves? step? s moves = some t) : ∀ m ∈ moves, R m := by
  induction moves generalizing s with
  | nil => exact List.forall_mem_nil R
  | cons m rest ih =>
    obtain ⟨next, hm, hrest⟩ := Option.bind_eq_some_iff.mp hrun
    obtain ⟨hnext, hR⟩ := hstep s m next h (hmoves m List.mem_cons_self) hm
    exact List.forall_mem_cons.mpr
      ⟨hR, ih hnext (fun m' hm' => hmoves m' (List.mem_cons_of_mem _ hm')) hrest⟩

/-- The last move of a run is made from where the others lead. -/
theorem runMoves?_snoc {σ μ : Type} {step? : σ → μ → Option σ} {s t : σ} {moves : List μ} {m : μ}
    (hrun : runMoves? step? s (moves ++ [m]) = some t) :
    ∃ last, runMoves? step? s moves = some last ∧ step? last m = some t := by
  induction moves generalizing s with
  | nil =>
    obtain ⟨next, hm, hnext⟩ := Option.bind_eq_some_iff.mp hrun
    exact ⟨s, rfl, hm.trans hnext⟩
  | cons m' rest ih =>
    obtain ⟨next, hm, hrest⟩ := Option.bind_eq_some_iff.mp hrun
    obtain ⟨last, hlast, hthen⟩ := ih hrest
    exact ⟨last, Option.bind_eq_some_iff.mpr ⟨next, hm, hlast⟩, hthen⟩

end FilterFleet
