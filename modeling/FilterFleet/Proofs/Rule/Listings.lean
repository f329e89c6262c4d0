import FilterFleet.Client.Exchange
import FilterFleet.Node.Memory
import FilterFleet.Proofs.Lists
import Mathlib.Data.Option.Basic

/-!
# Which listings of rules can be told apart

The path of a listing names the type, the kind and the domain of its filter one after another, as far
as they are given, and does not say which of them a segment is. It is read from the left
(`RuleFilter.ofSegments?`): the word for a type is the type, the word for a kind is the kind, and what
is left is the domain. A filter is read back from its path, up to an empty domain, unless its domain
is a word that is read as a type or a kind (`RuleFilter.IsMistakenFor`). So two filters have the same
path just if they are the same or one is mistaken for the other
(`RuleFilter.listings_told_apart`); a filter that is mistaken lists a whole type or kind.
-/

namespace FilterFleet

/-! ## Words at the front of a path -/

/-- Take the first segment as a word, if it is one. -/
def takeWord {α : Type} (read : String → Option α) : List String → Option α × List String
  | [] => (none, [])
  | s :: rest =>
    match read s with
    | some a => (some a, rest)
    | none => (none, s :: rest)

/-- A word that is written is taken again; where none is written, none is taken from what is no
word. -/
theorem takeWord_append {α : Type} {read : String → Option α} {text : α → String}
    (hread : ∀ a, read (text a) = some a) {given : Option α} {rest : List String}
    (hrest : given = none → ∀ s ∈ rest.head?, read s = none) :
    takeWord read ((given.map text).toList ++ rest) = (given, rest) := by
  cases given with
  | some a =>
    show takeWord read (text a :: rest) = _
    rw [takeWord, hread a]
  | none =>
    cases rest with
    | nil => rfl
    | cons s rest =>
      have hs : read s = none := hrest rfl s rfl
      show takeWord read (s :: rest) = _
      rw [takeWord, hs]

/-- Where all words of a kind are different, a text is read as a word just if it is that word. -/
theorem find?_word_eq_some_iff {α : Type} {word : α → String} {words : List α}
    (hdistinct : (words.map word).Nodup) (hall : ∀ a, a ∈ words) {s : String} {a : α} :
    (words.find? fun a => word a == s) = some a ↔ word a = s :=
  (find?_key_eq_some_iff hdistinct).trans (and_iff_right (hall a))

theorem RuleType.ofText?_eq_some_iff {s : String} {t : RuleType} :
    ofText? s = some t ↔ t.text = s :=
  find?_word_eq_some_iff (by decide) fun t => by cases t <;> decide

theorem RuleKind.ofText?_eq_some_iff {s : String} {k : RuleKind} :
    ofText? s = some k ↔ k.text = s :=
  find?_word_eq_some_iff (by decide) fun k => by cases k <;> decide

/-- No word is for a kind and for a type. -/
theorem RuleType.ofText?_kind (k : RuleKind) : ofText? k.text = none := by
  cases k <;> rfl

namespace RuleFilter

/-! ## Reading a path -/

/-- A filter without an empty domain. -/
def normal (f : RuleFilter) : RuleFilter := { f with domain := f.givenDomain? }

/-- The filter that the path of a listing is read as. -/
def ofSegments? : List String → Option RuleFilter
  | "domains" :: rest =>
    let (type, rest) := takeWord RuleType.ofText? rest
    let (kind, rest) := takeWord RuleKind.ofText? rest
    match rest with
    | [] => some ⟨type, kind, none⟩
    | [domain] => some ⟨type, kind, some domain⟩
    | _ => none
  | _ => none

@[simp] theorem givenDomain?_normal (f : RuleFilter) : f.normal.givenDomain? = f.givenDomain? := by
  simp [normal, givenDomain?]

@[simp] theorem normal_normal (f : RuleFilter) : f.normal.normal = f.normal := by
  rw [normal, givenDomain?_normal]
  rfl

/-- An empty domain makes no difference to the path. -/
@[simp] theorem segments_normal (f : RuleFilter) : f.normal.segments = f.segments := by
  rw [segments, givenDomain?_normal]
  rfl

/-- A filter by a domain that is the word for what another filters by. -/
inductive IsMistakenFor : RuleFilter → RuleFilter → Prop
  | type (t : RuleType) : IsMistakenFor ⟨none, none, some t.text⟩ ⟨some t, none, none⟩
  | kind (type : Option RuleType) (k : RuleKind) :
    IsMistakenFor ⟨type, none, some k.text⟩ ⟨type, some k, none⟩

namespace IsMistakenFor

variable {f f' g whole : RuleFilter}

theorem normal_eq (h : f.IsMistakenFor whole) : whole.normal = whole := by
  cases h <;> rfl

theorem ne (h : f.IsMistakenFor whole) : f ≠ whole := by
  cases h <;> exact fun heq => Option.some_ne_none _ (congrArg domain heq)

/-- The filter without a domain is mistaken for no other. -/
theorem not_again (h : f.IsMistakenFor whole) : ¬ whole.normal.IsMistakenFor g := by
  rw [h.normal_eq]
  cases h <;> intro h' <;> cases h'

theorem segments_eq (h : f.IsMistakenFor whole) : f.segments = whole.segments := by
  cases h with
  | type t => cases t <;> rfl
  | kind type k => cases type <;> cases k <;> rfl

/-- Only one filter is mistaken for a given one. -/
theorem unique (h : f.IsMistakenFor whole) (h' : f'.IsMistakenFor whole) : f = f' := by
  cases h <;> cases h' <;> rfl

/-- A node that keeps filters apart lists more for the one than for the other. -/
theorem exists_passes (h : f.IsMistakenFor whole) :
    ∃ r, MemoryNode.passes whole r = true ∧ MemoryNode.passes f r = false := by
  cases h with
  | type t =>
    refine ⟨MemoryNode.storedRule (.basic t .exact []) "ads.example" 1, ?_, ?_⟩ <;>
      cases t <;> decide
  | kind type k =>
    refine ⟨MemoryNode.storedRule (.basic (type.getD .deny) k []) "ads.example" 1, ?_, ?_⟩ <;>
      rcases type with _ | _ | _ <;> cases k <;> decide

end IsMistakenFor

/-- What is read behind an absent type is no word for one, unless the domain is mistaken. -/
theorem ofText?_behind_type {f : RuleFilter} (h : ∀ whole, ¬ f.normal.IsMistakenFor whole)
    (htype : f.type = none) {s : String}
    (hs : s ∈ ((f.kind.map RuleKind.text).toList ++ f.givenDomain?.toList).head?) :
    RuleType.ofText? s = none := by
  cases hkind : f.kind with
  | some k =>
    rw [hkind] at hs
    obtain rfl := Option.some.inj hs
    exact RuleType.ofText?_kind k
  | none =>
    have hgiven : f.givenDomain? = some s := by simpa [hkind] using hs
    cases hread : RuleType.ofText? s with
    | none => rfl
    | some t =>
      obtain rfl := RuleType.ofText?_eq_some_iff.mp hread
      have hnormal : f.normal = ⟨none, none, some t.text⟩ := by rw [normal, htype, hkind, hgiven]
      exact absurd (hnormal ▸ IsMistakenFor.type t) (h _)

/-- What is read behind an absent kind is no word for one, unless the domain is mistaken. -/
theorem ofText?_behind_kind {f : RuleFilter} (h : ∀ whole, ¬ f.normal.IsMistakenFor whole)
    (hkind : f.kind = none) {s : String} (hs : s ∈ f.givenDomain?.toList.head?) :
    RuleKind.ofText? s = none := by
  have hgiven : f.givenDomain? = some s := by simpa using hs
  cases hread : RuleKind.ofText? s with
  | none => rfl
  | some k =>
    obtain rfl := RuleKind.ofText?_eq_some_iff.mp hread
    have hnormal : f.normal = ⟨f.type, none, some k.text⟩ := by rw [normal, hkind, hgiven]
    exact absurd (hnormal ▸ IsMistakenFor.kind f.type k) (h _)

/-- A filter whose domain is not mistaken is read back. -/
theorem ofSegments?_of_not_mistaken {f : RuleFilter} (h : ∀ whole, ¬ f.normal.IsMistakenFor whole) :
    ofSegments? f.segments = some f.normal := by
  have htype := takeWord_append (fun _ => RuleType.ofText?_eq_some_iff.mpr rfl)
    fun hnone _ => ofText?_behind_type h hnone
  have hkind := takeWord_append (fun _ => RuleKind.ofText?_eq_some_iff.mpr rfl)
    fun hnone _ => ofText?_behind_kind h hnone
  rw [segments, List.append_assoc, ofSegments?]
  simp only [htype, hkind]
  rw [normal]
  cases f.givenDomain? <;> rfl

/-- The path of a filter is read as the filter or as the one that it is mistaken for. -/
theorem exists_ofSegments? (f : RuleFilter) :
    ∃ g, ofSegments? f.segments = some g ∧ (f.normal = g ∨ f.normal.IsMistakenFor g) := by
  by_cases h : ∃ whole, f.normal.IsMistakenFor whole
  · obtain ⟨whole, hwhole⟩ := h
    have hread : ofSegments? whole.segments = some whole.normal :=
      ofSegments?_of_not_mistaken fun _ => hwhole.not_again
    refine ⟨whole, ?_, .inr hwhole⟩
    rw [← segments_normal, hwhole.segments_eq, hread, hwhole.normal_eq]
  · exact ⟨f.normal, ofSegments?_of_not_mistaken (not_exists.mp h), .inl rfl⟩

theorem segments_eq_iff (f g : RuleFilter) :
    f.segments = g.segments ↔
      f.normal = g.normal ∨ f.normal.IsMistakenFor g.normal ∨ g.normal.IsMistakenFor f.normal := by
  constructor
  · intro h
    obtain ⟨r, hr, hf⟩ := f.exists_ofSegments?
    obtain ⟨r', hr', hg⟩ := g.exists_ofSegments?
    obtain rfl : r = r' := Option.some.inj (hr.symm.trans (h ▸ hr'))
    rcases hf with rfl | hf <;> rcases hg with hg | hg
    · exact .inl hg.symm
    · exact .inr (.inr hg)
    · exact .inr (.inl (hg ▸ hf))
    · exact .inl (hf.unique hg)
  · rintro (h | h | h)
    · rw [← segments_normal f, h, segments_normal]
    · rw [← segments_normal f, h.segments_eq, segments_normal]
    · rw [← segments_normal g, h.segments_eq, segments_normal]

theorem ofSegments?_eq_normal_iff (f : RuleFilter) :
    ofSegments? f.segments = some f.normal ↔ ∀ whole, ¬ f.normal.IsMistakenFor whole := by
  refine ⟨fun h whole hwhole => ?_, ofSegments?_of_not_mistaken⟩
  obtain ⟨g, hg, hfg⟩ := whole.exists_ofSegments?
  obtain rfl := hfg.resolve_right hwhole.not_again
  rw [← hwhole.segments_eq, segments_normal, h, hwhole.normal_eq] at hg
  exact hwhole.ne (Option.some.inj hg)

/-- **Listings are told apart, but for domains that are words.**  Two filters have the same path, and
their listings are the same request, just if they are the same up to an empty domain or one is
mistaken for the other: the domain of the one, which has no kind, is the word for the kind of the
other, or, without a type as well, the word for its type. All other filters are read back from their
paths. One that is mistaken asks for rules that it does not let pass. -/
theorem listings_told_apart (f g : RuleFilter) :
    (f.segments = g.segments ↔
      f.normal = g.normal ∨ f.normal.IsMistakenFor g.normal ∨ g.normal.IsMistakenFor f.normal) ∧
    ((⟨.listRules, f⟩ : NodeCall).form? = (⟨.listRules, g⟩ : NodeCall).form? ↔
      f.segments = g.segments) ∧
    (ofSegments? f.segments = some f.normal ↔ ∀ whole, ¬ f.normal.IsMistakenFor whole) ∧
    ∀ whole, f.normal.IsMistakenFor whole →
      ∃ r, MemoryNode.passes whole r = true ∧ MemoryNode.passes f.normal r = false :=
  ⟨segments_eq_iff f g, by simp [NodeCall.form?], ofSegments?_eq_normal_iff f,
    fun _ h => h.exists_passes⟩

/-- The listing of the domain `deny` is that of all rules that deny. -/
theorem domain_lists_type :
    let one : RuleFilter := ⟨none, none, some "deny"⟩
    let whole : RuleFilter := ⟨some .deny, none, none⟩
    one.normal ≠ whole.normal ∧ one.segments = whole.segments ∧
      (⟨.listRules, one⟩ : NodeCall).form? = (⟨.listRules, whole⟩ : NodeCall).form? ∧
      ∃ r, MemoryNode.passes whole r = true ∧ MemoryNode.passes one r = false := by
  intro one whole
  have hmistaken : one.IsMistakenFor whole := .type .deny
  exact ⟨by decide, by decide, rfl, hmistaken.exists_passes⟩

end RuleFilter

end FilterFleet
