import FilterFleet.Address.Url
import FilterFleet.Proofs.Text.Bytes
import Mathlib.Data.List.Induction

/-!
# The segments that a path names

A path names the segments that stand between its slashes, with their bytes decoded (`Url.Names`).
What is added to a path as a segment is encoded, so that it is read back as it was
(`percentDecode_percentEncode`), is not cut at a slash (`names_iff`), and is not taken for a dot
segment unless it is one (`isSingleDot_percentEncode`, `isDoubleDot_percentEncode`). Dot segments
are left out all the same, and some characters are dropped: `land` says which segments are named
once a text has been added (`addSegment_encoded`). So the texts that are added to a path are the
segments that it names just if each of them names itself (`foldl_land_eq_iff`).
-/

namespace FilterFleet.Address

/-! ## What a path names -/

/-- The text of a path. -/
def pathText (path : List (List Char)) : List Char := path.flatMap fun s => '/' :: s

/-- What stands between the slashes of a path, decoded. -/
def namedBytes (path : List (List Char)) : List (List UInt8) :=
  (Text.splitAt '/' (pathText path)).tail.map percentDecode

/-- The path of an address, split at its slashes and decoded, is a list of segments. -/
def Url.Names (u : Url) (segments : List String) : Prop :=
  namedBytes u.path = segments.map fun s => s.toUTF8.toList

/-- A path names one list of segments. -/
theorem Url.Names.unique {u : Url} {segments segments' : List String} (h : u.Names segments)
    (h' : u.Names segments') : segments = segments' :=
  List.map_injective_iff.mpr (fun _ _ => eq_of_toList_toUTF8_eq) (h.symm.trans h')

theorem splitAt_append_cons {sep : Char} {piece : List Char} (h : sep ∉ piece) (rest : List Char) :
    Text.splitAt sep (piece ++ sep :: rest) = piece :: Text.splitAt sep rest := by
  induction piece with
  | nil => simp [Text.splitAt]
  | cons c more ih =>
    simp only [List.mem_cons, not_or] at h
    rw [List.cons_append, Text.splitAt, if_neg (Ne.symm h.1), ih h.2]

/-- Segments without slashes are those that their path is split into. -/
theorem splitAt_pathText {path : List (List Char)} (h : ∀ s ∈ path, '/' ∉ s) :
    Text.splitAt '/' (pathText path) = [] :: path := by
  induction path with
  | nil => rfl
  | cons s rest ih =>
    have hs := h s List.mem_cons_self
    have hrest := ih fun s hs => h s (List.mem_cons_of_mem _ hs)
    have htext : pathText (s :: rest) = '/' :: (s ++ pathText rest) := List.flatMap_cons
    rw [htext, Text.splitAt, if_pos rfl]
    cases rest with
    | nil => rw [pathText, List.flatMap_nil, List.append_nil, Text.splitAt_of_not_mem hs]
    | cons t more =>
      have htext' : pathText (t :: more) = '/' :: (t ++ pathText more) := List.flatMap_cons
      rw [htext', Text.splitAt, if_pos rfl] at hrest
      rw [htext', splitAt_append_cons hs, List.tail_eq_of_cons_eq hrest]

/-! ## Encoding and decoding -/

theorem hexValue?_upperHex {n : Nat} (h : n < 16) : hexValue? (upperHex n) = some n := by
  have hall : ∀ n < 16, hexValue? (upperHex n) = some n := by decide
  exact hall n h

theorem percentDecode_cons {c : Char} (h : c ≠ '%') (rest : List Char) :
    percentDecode (c :: rest) = String.utf8EncodeChar c ++ percentDecode rest := by
  have hbytes : (String.singleton c).toUTF8.toList = String.utf8EncodeChar c := by
    rw [toList_toUTF8, String.toList_singleton, List.flatMap_singleton]
  rw [percentDecode.eq_3 c rest fun a b more hc _ => h hc, hbytes]

theorem percentDecode_digits {a b : Char} {x y : Nat} (ha : hexValue? a = some x)
    (hb : hexValue? b = some y) (rest : List Char) :
    percentDecode ('%' :: a :: b :: rest) = UInt8.ofNat (16 * x + y) :: percentDecode rest := by
  rw [percentDecode, ha, hb]

/-- Bytes are read back from their digits. -/
theorem percentDecode_percentBytes (bytes : List UInt8) (rest : List Char) :
    percentDecode (bytes.flatMap percentByte ++ rest) = bytes ++ percentDecode rest := by
  induction bytes with
  | nil => rfl
  | cons b more ih =>
    have hb := b.toNat_lt
    have hhigh := hexValue?_upperHex (n := b.toNat / 16) (by omega)
    have hlow := hexValue?_upperHex (n := b.toNat % 16) (by omega)
    have hvalue : UInt8.ofNat (16 * (b.toNat / 16) + b.toNat % 16) = b := by
      rw [Nat.div_add_mod, UInt8.ofNat_toNat]
    rw [List.flatMap_cons, List.append_assoc, percentByte, List.cons_append, List.cons_append,
      List.cons_append, List.nil_append, percentDecode_digits hhigh hlow, hvalue, ih,
      List.cons_append]

/-- If the percent sign is encoded, a text is read back from its encoding. -/
theorem percentDecode_percentEncode {set : Char → Bool} (hset : set '%' = true) (cs : List Char) :
    percentDecode (percentEncode set cs) = cs.flatMap String.utf8EncodeChar := by
  induction cs with
  | nil => simp [percentEncode, percentDecode]
  | cons c rest ih =>
    rw [percentEncode, List.flatMap_cons, List.flatMap_cons, ← ih]
    split
    · have hbytes : (String.singleton c).toUTF8.toList = String.utf8EncodeChar c := by
        rw [toList_toUTF8, String.toList_singleton, List.flatMap_singleton]
      rw [hbytes, percentDecode_percentBytes]
      rfl
    · next hplain =>
      have hc : c ≠ '%' := by
        rintro rfl
        exact hplain (by simp [hset])
      exact percentDecode_cons hc _

/-- A character that is encoded, and is none of those that encode, does not stand in an encoded
text. -/
theorem not_mem_percentEncode {set : Char → Bool} {c : Char} (hset : set c = true)
    (hpercent : c ≠ '%') (hhex : hexValue? c = none) (cs : List Char) :
    c ∉ percentEncode set cs := by
  intro hmem
  obtain ⟨d, -, hd⟩ := List.mem_flatMap.mp hmem
  split at hd
  · obtain ⟨b, -, hb⟩ := List.mem_flatMap.mp hd
    have hlt := b.toNat_lt
    simp only [percentByte, List.mem_cons, List.not_mem_nil, or_false] at hb
    rcases hb with rfl | rfl | rfl
    · exact hpercent rfl
    · cases hhex.symm.trans (hexValue?_upperHex (n := b.toNat / 16) (by omega))
    · cases hhex.symm.trans (hexValue?_upperHex (n := b.toNat % 16) (by omega))
  · next hplain =>
    obtain rfl := List.mem_singleton.mp hd
    exact hplain (by simp [hset])

/-! ## Dot segments -/

/-- A character is its own lower case, or a capital letter. -/
theorem eq_or_capital_of_toLower {c d : Char} (h : c.toLower = d) :
    c = d ∨ 97 ≤ d.toNat ∧ d.toNat = c.toNat + 32 := by
  subst h
  unfold Char.toLower
  split
  · next hcapital =>
    obtain ⟨hfirst, hlast⟩ := hcapital
    have hfirst : 65 ≤ c.toNat := hfirst
    have hlast : c.toNat ≤ 90 := hlast
    have hsum : (c.val + ('a'.val - 'A'.val)).toNat = c.toNat + 32 := by
      rw [UInt32.toNat_add]
      exact Nat.mod_eq_of_lt (by change c.toNat + 32 < _; omega)
    have hsmall : 97 ≤ (c.val + ('a'.val - 'A'.val)).toNat := by omega
    exact .inr ⟨hsmall, hsum⟩
  · exact .inl rfl

theorem eq_of_toLower_eq {c d : Char} (h : c.toLower = d) (hd : d.toNat < 97) : c = d :=
  (eq_or_capital_of_toLower h).resolve_right fun hcapital => by omega

theorem percentDecode_dot (rest : List Char) :
    percentDecode ('.' :: rest) = 46 :: percentDecode rest :=
  percentDecode_cons (by decide) rest

/-- An encoded dot, in small or in capital digits. -/
theorem percentDecode_encodedDot {a b c : Char} (ha : a.toLower = '%') (hb : b.toLower = '2')
    (hc : c.toLower = 'e') (rest : List Char) :
    percentDecode (a :: b :: c :: rest) = 46 :: percentDecode rest := by
  obtain rfl := eq_of_toLower_eq ha (by decide)
  obtain rfl := eq_of_toLower_eq hb (by decide)
  have hvalue : hexValue? c = some 14 := by
    rcases eq_or_capital_of_toLower hc with rfl | ⟨-, hcapital⟩
    · decide
    · have hletter : c.toNat = 'E'.toNat := Nat.add_right_cancel hcapital.symm
      obtain rfl := Char.toNat_inj.mp hletter
      decide
  have htwo : hexValue? '2' = some 2 := by decide
  exact percentDecode_digits htwo hvalue rest

theorem percentDecode_of_isSingleDot {cs : List Char} (h : isSingleDot cs = true) :
    percentDecode cs = [46] := by
  have hcases := List.contains_iff_mem.mp h
  simp only [List.mem_cons, List.not_mem_nil, or_false, List.map_eq_cons_iff,
    List.map_eq_nil_iff] at hcases
  rcases hcases with ⟨a, _, rfl, ha, rfl⟩ | ⟨a, _, rfl, ha, b, _, rfl, hb, c, _, rfl, hc, rfl⟩
  · obtain rfl := eq_of_toLower_eq ha (by decide)
    rw [percentDecode_dot, percentDecode]
  · rw [percentDecode_encodedDot ha hb hc, percentDecode]

theorem percentDecode_of_isDoubleDot {cs : List Char} (h : isDoubleDot cs = true) :
    percentDecode cs = [46, 46] := by
  have hcases := List.contains_iff_mem.mp h
  simp only [List.mem_cons, List.not_mem_nil, or_false, List.map_eq_cons_iff,
    List.map_eq_nil_iff] at hcases
  rcases hcases with ⟨a, _, rfl, ha, d, _, rfl, hd, rfl⟩ |
    ⟨d, _, rfl, hd, a, _, rfl, ha, b, _, rfl, hb, c, _, rfl, hc, rfl⟩ |
    ⟨a, _, rfl, ha, b, _, rfl, hb, c, _, rfl, hc, d, _, rfl, hd, rfl⟩ |
    ⟨a, _, rfl, ha, b, _, rfl, hb, c, _, rfl, hc, a', _, rfl, ha', b', _, rfl, hb', c', _, rfl, hc',
      rfl⟩
  · obtain rfl := eq_of_toLower_eq ha (by decide)
    obtain rfl := eq_of_toLower_eq hd (by decide)
    rw [percentDecode_dot, percentDecode_dot, percentDecode]
  · obtain rfl := eq_of_toLower_eq hd (by decide)
    rw [percentDecode_dot, percentDecode_encodedDot ha hb hc, percentDecode]
  · obtain rfl := eq_of_toLower_eq hd (by decide)
    rw [percentDecode_encodedDot ha hb hc, percentDecode_dot, percentDecode]
  · rw [percentDecode_encodedDot ha hb hc, percentDecode_encodedDot ha' hb' hc', percentDecode]

/-- The encoding of a text as a segment. -/
def encodeSegment (s : String) : List Char := percentEncode segmentSet s.toList

theorem percentDecode_encodeSegment (s : String) :
    percentDecode (encodeSegment s) = s.toUTF8.toList := by
  rw [encodeSegment, percentDecode_percentEncode (by decide), toList_toUTF8]

theorem encodeSegment_injective : Function.Injective encodeSegment := by
  intro s t h
  refine eq_of_toList_toUTF8_eq ?_
  rw [← percentDecode_encodeSegment, h, percentDecode_encodeSegment]

/-- Only a dot is encoded as a dot. -/
theorem isSingleDot_encodeSegment {s : String} :
    isSingleDot (encodeSegment s) = true ↔ s = "." := by
  refine ⟨fun h => eq_of_toList_toUTF8_eq ?_, ?_⟩
  · rw [← percentDecode_encodeSegment, percentDecode_of_isSingleDot h]
    decide +kernel
  · rintro rfl
    decide

/-- Only two dots are encoded as two dots. -/
theorem isDoubleDot_encodeSegment {s : String} :
    isDoubleDot (encodeSegment s) = true ↔ s = ".." := by
  refine ⟨fun h => eq_of_toList_toUTF8_eq ?_, ?_⟩
  · rw [← percentDecode_encodeSegment, percentDecode_of_isDoubleDot h]
    decide +kernel
  · rintro rfl
    decide

/-! ## Adding texts to a path -/

/-- A text without the characters that are dropped. -/
def kept (s : String) : String := String.ofList (s.toList.filter (!isDropped ·))

/-- The segments that are named when a text is added to a path. Dots add none; a text that becomes
dots when characters are dropped from it is resolved instead. -/
def land (place : List String) (s : String) : List String :=
  if s = "." ∨ s = ".." then place
  else
    let place := if place = [""] then [] else place
    if kept s = ".." then place.dropLast ++ [""]
    else if kept s = "." then place ++ [""]
    else place ++ [kept s]

/-- A text that is added to a path as the segment that it is. -/
def NamesItself (s : String) : Prop := s ≠ "." ∧ s ≠ ".." ∧ s.toList.any isDropped = false

instance (s : String) : Decidable (NamesItself s) := inferInstanceAs (Decidable (_ ∧ _ ∧ _))

theorem kept_eq_self_iff {s : String} : kept s = s ↔ s.toList.any isDropped = false := by
  rw [kept, ← String.toList_inj, String.toList_ofList, List.filter_eq_self]
  simp

theorem addSegment_encoded (place : List String) (s : String) :
    Url.addSegment (place.map encodeSegment) s.toList = (land place s).map encodeSegment := by
  have hdots : (s.toList == ['.'] || s.toList == ['.', '.']) = true ↔ s = "." ∨ s = ".." := by
    rw [Bool.or_eq_true, beq_iff_eq, beq_iff_eq, ← String.toList_inj, ← String.toList_inj]
    rfl
  have hempty : (if place.map encodeSegment == [[]] then [] else place.map encodeSegment) =
      (if place = [""] then [] else place).map encodeSegment := by
    have hnil : encodeSegment "" = [] := by decide
    have hiff : place.map encodeSegment = [[]] ↔ place = [""] := by
      rw [← hnil]
      exact encodeSegment_injective.list_map.eq_iff (b := [""])
    by_cases hplace : place = [""]
    · simp [hplace, hnil]
    · rw [if_neg hplace, if_neg (by simpa using fun h => hplace (hiff.mp h))]
  have hencoded : percentEncode segmentSet (s.toList.filter (!isDropped ·)) =
      encodeSegment (kept s) := by
    rw [encodeSegment, kept, String.toList_ofList]
  unfold Url.addSegment land
  by_cases hs : s = "." ∨ s = ".."
  · rw [if_pos (hdots.mpr hs), if_pos hs]
  · rw [if_neg fun h => hs (hdots.mp h), if_neg hs]
    dsimp only
    rw [hempty, hencoded]
    simp only [resolve, isDoubleDot_encodeSegment, isSingleDot_encodeSegment]
    split
    · simp [encodeSegment, percentEncode]
    · split <;> simp [encodeSegment, percentEncode]

theorem length_land_le (place : List String) (s : String) :
    (land place s).length ≤ place.length + 1 := by
  have hplace : (if place = [""] then [] else place).length ≤ place.length := by
    split <;> simp
  unfold land
  split
  · omega
  · dsimp only
    split
    · rw [List.length_append, List.length_dropLast, List.length_singleton]
      omega
    · split <;> rw [List.length_append, List.length_singleton] <;> omega

theorem length_foldl_land_le (place segments : List String) :
    (segments.foldl land place).length ≤ place.length + segments.length := by
  induction segments generalizing place with
  | nil => exact Nat.le_refl _
  | cons s rest ih =>
    have hland := length_land_le place s
    have hrest := ih (land place s)
    rw [List.foldl_cons, List.length_cons]
    omega

/-- A path becomes longer by a text that is added to it just if the text names itself. -/
theorem land_eq_append_iff {place more : List String} {first s : String} (hfirst : first ≠ "")
    (hlength : place.length ≤ (first :: more).length) :
    land place s = first :: more ++ [s] ↔ place = first :: more ∧ NamesItself s := by
  have hne : first :: more ≠ [""] := fun h => hfirst (List.cons.inj h).1
  constructor
  · intro h
    have hdots : ¬ (s = "." ∨ s = "..") := by
      intro hs
      rw [land, if_pos hs] at h
      rw [h, List.length_append, List.length_singleton] at hlength
      omega
    rw [land, if_neg hdots] at h
    dsimp only at h
    have hkept : ∀ t, t ≠ "" → kept "" ≠ t := fun t ht h => ht h.symm
    split at h
    · next hdouble =>
      obtain ⟨-, hs⟩ := List.append_inj' h rfl
      rw [← (List.cons.inj hs).1] at hdouble
      exact absurd hdouble (hkept _ (by decide))
    · split at h
      · next hsingle =>
        obtain ⟨-, hs⟩ := List.append_inj' h rfl
        rw [← (List.cons.inj hs).1] at hsingle
        exact absurd hsingle (hkept _ (by decide))
      · obtain ⟨hplace, hs⟩ := List.append_inj' h rfl
        have hself := kept_eq_self_iff.mp (List.cons.inj hs).1
        refine ⟨?_, fun hs => hdots (.inl hs), fun hs => hdots (.inr hs), hself⟩
        split at hplace
        · cases hplace
        · exact hplace
  · rintro ⟨rfl, hsingle, hdouble, hself⟩
    have hkept := kept_eq_self_iff.mpr hself
    simp only [land, hkept, if_neg hne, hsingle, hdouble, or_self, if_false]

/-- The texts that are added to a path are the segments that it names just if each of them names
itself. -/
theorem foldl_land_eq_iff {first : String} (hfirst : first ≠ "") (segments : List String) :
    segments.foldl land [first] = first :: segments ↔ ∀ s ∈ segments, NamesItself s := by
  -- From the end: what the last text comes behind cannot be longer than the texts before it.
  induction segments using List.reverseRecOn with
  | nil => simp
  | append_singleton before s ih =>
    have hlength := length_foldl_land_le [first] before
    rw [List.foldl_append, List.foldl_cons, List.foldl_nil, ← List.cons_append,
      land_eq_append_iff hfirst (by simpa [Nat.add_comm] using hlength), ih]
    simp [or_imp, forall_and]

/-- With a tab before it, a segment of two dots gives up the one before. -/
example : ["domains", "deny", "regex", "\t.."].foldl land ["api"] =
    ["api", "domains", "deny", ""] := by
  decide +kernel

/-- What an encoded path names. -/
theorem namedBytes_encoded (place : List String) :
    namedBytes (place.map encodeSegment) = place.map fun s => s.toUTF8.toList := by
  have hslash : ∀ s ∈ place.map encodeSegment, '/' ∉ s := by
    intro s hs
    obtain ⟨t, -, rfl⟩ := List.mem_map.mp hs
    exact not_mem_percentEncode (by decide) (by decide) (by decide) t.toList
  rw [namedBytes, splitAt_pathText hslash, List.tail_cons, List.map_map]
  exact List.map_congr_left fun s _ => percentDecode_encodeSegment s

theorem foldl_addSegment_encoded (place segments : List String) :
    segments.foldl (fun path s => Url.addSegment path s.toList) (place.map encodeSegment) =
      (segments.foldl land place).map encodeSegment := by
  induction segments generalizing place with
  | nil => rfl
  | cons s rest ih => rw [List.foldl_cons, List.foldl_cons, addSegment_encoded, ih]

/-- What is named below the interface of a node. -/
theorem Url.names_below {u : Url} (h : u.path = [['a', 'p', 'i'], []]) (segments : List String) :
    (u.below segments).Names (segments.foldl land ["api"]) := by
  have hpath : (u.below segments).path =
      segments.foldl (fun path s => Url.addSegment path s.toList) (["api"].map encodeSegment) := by
    have hencoded : ["api"].map encodeSegment = [['a', 'p', 'i']] := by decide
    rw [hencoded]
    simp [Url.below, h]
  rw [Url.Names, hpath, foldl_addSegment_encoded, namedBytes_encoded]

/-- What is asked for below the interface of a node is what is named there, just if each of its
segments names itself. -/
theorem Url.names_below_iff {u : Url} (h : u.path = [['a', 'p', 'i'], []])
    (segments : List String) :
    (u.below segments).Names ("api" :: segments) ↔ ∀ s ∈ segments, NamesItself s := by
  have hapi : "api" ≠ "" := by decide
  rw [← foldl_land_eq_iff hapi]
  constructor
  · exact fun hnames => (Url.names_below h segments).unique hnames
  · exact fun hland => hland ▸ Url.names_below h segments

end FilterFleet.Address
