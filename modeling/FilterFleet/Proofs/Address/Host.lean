import FilterFleet.Address.Url
import FilterFleet.Proofs.Text.Bytes

/-!
# The texts that are hosts

A text has a normal form as a host only if it is a name or an address in brackets. A name holds none
of the characters that the grammar of addresses gives a meaning (`not_mem_of_name?`), however it is
encoded; between brackets stand hexadecimal digits, colons and points
(`isNumeral_of_eightNumbers?`). So a host can be told from what stands around it: from a port behind
it (`splitPort_of_normalHost`), and from a text that goes on (`normalHost_append_port`).
-/

namespace FilterFleet.Address

/-! ## Names -/

/-- The characters that end a host, split it, or are dropped from it. -/
def reserved : List Char := ['/', '\\', '?', '#', '@', ':', '[', ']', '\t', '\n', '\r']

/-- A character that stands for itself in a name, and may not stand there. -/
def isBarred (c : Char) : Bool :=
  decide (c.toNat < 128) && c != '%' && (hexValue? c).isNone && !isIgnored c &&
    (plain c).any isForbidden

theorem isBarred_of_mem_reserved {c : Char} (h : c ∈ reserved) : isBarred c = true := by
  have hall : reserved.all isBarred = true := by decide
  exact List.all_eq_true.mp hall c h

/-- What is neither a percent sign nor a digit behind one is not decoded. -/
theorem byte_mem_percentDecode {c : Char} (hascii : c.toNat < 128) (hpercent : c ≠ '%')
    (hhex : hexValue? c = none) {cs : List Char} (h : c ∈ cs) :
    UInt8.ofNat c.toNat ∈ percentDecode cs := by
  fun_induction percentDecode cs with
  | case1 => simp at h
  | case2 a b rest x y hb ha ih =>
    have hrest : c ∈ rest := by
      rcases List.mem_cons.mp h with rfl | h
      · exact absurd rfl hpercent
      · rcases List.mem_cons.mp h with rfl | h
        · cases hhex.symm.trans ha
        · rcases List.mem_cons.mp h with rfl | h
          · cases hhex.symm.trans hb
          · exact h
    exact List.mem_cons_of_mem _ (ih hrest)
  | case3 a b rest _ ih =>
    have hrest : c ∈ a :: b :: rest := (List.mem_cons.mp h).resolve_left hpercent
    exact List.mem_cons_of_mem _ (ih hrest)
  | case4 d rest _ ih =>
    rcases List.mem_cons.mp h with rfl | h
    · have hself : c ∈ (String.singleton c).toList := by simp
      exact List.mem_append_left _ ((byte_mem_iff _ hascii).mpr hself)
    · exact List.mem_append_right _ (ih h)

/-- A name holds no character that is barred from names. -/
theorem not_mem_of_name? {cs name : List Char} (h : name? cs = some name) {c : Char}
    (hc : isBarred c = true) : c ∉ cs := by
  intro hmem
  simp only [isBarred, Bool.and_eq_true, decide_eq_true_eq, bne_iff_ne, ne_eq,
    Option.isNone_iff_eq_none, Bool.not_eq_true'] at hc
  obtain ⟨⟨⟨⟨hascii, hpercent⟩, hhex⟩, hignored⟩, hforbidden⟩ := hc
  unfold name? at h
  obtain ⟨text, htext, h⟩ := Option.bind_eq_some_iff.mp h
  have hbytes : text.toUTF8.toList = percentDecode cs := by
    unfold String.fromUTF8? at htext
    split at htext
    · obtain rfl := Option.some.inj htext
      rw [toList_eq_toList_data]
      rfl
    · cases htext
  have htextc : c ∈ text.toList := by
    rw [← byte_mem_iff text hascii, hbytes]
    exact byte_mem_percentDecode hascii hpercent hhex hmem
  have hlower : ((text.toList.filter (!isIgnored ·)).flatMap plain).any isForbidden = true := by
    obtain ⟨d, hd, hbad⟩ := List.any_eq_true.mp hforbidden
    refine List.any_eq_true.mpr ⟨d, List.mem_flatMap.mpr ⟨c, ?_, hd⟩, hbad⟩
    exact List.mem_filter.mpr ⟨htextc, by simp [hignored]⟩
  dsimp only at h
  rw [if_pos hlower] at h
  cases h

/-! ## Addresses in brackets -/

/-- The characters of an address in eight numbers. -/
def isNumeral (c : Char) : Bool := (hexValue? c).isSome || c == ':' || c == '.'

theorem isNumeral_of_hexValue? {c : Char} (h : (hexValue? c).isSome) : isNumeral c = true := by
  simp [isNumeral, h]

theorem isSome_of_mapM {α β : Type} {f : α → Option β} {as : List α} {bs : List β}
    (h : as.mapM f = some bs) : ∀ a ∈ as, (f a).isSome := by
  induction as generalizing bs with
  | nil => simp
  | cons a rest ih =>
    rw [List.mapM_cons] at h
    obtain ⟨b, hb, h⟩ := Option.bind_eq_some_iff.mp h
    obtain ⟨bs, hbs, -⟩ := Option.bind_eq_some_iff.mp h
    intro x hx
    rcases List.mem_cons.mp hx with rfl | hx
    · rw [hb]
      rfl
    · exact ih hbs x hx

/-- What has a value as digits consists of digits. -/
theorem isSome_of_digitsValue? {base : Nat} {cs : List Char} (h : (digitsValue? base cs).isSome) :
    ∀ c ∈ cs, (hexValue? c).isSome := by
  have hfold : ∀ (ds : List Char) (init : Nat),
      (ds.foldlM (fun n c => do
        let d ← hexValue? c
        if d < base then some (n * base + d) else none) init).isSome →
      ∀ c ∈ ds, (hexValue? c).isSome := by
    intro ds
    induction ds with
    | nil => simp
    | cons d rest ih =>
      intro init hsome c hc
      rw [List.foldlM_cons] at hsome
      obtain ⟨out, hout⟩ := Option.isSome_iff_exists.mp hsome
      obtain ⟨n, hn, hrest⟩ := Option.bind_eq_some_iff.mp hout
      obtain ⟨x, hx, -⟩ := Option.bind_eq_some_iff.mp hn
      rcases List.mem_cons.mp hc with rfl | hc
      · rw [hx]
        rfl
      · exact ih n (Option.isSome_iff_exists.mpr ⟨out, hrest⟩) c hc
  unfold digitsValue? at h
  split at h
  · simp
  · exact hfold _ 0 h

theorem isNumeral_of_group? {cs : List Char} (h : (group? cs).isSome) :
    ∀ c ∈ cs, isNumeral c = true := by
  intro c hc
  unfold group? at h
  split at h
  · cases h
  · exact isNumeral_of_hexValue? (isSome_of_digitsValue? h c hc)

theorem isNumeral_of_plainByte? {cs : List Char} (h : (plainByte? cs).isSome) :
    ∀ c ∈ cs, isNumeral c = true := by
  intro c hc
  unfold plainByte? at h
  split at h
  · cases h
  · obtain ⟨out, hout⟩ := Option.isSome_iff_exists.mp h
    obtain ⟨n, hn, -⟩ := Option.bind_eq_some_iff.mp hout
    exact isNumeral_of_hexValue? (isSome_of_digitsValue? (by rw [hn]; rfl) c hc)

theorem isNumeral_of_groups? {parts : List (List Char)} (h : (groups? parts).isSome) :
    ∀ part ∈ parts, ∀ c ∈ part, isNumeral c = true := by
  obtain ⟨out, hout⟩ := Option.isSome_iff_exists.mp h
  unfold groups? at hout
  split at hout
  · next hnil =>
    intro part hpart
    simp [List.reverse_eq_nil_iff.mp hnil] at hpart
  · next last before hparts =>
    split at hout
    · obtain ⟨bytes, hbytes, hout⟩ := Option.bind_eq_some_iff.mp hout
      have hlast : ∀ c ∈ last, isNumeral c = true := by
        intro c hc
        rcases Text.exists_piece_of_mem '.' hc with rfl | ⟨piece, hpiece, hc⟩
        · rfl
        · exact isNumeral_of_plainByte? (isSome_of_mapM hbytes piece hpiece) c hc
      split at hout
      · obtain ⟨groups, hgroups, -⟩ := Option.bind_eq_some_iff.mp hout
        intro part hpart c hc
        rw [← List.mem_reverse, hparts] at hpart
        rcases List.mem_cons.mp hpart with rfl | hpart
        · exact hlast c hc
        · have hbefore := isSome_of_mapM hgroups part (List.mem_reverse.mpr hpart)
          exact isNumeral_of_group? hbefore c hc
      · cases hout
    · exact fun part hpart => isNumeral_of_group? (isSome_of_mapM hout part hpart)

theorem exists_part_of_mem {cs : List Char} {c : Char} (h : c ∈ cs) :
    c = ':' ∨ ∃ part ∈ colonParts cs, c ∈ part := by
  unfold colonParts
  split
  · next hempty =>
    rw [List.isEmpty_iff.mp hempty] at h
    cases h
  · exact Text.exists_piece_of_mem ':' h

theorem eq_append_of_splitPair? {cs before after : List Char}
    (h : splitPair? cs = some (before, after)) : cs = before ++ ':' :: ':' :: after := by
  fun_induction splitPair? cs generalizing before with
  | case1 rest =>
    obtain ⟨rfl, rfl⟩ := Prod.mk.inj (Option.some.inj h)
    rfl
  | case2 c rest _ ih =>
    obtain ⟨⟨before', after'⟩, hrest, heq⟩ := Option.map_eq_some_iff.mp h
    obtain ⟨rfl, rfl⟩ := Prod.mk.inj heq
    rw [ih hrest]
    rfl
  | case3 => cases h

/-- An address in eight numbers is written with hexadecimal digits, colons and points. -/
theorem isNumeral_of_eightNumbers? {cs : List Char} (h : (eightNumbers? cs).isSome) :
    ∀ c ∈ cs, isNumeral c = true := by
  intro c hc
  obtain ⟨out, hout⟩ := Option.isSome_iff_exists.mp h
  unfold eightNumbers? at hout
  split at hout
  · obtain ⟨groups, hgroups, -⟩ := Option.bind_eq_some_iff.mp hout
    rcases exists_part_of_mem hc with rfl | ⟨part, hpart, hc⟩
    · rfl
    · exact isNumeral_of_groups? (by rw [hgroups]; rfl) part hpart c hc
  · next before after hsplit =>
    obtain ⟨first, hfirst, hout⟩ := Option.bind_eq_some_iff.mp hout
    obtain ⟨second, hsecond, -⟩ := Option.bind_eq_some_iff.mp hout
    rw [eq_append_of_splitPair? hsplit] at hc
    rcases List.mem_append.mp hc with hc | hc
    · rcases exists_part_of_mem hc with rfl | ⟨part, hpart, hc⟩
      · rfl
      · exact isNumeral_of_group? (isSome_of_mapM hfirst part hpart) c hc
    · simp only [List.mem_cons] at hc
      rcases hc with rfl | rfl | hc
      · rfl
      · rfl
      · rcases exists_part_of_mem hc with rfl | ⟨part, hpart, hc⟩
        · rfl
        · exact isNumeral_of_groups? (by rw [hsecond]; rfl) part hpart c hc

/-! ## Hosts -/

/-- What a host looks like: an address in brackets, or a name without any of the characters that are
reserved. -/
theorem host_cases {cs host : List Char} (h : normalHost cs = .ok host) :
    (∃ inner, cs = '[' :: (inner ++ [']']) ∧ ∀ c ∈ inner, isNumeral c = true) ∨
      ∀ c ∈ reserved, c ∉ cs := by
  unfold normalHost at h
  split at h
  · next rest =>
    split at h
    · next groups hlast hgroups =>
      have hrest := List.dropLast_append_getLast? ']' hlast
      refine .inl ⟨rest.dropLast, by rw [hrest], ?_⟩
      exact isNumeral_of_eightNumbers? (by rw [hgroups]; rfl)
    · cases h
  · refine .inr fun c hc => ?_
    cases hname : name? cs with
    | none =>
      rw [hname] at h
      cases h
    | some name => exact not_mem_of_name? hname (isBarred_of_mem_reserved hc)

/-! ### What stands behind a host -/

theorem splitPort_eq (inside : Bool) (cs : List Char) :
    cs = (splitPort inside cs).1 ++ (splitPort inside cs).2.elim [] (':' :: ·) := by
  induction cs generalizing inside with
  | nil => rfl
  | cons c rest ih =>
    rw [splitPort]
    split
    · next hcolon =>
      simp only [Bool.and_eq_true, beq_iff_eq] at hcolon
      simp [hcolon.1]
    · dsimp only
      rw [List.cons_append, ← ih]

/-- Without a bracket, and without a colon outside of brackets, a text is passed over. -/
theorem splitPort_append (inside : Bool) {cs : List Char} (rest : List Char) (hopen : '[' ∉ cs)
    (hclose : ']' ∉ cs) (hcolon : inside = false → ':' ∉ cs) :
    splitPort inside (cs ++ rest) =
      (cs ++ (splitPort inside rest).1, (splitPort inside rest).2) := by
  induction cs with
  | nil => rfl
  | cons c cs ih =>
    simp only [List.mem_cons, not_or] at hopen hclose hcolon
    have hc : (c == ':' && !inside) = false := by
      cases inside with
      | true => simp
      | false => simpa using Ne.symm (hcolon rfl).1
    have hstay : (if c == '[' then true else if c == ']' then false else inside) = inside := by
      rw [if_neg (by simpa using Ne.symm hopen.1), if_neg (by simpa using Ne.symm hclose.1)]
    rw [List.cons_append, splitPort, if_neg (by simp [hc])]
    simp only [hstay]
    rw [ih hopen.2 hclose.2 fun h => (hcolon h).2]
    rfl

/-- A host ends where a port begins. -/
theorem splitPort_of_normalHost {cs host : List Char} (h : normalHost cs = .ok host)
    (digits : List Char) : splitPort false (cs ++ ':' :: digits) = (cs, some digits) := by
  rcases host_cases h with ⟨inner, rfl, hinner⟩ | hname
  · have hopen : '[' ∉ inner := fun hmem => absurd (hinner _ hmem) (by decide)
    have hclose : ']' ∉ inner := fun hmem => absurd (hinner _ hmem) (by decide)
    have hinside := splitPort_append true (']' :: ':' :: digits) hopen hclose
      fun h => nomatch h
    have hbegin : splitPort false ('[' :: (inner ++ ']' :: ':' :: digits)) =
        ('[' :: (splitPort true (inner ++ ']' :: ':' :: digits)).1,
          (splitPort true (inner ++ ']' :: ':' :: digits)).2) := rfl
    have hend : splitPort true (']' :: ':' :: digits) = ([']'], some digits) := rfl
    rw [hend] at hinside
    simp [hbegin, hinside]
  · have hskip := splitPort_append false (':' :: digits) (hname '[' (by decide))
      (hname ']' (by decide)) fun _ => hname ':' (by decide)
    have hend : splitPort false (':' :: digits) = ([], some digits) := rfl
    rw [hskip, hend, List.append_nil]

/-- No host goes on with a port. -/
theorem normalHost_append_port {cs digits : List Char} (hdigits : ∀ c ∈ digits, c.isDigit = true)
    (hne : digits ≠ []) (host : List Char) : normalHost (cs ++ ':' :: digits) ≠ .ok host := by
  intro h
  rcases host_cases h with ⟨inner, heq, -⟩ | hname
  · obtain ⟨before, last, rfl⟩ := (List.eq_nil_or_concat digits).resolve_left hne
    have hends : (cs ++ ':' :: before) ++ [last] = ('[' :: inner) ++ [']'] := by simpa using heq
    obtain rfl := List.singleton_inj.mp (List.append_inj' hends rfl).2
    exact absurd (hdigits ']' (by simp)) (by decide)
  · exact hname ':' (by decide) (by simp)

end FilterFleet.Address
