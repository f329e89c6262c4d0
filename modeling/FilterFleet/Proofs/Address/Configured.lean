import FilterFleet.Client.Exchange
import FilterFleet.Proofs.Address.Host
import FilterFleet.Proofs.Config.Nodes

/-!
# The address that is configured

The address of a node is put together as a text, of its scheme, its host and its port, and read as
an address again. If no character of the host means anything to that reading (`isStray`), the
address that is read is the one that is configured, or there is none (`baseAddress_of_host`,
`exists_host_of_baseAddress`); if there is such a character, it is another. What is asked for below
this address stays below it (`IsBelow.addSegment`), and so a request goes to the configured address
just if the host has no such character (`SentFor.addressed_iff`).
-/

namespace FilterFleet

open Address

namespace Address

/-! ## Characters that a host is cut at -/

/-- A character that ends the host of an address, or cuts something from it. -/
def isStray (c : Char) : Bool := endsAuthority c || c == '@' || isDropped c

theorem isStray_eq_false_iff {c : Char} :
    isStray c = false ↔ endsAuthority c = false ∧ c ≠ '@' ∧ isDropped c = false := by
  simp [isStray, and_assoc]

theorem mem_reserved_of_isStray {c : Char} (h : isStray c = true) :
    c ∈ reserved ∧ isNumeral c = false ∧ c ≠ '[' ∧ c ≠ ']' := by
  have hall : (['/', '\\', '?', '#', '@', '\t', '\n', '\r'].all fun c =>
      reserved.contains c && !isNumeral c && c != '[' && c != ']') = true := by decide
  have hmem : c ∈ ['/', '\\', '?', '#', '@', '\t', '\n', '\r'] := by
    simp only [isStray, endsAuthority, isSlash, isDropped, Bool.or_eq_true, beq_iff_eq] at h
    simp only [List.mem_cons, List.not_mem_nil, or_false]
    tauto
  simpa [and_assoc] using List.all_eq_true.mp hall c hmem

/-- A host has no stray character. -/
theorem not_isStray_of_normalHost {cs host : List Char} (h : normalHost cs = .ok host) :
    ∀ c ∈ cs, isStray c = false := by
  intro c hc
  by_contra hstray
  obtain ⟨hreserved, hnumeral, hopen, hclose⟩ :=
    mem_reserved_of_isStray (Bool.not_eq_false _ ▸ hstray)
  rcases host_cases h with ⟨inner, rfl, hinner⟩ | hname
  · simp only [List.mem_cons, List.mem_append, List.not_mem_nil, or_false] at hc
    rcases hc with hc | hc | hc
    · exact hopen hc
    · exact Bool.false_ne_true (hnumeral.symm.trans (hinner c hc))
    · exact hclose hc
  · exact hname c hreserved hc

theorem normalHost_nil : normalHost [] = .error .emptyHost := by decide +kernel

/-! ## Ports -/

theorem hexValue?_of_isDigit {c : Char} (h : c.isDigit = true) :
    hexValue? c = some (c.toNat - 48) := if_pos h

theorem toNat_of_isDigit {c : Char} (h : c.isDigit = true) : 48 ≤ c.toNat ∧ c.toNat ≤ 57 := by
  simp only [Char.isDigit, Bool.and_eq_true, decide_eq_true_eq, ge_iff_le,
    UInt32.le_iff_toNat_le] at h
  exact h

theorem isDigit_toDigits (n : Nat) : ∀ c ∈ Nat.toDigits 10 n, c.isDigit = true := by
  intro c hc
  exact Nat.isDigit_of_mem_toDigits (by decide) (by decide) hc

/-- Decimal digits are read back as the number that they were written for. -/
theorem digitsValue?_toDigits (n : Nat) : digitsValue? 10 (Nat.toDigits 10 n) = some n := by
  have hread : ∀ (ds : List Char) (init : Nat), (∀ c ∈ ds, c.isDigit = true) →
      (ds.foldlM (fun n c => do
        let d ← hexValue? c
        if d < 10 then some (n * 10 + d) else none) init) = some (Nat.ofDigitChars 10 ds init) := by
    intro ds
    induction ds with
    | nil => exact fun _ _ => rfl
    | cons c rest ih =>
      intro init hdigits
      have hc := hdigits c List.mem_cons_self
      have hlt : c.toNat - 48 < 10 := by
        have := toNat_of_isDigit hc
        omega
      have hzero : '0'.toNat = 48 := rfl
      rw [List.foldlM_cons, hexValue?_of_isDigit hc, Nat.ofDigitChars_cons]
      simp only [Option.bind_eq_bind, Option.bind_some, if_pos hlt, hzero]
      rw [Nat.mul_comm 10 init]
      exact ih _ fun d hd => hdigits d (List.mem_cons_of_mem _ hd)
  have hvalue := hread _ 0 (isDigit_toDigits n)
  rw [Nat.ofDigitChars_toDigits (by decide) (by decide)] at hvalue
  unfold digitsValue?
  split
  · next hnil => exact absurd hnil Nat.toDigits_ne_nil
  · exact hvalue

/-- A port that is written in digits is read back, and left out if it is the default. -/
theorem portOf_toDigits (scheme : Scheme) {n : Nat} (h : n ≤ 65535) :
    portOf scheme (Nat.toDigits 10 n) = .ok (if n = scheme.defaultPort then none else some n) := by
  have hall : (Nat.toDigits 10 n).all Char.isDigit = true :=
    List.all_eq_true.mpr (isDigit_toDigits n)
  have hempty : (Nat.toDigits 10 n).isEmpty = false := by
    simp
  have hle : ¬ 65535 < n := by omega
  simp only [portOf, hall, digitsValue?_toDigits, hempty, if_neg hle]
  by_cases hdefault : n = scheme.defaultPort <;> simp [hdefault]

theorem isDigit_of_portOf {scheme : Scheme} {ds : List Char} {port : Option Nat}
    (h : portOf scheme ds = .ok port) : ∀ c ∈ ds, c.isDigit = true := by
  unfold portOf at h
  split at h
  · cases h
  · next hall =>
    simpa using hall

/-! ## Reading an address -/

/-- The path of every base address. -/
def basePath : List Char := ['/', 'a', 'p', 'i', '/']

section

/-! A text without stray characters stands whole between two slashes and the path. -/

variable {authority : List Char}

theorem filter_of_plain (h : ∀ c ∈ authority, isStray c = false) :
    ('/' :: '/' :: (authority ++ basePath)).filter (!isDropped ·) =
      '/' :: '/' :: (authority ++ basePath) := by
  have hpath : basePath.filter (!isDropped ·) = basePath := by decide
  have hkept : authority.filter (!isDropped ·) = authority := by
    refine List.filter_eq_self.mpr fun c hc => ?_
    simp [(isStray_eq_false_iff.mp (h c hc)).2.2]
  rw [List.filter_cons_of_pos (by decide), List.filter_cons_of_pos (by decide),
    List.filter_append, hpath, hkept]

theorem not_endsAuthority_of_plain (h : ∀ c ∈ authority, isStray c = false) :
    ∀ c ∈ authority, (!endsAuthority c) = true := by
  intro c hc
  simp [(isStray_eq_false_iff.mp (h c hc)).1]

theorem dropSlashes_of_plain (h : ∀ c ∈ authority, isStray c = false) (hne : authority ≠ []) :
    ('/' :: '/' :: (authority ++ basePath)).dropWhile isSlash = authority ++ basePath := by
  obtain ⟨c, rest, rfl⟩ := List.exists_cons_of_ne_nil hne
  have hends := (isStray_eq_false_iff.mp (h c List.mem_cons_self)).1
  have hc : isSlash c = false := by
    simp only [endsAuthority, Bool.or_eq_false_iff] at hends
    exact hends.1.1
  rw [List.dropWhile_cons_of_pos rfl, List.dropWhile_cons_of_pos rfl, List.cons_append,
    List.dropWhile_cons_of_neg (by simp [hc])]

theorem takeAuthority_of_plain (h : ∀ c ∈ authority, isStray c = false) :
    (authority ++ basePath).takeWhile (!endsAuthority ·) = authority := by
  rw [List.takeWhile_append_of_pos (not_endsAuthority_of_plain h)]
  simp [basePath, endsAuthority, isSlash]

theorem dropAuthority_of_plain (h : ∀ c ∈ authority, isStray c = false) :
    (authority ++ basePath).dropWhile (!endsAuthority ·) = basePath := by
  rw [List.dropWhile_append_of_pos (not_endsAuthority_of_plain h)]
  simp [basePath, endsAuthority, isSlash]

theorem splitCredentials_of_plain (h : ∀ c ∈ authority, isStray c = false) :
    splitCredentials authority = (none, authority) := by
  have hat : '@' ∉ authority := fun hmem => (isStray_eq_false_iff.mp (h '@' hmem)).2.1 rfl
  rw [splitCredentials, Text.splitAt_of_not_mem hat]
  rfl

end

theorem not_isStray_of_isDigit {c : Char} (h : c.isDigit = true) : isStray c = false := by
  by_contra hstray
  have hreserved := (mem_reserved_of_isStray (Bool.not_eq_false _ ▸ hstray)).1
  have hnone : reserved.all (!Char.isDigit ·) = true := by decide
  simpa [h] using List.all_eq_true.mp hnone c hreserved

/-- A host without stray characters, and a port, are read as such. -/
theorem read_of_plain (scheme : Scheme) {cs digits : List Char}
    (hcs : ∀ c ∈ cs, isStray c = false) (hdigits : ∀ c ∈ digits, c.isDigit = true) :
    Url.read scheme ('/' :: '/' :: ((cs ++ ':' :: digits) ++ basePath)) =
      if (splitPort false (cs ++ ':' :: digits)).1.isEmpty then .error .emptyHost
      else
        (normalHost (splitPort false (cs ++ ':' :: digits)).1).bind fun host =>
          (portOf scheme ((splitPort false (cs ++ ':' :: digits)).2.getD [])).map fun port =>
            ⟨scheme, none, host, port, [['a', 'p', 'i'], []], none, none⟩ := by
  have hplain : ∀ c ∈ cs ++ ':' :: digits, isStray c = false := by
    intro c hc
    rcases List.mem_append.mp hc with hc | hc
    · exact hcs c hc
    · rcases List.mem_cons.mp hc with rfl | hc
      · rfl
      · exact not_isStray_of_isDigit (hdigits c hc)
  have hne : cs ++ ':' :: digits ≠ [] := by simp
  generalize cs ++ ':' :: digits = authority at hplain hne
  have hpath : splitFirst '#' basePath = (basePath, none) := by decide
  have hquery : splitFirst '?' basePath = (basePath, none) := by decide
  have hsegments : pathOf basePath = [['a', 'p', 'i'], []] := by decide
  simp only [Url.read, filter_of_plain hplain, dropSlashes_of_plain hplain hne,
    takeAuthority_of_plain hplain, dropAuthority_of_plain hplain,
    splitCredentials_of_plain hplain, hpath, hquery, hsegments]
  split
  · rfl
  · cases normalHost (splitPort false authority).1 with
    | error fault => rfl
    | ok host => cases portOf scheme ((splitPort false authority).2.getD []) <;> rfl

/-! ## Paths -/

/-- A path that leads somewhere below the node's interface. -/
def IsBelow (path : List (List Char)) : Prop := ∃ rest, path = ['a', 'p', 'i'] :: rest ∧ rest ≠ []

/-- One segment more leads nowhere else: not even a segment of two dots gives up the first one. -/
theorem IsBelow.addSegment {path : List (List Char)} (h : IsBelow path) (segment : List Char) :
    IsBelow (Url.addSegment path segment) := by
  obtain ⟨rest, rfl, hne⟩ := h
  unfold Url.addSegment
  split
  · exact ⟨rest, rfl, hne⟩
  · rw [if_neg (by simp)]
    unfold resolve
    dsimp only
    split
    · exact ⟨rest.dropLast ++ [[]], by rw [List.dropLast_cons_of_ne_nil hne, List.cons_append],
        by simp⟩
    · split
      · exact ⟨rest ++ [[]], rfl, by simp⟩
      · exact ⟨rest ++ [_], rfl, by simp⟩

theorem IsBelow.foldl {path : List (List Char)} (h : IsBelow path) (segments : List String) :
    IsBelow (segments.foldl (fun path s => Url.addSegment path s.toList) path) := by
  induction segments generalizing path with
  | nil => exact h
  | cons s rest ih => exact ih (h.addSegment s.toList)

end Address

namespace NodeSettings

/-- No character of the host ends it, or cuts anything from it. -/
def hostIsPlain (s : NodeSettings) : Bool := s.host.toList.all fun c => !isStray c

/-- The base address of settings whose host has a normal form. -/
def baseAt (s : NodeSettings) (host : List Char) : Url where
  scheme := s.scheme
  credentials := none
  host := host
  port := if s.port.toNat = s.scheme.defaultPort then none else some s.port.toNat
  path := [['a', 'p', 'i'], []]
  query := none
  fragment := none

variable {s : NodeSettings}

theorem baseAddress_eq (s : NodeSettings) : s.baseAddress =
    Url.read s.scheme ('/' :: '/' ::
      ((s.host.toList ++ ':' :: Nat.toDigits 10 s.port.toNat) ++ basePath)) := by
  have hpath : "/api/".toList = basePath := rfl
  have hslashes : "//".toList = ['/', '/'] := rfl
  have hcolon : ":".toList = [':'] := rfl
  simp only [baseAddress, String.toList_append, hpath, hslashes, hcolon,
    Nat.toString_eq_ofList_toDigits, String.toList_ofList]
  simp

theorem portOf_port (s : NodeSettings) (host : List Char) :
    portOf s.scheme (Nat.toDigits 10 s.port.toNat) = .ok (s.baseAt host).port :=
  portOf_toDigits s.scheme (by have := s.port.toNat_lt; omega)

/-- A host that has a normal form is read as the host. -/
theorem baseAddress_of_host {host : List Char} (h : normalHost s.host.toList = .ok host) :
    s.baseAddress = .ok (s.baseAt host) := by
  have hdigits := isDigit_toDigits s.port.toNat
  have hne : s.host.toList ≠ [] := by
    intro hnil
    rw [hnil, normalHost_nil] at h
    cases h
  rw [baseAddress_eq, read_of_plain _ (not_isStray_of_normalHost h) hdigits,
    splitPort_of_normalHost h]
  simp only [List.isEmpty_iff, if_neg hne, h, Option.getD_some, s.portOf_port host]
  rfl

/-- If no character of a host is stray, it is read as the host or not at all. -/
theorem exists_host_of_baseAddress (hplain : s.hostIsPlain = true) {base : Url}
    (h : s.baseAddress = .ok base) :
    ∃ host, normalHost s.host.toList = .ok host ∧ base = s.baseAt host := by
  have hcs : ∀ c ∈ s.host.toList, isStray c = false := by simpa [hostIsPlain] using hplain
  have hdigits := isDigit_toDigits s.port.toNat
  have hread := h
  rw [baseAddress_eq, read_of_plain _ hcs hdigits] at hread
  have hsplit := splitPort_eq false (s.host.toList ++ ':' :: Nat.toDigits 10 s.port.toNat)
  generalize splitPort false (s.host.toList ++ ':' :: Nat.toDigits 10 s.port.toNat) = place
    at hread hsplit
  obtain ⟨hostText, portText⟩ := place
  dsimp only at hread hsplit
  split at hread
  · cases hread
  · cases hhost : normalHost hostText with
    | error fault =>
      rw [hhost] at hread
      cases hread
    | ok host =>
      cases portText with
      | none =>
        -- the port would have been read as part of the host
        rw [Option.elim_none, List.append_nil] at hsplit
        rw [← hsplit] at hhost
        exact absurd hhost (normalHost_append_port hdigits Nat.toDigits_ne_nil host)
      | some digits =>
        rw [hhost] at hread
        obtain ⟨port, hport⟩ : ∃ port, portOf s.scheme digits = .ok port := by
          cases hport : portOf s.scheme digits with
          | ok port => exact ⟨port, rfl⟩
          | error fault =>
            simp only [Option.getD_some, hport] at hread
            cases hread
        have hcolon : ':' ∉ digits := fun hmem =>
          absurd (isDigit_of_portOf hport ':' hmem) (by decide)
        obtain ⟨rfl, -⟩ := eq_and_eq_of_append_cons_eq
          (fun hmem => absurd (hdigits ':' hmem) (by decide)) hcolon hsplit
        refine ⟨host, hhost, ?_⟩
        exact Except.ok.inj (h.symm.trans (baseAddress_of_host hhost))

end NodeSettings

/-! ## What a call asks for -/

/-- What a call asks for below the base address: the segments of a path, and the pairs of a query.
A login and a logout ask for the session. -/
inductive NodeCall.Asks (call : NodeCall) : List String → List (String × String) → Prop where
  | session : Asks call ["auth"] []
  | own {form : RequestForm} (hform : call.form? = some form) :
      Asks call form.segments form.pairs

/-- The first segments of all that is asked for. -/
def interfaces : List String := ["auth", "queries", "domains", "dns"]

theorem NodeCall.Asks.exists_interface {call : NodeCall} {segments : List String}
    {pairs : List (String × String)} (h : call.Asks segments pairs) :
    ∃ first rest, segments = first :: rest ∧ first ∈ interfaces := by
  cases h with
  | session => exact ⟨"auth", [], rfl, by decide⟩
  | own hform =>
    obtain ⟨kind, request⟩ := call
    cases kind <;> simp only [form?, Option.some.injEq, reduceCtorEq] at hform <;> subst hform
    · exact ⟨"queries", [], rfl, by decide⟩
    · exact ⟨"domains", _, rfl, by decide⟩
    · exact ⟨"domains", _, rfl, by decide⟩
    · exact ⟨"domains", _, rfl, by decide⟩
    · exact ⟨"auth", [], rfl, by decide⟩
    · exact ⟨"dns", _, rfl, by decide⟩
    · exact ⟨"dns", _, rfl, by decide⟩

/-- What a call asks for lies below the node's interface. -/
theorem NodeCall.Asks.isBelow {call : NodeCall} {segments : List String}
    {pairs : List (String × String)} (h : call.Asks segments pairs) (s : NodeSettings)
    (host : List Char) : IsBelow ((s.baseAt host).below segments).path := by
  obtain ⟨first, rest, rfl, hfirst⟩ := h.exists_interface
  have hall : (interfaces.all fun first =>
      Url.addSegment [['a', 'p', 'i']] first.toList == [['a', 'p', 'i'], first.toList]) = true := by
    decide
  have hbegin :
      Url.addSegment [['a', 'p', 'i']] first.toList = [['a', 'p', 'i'], first.toList] := by
    simpa using List.all_eq_true.mp hall first hfirst
  have hpath : ((s.baseAt host).below (first :: rest)).path =
      rest.foldl (fun path s => Url.addSegment path s.toList)
        (Url.addSegment [['a', 'p', 'i']] first.toList) := rfl
  rw [hpath, hbegin]
  exact IsBelow.foldl ⟨[first.toList], rfl, by simp⟩ rest

/-- A request of a call goes to what the call asks for, below the base address of settings. -/
def SentFor (s : NodeSettings) (call : NodeCall) (r : HttpRequest) : Prop :=
  ∃ segments pairs url, call.Asks segments pairs ∧ s.endpoint segments = .ok url ∧
    r.url = url.withPairs pairs

/-- An address is the configured one: it has the scheme, the host and the port of the settings, and
no credentials; its path lies below the node's interface; its query is that of the call, and it has
no fragment. -/
structure Addressed (s : NodeSettings) (call : NodeCall) (url : Url) : Prop where
  scheme : url.scheme = s.scheme
  credentials : url.credentials = none
  host : normalHost s.host.toList = .ok url.host
  port : url.port.getD s.scheme.defaultPort = s.port.toNat
  path : IsBelow url.path
  query : url.query = none ∨
    ∃ form, call.form? = some form ∧ url.query = some (formPairs form.pairs)
  fragment : url.fragment = none

theorem addressed_of_asks {s : NodeSettings} {call : NodeCall} {segments : List String}
    {pairs : List (String × String)} (h : call.Asks segments pairs) {host : List Char}
    (hhost : normalHost s.host.toList = .ok host) :
    Addressed s call (((s.baseAt host).below segments).withPairs pairs) := by
  have hport : (s.baseAt host).port.getD s.scheme.defaultPort = s.port.toNat := by
    by_cases hdefault : s.port.toNat = s.scheme.defaultPort <;>
      simp [NodeSettings.baseAt, hdefault]
  have hpath := h.isBelow s host
  unfold Url.withPairs
  split
  · exact ⟨rfl, rfl, hhost, hport, hpath, .inl rfl, rfl⟩
  · next hpairs =>
    refine ⟨rfl, rfl, hhost, hport, hpath, .inr ?_, rfl⟩
    cases h with
    | session => exact absurd rfl hpairs
    | own hform => exact ⟨_, hform, rfl⟩

/-- A request goes to the configured address iff no character of the host is stray. -/
theorem SentFor.addressed_iff {s : NodeSettings} {call : NodeCall} {r : HttpRequest}
    (h : SentFor s call r) : Addressed s call r.url ↔ s.hostIsPlain = true := by
  constructor
  · intro haddressed
    have hplain := not_isStray_of_normalHost haddressed.host
    simpa [NodeSettings.hostIsPlain] using hplain
  · intro hplain
    obtain ⟨segments, pairs, url, hasks, hurl, hr⟩ := h
    unfold NodeSettings.endpoint at hurl
    cases hbase : s.baseAddress with
    | error fault =>
      rw [hbase] at hurl
      cases hurl
    | ok base =>
      rw [hbase] at hurl
      obtain ⟨host, hhost, rfl⟩ := NodeSettings.exists_host_of_baseAddress hplain hbase
      rw [hr, ← Except.ok.inj hurl]
      exact addressed_of_asks hasks hhost

end FilterFleet
