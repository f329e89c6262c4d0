import FilterFleet.Json.Reader
import FilterFleet.Json.Writer
import Mathlib.Data.List.Basic
import Mathlib.Data.List.TakeWhile

/-!
# Reading back what was written

A JSON value that is written as a text and read again comes back as it was (`Json.ofText?_text`),
if it is plain: all its numbers are whole, and no half of a surrogate pair stands in it.

The scanner makes of the characters of a value the tokens of the value (`scans_of_plain`). A number
and a word have no end of their own, so that the scanner may still be inside of one when the
characters of the value are over: it has *settled* on tokens if it stands for them at the end of the
text and before every separator. The reader then puts the value that the tokens make up where a
value was expected (`reads_of_plain`).
-/

namespace FilterFleet.Json

open Decimal

/-- A value without numbers that have a point or a power of ten, and without half a surrogate
pair. -/
inductive Plain : Json → Prop
  | null : Plain null
  | bool (b : Bool) : Plain (bool b)
  | int (n : Int) : Plain (int n)
  | str (s : String) : Plain (str s)
  | arr {items : List Json} (h : ∀ v ∈ items, Plain v) : Plain (arr items)
  | obj {members : List (String × Json)} (h : ∀ m ∈ members, Plain m.2) : Plain (obj members)

/-! ## Numbers -/

theorem digitsValue_eq_ofDigitChars (ds : List Char) : digitsValue ds = Nat.ofDigitChars 10 ds 0 :=
  rfl

theorem digitsValue_toDigits (n : Nat) : digitsValue (Nat.toDigits 10 n) = n := by
  rw [digitsValue_eq_ofDigitChars]
  exact Nat.ofDigitChars_toDigits (by decide) (by decide)

/-- Only zero is written with a zero in front. -/
theorem eq_zero_of_head?_toDigits {n : Nat} (h : (Nat.toDigits 10 n).head? = some '0') : n = 0 := by
  induction n using Nat.strongRecOn with
  | ind n ih =>
    rcases Nat.lt_or_ge n 10 with hn | hn
    · rw [Nat.toDigits_of_lt_base hn] at h
      have hdigit : ∀ m < 10, [m.digitChar].head? = some '0' → m = 0 := by decide
      exact hdigit n hn h
    · rw [Nat.toDigits_of_base_le (by decide) hn,
        List.head?_append_of_ne_nil _ Nat.toDigits_ne_nil] at h
      have hzero : n / 10 = 0 := ih (n / 10) (by omega) h
      omega

/-- The digits of a number are read as it, with a minus in front only if it is not zero. -/
theorem unsigned?_toDigits {negative : Bool} {n : Nat} (h : negative = true → n ≠ 0) :
    unsigned? negative (Nat.toDigits 10 n) = some (int (if negative then -n else n)) := by
  have hall : ∀ c ∈ Nat.toDigits 10 n, c.isDigit = true := fun c hc =>
    Nat.isDigit_of_mem_toDigits (by decide) (by decide) hc
  have hwhole : (Nat.toDigits 10 n).takeWhile Char.isDigit = Nat.toDigits 10 n :=
    List.takeWhile_eq_self_iff.mpr hall
  have hrest : (Nat.toDigits 10 n).dropWhile Char.isDigit = [] :=
    List.dropWhile_eq_nil_iff.mpr hall
  have hlead : ((Nat.toDigits 10 n).isEmpty || ((Nat.toDigits 10 n).head? == some '0' &&
      (Nat.toDigits 10 n).length != 1)) = false := by
    have hne : (Nat.toDigits 10 n).isEmpty = false := by simp [Nat.toDigits_ne_nil]
    rw [hne, Bool.false_or, Bool.and_eq_false_iff]
    by_cases hzero : (Nat.toDigits 10 n).head? = some '0'
    · right
      rw [eq_zero_of_head?_toDigits hzero]
      rfl
    · left
      simpa using hzero
  simp only [unsigned?, hwhole, hrest, hlead, digitsValue_toDigits]
  have hminus : (negative && n == 0) = false := by
    cases negative
    · rfl
    · simpa using h rfl
  simp [hminus]

theorem number?_intChars (n : Int) : number? (intChars n) = some (int n) := by
  unfold intChars
  split
  · next hneg =>
    rw [number?, unsigned?_toDigits (fun _ => by omega), if_pos rfl]
    congr 2
    omega
  · next hneg =>
    have hminus : ∀ cs, Nat.toDigits 10 n.natAbs ≠ '-' :: cs := by
      intro cs hcs
      have hdigit := Nat.isDigit_of_mem_toDigits (b := 10) (n := n.natAbs) (c := '-') (by decide)
        (by decide) (by simp [hcs])
      exact absurd hdigit (by decide)
    rw [number?, unsigned?_toDigits (by simp), if_neg (by simp)]
    · congr 2
      omega
    · exact hminus

/-! ## The scanner -/

namespace Scan

/-- Whether a separator starts with `c`. -/
def IsSeparator (c : Char) : Prop := c = ',' ∨ c = ':' ∨ c = ']' ∨ c = '\x7d'

/-- The scanner stands for the tokens `found` at the end of the text and before a separator. -/
structure Settled (s : Scan) (found : List Token) : Prop where
  finish : s.finish? = some found.reverse
  feed : ∀ c, IsSeparator c → s.feed c = between found c

theorem Settled.nothing (found : List Token) : Settled ⟨found, .nothing⟩ found :=
  ⟨rfl, fun _ _ => rfl⟩

/-- Reading on inside of a number. -/
theorem foldlM_digits (found : List Token) {cs : List Char} (hcs : ∀ c ∈ cs, c.isDigit = true)
    (read : List Char) :
    cs.foldlM Scan.feed ⟨found, .number read⟩ = some ⟨found, .number (cs.reverse ++ read)⟩ := by
  induction cs generalizing read with
  | nil => rfl
  | cons c cs ih =>
    obtain ⟨hc, hcs⟩ := List.forall_mem_cons.mp hcs
    have hfeed : Scan.feed ⟨found, .number read⟩ c = some ⟨found, .number (c :: read)⟩ := by
      simp [Scan.feed, isNumberChar, hc]
    rw [List.foldlM_cons, hfeed]
    simpa using ih hcs (c :: read)

/-- A digit starts a number. -/
theorem between_of_isDigit (found : List Token) {c : Char} (hc : c.isDigit = true) :
    between found c = some ⟨found, .number [c]⟩ := by
  have hne (d : Char) (hd : d.isDigit = false) : (c == d) = false := by
    simpa using fun h : c = d => by simp [h, hd] at hc
  simp only [between, hne ' ' rfl, hne '\n' rfl, hne '\t' rfl, hne '\r' rfl, hne '\x7b' rfl,
    hne '\x7d' rfl, hne '[' rfl, hne ']' rfl, hne ':' rfl, hne ',' rfl, hne '"' rfl, hc,
    Bool.or_false, Bool.or_true, if_true, Bool.false_eq_true, if_false]

/-- From the characters of a whole number the scanner is inside of it. -/
theorem foldlM_intChars (found : List Token) (n : Int) :
    (intChars n).foldlM Scan.feed ⟨found, .nothing⟩ =
      some ⟨found, .number (intChars n).reverse⟩ := by
  have hdigits : ∀ c ∈ Nat.toDigits 10 n.natAbs, c.isDigit = true := fun c hc =>
    Nat.isDigit_of_mem_toDigits (by decide) (by decide) hc
  unfold intChars
  split
  · have hminus : Scan.feed ⟨found, .nothing⟩ '-' = some ⟨found, .number ['-']⟩ := rfl
    rw [List.foldlM_cons, hminus]
    simpa using foldlM_digits found hdigits ['-']
  · cases hcs : Nat.toDigits 10 n.natAbs with
    | nil => exact absurd hcs Nat.toDigits_ne_nil
    | cons c cs =>
      obtain ⟨hc, hcs⟩ := List.forall_mem_cons.mp (hcs ▸ hdigits)
      have hfirst : Scan.feed ⟨found, .nothing⟩ c = some ⟨found, .number [c]⟩ :=
        between_of_isDigit found hc
      rw [List.foldlM_cons, hfirst]
      simpa using foldlM_digits found hcs [c]

/-- A word is over at a separator. -/
theorem Settled.word (letters : List Char) {t : Token} (h : word? letters = some t)
    (found : List Token) : Settled ⟨found, .word letters.reverse⟩ (t :: found) where
  finish := by simp [finish?, h]
  feed := by
    rintro c (rfl | rfl | rfl | rfl) <;> simp [Scan.feed, h]

/-- A number is over at a separator. -/
theorem Settled.number {cs : List Char} {v : Json} (h : number? cs = some v)
    (found : List Token) : Settled ⟨found, .number cs.reverse⟩ (.atom v :: found) where
  finish := by simp [finish?, h]
  feed := by
    rintro c (rfl | rfl | rfl | rfl) <;> simp [Scan.feed, h, isNumberChar]

/-! ## Strings -/

theorem hexValue?_hexDigit {n : Nat} (h : n < 16) : hexValue? (hexDigit n) = some n := by
  have hall : ∀ m < 16, hexValue? (hexDigit m) = some m := by decide
  exact hall n h

/-- A control character is read from its code. -/
theorem foldlM_code (found : List Token) (q : Quote) {c : Char} (hc : c.toNat < 0x20) :
    ['\\', 'u', '0', '0', hexDigit (c.toNat / 16), hexDigit (c.toNat % 16)].foldlM Scan.feed
      ⟨found, .text q⟩ = some ⟨found, .text (q.push c)⟩ := by
  have hhigh := hexValue?_hexDigit (n := c.toNat / 16) (by omega)
  have hlow := hexValue?_hexDigit (n := c.toNat % 16) (by omega)
  have hzero : hexValue? '0' = some 0 := by decide
  have hcode : 16 * (c.toNat / 16) + c.toNat % 16 = c.toNat := by omega
  have hunit : q.pushUnit c.toNat = q.push c := by
    have h1 : ¬ 0xd800 ≤ c.toNat := by omega
    have h2 : ¬ 0xdc00 ≤ c.toNat := by omega
    simp [Quote.pushUnit, h1, h2]
  simp [Scan.feed, hhigh, hlow, hzero, hcode, hunit]

/-- The characters that stand for `c` inside of a string are read as `c`. -/
theorem foldlM_escapedChars (found : List Token) (q : Quote) (c : Char) :
    (escapedChars c).foldlM Scan.feed ⟨found, .text q⟩ = some ⟨found, .text (q.push c)⟩ := by
  unfold escapedChars
  split_ifs with h1 h2 h3 h4 h5 h6 h7 h8
  · rw [eq_of_beq h1]; rfl
  · rw [eq_of_beq h2]; rfl
  · rw [eq_of_beq h3]; rfl
  · rw [eq_of_beq h4]; rfl
  · rw [eq_of_beq h5]; rfl
  · rw [eq_of_beq h6]; rfl
  · rw [eq_of_beq h7]; rfl
  · exact foldlM_code found q h8
  · have hfeed : Scan.feed ⟨found, .text q⟩ c = some ⟨found, .text (q.push c)⟩ := by
      simp_all [Scan.feed]
    rw [List.foldlM_cons, hfeed]
    rfl

theorem foldlM_flatMap_escapedChars (found : List Token) (q : Quote) (cs : List Char) :
    (cs.flatMap escapedChars).foldlM Scan.feed ⟨found, .text q⟩ =
      some ⟨found, .text (cs.foldl Quote.push q)⟩ := by
  induction cs generalizing q with
  | nil => rfl
  | cons c cs ih =>
    rw [List.flatMap_cons, List.foldlM_append, foldlM_escapedChars, List.foldl_cons]
    exact ih (q.push c)

theorem value_foldl_push (s : String) : (s.toList.foldl Quote.push Quote.empty).value = str s := by
  have hpush (cs read : List Char) :
      cs.foldl Quote.push ⟨read, true, none⟩ = ⟨cs.reverse ++ read, true, none⟩ := by
    induction cs generalizing read with
    | nil => rfl
    | cons c cs ih => simpa [Quote.push] using ih (c :: read)
  rw [Quote.empty, hpush]
  simp [Quote.value]

/-- A string is one token. -/
theorem foldlM_stringChars (found : List Token) (s : String) :
    (stringChars s).foldlM Scan.feed ⟨found, .nothing⟩ =
      some ⟨.atom (str s) :: found, .nothing⟩ := by
  have hopen : Scan.feed ⟨found, .nothing⟩ '"' = some ⟨found, .text Quote.empty⟩ := rfl
  have hclose (q : Quote) : Scan.feed ⟨found, .text q⟩ '"' =
      some ⟨.atom q.value :: found, .nothing⟩ := rfl
  rw [stringChars, List.foldlM_cons, hopen]
  simp only [Option.bind_eq_bind, Option.bind_some, List.foldlM_append,
    foldlM_flatMap_escapedChars, List.foldlM_cons, List.foldlM_nil, hclose, value_foldl_push]
  rfl

end Scan

/-! ## The tokens of a value -/

mutual

/-- The tokens that the characters of a value make up. -/
def tokens : Json → List Token
  | arr [] => [.openArray, .closeArray]
  | arr (v :: rest) => .openArray :: (tokens v ++ itemsTokens rest)
  | obj [] => [.openObject, .closeObject]
  | obj ((name, v) :: rest) =>
    .openObject :: .atom (str name) :: .colon :: (tokens v ++ membersTokens rest)
  | v => [.atom v]

/-- The tokens of the further items of an array, with its end. -/
def itemsTokens : List Json → List Token
  | [] => [.closeArray]
  | v :: rest => .comma :: (tokens v ++ itemsTokens rest)

/-- The tokens of the further members of an object, with its end. -/
def membersTokens : List (String × Json) → List Token
  | [] => [.closeObject]
  | (name, v) :: rest => .comma :: .atom (str name) :: .colon :: (tokens v ++ membersTokens rest)

end

/-- From the characters of a value the scanner settles on the tokens of the value. -/
def Scans (v : Json) : Prop := ∀ found, ∃ s,
  v.chars.foldlM Scan.feed ⟨found, .nothing⟩ = some s ∧ s.Settled (v.tokens.reverse ++ found)

theorem Scans.items {rest : List Json} (h : ∀ v ∈ rest, Scans v) {s : Scan} {found : List Token}
    (hs : s.Settled found) : (itemsChars rest).foldlM Scan.feed s =
      some ⟨(itemsTokens rest).reverse ++ found, .nothing⟩ := by
  induction rest generalizing s found with
  | nil =>
    rw [itemsChars, List.foldlM_cons, hs.feed ']' (by simp [Scan.IsSeparator])]
    rfl
  | cons v rest ih =>
    obtain ⟨hv, hrest⟩ := List.forall_mem_cons.mp h
    obtain ⟨t, hread, ht⟩ := hv (.comma :: found)
    have hcomma : s.feed ',' = some ⟨.comma :: found, .nothing⟩ := by
      rw [hs.feed ',' (by simp [Scan.IsSeparator])]
      rfl
    rw [itemsChars, List.foldlM_cons, hcomma]
    simp only [Option.bind_eq_bind, Option.bind_some, List.foldlM_append, hread, ih hrest ht]
    simp [itemsTokens]

theorem Scans.members {rest : List (String × Json)} (h : ∀ m ∈ rest, Scans m.2) {s : Scan}
    {found : List Token} (hs : s.Settled found) : (membersChars rest).foldlM Scan.feed s =
      some ⟨(membersTokens rest).reverse ++ found, .nothing⟩ := by
  induction rest generalizing s found with
  | nil =>
    rw [membersChars, List.foldlM_cons, hs.feed '\x7d' (by simp [Scan.IsSeparator])]
    rfl
  | cons m rest ih =>
    obtain ⟨name, v⟩ := m
    obtain ⟨hv, hrest⟩ := List.forall_mem_cons.mp h
    obtain ⟨t, hread, ht⟩ := hv (.colon :: .atom (str name) :: .comma :: found)
    have hcomma : s.feed ',' = some ⟨.comma :: found, .nothing⟩ := by
      rw [hs.feed ',' (by simp [Scan.IsSeparator])]
      rfl
    have hcolon (found : List Token) :
        Scan.feed ⟨found, .nothing⟩ ':' = some ⟨.colon :: found, .nothing⟩ := rfl
    rw [membersChars, List.foldlM_cons, hcomma]
    simp only [Option.bind_eq_bind, Option.bind_some, List.foldlM_append, List.foldlM_cons,
      Scan.foldlM_stringChars, hcolon, hread, ih hrest ht]
    simp [membersTokens]

theorem scans_of_plain {v : Json} (hv : v.Plain) : Scans v := by
  intro found
  induction hv generalizing found with
  | null =>
    refine ⟨_, ?_, Scan.Settled.word ['n', 'u', 'l', 'l'] rfl found⟩
    rfl
  | bool b =>
    cases b with
    | false =>
      refine ⟨_, ?_, Scan.Settled.word ['f', 'a', 'l', 's', 'e'] rfl found⟩
      rfl
    | true =>
      refine ⟨_, ?_, Scan.Settled.word ['t', 'r', 'u', 'e'] rfl found⟩
      rfl
  | int n =>
    refine ⟨_, ?_, Scan.Settled.number (number?_intChars n) found⟩
    exact Scan.foldlM_intChars found n
  | str s => exact ⟨_, Scan.foldlM_stringChars found s, Scan.Settled.nothing _⟩
  | @arr items _ ih =>
    cases items with
    | nil => exact ⟨_, rfl, Scan.Settled.nothing _⟩
    | cons v rest =>
      obtain ⟨hv, hrest⟩ := List.forall_mem_cons.mp ih
      obtain ⟨t, hread, ht⟩ := hv (.openArray :: found)
      have hopen : Scan.feed ⟨found, .nothing⟩ '[' = some ⟨.openArray :: found, .nothing⟩ := rfl
      refine ⟨⟨(tokens (arr (v :: rest))).reverse ++ found, .nothing⟩, ?_, Scan.Settled.nothing _⟩
      rw [chars, List.foldlM_cons, hopen]
      simp only [Option.bind_eq_bind, Option.bind_some, List.foldlM_append, hread,
        Scans.items hrest ht]
      simp [tokens]
  | @obj members _ ih =>
    cases members with
    | nil => exact ⟨_, rfl, Scan.Settled.nothing _⟩
    | cons m rest =>
      obtain ⟨name, v⟩ := m
      obtain ⟨hv, hrest⟩ := List.forall_mem_cons.mp ih
      obtain ⟨t, hread, ht⟩ := hv (.colon :: .atom (str name) :: .openObject :: found)
      have hopen : Scan.feed ⟨found, .nothing⟩ '\x7b' = some ⟨.openObject :: found, .nothing⟩ := rfl
      have hcolon (found : List Token) :
          Scan.feed ⟨found, .nothing⟩ ':' = some ⟨.colon :: found, .nothing⟩ := rfl
      refine ⟨⟨(tokens (obj ((name, v) :: rest))).reverse ++ found, .nothing⟩, ?_,
        Scan.Settled.nothing _⟩
      rw [chars, List.foldlM_cons, hopen]
      simp only [Option.bind_eq_bind, Option.bind_some, List.foldlM_append, List.foldlM_cons,
        Scan.foldlM_stringChars, hcolon, hread, Scans.members hrest ht]
      simp [tokens]

/-- The tokens of a plain value are those of its text. -/
theorem tokens?_chars {v : Json} (hv : v.Plain) : tokens? v.chars = some v.tokens := by
  obtain ⟨s, hread, hs⟩ := scans_of_plain hv []
  have hfinish := hs.finish
  rw [Json.tokens?, Scan.start, hread, Option.bind_some, hfinish]
  simp

/-! ## The reader -/

namespace Reading

/-- Whatever containers are open, the tokens of `v` put `v` where a value was expected. -/
def Reads (v : Json) : Prop := ∀ frames,
  v.tokens.foldlM Reading.feed ⟨frames, .value⟩ = put frames v

/-- The first item of an array is read as any other value. -/
theorem foldlM_firstItem (frames : List Frame) (v : Json) :
    v.tokens.foldlM Reading.feed ⟨frames, .firstItem⟩ =
      v.tokens.foldlM Reading.feed ⟨frames, .value⟩ := by
  have hfirst : ∀ t, t ≠ .closeArray →
      Reading.feed ⟨frames, .firstItem⟩ t = Reading.feed ⟨frames, .value⟩ t := by
    intro t ht
    cases t <;> simp_all [Reading.feed]
  have htokens : ∃ t ts, v.tokens = t :: ts ∧ t ≠ .closeArray := by
    fun_cases tokens v <;> simp
  obtain ⟨t, ts, htokens, ht⟩ := htokens
  rw [htokens, List.foldlM_cons, List.foldlM_cons, hfirst t ht]

theorem Reads.items {rest : List Json} (h : ∀ v ∈ rest, Reads v) (read : List Json)
    (frames : List Frame) :
    (itemsTokens rest).foldlM Reading.feed ⟨.array read :: frames, .more⟩ =
      put frames (arr (read.reverse ++ rest)) := by
  induction rest generalizing read with
  | nil => simp [itemsTokens, Reading.feed]
  | cons v rest ih =>
    obtain ⟨hv, hrest⟩ := List.forall_mem_cons.mp h
    have hcomma : Reading.feed ⟨.array read :: frames, .more⟩ .comma =
        some ⟨.array read :: frames, .value⟩ := rfl
    have hput : put (.array read :: frames) v = some ⟨.array (v :: read) :: frames, .more⟩ := rfl
    rw [itemsTokens, List.foldlM_cons, hcomma]
    simp only [Option.bind_eq_bind, Option.bind_some, List.foldlM_append, hv _, hput, ih hrest]
    simp

theorem Reads.members {rest : List (String × Json)} (h : ∀ m ∈ rest, Reads m.2)
    (read : List (String × Json)) (frames : List Frame) :
    (membersTokens rest).foldlM Reading.feed ⟨.object read true :: frames, .more⟩ =
      put frames (obj (read.reverse ++ rest)) := by
  induction rest generalizing read with
  | nil => simp [membersTokens, Reading.feed, closed]
  | cons m rest ih =>
    obtain ⟨name, v⟩ := m
    obtain ⟨hv, hrest⟩ := List.forall_mem_cons.mp h
    have hcomma : Reading.feed ⟨.object read true :: frames, .more⟩ .comma =
        some ⟨.object read true :: frames, .name⟩ := rfl
    have hname : Reading.feed ⟨.object read true :: frames, .name⟩ (.atom (str name)) =
        some ⟨.member read true (some name) :: frames, .colon⟩ := rfl
    have hcolon (frames : List Frame) : Reading.feed ⟨frames, .colon⟩ .colon =
        some ⟨frames, .value⟩ := rfl
    have hput : put (.member read true (some name) :: frames) v =
        some ⟨.object ((name, v) :: read) true :: frames, .more⟩ := rfl
    rw [membersTokens, List.foldlM_cons, hcomma]
    simp only [Option.bind_eq_bind, Option.bind_some, List.foldlM_cons, List.foldlM_append, hname,
      hcolon, hv _, hput, ih hrest]
    simp

end Reading

theorem reads_of_plain {v : Json} (hv : v.Plain) : Reading.Reads v := by
  intro frames
  have hatom (v : Json) (hv : v.tokens = [.atom v]) : Reading.Reads v := by
    intro frames
    rw [hv, List.foldlM_cons]
    exact bind_pure (Reading.put frames v)
  induction hv generalizing frames with
  | null => exact hatom _ rfl frames
  | bool b => exact hatom _ rfl frames
  | int n => exact hatom _ rfl frames
  | str s => exact hatom _ rfl frames
  | @arr items _ ih =>
    cases items with
    | nil => exact bind_pure (Reading.put frames (arr []))
    | cons v rest =>
      obtain ⟨hv, hrest⟩ := List.forall_mem_cons.mp ih
      have hopen : Reading.feed ⟨frames, .value⟩ .openArray =
          some ⟨.array [] :: frames, .firstItem⟩ := rfl
      have hput : Reading.put (.array [] :: frames) v = some ⟨.array [v] :: frames, .more⟩ := rfl
      rw [tokens, List.foldlM_cons, hopen]
      simp only [Option.bind_eq_bind, Option.bind_some, Reading.foldlM_firstItem,
        List.foldlM_append, hv _, hput, Reading.Reads.items hrest]
      rfl
  | @obj members _ ih =>
    cases members with
    | nil => exact bind_pure (Reading.put frames (obj []))
    | cons m rest =>
      obtain ⟨name, v⟩ := m
      obtain ⟨hv, hrest⟩ := List.forall_mem_cons.mp ih
      have hopen : Reading.feed ⟨frames, .value⟩ .openObject =
          some ⟨.object [] true :: frames, .firstName⟩ := rfl
      have hname : Reading.feed ⟨.object [] true :: frames, .firstName⟩ (.atom (str name)) =
          some ⟨.member [] true (some name) :: frames, .colon⟩ := rfl
      have hcolon (frames : List Frame) : Reading.feed ⟨frames, .colon⟩ .colon =
          some ⟨frames, .value⟩ := rfl
      have hput : Reading.put (.member [] true (some name) :: frames) v =
          some ⟨.object [(name, v)] true :: frames, .more⟩ := rfl
      rw [tokens, List.foldlM_cons, hopen]
      simp only [Option.bind_eq_bind, Option.bind_some, List.foldlM_cons, List.foldlM_append, hname,
        hcolon, hv _, hput, Reading.Reads.members hrest]
      rfl

/-- A plain value is read back from its text. -/
theorem ofText?_text {v : Json} (hv : v.Plain) : ofText? v.text = some v := by
  have hread : v.tokens.foldlM Reading.feed Reading.start = some ⟨[], .done v⟩ :=
    reads_of_plain hv []
  rw [ofText?, text, String.toList_ofList, tokens?_chars hv, Option.bind_some, ofTokens?, hread]
  rfl

end FilterFleet.Json
