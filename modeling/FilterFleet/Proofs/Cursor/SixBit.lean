import FilterFleet.Cursor.Id
import FilterFleet.Proofs.Text.Bytes
import Mathlib.Data.List.Basic
import Mathlib.Data.List.TakeWhile

/-!
# Reading back the text of a cursor id

Bytes that are written with six bits to a symbol are read back as they were
(`SixBit.decode_written`): the values of the symbols, taken in groups of four, join to the bytes in
groups of three. The symbols are ASCII characters other than blanks, so that the text of a cursor id
is read as that id (`CursorId.parse_text`).
-/

namespace FilterFleet

namespace SixBit

/-! ## Symbols -/

/-- The six-bit values of bytes. -/
def values : List UInt8 → List Nat
  | [] => []
  | [a] => [a.toNat / 4, a.toNat % 4 * 16]
  | [a, b] => [a.toNat / 4, a.toNat % 4 * 16 + b.toNat / 16, b.toNat % 16 * 4]
  | a :: b :: c :: rest =>
    (a.toNat / 4) :: (a.toNat % 4 * 16 + b.toNat / 16) :: (b.toNat % 16 * 4 + c.toNat / 64) ::
      (c.toNat % 64) :: values rest

theorem encode_eq_map (bytes : List UInt8) : encode bytes = (values bytes).map symbol := by
  fun_induction values bytes <;> simp_all [encode]

theorem lt_of_mem_values {bytes : List UInt8} {n : Nat} (h : n ∈ values bytes) : n < 64 := by
  fun_induction values bytes with
  | case1 => simp at h
  | case2 a =>
    have := a.toNat_lt
    simp at h
    omega
  | case3 a b =>
    have := a.toNat_lt
    have := b.toNat_lt
    simp at h
    omega
  | case4 a b c rest ih =>
    have := a.toNat_lt
    have := b.toNat_lt
    have := c.toNat_lt
    simp only [List.mem_cons] at h
    rcases h with h | h | h | h | h
    · omega
    · omega
    · omega
    · omega
    · exact ih h

/-- A symbol is an ASCII character, no blank, and read as its value. -/
theorem symbol_spec {n : Nat} (h : n < 64) :
    (symbol n).toNat < 128 ∧ Text.isBlank (symbol n) = false ∧
      value? (UInt8.ofNat (symbol n).toNat) = some n := by
  have hall : ∀ m < 64, (symbol m).toNat < 128 ∧ Text.isBlank (symbol m) = false ∧
      value? (UInt8.ofNat (symbol m).toNat) = some m := by decide
  exact hall n h

/-! ## Bytes -/

/-- The bytes of the symbols. -/
def written (bytes : List UInt8) : List UInt8 :=
  (encode bytes).map fun c => UInt8.ofNat c.toNat

theorem join?_values (bytes : List UInt8) : join? (values bytes) = some bytes := by
  fun_induction values bytes with
  | case1 => rfl
  | case2 a =>
    have := a.toNat_lt
    have h1 : a.toNat % 4 * 16 % 16 = 0 := by omega
    have h2 : a.toNat / 4 * 4 + a.toNat % 4 * 16 / 16 = a.toNat := by omega
    simp only [join?, h1, h2, UInt8.ofNat_toNat, beq_self_eq_true, if_true]
  | case3 a b =>
    have := a.toNat_lt
    have := b.toNat_lt
    have h1 : b.toNat % 16 * 4 % 4 = 0 := by omega
    have h2 : a.toNat / 4 * 4 + (a.toNat % 4 * 16 + b.toNat / 16) / 16 = a.toNat := by omega
    have h3 : (a.toNat % 4 * 16 + b.toNat / 16) % 16 * 16 + b.toNat % 16 * 4 / 4 = b.toNat := by
      omega
    simp only [join?, h1, h2, h3, UInt8.ofNat_toNat, beq_self_eq_true, if_true]
  | case4 a b c rest ih =>
    have := a.toNat_lt
    have := b.toNat_lt
    have := c.toNat_lt
    have h1 : a.toNat / 4 * 4 + (a.toNat % 4 * 16 + b.toNat / 16) / 16 = a.toNat := by omega
    have h2 : (a.toNat % 4 * 16 + b.toNat / 16) % 16 * 16 +
        (b.toNat % 16 * 4 + c.toNat / 64) / 4 = b.toNat := by omega
    have h3 : (b.toNat % 16 * 4 + c.toNat / 64) % 4 * 64 + c.toNat % 64 = c.toNat := by omega
    simp only [join?, ih, h1, h2, h3, UInt8.ofNat_toNat, Option.map_some]

theorem length_values_mod (bytes : List UInt8) : (values bytes).length % 4 ≠ 1 := by
  fun_induction values bytes with
  | case1 => decide
  | case2 a => simp
  | case3 a b => simp
  | case4 a b c rest ih =>
    simp only [List.length_cons]
    omega

/-- Bytes are read back from their symbols. -/
theorem decode_written (bytes : List UInt8) : decode (written bytes) = .ok bytes := by
  have hwritten : written bytes = (values bytes).map fun n => UInt8.ofNat (symbol n).toNat := by
    rw [written, encode_eq_map, List.map_map]
    rfl
  have hvalue : ∀ n ∈ values bytes, value? (UInt8.ofNat (symbol n).toNat) = some n := fun n hn =>
    (symbol_spec (lt_of_mem_values hn)).2.2
  have hall : ∀ b ∈ written bytes, (value? b).isSome = true := by
    rw [hwritten]
    intro b hb
    obtain ⟨n, hn, rfl⟩ := List.mem_map.mp hb
    rw [hvalue n hn]
    rfl
  have houtside : outside? (written bytes) = none := by
    have hrest : (written bytes).dropWhile (fun b => (value? b).isSome) = [] :=
      List.dropWhile_eq_nil_iff.mpr hall
    simp only [outside?, hrest]
  have hlength : ((written bytes).length % 4 == 1) = false := by
    simpa [hwritten] using length_values_mod bytes
  have hvalues : (written bytes).filterMap value? = values bytes := by
    rw [hwritten, List.filterMap_map]
    calc (values bytes).filterMap (value? ∘ fun n => UInt8.ofNat (symbol n).toNat)
        = (values bytes).filterMap some := List.filterMap_congr hvalue
      _ = values bytes := List.filterMap_some
  simp only [decode, hlength, houtside, hvalues, join?_values]
  simp

end SixBit

/-! ## Texts of ids -/

/-- Trimming leaves a text without blanks as it is. -/
theorem trim_ofList {cs : List Char} (hcs : ∀ c ∈ cs, Text.isBlank c = false) :
    Text.trim (String.ofList cs) = String.ofList cs := by
  have hdrop {ds : List Char} (hds : ∀ c ∈ ds, Text.isBlank c = false) :
      ds.dropWhile Text.isBlank = ds := by
    cases ds with
    | nil => rfl
    | cons d ds => rw [List.dropWhile_cons_of_neg (by simp [hds d])]
  rw [Text.trim, String.toList_ofList, Text.trimChars, hdrop hcs, hdrop (by simpa using hcs),
    List.reverse_reverse]

namespace CursorId

theorem toList_text (id : CursorId) :
    id.text.toList = (SixBit.values id.bytes).map SixBit.symbol := by
  rw [text, String.toList_ofList, SixBit.encode_eq_map]

/-- The bytes of the text of an id. -/
theorem toList_toUTF8_text (id : CursorId) : id.text.toUTF8.toList = SixBit.written id.bytes := by
  have hascii : ∀ c ∈ SixBit.encode id.bytes, c.toNat < 128 := by
    rw [SixBit.encode_eq_map]
    intro c hc
    obtain ⟨n, hn, rfl⟩ := List.mem_map.mp hc
    exact (SixBit.symbol_spec (SixBit.lt_of_mem_values hn)).1
  exact toList_toUTF8_ascii hascii

theorem trim_text (id : CursorId) : Text.trim id.text = id.text := by
  refine trim_ofList fun c hc => ?_
  rw [SixBit.encode_eq_map] at hc
  obtain ⟨n, hn, rfl⟩ := List.mem_map.mp hc
  exact (SixBit.symbol_spec (SixBit.lt_of_mem_values hn)).2.1

/-- An id is read back from its text. -/
theorem parse_text (id : CursorId) : parse id.text = .ok id := by
  rw [parse, trim_text, toList_toUTF8_text, SixBit.decode_written]
  simp [ofBytes?, id.length_bytes]

end CursorId

end FilterFleet
