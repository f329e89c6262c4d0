import FilterFleet.Proofs.Cursor.SixBit
import FilterFleet.Proofs.Json.Codes
import Mathlib.Data.List.GetD

/-!
# The one text of a cursor id

Reading bytes with six bits to a symbol undoes the writing (`SixBit.decode_written`), and it accepts
nothing else: what it reads as bytes is the writing of these bytes (`SixBit.decode_eq_ok_iff`). For
each symbol stands for one value, and groups of values that leave no bit over join to the bytes that
they are the values of. So a text names a cursor iff it is the text of the cursor, between blanks
(`CursorId.text_canonical`). What the symbols write in base 64 is what the bytes write in base 256,
with four zero bits more, which fill the last of the 22 symbols.
-/

namespace FilterFleet

namespace SixBit

/-! ## The number of the symbols -/

/-- The number that digits write in a base, the most significant first. -/
def number (base : Nat) (digits : List Nat) : Nat := digits.foldl (fun n d => base * n + d) 0

/-- The place of a symbol in the alphabet. -/
def place (c : Char) : Nat := alphabet.idxOf c

theorem place_symbol {n : Nat} (h : n < 64) : place (symbol n) = n := by
  have hall : ∀ m < 64, place (symbol m) = m := by decide
  exact hall n h

theorem symbol_mem_alphabet {n : Nat} (h : n < 64) : symbol n ∈ alphabet := by
  rw [symbol, List.getD_eq_getElem _ _ h]
  exact List.getElem_mem _

theorem length_values (bytes : List UInt8) :
    (values bytes).length = (4 * bytes.length + 2) / 3 := by
  fun_induction values bytes with
  | case1 => rfl
  | case2 a => simp
  | case3 a b => simp
  | case4 a b c rest ih =>
    simp only [List.length_cons, ih]
    omega

/-- Where one byte is left over, the values write the number of the bytes with four bits more. -/
theorem foldl_values (bytes : List UInt8) (n : Nat) (h : bytes.length % 3 = 1) :
    (values bytes).foldl (fun n d => 64 * n + d) n =
      16 * (bytes.map UInt8.toNat).foldl (fun n d => 256 * n + d) n := by
  fun_induction values bytes generalizing n with
  | case1 => simp at h
  | case2 a =>
    simp only [List.foldl_cons, List.foldl_nil, List.map_cons, List.map_nil]
    omega
  | case3 a b => simp at h
  | case4 a b c rest ih =>
    have hrest : rest.length % 3 = 1 := by
      simp only [List.length_cons] at h
      omega
    have hgroup : 64 * (64 * (64 * (64 * n + a.toNat / 4) + (a.toNat % 4 * 16 + b.toNat / 16)) +
        (b.toNat % 16 * 4 + c.toNat / 64)) + c.toNat % 64 =
          256 * (256 * (256 * n + a.toNat) + b.toNat) + c.toNat := by omega
    simp only [List.foldl_cons, List.map_cons, hgroup]
    exact ih _ hrest

/-! ## What is read was written -/

/-- A byte that has a value is the symbol of the value. -/
theorem eq_symbol_of_value? {b : UInt8} {n : Nat} (h : value? b = some n) :
    n < 64 ∧ UInt8.ofNat (symbol n).toNat = b := by
  have hall : ∀ m < 256, (value? (UInt8.ofNat m)).all (fun n =>
      decide (n < 64) && UInt8.ofNat (symbol n).toNat == UInt8.ofNat m) = true := by
    decide +kernel
  have hb := hall b.toNat b.toNat_lt
  rw [UInt8.ofNat_toNat, h] at hb
  simpa using hb

/-- Values that join to bytes are the values of these bytes. -/
theorem values_of_join? {ns : List Nat} {bytes : List UInt8} (h : join? ns = some bytes)
    (hns : ∀ n ∈ ns, n < 64) : values bytes = ns := by
  fun_induction join? ns generalizing bytes with
  | case1 =>
    obtain rfl := Option.some.inj h
    rfl
  | case2 => cases h
  | case3 p q hq =>
    obtain rfl := Option.some.inj h
    have hp := hns p (by simp)
    have hq' := hns q (by simp)
    have hzero : q % 16 = 0 := by simpa using hq
    have hbyte : (UInt8.ofNat (p * 4 + q / 16)).toNat = p * 4 + q / 16 :=
      UInt8.toNat_ofNat_of_lt' (by rw [UInt8.size]; omega)
    simp only [values, hbyte, List.cons.injEq, and_true]
    omega
  | case4 => cases h
  | case5 p q r hr =>
    obtain rfl := Option.some.inj h
    have hp := hns p (by simp)
    have hq := hns q (by simp)
    have hr' := hns r (by simp)
    have hzero : r % 4 = 0 := by simpa using hr
    have hfirst : (UInt8.ofNat (p * 4 + q / 16)).toNat = p * 4 + q / 16 :=
      UInt8.toNat_ofNat_of_lt' (by rw [UInt8.size]; omega)
    have hsecond : (UInt8.ofNat (q % 16 * 16 + r / 4)).toNat = q % 16 * 16 + r / 4 :=
      UInt8.toNat_ofNat_of_lt' (by rw [UInt8.size]; omega)
    simp only [values, hfirst, hsecond, List.cons.injEq, and_true]
    omega
  | case6 => cases h
  | case7 p q r s rest ih =>
    obtain ⟨more, hmore, rfl⟩ := Option.map_eq_some_iff.mp h
    have hp := hns p (by simp)
    have hq := hns q (by simp)
    have hr := hns r (by simp)
    have hs := hns s (by simp)
    have hrest : values more = rest := ih hmore fun n hn => hns n (by simp [hn])
    have hfirst : (UInt8.ofNat (p * 4 + q / 16)).toNat = p * 4 + q / 16 :=
      UInt8.toNat_ofNat_of_lt' (by rw [UInt8.size]; omega)
    have hsecond : (UInt8.ofNat (q % 16 * 16 + r / 4)).toNat = q % 16 * 16 + r / 4 :=
      UInt8.toNat_ofNat_of_lt' (by rw [UInt8.size]; omega)
    have hthird : (UInt8.ofNat (r % 4 * 64 + s)).toNat = r % 4 * 64 + s :=
      UInt8.toNat_ofNat_of_lt' (by rw [UInt8.size]; omega)
    simp only [values, hfirst, hsecond, hthird, hrest, List.cons.injEq, and_true]
    omega

/-- A fault is found unless all bytes are symbols. -/
theorem isSome_value?_of_outside? {bytes : List UInt8} (h : outside? bytes = none) :
    ∀ b ∈ bytes, (value? b).isSome = true := by
  refine List.dropWhile_eq_nil_iff.mp ?_
  unfold outside? at h
  dsimp only at h
  split at h
  · next hnil => exact hnil
  · split at h <;> cases h

/-- What is read as bytes has only symbols, the values of which join to the bytes. -/
theorem decode_eq_ok {bytes out : List UInt8} (h : decode bytes = .ok out) :
    (∀ b ∈ bytes, (value? b).isSome = true) ∧ join? (bytes.filterMap value?) = some out := by
  unfold decode at h
  dsimp only at h
  split at h
  · split at h <;> cases h
  · split at h
    · cases h
    · next houtside =>
      split at h
      · next joined hjoined =>
        obtain rfl := Except.ok.inj h
        exact ⟨isSome_value?_of_outside? houtside, hjoined⟩
      · cases h

/-- Symbols are those of their values. -/
theorem map_symbol_filterMap {bytes : List UInt8} (h : ∀ b ∈ bytes, (value? b).isSome = true) :
    (bytes.filterMap value?).map (fun n => UInt8.ofNat (symbol n).toNat) = bytes := by
  induction bytes with
  | nil => rfl
  | cons b rest ih =>
    obtain ⟨n, hn⟩ := Option.isSome_iff_exists.mp (h b List.mem_cons_self)
    rw [List.filterMap_cons_some hn, List.map_cons, (eq_symbol_of_value? hn).2,
      ih fun b' hb' => h b' (List.mem_cons_of_mem _ hb')]

/-- Bytes are read from their symbols and from nothing else. -/
theorem decode_eq_ok_iff (bytes out : List UInt8) :
    decode bytes = .ok out ↔ bytes = written out := by
  constructor
  · intro h
    obtain ⟨hsymbols, hjoin⟩ := decode_eq_ok h
    have hlt : ∀ n ∈ bytes.filterMap value?, n < 64 := by
      intro n hn
      obtain ⟨b, -, hb⟩ := List.mem_filterMap.mp hn
      exact (eq_symbol_of_value? hb).1
    rw [written, encode_eq_map, values_of_join? hjoin hlt, List.map_map]
    exact (map_symbol_filterMap hsymbols).symm
  · rintro rfl
    exact decode_written out

end SixBit

/-! ## Texts and ids -/

namespace CursorId

/-- A text is read as an id iff it is the text of the id, between blanks. -/
theorem parse_eq_ok_iff (id : CursorId) (s : String) :
    parse s = .ok id ↔ Text.trim s = id.text := by
  constructor
  · intro h
    unfold parse at h
    split at h
    · cases h
    · next bytes hdecode =>
      have hbytes : bytes = id.bytes := by
        unfold ofBytes? at h
        split at h
        · next found hfound =>
          split at hfound
          · rw [← Except.ok.inj h, ← Option.some.inj hfound]
          · cases hfound
        · cases h
      refine eq_of_toList_toUTF8_eq ?_
      rw [toList_toUTF8_text, ← hbytes]
      exact (SixBit.decode_eq_ok_iff _ _).mp hdecode
  · intro h
    have hread : SixBit.decode (Text.trim s).toUTF8.toList = .ok id.bytes := by
      rw [h, toList_toUTF8_text, SixBit.decode_written]
    rw [parse, hread]
    simp [ofBytes?, id.length_bytes]

/-- **A cursor id has one text.**  The text of an id has 22 letters of the alphabet, which write the
number of the sixteen bytes with four zero bits behind it. It is read as the id, alone and as a JSON
text; and a text is read as the id iff this is what is left of it without the blanks at its ends. -/
theorem text_canonical (id : CursorId) :
    id.text.length = 22 ∧ id.text.toList ⊆ SixBit.alphabet ∧
      SixBit.number 64 (id.text.toList.map SixBit.place) =
        16 * SixBit.number 256 (id.bytes.map UInt8.toNat) ∧
      parse id.text = .ok id ∧ (Json.ofText? id.toJson.text).bind ofJson? = some id ∧
      ∀ s, parse s = .ok id ↔ Text.trim s = id.text := by
  have hvalue : ∀ n ∈ SixBit.values id.bytes, n < 64 := fun n hn => SixBit.lt_of_mem_values hn
  have hlength : id.text.length = 22 := by
    rw [← String.length_toList, toList_text, List.length_map, SixBit.length_values,
      id.length_bytes]
  have hplaces : id.text.toList.map SixBit.place = SixBit.values id.bytes := by
    rw [toList_text, List.map_map]
    calc (SixBit.values id.bytes).map (SixBit.place ∘ SixBit.symbol)
        = (SixBit.values id.bytes).map (fun n => n) :=
          List.map_congr_left fun n hn => SixBit.place_symbol (hvalue n hn)
      _ = SixBit.values id.bytes := List.map_id' _
  refine ⟨hlength, fun c hc => ?_, ?_, parse_text id, CursorId.codes.readsBack id,
    parse_eq_ok_iff id⟩
  · rw [toList_text] at hc
    obtain ⟨n, hn, rfl⟩ := List.mem_map.mp hc
    exact SixBit.symbol_mem_alphabet (hvalue n hn)
  · rw [hplaces]
    exact SixBit.foldl_values id.bytes 0 (by rw [id.length_bytes])

end CursorId

end FilterFleet
