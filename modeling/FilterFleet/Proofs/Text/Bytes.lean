import Mathlib.Data.List.Basic

/-!
# The bytes of a text

Every text has its bytes in UTF-8. An ASCII character is one byte, and among the bytes of a text
this byte stands for nothing else (`byte_mem_iff`).
-/

namespace FilterFleet

/-- The list of a byte array is that of its data. -/
theorem toList_eq_toList_data (b : ByteArray) : b.toList = b.data.toList := by
  have hloop (i : Nat) (read : List UInt8) :
      ByteArray.toList.loop b i read = read.reverse ++ b.data.toList.drop i := by
    induction i, read using ByteArray.toList.loop.induct b with
    | case1 i read hi ih =>
      have hdrop : b.data.toList.drop i = b.get! i :: b.data.toList.drop (i + 1) := by
        rw [List.drop_eq_getElem_cons (by simpa using hi)]
        simp [ByteArray.get!, hi]
      rw [ByteArray.toList.loop, if_pos hi, ih, hdrop]
      simp
    | case2 i read hi =>
      have hdrop : b.data.toList.drop i = [] := List.drop_of_length_le (by simpa using hi)
      rw [ByteArray.toList.loop, if_neg hi, hdrop, List.append_nil]
  rw [ByteArray.toList, hloop]
  simp

/-- The bytes of an array are listed in order. -/
theorem toList_toByteArray (bytes : List UInt8) : bytes.toByteArray.toList = bytes := by
  rw [toList_eq_toList_data]
  simp

/-- The bytes of a text are those of its characters. -/
theorem toList_toUTF8 (s : String) : s.toUTF8.toList = s.toList.flatMap String.utf8EncodeChar := by
  have hbytes : s.toUTF8 = (s.toList.flatMap String.utf8EncodeChar).toByteArray := by
    rw [String.toUTF8_eq_toByteArray, ← List.utf8Encode, ← String.toByteArray_ofList,
      String.ofList_toList]
  rw [hbytes, toList_toByteArray]

/-- An ASCII character is one byte. -/
theorem toList_toUTF8_ascii {cs : List Char} (hcs : ∀ c ∈ cs, c.toNat < 128) :
    (String.ofList cs).toUTF8.toList = cs.map fun c => UInt8.ofNat c.toNat := by
  rw [toList_toUTF8, String.toList_ofList, ← List.flatMap_singleton' (cs.map _), List.flatMap_map]
  refine List.flatMap_congr fun c hc => ?_
  have hc : c.val.toNat ≤ 127 := Nat.le_of_lt_succ (hcs c hc)
  rw [String.utf8EncodeChar, if_pos hc]
  rfl

/-- A text is known by its bytes. -/
theorem eq_of_toList_toUTF8_eq {s t : String} (h : s.toUTF8.toList = t.toUTF8.toList) : s = t := by
  rw [toList_eq_toList_data, toList_eq_toList_data] at h
  rw [String.toUTF8_eq_toByteArray, String.toUTF8_eq_toByteArray] at h
  exact String.toByteArray_inj.mp (ByteArray.ext (Array.toList_inj.mp h))

/-- The bytes of a character beyond ASCII are all above those of ASCII. -/
theorem toNat_eq_of_byte_mem {c : Char} {b : UInt8} (hb : b ∈ String.utf8EncodeChar c)
    (hlt : b.toNat < 128) : c.toNat = b.toNat := by
  have hc : c.toNat = c.val.toNat := rfl
  unfold String.utf8EncodeChar at hb
  dsimp only at hb
  split at hb
  · obtain rfl := List.mem_singleton.mp hb
    rw [UInt8.toNat_ofNat']
    omega
  · have hhigh : 128 ≤ b.toNat := by
      split at hb
      · simp only [List.mem_cons, List.not_mem_nil, or_false] at hb
        rcases hb with rfl | rfl <;> rw [UInt8.toNat_ofNat'] <;> omega
      · split at hb
        · simp only [List.mem_cons, List.not_mem_nil, or_false] at hb
          rcases hb with rfl | rfl | rfl <;> rw [UInt8.toNat_ofNat'] <;> omega
        · simp only [List.mem_cons, List.not_mem_nil, or_false] at hb
          rcases hb with rfl | rfl | rfl | rfl <;> rw [UInt8.toNat_ofNat'] <;> omega
    omega

/-- An ASCII character is in a text iff its byte is among the bytes of the text. -/
theorem byte_mem_iff (s : String) {c : Char} (hc : c.toNat < 128) :
    UInt8.ofNat c.toNat ∈ s.toUTF8.toList ↔ c ∈ s.toList := by
  have hbyte : (UInt8.ofNat c.toNat).toNat = c.toNat := by
    rw [UInt8.toNat_ofNat']
    omega
  rw [toList_toUTF8, List.mem_flatMap]
  constructor
  · rintro ⟨d, hd, hb⟩
    have heq := toNat_eq_of_byte_mem hb (by omega)
    rw [hbyte] at heq
    obtain rfl := Char.toNat_inj.mp heq
    exact hd
  · intro hmem
    have hle : c.val.toNat ≤ 127 := Nat.le_of_lt_succ hc
    refine ⟨c, hmem, ?_⟩
    rw [String.utf8EncodeChar, if_pos hle]
    exact List.mem_singleton_self _

end FilterFleet
