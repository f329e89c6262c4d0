/-! # Splitting at a character

A text splits at every occurrence of a character into one piece more than there are occurrences.
Putting the pieces together again with the character between them gives the text back.
-/

namespace FilterFleet.Text

/-- The pieces between the occurrences of `sep`. -/
def splitAt (sep : Char) : List Char → List (List Char)
  | [] => [[]]
  | c :: rest =>
    if c = sep then [] :: splitAt sep rest
    else
      match splitAt sep rest with
      | [] => [[c]]
      | piece :: pieces => (c :: piece) :: pieces

/-- Pieces with `sep` between them. -/
def joinWith (sep : Char) : List (List Char) → List Char
  | [] => []
  | [piece] => piece
  | piece :: pieces => piece ++ sep :: joinWith sep pieces

theorem splitAt_ne_nil (sep : Char) (cs : List Char) : splitAt sep cs ≠ [] := by
  cases cs with
  | nil => simp [splitAt]
  | cons c rest =>
    simp only [splitAt]
    split
    · simp
    · split <;> simp

theorem joinWith_splitAt (sep : Char) (cs : List Char) : joinWith sep (splitAt sep cs) = cs := by
  induction cs with
  | nil => rfl
  | cons c rest ih =>
    simp only [splitAt]
    split
    · next h =>
      match hs : splitAt sep rest with
      | [] => exact absurd hs (splitAt_ne_nil sep rest)
      | piece :: pieces => simp_all [joinWith]
    · match hs : splitAt sep rest with
      | [] => exact absurd hs (splitAt_ne_nil sep rest)
      | [piece] => simp_all [joinWith]
      | piece :: next :: pieces => simp_all [joinWith]

theorem mem_joinWith {sep c : Char} {piece : List Char} {ls : List (List Char)}
    (hpiece : piece ∈ ls) (hc : c ∈ piece) : c ∈ joinWith sep ls := by
  fun_induction joinWith sep ls with
  | case1 => simp at hpiece
  | case2 => rwa [← List.mem_singleton.mp hpiece]
  | case3 first rest _ ih =>
    rcases List.mem_cons.mp hpiece with rfl | hpiece
    · exact List.mem_append_left _ hc
    · exact List.mem_append_right _ (List.mem_cons_of_mem _ (ih hpiece))

theorem exists_piece_of_mem_joinWith {sep c : Char} {ls : List (List Char)}
    (h : c ∈ joinWith sep ls) : c = sep ∨ ∃ piece ∈ ls, c ∈ piece := by
  fun_induction joinWith sep ls with
  | case1 => simp at h
  | case2 piece => exact .inr ⟨piece, List.mem_cons_self, h⟩
  | case3 piece pieces _ ih =>
    rcases List.mem_append.mp h with h | h
    · exact .inr ⟨piece, List.mem_cons_self, h⟩
    · rcases List.mem_cons.mp h with hsep | h
      · exact .inl hsep
      · exact (ih h).imp_right fun ⟨q, hq, hc⟩ => ⟨q, List.mem_cons_of_mem _ hq, hc⟩

/-- A character of a text is the one it is split at, or stands in a piece. -/
theorem exists_piece_of_mem (sep : Char) {c : Char} {cs : List Char} (h : c ∈ cs) :
    c = sep ∨ ∃ piece ∈ splitAt sep cs, c ∈ piece := by
  rw [← joinWith_splitAt sep cs] at h
  exact exists_piece_of_mem_joinWith h

theorem splitAt_of_not_mem {sep : Char} {cs : List Char} (h : sep ∉ cs) :
    splitAt sep cs = [cs] := by
  induction cs with
  | nil => rfl
  | cons c rest ih =>
    simp only [List.mem_cons, not_or] at h
    rw [splitAt, if_neg (Ne.symm h.1), ih h.2]

theorem not_mem_of_mem_splitAt {sep : Char} {cs piece : List Char} (h : piece ∈ splitAt sep cs) :
    sep ∉ piece := by
  induction cs generalizing piece with
  | nil => simp_all [splitAt]
  | cons c rest ih =>
    simp only [splitAt] at h
    split at h
    · rcases List.mem_cons.mp h with rfl | h
      · simp
      · exact ih h
    · next hc =>
      split at h
      · rw [List.mem_singleton.mp h]
        simpa using fun heq : sep = c => hc heq.symm
      · next first pieces hs =>
        rcases List.mem_cons.mp h with rfl | h
        · intro hm
          rcases List.mem_cons.mp hm with heq | hm
          · exact hc heq.symm
          · exact ih (by rw [hs]; simp) hm
        · exact ih (by rw [hs]; simp [h])

end FilterFleet.Text
