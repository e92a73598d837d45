import Reveille.Text.Blank

/-!
# Pieces lie within their text

The words of a text and the pieces between its separators start within it, also once the blanks
around them are gone. Offsets are in bytes.
-/

namespace Reveille.Text

namespace Piece

/-- The piece lies between these two offsets. -/
def Within (start stop : Nat) (p : Piece) : Prop :=
  start ≤ p.offset ∧ p.offset + byteLength p.chars ≤ stop

variable {start stop offset : Nat} {p : Piece}

theorem Within.widen (within : p.Within start stop) (earlier : offset ≤ start) :
    p.Within offset stop :=
  ⟨Nat.le_trans earlier within.1, within.2⟩

theorem Within.cons {c : Char} (within : p.Within (offset + c.utf8Size) stop) :
    Within offset stop ⟨offset, c :: p.chars⟩ := by
  simp only [Within, byteLength] at within ⊢
  omega

theorem Within.offset_le (within : p.Within start stop) : p.offset ≤ stop :=
  Nat.le_trans (Nat.le_add_right _ _) within.2

theorem Within.trim (within : p.Within start stop) : p.trim.offset ≤ stop := by
  have front : byteLength (p.chars.takeWhile isBlank) ≤ byteLength p.chars := by
    have whole := byteLength_append (p.chars.takeWhile isBlank) (p.chars.dropWhile isBlank)
    rw [List.takeWhile_append_dropWhile] at whole
    omega
  unfold Piece.trim
  split
  · exact within.offset_le
  · exact Nat.le_trans (Nat.add_le_add_left front _) within.2

end Piece

theorem wordsFrom_within (offset : Nat) (s : List Char) :
    ∀ p ∈ wordsFrom offset s, p.Within offset (offset + byteLength s) := by
  induction s generalizing offset with
  | nil => simp [wordsFrom]
  | cons c cs ih =>
    have later := ih (offset + c.utf8Size)
    rw [Nat.add_assoc, ← byteLength] at later
    have kept := fun p mem => (later p mem).widen (Nat.le_add_right offset c.utf8Size)
    simp only [wordsFrom]
    split
    · exact kept
    · split
      · refine List.forall_mem_cons.mpr ⟨⟨Nat.le_refl _, ?_⟩, kept⟩
        simp [byteLength]
      · cases found : wordsFrom (offset + c.utf8Size) cs with
        | nil => simp [Piece.Within, byteLength]
        | cons w ws =>
          rw [found] at later kept
          exact List.forall_mem_cons.mpr
            ⟨(later w List.mem_cons_self).cons, (List.forall_mem_cons.mp kept).2⟩

theorem splitFrom_within (sep : Char) (offset : Nat) (s : List Char) :
    ∀ p ∈ splitFrom sep offset s, p.Within offset (offset + byteLength s) := by
  induction s generalizing offset with
  | nil => simp [splitFrom, Piece.Within, byteLength]
  | cons c cs ih =>
    have later := ih (offset + c.utf8Size)
    rw [Nat.add_assoc, ← byteLength] at later
    have kept := fun p mem => (later p mem).widen (Nat.le_add_right offset c.utf8Size)
    simp only [splitFrom]
    split
    · refine List.forall_mem_cons.mpr ⟨⟨Nat.le_refl _, ?_⟩, kept⟩
      simp [byteLength]
    · cases found : splitFrom sep (offset + c.utf8Size) cs with
      | nil => simp [Piece.Within, byteLength]
      | cons q qs =>
        rw [found] at later kept
        exact List.forall_mem_cons.mpr
          ⟨(later q List.mem_cons_self).cons, (List.forall_mem_cons.mp kept).2⟩

theorem words_offset_le {s : List Char} : ∀ p ∈ words s, p.offset ≤ byteLength s := by
  intro p mem
  simpa using (wordsFrom_within 0 s p mem).offset_le

theorem split_trim_offset_le {sep : Char} {s : List Char} :
    ∀ p ∈ (split sep s).map Piece.trim, p.offset ≤ byteLength s := by
  intro p mem
  obtain ⟨q, piece, rfl⟩ := List.mem_map.mp mem
  simpa using (splitFrom_within sep 0 s q piece).trim

end Reveille.Text
