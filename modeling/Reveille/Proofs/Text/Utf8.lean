import Reveille.Text.Utf8

/-!
# Texts as bytes

The bytes of a text are those of its characters, one after the other, and are that text again. A
byte below 128 is a character of its own.
-/

namespace Reveille.Text

theorem toList_eq_data (b : ByteArray) : b.toList = b.data.toList := by
  have loop : ∀ i r, ByteArray.toList.loop b i r = r.reverse ++ b.data.toList.drop i := by
    intro i r
    fun_induction ByteArray.toList.loop b i r with
    | case1 i r inside ih =>
      have inside' : i < b.data.toList.length := inside
      have here : b.get! i = b.data.toList[i] := getElem!_pos b.data i inside
      rw [ih, List.drop_eq_getElem_cons inside', List.reverse_cons, List.append_assoc, here]
      rfl
    | case2 i r outside =>
      rw [List.drop_eq_nil_of_le (Nat.le_of_not_lt outside), List.append_nil]
  exact loop 0 []

theorem ofUtf8?_utf8 (s : String) : ofUtf8? (utf8 s) = some s := by
  have bytes : (⟨(utf8 s).toArray⟩ : ByteArray) = s.toByteArray := by
    rw [utf8, String.toUTF8_eq_toByteArray, toList_eq_data]
  rw [ofUtf8?, bytes, String.fromUTF8?, dif_pos s.isValidUTF8]
  rfl

theorem utf8_append (s t : String) : utf8 (s ++ t) = utf8 s ++ utf8 t := by
  unfold utf8
  rw [String.toUTF8_eq_toByteArray, String.toUTF8_eq_toByteArray, String.toUTF8_eq_toByteArray,
    String.toByteArray_append, toList_eq_data, toList_eq_data, toList_eq_data]
  simp

theorem utf8_eq_flatMap (s : String) : utf8 s = s.toList.flatMap String.utf8EncodeChar := by
  rw [utf8, String.toUTF8_eq_toByteArray, toList_eq_data, ← String.utf8Encode_toList]
  simp [List.utf8Encode]

theorem toNat_of_mem_utf8EncodeChar {c : Char} {b : UInt8} (mem : b ∈ String.utf8EncodeChar c)
    (small : b.toNat < 128) : b.toNat = c.toNat := by
  have toNat : ∀ k < 256, (UInt8.ofNat k).toNat = k := fun k below => UInt8.toNat_ofNat_of_lt below
  unfold String.utf8EncodeChar at mem
  dsimp only at mem
  split at mem
  · next ascii =>
    obtain rfl := List.mem_singleton.mp mem
    exact toNat c.val.toNat (by omega)
  · -- All bytes of a character of two or more are above.
    have above : 128 ≤ b.toNat := by
      split at mem
      · simp only [List.mem_cons, List.not_mem_nil, or_false] at mem
        rcases mem with rfl | rfl
        all_goals
          rw [toNat _ (by omega)]
          omega
      · split at mem
        · simp only [List.mem_cons, List.not_mem_nil, or_false] at mem
          rcases mem with rfl | rfl | rfl
          all_goals
            rw [toNat _ (by omega)]
            omega
        · simp only [List.mem_cons, List.not_mem_nil, or_false] at mem
          rcases mem with rfl | rfl | rfl | rfl
          all_goals
            rw [toNat _ (by omega)]
            omega
    omega

theorem exists_mem_of_mem_utf8 {s : String} {b : UInt8} (mem : b ∈ utf8 s) (small : b.toNat < 128) :
    ∃ c ∈ s.toList, c.toNat = b.toNat := by
  rw [utf8_eq_flatMap] at mem
  obtain ⟨c, within, byte⟩ := List.mem_flatMap.mp mem
  exact ⟨c, within, (toNat_of_mem_utf8EncodeChar byte small).symm⟩

end Reveille.Text
