import TaskRunner.Text.Utf8
import Mathlib.Tactic.SplitIfs

/-! The order of texts, which is that of their characters, is the order of their bytes in UTF-8. -/

namespace TaskRunner

theorem utf8_eq_flatMap (text : String) :
    utf8 text = text.toList.flatMap String.utf8EncodeChar := by
  have h : text.toByteArray = text.toList.utf8Encode := by
    rw [← String.toByteArray_ofList, String.ofList_toList]
  rw [utf8, h, List.utf8Encode]
  exact List.toList_data_toByteArray

theorem toNat_val_lt (c : Char) : c.val.toNat < 1114112 := by
  have hvalid := c.valid
  simp only [UInt32.isValidChar, Nat.isValidChar] at hvalid
  omega

/-- A code point from the shares that its bytes have in the longest encoding. -/
theorem eq_sum_shares (n : Nat) :
    n = 262144 * (n / 262144) + 4096 * (n / 4096 % 64) + 64 * (n / 64 % 64) + n % 64 := by
  omega

/-- The encodings of two characters differ within both, whatever follows them. -/
theorem utf8EncodeChar_append_lt {c d : Char} (h : c < d) (more other : Bytes) :
    String.utf8EncodeChar c ++ more < String.utf8EncodeChar d ++ other := by
  have hlt : c.val.toNat < d.val.toNat := h
  have hbound := toNat_val_lt d
  unfold String.utf8EncodeChar
  generalize c.val.toNat = m at *
  generalize d.val.toNat = n at *
  have hm := eq_sum_shares m
  have hn := eq_sum_shares n
  dsimp only
  -- One case for the lengths of the two encodings, which the order of the code points bounds.
  split_ifs <;>
    simp only [List.cons_append, List.nil_append, List.cons_lt_cons_iff, UInt8.lt_iff_toNat_lt,
      ← UInt8.toNat_inj, UInt8.toNat_ofNat'] <;>
    simp (disch := omega) only [Nat.mod_eq_of_lt] <;>
    omega

theorem utf8_lt {text other : String} (h : text < other) : utf8 text < utf8 other := by
  rw [utf8_eq_flatMap, utf8_eq_flatMap]
  change text.toList < other.toList at h
  generalize text.toList = cs at h ⊢
  generalize other.toList = ds at h ⊢
  induction cs generalizing ds with
  | nil =>
    obtain ⟨d, rest, rfl⟩ := List.exists_cons_of_ne_nil (l := ds) (by rintro rfl; simp at h)
    have hd : String.utf8EncodeChar d ≠ [] := by simp
    obtain ⟨b, bytes, hbytes⟩ := List.exists_cons_of_ne_nil hd
    simp [hbytes]
  | cons c cs ih =>
    obtain ⟨d, rest, rfl⟩ := List.exists_cons_of_ne_nil (l := ds) (by rintro rfl; simp at h)
    rw [List.flatMap_cons, List.flatMap_cons]
    rcases List.cons_lt_cons_iff.1 h with hlt | ⟨rfl, hrest⟩
    · exact utf8EncodeChar_append_lt hlt _ _
    · exact List.append_left_lt (ih _ hrest)

end TaskRunner
