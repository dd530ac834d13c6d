import ArrivalRamp.Text.Bytes
import Mathlib

/-!
The order of texts by their bytes. The bytes of a character tell its code point from the first byte
on, so texts stand in the order of their characters exactly when their bytes do.
-/

namespace ArrivalRamp.Text

/-- The bytes of a character. -/
def characterBytes (character : Char) : List ℕ :=
  (String.utf8EncodeChar character).map UInt8.toNat

/-- The bytes of a text. -/
def bytes (text : String) : List ℕ :=
  text.toUTF8.data.toList.map UInt8.toNat

theorem bytes_eq (text : String) : bytes text = text.toList.flatMap characterBytes := by
  rw [bytes, String.toUTF8, ← String.utf8Encode_toList, List.utf8Encode, List.data_toByteArray,
    List.toList_toArray, List.map_flatMap]
  rfl

/-- A character that comes first has bytes that come first, whatever follows. -/
theorem characterBytes_append_lt {first second : Char} (earlier : first < second)
    (rest others : List ℕ) : characterBytes first ++ rest < characterBytes second ++ others := by
  have bound : second.val.toNat < 0x110000 := by
    rcases second.valid with below | ⟨-, below⟩
    · exact below.trans (by decide)
    · exact below
  replace earlier : first.val.toNat < second.val.toNat := earlier
  simp only [characterBytes, String.utf8EncodeChar]
  split_ifs
  all_goals
    simp only [List.map_cons, List.cons_append, List.cons_lt_cons_iff, UInt8.toNat_ofNat']
    simp (disch := omega) only [Nat.mod_eq_of_lt]
    omega

/-- A text that comes first has bytes that come first. -/
theorem strictMono_characterBytes :
    StrictMono fun text : List Char => text.flatMap characterBytes := by
  intro first second earlier
  replace earlier : List.Lex (· < ·) first second := earlier
  dsimp only
  induction earlier with
  | @nil character characters =>
      rw [List.flatMap_nil, List.flatMap_cons]
      obtain ⟨byte, others, encoded⟩ :=
        List.exists_cons_of_ne_nil (@String.utf8EncodeChar_ne_nil character)
      rw [characterBytes, encoded]
      exact List.Lex.nil
  | cons _ later =>
      rw [List.flatMap_cons, List.flatMap_cons]
      exact List.append_left_lt later
  | rel earlier =>
      rw [List.flatMap_cons, List.flatMap_cons]
      exact characterBytes_append_lt earlier _ _

/-- Texts stand in the order of their bytes. -/
theorem le_iff_bytes_le {first second : String} :
    first ≤ second ↔ bytes first ≤ bytes second := by
  rw [String.le_iff_toList_le, bytes_eq, bytes_eq]
  exact strictMono_characterBytes.le_iff_le.symm

end ArrivalRamp.Text
