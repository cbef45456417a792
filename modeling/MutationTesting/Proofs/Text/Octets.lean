import Mathlib.Data.List.Basic
import MutationTesting.Text.Octets

/-!
# Texts as octets

The octets of a text are those of its characters one after the other, and a character below 128 is
the octet of no other character. So what is found by such characters is found in the octets too.

* `toList_ofText` — the octets of a text, character by character
* `mem_encode_iff` — where an ASCII character is found
-/

namespace MutationTesting.Octets

/-- The octets of a character. -/
def encode (c : Char) : List Char :=
  ofBytes (String.utf8EncodeChar c)

theorem encode_of_ascii {c : Char} (hc : c.toNat < 128) : encode c = [c] := by
  have hval : c.val.toNat ≤ 127 := Nat.le_of_lt_succ hc
  have hbyte : (UInt8.ofNat c.val.toNat).toNat = c.toNat := by
    rw [UInt8.toNat_ofNat']
    exact Nat.mod_eq_of_lt (by omega)
  simp only [encode, String.utf8EncodeChar, if_pos hval, ofBytes, List.map_cons, List.map_nil,
    hbyte, Char.ofNat_toNat]

/-- ASCII characters are their own octets. -/
theorem flatMap_encode_of_ascii {cs : List Char} (h : ∀ c ∈ cs, c.toNat < 128) :
    cs.flatMap encode = cs := by
  have hencode : cs.flatMap encode = cs.flatMap fun c => [c] :=
    List.flatMap_congr fun c hc => encode_of_ascii (h c hc)
  rw [hencode, List.flatMap_singleton']

/-- The bytes of other characters are no ASCII characters. -/
theorem le_of_mem_utf8EncodeChar {c : Char} (hc : 128 ≤ c.toNat) :
    ∀ byte ∈ String.utf8EncodeChar c, 128 ≤ byte.toNat := by
  have hval : ¬ c.val.toNat ≤ 127 := Nat.not_le_of_lt hc
  intro byte hbyte
  simp only [String.utf8EncodeChar, if_neg hval] at hbyte
  split at hbyte
  · simp at hbyte
    rcases hbyte with rfl | rfl <;> simp <;> omega
  · split at hbyte
    · simp at hbyte
      rcases hbyte with rfl | rfl | rfl <;> simp <;> omega
    · simp at hbyte
      rcases hbyte with rfl | rfl | rfl | rfl <;> simp <;> omega

/-- **An ASCII character is found in the octets of itself only.** -/
theorem mem_encode_iff {a : Char} (ha : a.toNat < 128) (c : Char) : a ∈ encode c ↔ c = a := by
  constructor
  · intro h
    by_cases hc : c.toNat < 128
    · rw [encode_of_ascii hc, List.mem_singleton] at h
      exact h.symm
    · -- an octet is the character of its byte, and these bytes are too high
      obtain ⟨byte, hbyte, rfl⟩ := List.mem_map.mp h
      have hlow := le_of_mem_utf8EncodeChar (Nat.le_of_not_lt hc) byte hbyte
      have hvalid : byte.toNat.isValidChar := Or.inl (by have := byte.toNat_lt; omega)
      rw [Char.ofNat, dif_pos hvalid] at ha
      exact absurd hlow (Nat.not_le_of_lt ha)
  · rintro rfl
    rw [encode_of_ascii ha]
    exact List.mem_singleton_self c

/-- The bytes in order: an induction on those that are left. -/
theorem toList_loop (bytes : ByteArray) : ∀ (left i : Nat) (read : List UInt8),
    bytes.size - i = left → ByteArray.toList.loop bytes i read
      = read.reverse ++ bytes.data.toList.drop i
  | 0, i, read, h => by
    rw [ByteArray.toList.loop, if_neg (by omega), List.drop_of_length_le, List.append_nil]
    simpa using Nat.le_of_sub_eq_zero h
  | left + 1, i, read, h => by
    have hi : i < bytes.size := by omega
    have hget : bytes.get! i = bytes.data[i] := getElem!_pos bytes.data i hi
    have hdrop : bytes.data.toList.drop i = bytes.data[i] :: bytes.data.toList.drop (i + 1) :=
      List.drop_eq_getElem_cons hi
    rw [ByteArray.toList.loop, if_pos hi, toList_loop bytes left (i + 1) _ (by omega), hget, hdrop,
      List.reverse_cons, List.append_assoc, List.singleton_append]

theorem toUTF8_eq (text : String) :
    text.toUTF8 = (text.toList.flatMap String.utf8EncodeChar).toByteArray := by
  rw [String.toUTF8, ← String.utf8Encode_toList, List.utf8Encode]

theorem toList_toUTF8 (text : String) :
    text.toUTF8.toList = text.toList.flatMap String.utf8EncodeChar := by
  rw [ByteArray.toList, toList_loop _ _ 0 [] rfl, toUTF8_eq, List.data_toByteArray]
  simp

/-- A text has at least as many bytes as characters. -/
theorem length_le_length_bytes (cs : List Char) :
    cs.length ≤ (cs.flatMap String.utf8EncodeChar).length := by
  induction cs with
  | nil => simp
  | cons c cs ih =>
    have hpos := Char.utf8Size_pos c
    rw [List.flatMap_cons, List.length_append, String.length_utf8EncodeChar, List.length_cons]
    omega

/-- A text of as many bytes as characters has ASCII characters only. -/
theorem ascii_of_length : ∀ {cs : List Char},
    (cs.flatMap String.utf8EncodeChar).length = cs.length → ∀ c ∈ cs, c.toNat < 128
  | [], _ => by simp
  | c :: cs, h => by
    have hpos := Char.utf8Size_pos c
    have hcs := length_le_length_bytes cs
    rw [List.flatMap_cons, List.length_append, String.length_utf8EncodeChar, List.length_cons] at h
    have hval : c.toNat ≤ 127 := Char.utf8Size_eq_one_iff.mp (by omega)
    intro d hd
    rcases List.mem_cons.mp hd with rfl | hd
    · omega
    · exact ascii_of_length (by omega) d hd

/-- **The octets of a text are those of its characters.** -/
theorem toList_ofText (text : String) : (ofText text).toList = text.toList.flatMap encode := by
  unfold ofText
  split
  · next hascii =>
    have hsize : (text.toList.flatMap String.utf8EncodeChar).length = text.toList.length := by
      rw [String.length_toList, ← beq_iff_eq.mp hascii, toUTF8_eq, List.size_toByteArray]
    exact (flatMap_encode_of_ascii (ascii_of_length hsize)).symm
  · rw [String.toList_ofList, toList_toUTF8, ofBytes, List.map_flatMap]
    rfl

end MutationTesting.Octets
