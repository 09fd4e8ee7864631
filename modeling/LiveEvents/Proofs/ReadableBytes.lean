import LiveEvents.Text.Utf8
import Mathlib.Tactic.SplitIfs

/-!
# Readable bytes

What is written as UTF-8 is read back. The first byte of a character says how many follow and
within which bounds the second one lies, each later byte adds six binary digits, and with the last
one the character is whole. So every text is the text of some bytes.
-/

namespace LiveEvents.Text.Utf8

variable {b v : Nat} {p q : Pending} {c : Char} {rest : List UInt8}

/-! ## One byte -/

theorem segmentsFrom_first_char (hb : b < 256) (h : first b = .char c) :
    segmentsFrom none (.ofNat b :: rest) = some c :: segmentsFrom none rest := by
  simp [segmentsFrom, Nat.mod_eq_of_lt hb, h]

theorem segmentsFrom_first_more (hb : b < 256) (h : first b = .more p) :
    segmentsFrom none (.ofNat b :: rest) = segmentsFrom (some p) rest := by
  simp [segmentsFrom, Nat.mod_eq_of_lt hb, h]

theorem segmentsFrom_next_char (hb : b < 256) (h : p.next b = .char c) :
    segmentsFrom (some p) (.ofNat b :: rest) = some c :: segmentsFrom none rest := by
  simp [segmentsFrom, Nat.mod_eq_of_lt hb, h]

theorem segmentsFrom_next_more (hb : b < 256) (h : p.next b = .more q) :
    segmentsFrom (some p) (.ofNat b :: rest) = segmentsFrom (some q) rest := by
  simp [segmentsFrom, Nat.mod_eq_of_lt hb, h]

/-! ## Later bytes

A later byte of a number adds its last six binary digits to the others. -/

section Later

variable {left low high : Nat}

theorem next_later (hlow : low ≤ v % 64 + 0x80) (hhigh : v % 64 + 0x80 ≤ high) :
    Pending.next ⟨v / 64, left, low, high⟩ (v % 64 + 0x80) =
      if left = 1 then .char (Char.ofNat v) else .more ⟨v, left - 1, 0x80, 0xBF⟩ := by
  have hdigits : v / 64 * 64 + (v % 64 + 0x80 - 0x80) = v := by omega
  simp only [Pending.next, hlow, hhigh, hdigits, decide_true, Bool.and_self, if_true]

theorem segmentsFrom_last (hlow : low ≤ v % 64 + 0x80) (hhigh : v % 64 + 0x80 ≤ high) :
    segmentsFrom (some ⟨v / 64, 1, low, high⟩) (.ofNat (v % 64 + 0x80) :: rest) =
      some (.ofNat v) :: segmentsFrom none rest := by
  apply segmentsFrom_next_char (by omega)
  rw [next_later hlow hhigh, if_pos rfl]

theorem segmentsFrom_later (hlow : low ≤ v % 64 + 0x80) (hhigh : v % 64 + 0x80 ≤ high) :
    segmentsFrom (some ⟨v / 64, left + 2, low, high⟩) (.ofNat (v % 64 + 0x80) :: rest) =
      segmentsFrom (some ⟨v, left + 1, 0x80, 0xBF⟩) rest := by
  apply segmentsFrom_next_more (by omega)
  rw [next_later hlow hhigh, if_neg (by omega)]
  rfl

end Later

/-! ## First bytes

The bounds of the second byte bar overlong forms, halves of surrogate pairs and numbers beyond the
last character, and nothing else. -/

theorem first_of_two (h : 0x7F < v ∧ v ≤ 0x7FF) :
    first (v / 64 + 0xC0) = .more ⟨v / 64, 1, 0x80, 0xBF⟩ := by
  unfold first
  rw [if_neg (by omega), if_neg (by omega), if_pos (by omega), Nat.add_sub_cancel]

theorem exists_first_of_three (h : 0x7FF < v ∧ v ≤ 0xFFFF) (hvalid : v.isValidChar) :
    ∃ low high, first (v / 64 / 64 + 0xE0) = .more ⟨v / 64 / 64, 2, low, high⟩ ∧
      low ≤ v / 64 % 64 + 0x80 ∧ v / 64 % 64 + 0x80 ≤ high := by
  unfold Nat.isValidChar at hvalid
  unfold first
  rw [if_neg (by omega), if_neg (by omega), if_neg (by omega)]
  by_cases hoverlong : v / 64 / 64 = 0
  · exact ⟨0xA0, 0xBF, by simp [hoverlong], by omega, by omega⟩
  by_cases hsurrogates : v / 64 / 64 = 0xD
  · exact ⟨0x80, 0x9F, by simp [hsurrogates], by omega, by omega⟩
  · refine ⟨0x80, 0xBF, ?_, by omega, by omega⟩
    rw [if_neg (by omega), if_neg (by omega), if_pos (by omega), Nat.add_sub_cancel]

theorem exists_first_of_four (h : 0xFFFF < v) (hvalid : v.isValidChar) :
    ∃ low high, first (v / 64 / 64 / 64 + 0xF0) = .more ⟨v / 64 / 64 / 64, 3, low, high⟩ ∧
      low ≤ v / 64 / 64 % 64 + 0x80 ∧ v / 64 / 64 % 64 + 0x80 ≤ high := by
  unfold Nat.isValidChar at hvalid
  unfold first
  rw [if_neg (by omega), if_neg (by omega), if_neg (by omega), if_neg (by omega),
    if_neg (by omega), if_neg (by omega)]
  by_cases hoverlong : v / 64 / 64 / 64 = 0
  · exact ⟨0x90, 0xBF, by simp [hoverlong], by omega, by omega⟩
  by_cases hlast : v / 64 / 64 / 64 = 4
  · exact ⟨0x80, 0x8F, by simp [hlast], by omega, by omega⟩
  · refine ⟨0x80, 0xBF, ?_, by omega, by omega⟩
    rw [if_neg (by omega), if_pos (by omega), Nat.add_sub_cancel]

/-! ## Characters and texts -/

theorem segmentsFrom_utf8EncodeChar (c : Char) (rest : List UInt8) :
    segmentsFrom none (String.utf8EncodeChar c ++ rest) = some c :: segmentsFrom none rest := by
  have hchar : Char.ofNat c.val.toNat = c := Char.ofNat_toNat c
  have hvalid : c.val.toNat.isValidChar := c.valid
  have htop : c.val.toNat < 0x110000 := by
    unfold Nat.isValidChar at hvalid
    omega
  unfold String.utf8EncodeChar
  generalize c.val.toNat = v at hchar hvalid htop
  simp only
  split_ifs with hone htwo hthree
  · exact segmentsFrom_first_char (by omega) (by rw [first, if_pos (by omega), hchar])
  · have hlead : v / 64 % 32 + 192 = v / 64 + 0xC0 := by omega
    rw [hlead, List.cons_append, segmentsFrom_first_more (by omega) (first_of_two (by omega)),
      List.cons_append, segmentsFrom_last (by omega) (by omega), hchar, List.nil_append]
  · have hlead : v / 4096 % 16 + 224 = v / 64 / 64 + 0xE0 := by omega
    obtain ⟨low, high, hfirst, hlow, hhigh⟩ := exists_first_of_three (by omega) hvalid
    rw [hlead, List.cons_append, segmentsFrom_first_more (by omega) hfirst,
      List.cons_append, segmentsFrom_later hlow hhigh,
      List.cons_append, segmentsFrom_last (by omega) (by omega), hchar, List.nil_append]
  · have hlead : v / 262144 % 8 + 240 = v / 64 / 64 / 64 + 0xF0 := by omega
    have hsecond : v / 4096 % 64 + 128 = v / 64 / 64 % 64 + 0x80 := by omega
    obtain ⟨low, high, hfirst, hlow, hhigh⟩ := exists_first_of_four (by omega) hvalid
    rw [hlead, hsecond, List.cons_append, segmentsFrom_first_more (by omega) hfirst,
      List.cons_append, segmentsFrom_later hlow hhigh,
      List.cons_append, segmentsFrom_later (by omega) (by omega),
      List.cons_append, segmentsFrom_last (by omega) (by omega), hchar, List.nil_append]

theorem segmentsFrom_flatMap (cs : List Char) :
    segmentsFrom none (cs.flatMap String.utf8EncodeChar) = cs.map some := by
  induction cs with
  | nil => rfl
  | cons c cs ih => rw [List.flatMap_cons, segmentsFrom_utf8EncodeChar, ih, List.map_cons]

theorem encode_eq (text : String) : encode text = text.toList.flatMap String.utf8EncodeChar := by
  rw [encode, String.toUTF8_eq_toByteArray, ← String.utf8Encode_toList, List.utf8Encode,
    List.toList_data_toByteArray]

/-- Nothing is lost of what is readable. -/
theorem segments_encode (text : String) : segments (encode text) = text.toList.map some := by
  rw [encode_eq]
  exact segmentsFrom_flatMap text.toList

theorem lossy_encode (text : String) : lossy (encode text) = text.toList := by
  rw [lossy, segments_encode, List.map_map]
  exact List.map_id text.toList

end LiveEvents.Text.Utf8
