import LiveEvents.Proofs.PairKeys
import LiveEvents.Proofs.StoreSteps

/-!
# Guids of hexadecimal digits

The digits of a serial guid are read back as its number, so no guid is given out twice. None of
them is a slash, so the owner of a composite key can be told from the rest of the key.
-/

namespace LiveEvents.Store

/-- The value of a hexadecimal digit. -/
def hexValue (c : Char) : ℕ := if c.toNat < 58 then c.toNat - 48 else c.toNat - 87

def hexNumber (digits : List Char) : ℕ := digits.foldl (fun n c => 16 * n + hexValue c) 0

theorem hexValue_digitChar : ∀ d < 16, hexValue (Nat.digitChar d) = d := by decide

theorem digitChar_ne_slash : ∀ d < 16, Nat.digitChar d ≠ '/' := by decide

theorem hexNumber_snoc (digits : List Char) (c : Char) :
    hexNumber (digits ++ [c]) = 16 * hexNumber digits + hexValue c := by
  simp [hexNumber]

theorem hexNumber_toDigits (n : ℕ) : hexNumber (Nat.toDigits 16 n) = n := by
  induction n using Nat.base_induction 16 (by decide) with
  | single d hd =>
    rw [Nat.toDigits_of_lt_base hd]
    simp [hexNumber, hexValue_digitChar d hd]
  | digit n d hd hn ih =>
    rw [← Nat.toDigits_append_toDigits (by decide) hn hd, Nat.toDigits_of_lt_base hd,
      hexNumber_snoc, ih, hexValue_digitChar d hd]

theorem hexNumber_zeros (k : ℕ) (digits : List Char) :
    hexNumber (List.replicate k '0' ++ digits) = hexNumber digits := by
  have hzero : hexValue '0' = 0 := by decide
  have h : ∀ k : ℕ, (List.replicate k '0').foldl (fun n c => 16 * n + hexValue c) 0 = 0 := by
    intro k
    induction k with
    | zero => rfl
    | succ k ih => simpa [List.replicate_succ, hzero] using ih
  simp [hexNumber, List.foldl_append, h k]

theorem hexGuid_injective (lead : Char) : Function.Injective (hexGuid lead) := by
  intro i j h
  have hdigits := (List.cons.inj (String.ofList_injective h)).2
  have hnumber := congrArg hexNumber hdigits
  simpa only [hexNumber_zeros, hexNumber_toDigits] using hnumber

theorem slash_notMem_toDigits (n : ℕ) : '/' ∉ Nat.toDigits 16 n := by
  induction n using Nat.base_induction 16 (by decide) with
  | single d hd =>
    rw [Nat.toDigits_of_lt_base hd]
    simp [(digitChar_ne_slash d hd).symm]
  | digit n d hd hn ih =>
    rw [← Nat.toDigits_append_toDigits (by decide) hn hd, Nat.toDigits_of_lt_base hd]
    simp [ih, (digitChar_ne_slash d hd).symm]

namespace Mint

/-- No guid for a row holds a slash. -/
def Slashless (mint : Mint) : Prop := ∀ n, '/' ∉ (mint.row n).toList

theorem serial_distinct : serial.Distinct := ⟨hexGuid_injective 'a', hexGuid_injective 'b'⟩

theorem serial_slashless : serial.Slashless := by
  intro n
  simp only [serial, hexGuid, String.toList_ofList]
  simp [slash_notMem_toDigits n, List.mem_replicate]

end Mint

end LiveEvents.Store
