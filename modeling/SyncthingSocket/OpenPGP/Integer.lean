import Mathlib.Data.Nat.Digits.Defs
import Mathlib.Data.Nat.Size
import SyncthingSocket.OpenPGP.Format

/-!
The numbers that octet strings denote, most significant octet first, and how many bits
such a number has.
-/

namespace OpenPGP

open Framing

def bigEndian (octets : Bytes) : Nat := octets.foldl (fun n octet => n * 256 + octet.toNat) 0

theorem bigEndian_from (octets : Bytes) (start : Nat) :
    octets.foldl (fun n octet => n * 256 + octet.toNat) start =
      start * 256 ^ octets.length + bigEndian octets := by
  induction octets generalizing start with
  | nil => simp [bigEndian]
  | cons octet octets ih =>
      have first := ih (start * 256 + octet.toNat)
      have alone := ih (0 * 256 + octet.toNat)
      rw [bigEndian, List.foldl_cons, List.foldl_cons, first, alone, List.length_cons, Nat.pow_succ]
      ring

theorem bigEndian_cons (octet : UInt8) (octets : Bytes) :
    bigEndian (octet :: octets) = octet.toNat * 256 ^ octets.length + bigEndian octets := by
  rw [bigEndian, List.foldl_cons, bigEndian_from]
  simp

theorem bigEndian_lt (octets : Bytes) : bigEndian octets < 256 ^ octets.length := by
  induction octets with
  | nil => simp [bigEndian]
  | cons octet octets ih =>
      have digit := octet.toNat_lt
      rw [bigEndian_cons, List.length_cons, Nat.pow_succ]
      nlinarith

theorem bigEndian_dropWhile (octets : Bytes) :
    bigEndian (octets.dropWhile (· == 0)) = bigEndian octets := by
  induction octets with
  | nil => rfl
  | cons octet octets ih =>
      by_cases zero : octet = 0
      · subst zero
        rw [List.dropWhile_cons_of_pos (by simp), ih, bigEndian_cons]
        simp
      · rw [List.dropWhile_cons_of_neg (by simpa using zero)]

theorem bigEndian_eq_ofDigits (octets : Bytes) :
    bigEndian octets = Nat.ofDigits 256 (octets.map UInt8.toNat).reverse := by
  induction octets with
  | nil => rfl
  | cons octet octets ih =>
      rw [bigEndian_cons, List.map_cons, List.reverse_cons, Nat.ofDigits_append, ← ih,
        List.length_reverse, List.length_map, Nat.ofDigits_singleton]
      ring

theorem octets_of_bigEndian {octets : Bytes} (minimal : octets.head? ≠ some 0) :
    (octets.map UInt8.toNat).reverse = Nat.digits 256 (bigEndian octets) := by
  rw [bigEndian_eq_ofDigits]
  refine (Nat.digits_ofDigits 256 (by decide) _ ?_ ?_).symm
  · intro digit member
    obtain ⟨octet, _, rfl⟩ := List.mem_map.mp (List.mem_reverse.mp member)
    exact octet.toNat_lt
  · intro nonempty
    cases octets with
    | nil => simp at nonempty
    | cons first rest =>
        rw [List.getLast_reverse]
        intro zero
        refine minimal ?_
        rw [List.head?_cons, UInt8.toNat_inj.mp (show first.toNat = (0 : UInt8).toNat from zero)]

theorem minimal_unique {left right : Bytes} (leftMinimal : left.head? ≠ some 0)
    (rightMinimal : right.head? ≠ some 0) (same : bigEndian left = bigEndian right) :
    left = right := by
  have digits := octets_of_bigEndian leftMinimal
  rw [same, ← octets_of_bigEndian rightMinimal, List.reverse_inj] at digits
  exact (List.map_injective_iff.mpr fun _ _ => UInt8.toNat_inj.mp) digits

theorem bitLength_eq_size {first : UInt8} (nonzero : first ≠ 0) (rest : Bytes) :
    bitLength (first :: rest) = Nat.size (bigEndian (first :: rest)) := by
  -- The first octet that is not zero decides how many bits there are.
  have positive : first.toNat ≠ 0 := fun zero => nonzero (UInt8.toNat_inj.mp zero)
  have lower := Nat.log2_self_le positive
  have upper := Nat.lt_log2_self (n := first.toNat)
  have tail := bigEndian_lt rest
  have power : (256 : Nat) ^ rest.length = 2 ^ (8 * rest.length) := by rw [Nat.pow_mul]
  rw [power] at tail
  rw [bitLength, octetBits, if_neg nonzero, bigEndian_cons, power]
  refine Nat.le_antisymm (Nat.lt_size.mpr ?_) (Nat.size_le.mpr ?_)
  · calc 2 ^ (8 * rest.length + first.toNat.log2)
        = 2 ^ first.toNat.log2 * 2 ^ (8 * rest.length) := by rw [Nat.pow_add, Nat.mul_comm]
      _ ≤ first.toNat * 2 ^ (8 * rest.length) := Nat.mul_le_mul_right _ lower
      _ ≤ first.toNat * 2 ^ (8 * rest.length) + bigEndian rest := Nat.le_add_right _ _
  · calc first.toNat * 2 ^ (8 * rest.length) + bigEndian rest
        < first.toNat * 2 ^ (8 * rest.length) + 2 ^ (8 * rest.length) := Nat.add_lt_add_left tail _
      _ = (first.toNat + 1) * 2 ^ (8 * rest.length) := (Nat.succ_mul _ _).symm
      _ ≤ 2 ^ (first.toNat.log2 + 1) * 2 ^ (8 * rest.length) := Nat.mul_le_mul_right _ upper
      _ = 2 ^ (8 * rest.length + (first.toNat.log2 + 1)) := by rw [← Nat.pow_add, Nat.add_comm]

end OpenPGP
