import Mathlib.Data.Bool.AllAny
import Mathlib.Data.List.SplitLengths
import SyncthingSocket.Bits.Base64

/-!
Base32 (RFC 4648, section 6), the way the package `encoding/base32` reads and writes
it: the bits of the data, regrouped by five and written with an alphabet of 32
characters, and filled up to whole quanta of eight.
-/

namespace Base32

open Framing Bits Base64

def alphabet : Bytes := "ABCDEFGHIJKLMNOPQRSTUVWXYZ234567".toList.map fun c => UInt8.ofNat c.toNat

def padChar : UInt8 := 61

def character (n : Nat) : UInt8 := alphabet.getD n padChar

def quintets (bits : List Bool) : List (List Bool) :=
  let count := (bits.length + 4) / 5
  (List.replicate count 5).splitLengths (bits ++ List.replicate (5 * count - bits.length) false)

def digits (data : Bytes) : Bytes :=
  (quintets (ofOctets data)).map fun quintet => character (value quintet)

def encode (data : Bytes) : Bytes :=
  digits data ++ List.replicate ((8 - (digits data).length % 8) % 8) padChar

def fiveBits (n : Nat) : List Bool := (List.range 5).map fun i => n.testBit (4 - i)

def digitBits (c : UInt8) : Option (List Bool) := (alphabet.idxOf? c).map fiveBits

/-- The bits of the digits of `src`, of a quantum of which `j` digits have been read. An
error is the offset of `CorruptInputError`; `olen` is the length of the whole text. -/
def decodeBits (olen : Nat) : Nat → List Bool → Bytes → Except Nat (List Bool)
  | j, _, [] => if j = 0 then .ok [] else .error (olen - j)
  | j, quantum, c :: src =>
      if c = padChar ∧ 2 ≤ j ∧ src.length < 8 then
        if src.length + j < 7 then .error olen
        else
          match (src.take (7 - j)).findIdx? (· ≠ padChar) with
          | some k => .error (olen - src.length + k - 1)
          | none => if j = 3 ∨ j = 6 then .error (olen - src.length - 1) else .ok quantum
      else
        match digitBits c with
        | none => .error (olen - src.length - 1)
        | some five =>
            if j = 7 then (decodeBits olen 0 [] src).map fun rest => quantum ++ five ++ rest
            else decodeBits olen (j + 1) (quantum ++ five) src

def stripNewlines (encoded : Bytes) : Bytes := encoded.filter fun c => c ≠ 13 ∧ c ≠ 10

def decodeString (encoded : Bytes) : Except Nat Bytes :=
  let src := stripNewlines encoded
  (decodeBits src.length 0 [] src).map octets

/-! The alphabet. -/

theorem alphabet_bounds : ∀ c ∈ alphabet, 50 ≤ c ∧ c ≤ 90 := List.all_iff_forall_prop.mp (by decide)

theorem padChar_not_mem : padChar ∉ alphabet := by decide

theorem character_mem {n : Nat} (small : n < 32) : character n ∈ alphabet := by
  have every : ∀ n : Fin 32, character n.val ∈ alphabet := by decide
  exact every ⟨n, small⟩

theorem digitBits_character {n : Nat} (small : n < 32) :
    digitBits (character n) = some (fiveBits n) := by
  have every : ∀ n : Fin 32, digitBits (character n.val) = some (fiveBits n.val) := by decide
  exact every ⟨n, small⟩

theorem fiveBits_value {quintet : List Bool} (size : quintet.length = 5) :
    fiveBits (value quintet) = quintet := by
  match quintet, size with
  | [a, b, c, d, e], _ => revert a b c d e; decide

/-! Writing. -/

theorem quintets_length (bits : List Bool) : ∀ quintet ∈ quintets bits, quintet.length = 5 := by
  intro quintet member
  have sizes : (quintets bits).map List.length = List.replicate ((bits.length + 4) / 5) 5 := by
    refine List.map_splitLengths_length _ _ ?_
    simp only [List.sum_replicate_nat, List.length_append, List.length_replicate]
    omega
  have size := List.mem_map_of_mem (f := List.length) member
  rw [sizes] at size
  exact (List.mem_replicate.mp size).2

theorem quintets_flatten (bits : List Bool) :
    (quintets bits).flatten =
      bits ++ List.replicate (5 * ((bits.length + 4) / 5) - bits.length) false := by
  refine List.flatten_splitLengths _ _ ?_
  simp only [List.sum_replicate_nat, List.length_append, List.length_replicate]
  omega

theorem digits_length (data : Bytes) : (digits data).length = (8 * data.length + 4) / 5 := by
  rw [digits, List.length_map, quintets, List.length_splitLengths, List.length_replicate, ofOctets_length]

theorem quintet_value_lt {bits quintet : List Bool} (member : quintet ∈ quintets bits) :
    value quintet < 32 := by
  have small := value_lt quintet
  rw [quintets_length bits quintet member] at small
  exact small

theorem digits_mem (data : Bytes) : ∀ c ∈ digits data, c ∈ alphabet := by
  intro c member
  obtain ⟨quintet, listed, rfl⟩ := List.mem_map.mp member
  exact character_mem (quintet_value_lt listed)

theorem digits_mapM (data : Bytes) :
    (digits data).mapM digitBits = some (quintets (ofOctets data)) := by
  have each : ∀ groups : List (List Bool), (∀ quintet ∈ groups, quintet.length = 5) →
      (groups.map fun quintet => character (value quintet)).mapM digitBits = some groups := by
    intro groups sizes
    induction groups with
    | nil => rfl
    | cons quintet groups ih =>
        have size := sizes quintet List.mem_cons_self
        have small : value quintet < 32 := by
          have bound := value_lt quintet
          rw [size] at bound
          exact bound
        rw [List.map_cons, List.mapM_cons, digitBits_character small, fiveBits_value size,
          ih fun other member => sizes other (List.mem_cons_of_mem _ member)]
        rfl
  exact each _ (quintets_length _)

/-! Reading. -/

theorem decodeBits_padded (olen : Nat) {encoded : Bytes} {groups : List (List Bool)} {j : Nat}
    (quantum : List Bool) (read : encoded.mapM digitBits = some groups) (within : j < 8)
    (half : (j + encoded.length) % 8 = 4) :
    decodeBits olen j quantum (encoded ++ List.replicate 4 padChar) =
      .ok (quantum ++ groups.flatten) := by
  induction encoded generalizing j quantum groups with
  | nil =>
      have four : j = 4 := by
        rw [List.length_nil] at half
        omega
      subst four
      cases read
      change Except.ok quantum = Except.ok (quantum ++ [])
      rw [List.append_nil]
  | cons c encoded ih =>
      rw [List.mapM_cons] at read
      obtain ⟨five, first, others⟩ := Option.bind_eq_some_iff.mp read
      obtain ⟨later, rest, same⟩ := Option.bind_eq_some_iff.mp others
      cases same
      have notPad : c ≠ padChar := by
        rintro rfl
        have unread : digitBits padChar = none := by decide
        simp [unread] at first
      rw [List.cons_append, decodeBits, if_neg (fun padded => notPad padded.1), first]
      simp only [List.flatten_cons, ← List.append_assoc]
      rw [List.length_cons] at half
      by_cases last : j = 7
      · rw [if_pos last, ih [] rest (by omega) (by omega)]
        simp [Except.map]
      · rw [if_neg last, ih (quantum ++ five) rest (by omega) (by omega)]

theorem stripNewlines_digits {encoded : Bytes} (letters : ∀ c ∈ encoded, c ∈ alphabet)
    (fill : Nat) :
    stripNewlines (encoded ++ List.replicate fill padChar) = encoded ++ List.replicate fill padChar := by
  rw [stripNewlines, List.filter_eq_self]
  intro c member
  rcases List.mem_append.mp member with letter | pad
  · have bounds := alphabet_bounds c (letters c letter)
    simp only [decide_eq_true_eq]
    refine ⟨?_, ?_⟩
    · rintro rfl
      exact absurd bounds.1 (by decide)
    · rintro rfl
      exact absurd bounds.1 (by decide)
  · rw [(List.mem_replicate.mp pad).2]
    decide

theorem decodeString_digits {data : Bytes} (half : (digits data).length % 8 = 4) :
    decodeString (digits data ++ List.replicate 4 padChar) = .ok data := by
  rw [decodeString]
  simp only [stripNewlines_digits (digits_mem data)]
  rw [decodeBits_padded _ [] (digits_mapM data) (by omega) (by omega), List.nil_append, quintets_flatten]
  rw [digits_length] at half
  simp only [Except.map]
  rw [octets_ofOctets data _ (by simp only [List.length_replicate, ofOctets_length]; omega)]

end Base32
