import SyncthingSocket.Bits.Octets
import SyncthingSocket.Bits.ShiftRegister

/-!
`crc24` of `openpgp_key.go`: the loop keeps a register of 24 bits in a `uint32`.
-/

namespace SyncthingSocket

open Framing ShiftRegister

def crcBit (crc : UInt32) : UInt32 :=
  let crc := crc <<< 1
  if crc &&& 0x1000000 ≠ 0 then crc ^^^ 0x1864CFB else crc

/-- The inner loop, `i` times. -/
def crcBits : Nat → UInt32 → UInt32
  | 0, crc => crc
  | i + 1, crc => crcBits i (crcBit crc)

/-- The body of the outer loop, up to the first `i` bits of the byte. -/
def crcByte (i : Nat) (crc : UInt32) (b : UInt8) : UInt32 := crcBits i (crc ^^^ (b.toUInt32 <<< 16))

def crcStart : UInt32 := 0xB704CE

def crcLoop (data : Bytes) : UInt32 := data.foldl (crcByte 8) crcStart

def crc24 (data : Bytes) : UInt32 := crcLoop data &&& 0xFFFFFF

example : crc24 [] = 0xB704CE := by decide

/-! The register. -/

def crcPoly : BitVec 24 := 0x864CFB#24

def wide (register : BitVec 24) : UInt32 := ⟨register.setWidth 32⟩

theorem wide_toNat (register : BitVec 24) : (wide register).toNat = register.toNat := by
  rw [wide, UInt32.toNat]
  simp only [BitVec.toNat_setWidth]
  omega

theorem wide_lt (register : BitVec 24) : wide register < 0x1000000 := by
  rw [UInt32.lt_iff_toNat_lt, wide_toNat]
  exact register.isLt

theorem wide_injective {left right : BitVec 24} (same : wide left = wide right) : left = right := by
  refine BitVec.eq_of_toNat_eq ?_
  rw [← wide_toNat, same, wide_toNat]

theorem wide_xor (left right : BitVec 24) : wide (left ^^^ right) = wide left ^^^ wide right := by
  refine UInt32.toBitVec_inj.mp ?_
  rw [UInt32.toBitVec_xor, wide, wide, wide, BitVec.setWidth_xor]

theorem wide_shiftLeft (register : BitVec 24) :
    register.setWidth 32 <<< 1 =
      (register <<< 1).setWidth 32 ^^^ (if register.msb then BitVec.twoPow 32 24 else 0#32) := by
  -- The bit that falls out of the register stays in the word.
  refine BitVec.eq_of_getLsbD_eq fun i bound => ?_
  have carried : (if register.msb then BitVec.twoPow 32 24 else 0#32).getLsbD i =
      (decide (i = 24) && register.getLsbD 23) := by
    rw [BitVec.msb_eq_getLsbD_last]
    cases register.getLsbD (24 - 1)
    · simp
    · simp [bound]
  simp only [BitVec.getLsbD_xor, carried, BitVec.getLsbD_shiftLeft, BitVec.getLsbD_setWidth,
    bound, decide_true, Bool.true_and, show i - 1 < 32 by omega]
  rcases Nat.lt_trichotomy i 24 with low | rfl | high
  · simp [low, show i ≠ 24 by omega]
  · simp
  · have out : register.getLsbD (i - 1) = false := BitVec.getLsbD_of_ge _ _ (by omega)
    simp [out, show ¬ i < 24 by omega, show i ≠ 24 by omega]

theorem carried_iff (register : BitVec 24) :
    register.setWidth 32 <<< 1 &&& 0x1000000#32 = if register.msb then 0x1000000#32 else 0#32 := by
  refine BitVec.eq_of_getLsbD_eq fun i bound => ?_
  have mask : (0x1000000#32).getLsbD i = decide (i = 24) := by
    have power : 0x1000000#32 = BitVec.twoPow 32 24 := by decide
    rw [power, BitVec.getLsbD_twoPow]
    simp [eq_comm]
  rw [BitVec.msb_eq_getLsbD_last]
  simp only [BitVec.getLsbD_and, BitVec.getLsbD_shiftLeft, BitVec.getLsbD_setWidth, mask]
  by_cases there : i = 24
  · subst there
    cases register.getLsbD 23 <;> simp
  · cases register.getLsbD (24 - 1) <;> simp [there, mask]

theorem crcBit_wide (register : BitVec 24) :
    crcBit (wide register) = wide (shift crcPoly register) := by
  have shifted : (wide register <<< 1).toBitVec = register.setWidth 32 <<< 1 := by
    rw [UInt32.toBitVec_shiftLeft]
    rfl
  have masked : (wide register <<< 1 &&& 0x1000000).toBitVec =
      if register.msb then 0x1000000#32 else 0#32 := by
    rw [UInt32.toBitVec_and, shifted]
    exact carried_iff register
  have moved := wide_shiftLeft register
  refine UInt32.toBitVec_inj.mp ?_
  simp only [crcBit, shift]
  cases set : register.msb with
  | false =>
      rw [set] at masked moved
      have clear : wide register <<< 1 &&& 0x1000000 = 0 := UInt32.toBitVec_inj.mp masked
      rw [if_neg (not_not.mpr clear), shifted, moved]
      simp [wide]
  | true =>
      rw [set] at masked moved
      have carried : wide register <<< 1 &&& 0x1000000 ≠ 0 := by
        intro clear
        rw [clear] at masked
        exact absurd masked (by decide)
      have constant :
          (0x1864CFB : UInt32).toBitVec = BitVec.twoPow 32 24 ^^^ crcPoly.setWidth 32 := by decide
      rw [if_pos carried, UInt32.toBitVec_xor, shifted, moved, constant, if_pos rfl, if_pos rfl,
        BitVec.xor_assoc, ← BitVec.xor_assoc (BitVec.twoPow 32 24), BitVec.xor_self,
        BitVec.zero_xor, ← BitVec.setWidth_xor]
      rfl

theorem crcBits_wide (i : Nat) (register : BitVec 24) :
    crcBits i (wide register) = wide ((shift crcPoly)^[i] register) := by
  induction i generalizing register with
  | zero => rfl
  | succ i ih => rw [crcBits, crcBit_wide, ih, Function.iterate_succ_apply]

theorem wide_word_octet (b : UInt8) : b.toUInt32 <<< 16 = wide (word (Bits.ofOctet b)) := by
  -- A byte stands above the register's lower sixteen bits.
  have every : ∀ n : Fin 256, (UInt8.ofNat n.val).toUInt32 <<< 16 =
      wide (word (Bits.ofOctet (UInt8.ofNat n.val))) := by
    decide +kernel
  have this := every ⟨b.toNat, b.toNat_lt⟩
  rwa [UInt8.ofNat_toNat] at this

theorem crcByte_register (i : Nat) (register : BitVec 24) (b : UInt8) :
    crcByte i (wide register) b = wide ((shift crcPoly)^[i] (register ^^^ word (Bits.ofOctet b))) := by
  rw [crcByte, wide_word_octet, ← wide_xor, crcBits_wide]

theorem crcByte_wide (register : BitVec 24) (b : UInt8) :
    crcByte 8 (wide register) b = wide (feed crcPoly register (Bits.ofOctet b)) := by
  rw [crcByte_register, feed_word crcPoly (by simp), Bits.ofOctet_length]

theorem crcLoop_wide (data : Bytes) :
    crcLoop data = wide (feed crcPoly 0xB704CE#24 (Bits.ofOctets data)) := by
  have general : ∀ (octets : Bytes) (register : BitVec 24),
      octets.foldl (crcByte 8) (wide register) = wide (feed crcPoly register (Bits.ofOctets octets)) := by
    intro octets
    induction octets with
    | nil => exact fun _ => rfl
    | cons b octets ih =>
        intro register
        rw [List.foldl_cons, crcByte_wide, ih, Bits.ofOctets_cons, feed_append]
  exact general data 0xB704CE#24

theorem crc24_eq (data : Bytes) : crc24 data = crcLoop data := by
  refine UInt32.toNat_inj.mp ?_
  have small := (feed crcPoly 0xB704CE#24 (Bits.ofOctets data)).isLt
  rw [crc24, crcLoop_wide, UInt32.toNat_and, wide_toNat,
    show (0xFFFFFF : UInt32).toNat = 2 ^ 24 - 1 from rfl, Nat.and_two_pow_sub_one_eq_mod,
    Nat.mod_eq_of_lt small]

/-! The same loop with numbers of any size, and without a mask. -/

def exactBit (crc : Nat) : Nat :=
  let crc := 2 * crc
  if crc &&& 0x1000000 ≠ 0 then crc ^^^ 0x1864CFB else crc

def exactCrc (data : Bytes) : Nat :=
  data.foldl (fun crc b => exactBit^[8] (crc ^^^ 65536 * b.toNat)) 0xB704CE

theorem exactBit_toNat (register : BitVec 24) :
    (crcBit (wide register)).toNat = exactBit (wide register).toNat := by
  have small := register.isLt
  have doubled : (wide register <<< 1).toNat = 2 * (wide register).toNat := by
    rw [UInt32.toNat_shiftLeft, wide_toNat, show (1 : UInt32).toNat % 32 = 1 from rfl, Nat.shiftLeft_eq]
    omega
  have masked : wide register <<< 1 &&& 0x1000000 ≠ 0 ↔ 2 * (wide register).toNat &&& 0x1000000 ≠ 0 := by
    rw [ne_eq, ← UInt32.toNat_inj, UInt32.toNat_and, doubled]
    rfl
  simp only [crcBit, exactBit]
  by_cases set : wide register <<< 1 &&& 0x1000000 ≠ 0
  · rw [if_pos set, if_pos (masked.mp set), UInt32.toNat_xor, doubled]
    rfl
  · rw [if_neg set, if_neg (fun other => set (masked.mpr other)), doubled]

theorem exactBits_toNat (i : Nat) (register : BitVec 24) :
    (crcBits i (wide register)).toNat = exactBit^[i] (wide register).toNat := by
  induction i generalizing register with
  | zero => rfl
  | succ i ih => rw [crcBits, crcBit_wide, ih, ← crcBit_wide, exactBit_toNat, Function.iterate_succ_apply]

theorem crcLoop_exact (data : Bytes) : (crcLoop data).toNat = exactCrc data := by
  have general : ∀ (octets : Bytes) (register : BitVec 24),
      (octets.foldl (crcByte 8) (wide register)).toNat =
        octets.foldl (fun crc b => exactBit^[8] (crc ^^^ 65536 * b.toNat)) (wide register).toNat := by
    intro octets
    induction octets with
    | nil => exact fun _ => rfl
    | cons b octets ih =>
        intro register
        have octet : (b.toUInt32 <<< 16).toNat = 65536 * b.toNat := by
          have small := b.toNat_lt
          rw [UInt32.toNat_shiftLeft, UInt8.toNat_toUInt32, show (16 : UInt32).toNat % 32 = 16 from rfl,
            Nat.shiftLeft_eq]
          omega
        have byte : (crcByte 8 (wide register) b).toNat =
            exactBit^[8] ((wide register).toNat ^^^ 65536 * b.toNat) := by
          rw [← octet, ← UInt32.toNat_xor, crcByte, wide_word_octet, ← wide_xor, exactBits_toNat]
        rw [List.foldl_cons, List.foldl_cons, ← byte, crcByte_wide, ih]
  exact general data 0xB704CE#24

/-! What the checksum tells apart. -/

def syndrome (difference : Bytes) : UInt32 := wide (feed crcPoly 0#24 (Bits.ofOctets difference))

theorem crc24_xor {a b : Bytes} (same : a.length = b.length) :
    crc24 a ^^^ crc24 b = syndrome (Bits.xorOctets a b) := by
  rw [crc24_eq, crc24_eq, crcLoop_wide, crcLoop_wide, ← wide_xor, syndrome, Bits.ofOctets_xor same,
    ← feed_xor crcPoly _ _ (by simp [same]), BitVec.xor_self]

theorem crc24_ne {a b : Bytes} (same : a.length = b.length)
    (differ : true ∈ Bits.ofOctets (Bits.xorOctets a b)) (start : Nat)
    (confined : ∀ i, (Bits.ofOctets (Bits.xorOctets a b))[i]? = some true → start ≤ i ∧ i < start + 24) :
    crc24 a ≠ crc24 b := by
  intro equal
  have left := crc24_xor same
  rw [equal, UInt32.xor_self, syndrome] at left
  exact feed_confined (by decide) differ start confined (wide_injective left.symm)

theorem crc24_detects_bursts :
    (∀ a b : Bytes, a.length = b.length → true ∈ Bits.ofOctets (Bits.xorOctets a b) →
      ∀ start, (∀ i, (Bits.ofOctets (Bits.xorOctets a b))[i]? = some true → start ≤ i ∧ i < start + 24) →
      crc24 a ≠ crc24 b) ∧
    (∀ (before : Bytes) (b : UInt8) (i : Nat), i ≤ 8 → crcByte i (crcLoop before) b < 0x1000000) ∧
    (∀ data, crc24 data = crcLoop data ∧ (crc24 data).toNat = exactCrc data) ∧
    ∃ syndrome : Bytes → UInt32, ∀ a b : Bytes, a.length = b.length →
      crc24 a ^^^ crc24 b = syndrome (Bits.xorOctets a b) := by
  refine ⟨fun a b same differ start confined => crc24_ne same differ start confined, ?_, ?_, syndrome, ?_⟩
  · intro before b i _
    rw [crcLoop_wide, crcByte_register]
    exact wide_lt _
  · intro data
    rw [crc24_eq]
    exact ⟨rfl, crcLoop_exact data⟩
  · intro a b same
    exact crc24_xor same

theorem border_burst_detected : crc24 [0x12, 0x34] ≠ crc24 [0x15, 0xC4] := by
  refine crc24_detects_bursts.1 [0x12, 0x34] [0x15, 0xC4] rfl (by decide) 5 fun i set => ?_
  have each : ∀ i :
      Fin 16, (Bits.ofOctets (Bits.xorOctets [0x12, 0x34] [0x15, 0xC4]))[i.val]? = some true →
      5 ≤ i.val ∧ i.val < 5 + 24 := by decide
  exact each ⟨i, (List.getElem?_eq_some_iff.mp set).1⟩ set

end SyncthingSocket
