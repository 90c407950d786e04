import SyncthingSocket.OpenPGP.Integer
import SyncthingSocket.OpenPGP.KeyFormat

/-!
The two encodings under every key and signature, for all inputs they can be given:
multiprecision integers and packet headers.
-/

namespace SyncthingSocket

open Framing OpenPGP

/-! Multiprecision integers. -/

theorem mpi_eq (b : Bytes) : mpi b = be16 (Nat.size (bigEndian b)) ++ b.dropWhile (· == 0) := by
  rw [← bigEndian_dropWhile, mpi]
  cases minimal : b.dropWhile (· == 0) with
  | nil => rfl
  | cons first rest =>
      have bits : rest.length * 8 + (8 - leadingZeros8 first) = Nat.size (bigEndian (first :: rest)) := by
        rw [← bitLength_eq_size (dropWhile_zero_head minimal), bitLength,
          leadingZeros8_octetBits, Nat.mul_comm]
      exact congrArg (fun count => be16 count ++ first :: rest) bits

theorem dropWhile_zero_minimal (b : Bytes) : (b.dropWhile (· == 0)).head? ≠ some 0 := by
  cases minimal : b.dropWhile (· == 0) with
  | nil => simp
  | cons first rest => simpa using dropWhile_zero_head minimal

theorem minimal_length (b : Bytes) :
    (b.dropWhile (· == 0)).length = (Nat.size (bigEndian b) + 7) / 8 := by
  rw [← bigEndian_dropWhile]
  cases minimal : b.dropWhile (· == 0) with
  | nil => rfl
  | cons first rest =>
      have nonzero := dropWhile_zero_head minimal
      have bounds := octetBits_bounds nonzero
      rw [← bitLength_eq_size nonzero, bitLength, List.length_cons]
      omega

theorem size_lt {b : Bytes} (short : b.length ≤ 8191) : Nat.size (bigEndian b) < 65536 := by
  have power : (256 : Nat) ^ b.length = 2 ^ (8 * b.length) := by rw [Nat.pow_mul]
  have below := bigEndian_lt b
  rw [power, ← Nat.size_le] at below
  omega

/-- An MPI is the number it encodes, whatever zeros the number was given with. -/
theorem mpi_minimal_encoding (b : Bytes) (short : b.length ≤ 8191) :
    (∃ bits octets, mpi b = be16 bits ++ octets ∧ octets = b.dropWhile (· == 0) ∧
      bits = Nat.size (bigEndian b) ∧ bits < 65536 ∧ octets.length = (bits + 7) / 8 ∧
      ∀ rest, readUint16 (mpi b ++ rest) = some (bits, octets ++ rest)) ∧
    (∀ rest, ∃ octets, readMPI (mpi b ++ rest) = some (octets, rest) ∧ bigEndian octets = bigEndian b) ∧
    ∀ c : Bytes, c.length ≤ 8191 → (mpi b = mpi c ↔ bigEndian b = bigEndian c) := by
  refine ⟨⟨_, _, mpi_eq b, rfl, rfl, size_lt short, minimal_length b, ?_⟩, ?_, ?_⟩
  · intro rest
    rw [mpi_eq, List.append_assoc, readUint16_be16 (size_lt short)]
  · intro rest
    exact ⟨_, readMPI_mpi short rest, bigEndian_dropWhile b⟩
  · intro c shortToo
    constructor
    · intro same
      have left := readMPI_mpi short []
      rw [same, readMPI_mpi shortToo, Option.some.injEq, Prod.mk.injEq] at left
      rw [← bigEndian_dropWhile b, ← left.1, bigEndian_dropWhile]
    · intro same
      have octets : b.dropWhile (· == 0) = c.dropWhile (· == 0) := by
        refine minimal_unique (dropWhile_zero_minimal b) (dropWhile_zero_minimal c) ?_
        rw [bigEndian_dropWhile, bigEndian_dropWhile, same]
      rw [mpi_eq, mpi_eq, same, octets]

theorem padded_one_encoded :
    mpi [0, 0, 1] = [0, 1, 1] ∧ (mpi [0, 0, 1] = mpi [1] ↔ bigEndian [0, 0, 1] = bigEndian [1]) :=
  ⟨by decide, (mpi_minimal_encoding [0, 0, 1] (by decide)).2.2 [1] (by decide)⟩

/-! Packet headers. -/

theorem properForm_iff (length : Nat) :
    (properForm length = .oneOctet ↔ length ≤ 191) ∧
    (properForm length = .twoOctet ↔ 192 ≤ length ∧ length ≤ 8383) ∧
    (properForm length = .fiveOctet ↔ 8384 ≤ length) := by
  rw [properForm]
  split_ifs <;> simp <;> omega

/-- Whatever follows a packet, it is read back with nothing more and nothing less. -/
theorem packet_read_back (tag : UInt8) (body : Bytes) (small : tag.toNat < 64)
    (fits : body.length < 4294967296) :
    (∀ following, readPacket (packet tag body ++ following) = some (⟨tag.toNat, body⟩, following)) ∧
    ∃ first octets, packet tag body = (0xC0 ||| tag) :: first :: octets ++ body ∧
      (lengthForm first = some .oneOctet ↔ body.length ≤ 191) ∧
      (lengthForm first = some .twoOctet ↔ 192 ≤ body.length ∧ body.length ≤ 8383) ∧
      (lengthForm first = some .fiveOctet ↔ 8384 ≤ body.length) ∧
      (∃ form, lengthForm first = some form ∧ (first :: octets).length = form.size) ∧
      ∀ following, readLength (first :: octets ++ following) = some (body.length, following) := by
  obtain ⟨first, octets, split, form, size, length⟩ := packet_header tag fits
  obtain ⟨one, two, five⟩ := properForm_iff body.length
  refine ⟨(packet_written small fits).2, first, octets, split, ?_, ?_, ?_, ⟨_, form, size⟩, length⟩
  · rw [form, Option.some.injEq, one]
  · rw [form, Option.some.injEq, two]
  · rw [form, Option.some.injEq, five]

theorem five_octet_packet_read_back :
    readPacket (packet 2 (List.replicate 8384 0) ++ [7]) = some (⟨2, List.replicate 8384 0⟩, [7]) :=
  (packet_read_back 2 (List.replicate 8384 0) (by decide) (by rw [List.length_replicate]; decide)).1 [7]

end SyncthingSocket
