import SyncthingSocket.Effect.Framing

/-!
The message format of OpenPGP (RFC 4880) as a reader sees it: packets in both header
formats, multiprecision integers, version 4 keys and signatures of EdDSA, subpackets,
and the data that a certification signature is computed over.
-/

namespace OpenPGP

open Framing

/-! Octets and big-endian numbers. -/

def be16 (n : Nat) : Bytes := [UInt8.ofNat (n / 256), UInt8.ofNat n]

def readOctet : Bytes → Option (UInt8 × Bytes)
  | [] => none
  | octet :: rest => some (octet, rest)

def readOctets (count : Nat) (input : Bytes) : Option (Bytes × Bytes) :=
  if count ≤ input.length then some (input.take count, input.drop count) else none

def readUint16 : Bytes → Option (Nat × Bytes)
  | high :: low :: rest => some (high.toNat * 256 + low.toNat, rest)
  | _ => none

def readUint32 : Bytes → Option (Nat × Bytes)
  | a :: b :: c :: d :: rest => some (uint32 [a, b, c, d], rest)
  | _ => none

@[simp] theorem be16_length (n : Nat) : (be16 n).length = 2 := rfl

theorem readOctet_cons (octet : UInt8) (rest : Bytes) :
    readOctet (octet :: rest) = some (octet, rest) := rfl

theorem readOctets_append {count : Nat} {octets : Bytes} (length : octets.length = count)
    (rest : Bytes) :
    readOctets count (octets ++ rest) = some (octets, rest) := by
  rw [readOctets, if_pos (by simp [← length]), List.take_left' length, List.drop_left' length]

theorem readUint16_be16 {n : Nat} (small : n < 65536) (rest : Bytes) :
    readUint16 (be16 n ++ rest) = some (n, rest) := by
  simp only [be16, List.cons_append, List.nil_append, readUint16, UInt8.toNat_ofNat', Option.some.injEq,
    Prod.mk.injEq, and_true]
  omega

theorem readUint32_putUint32 {n : Nat} (small : n < 4294967296) (rest : Bytes) :
    readUint32 (putUint32 n ++ rest) = some (n, rest) := by
  have value := uint32_putUint32 n []
  rw [List.append_nil, Nat.mod_eq_of_lt small] at value
  exact congrArg (fun n => some (n, rest)) value

/-! Sequences that take up all of the input. -/

section

variable {α : Type} (read : Bytes → Option (α × Bytes))

def readAll : Nat → Bytes → Option (List α)
  | _, [] => some []
  | 0, _ :: _ => none
  | fuel + 1, octet :: input => do
      let (value, rest) ← read (octet :: input)
      let values ← readAll fuel rest
      return value :: values

def parseAll (input : Bytes) : Option (List α) := readAll read input.length input

def Written (encoded : Bytes) (value : α) : Prop :=
  encoded ≠ [] ∧ ∀ rest, read (encoded ++ rest) = some (value, rest)

variable {read}

theorem readAll_written {encoded : List Bytes} {values : List α}
    (written : List.Forall₂ (Written read) encoded values) (fuel : Nat)
    (enough : encoded.length ≤ fuel) :
    readAll read fuel encoded.flatten = some values := by
  induction written generalizing fuel with
  | nil => cases fuel <;> rfl
  | @cons first value rest values one _ ih =>
      cases fuel with
      | zero => simp at enough
      | succ fuel =>
          rw [List.length_cons] at enough
          obtain ⟨octet, tail, split⟩ := List.exists_cons_of_ne_nil one.1
          have reads := one.2 rest.flatten
          rw [split] at reads
          rw [List.flatten_cons, split, List.cons_append, readAll, ← List.cons_append, reads]
          simp [ih fuel (by omega)]

theorem parseAll_written {encoded : List Bytes} {values : List α}
    (written : List.Forall₂ (Written read) encoded values) :
    parseAll read encoded.flatten = some values := by
  refine readAll_written written _ ?_
  induction written with
  | nil => simp
  | @cons first value rest values one _ ih =>
      have some := List.length_pos_of_ne_nil one.1
      simp only [List.length_cons, List.flatten_cons, List.length_append]
      omega

end

/-! Packets. -/

structure Packet where
  tag : Nat
  body : Bytes
  deriving DecidableEq, Repr

def readLength : Bytes → Option (Nat × Bytes)
  | [] => none
  | octet :: rest =>
      if octet.toNat < 192 then some (octet.toNat, rest)
      else if octet.toNat < 224 then do
        let (low, rest) ← readOctet rest
        return ((octet.toNat - 192) * 256 + low.toNat + 192, rest)
      else if octet.toNat = 255 then readUint32 rest
      else none

inductive LengthForm
  | oneOctet
  | twoOctet
  | fiveOctet
  deriving DecidableEq, Repr

def LengthForm.size : LengthForm → Nat
  | oneOctet => 1
  | twoOctet => 2
  | fiveOctet => 5

def lengthForm (octet : UInt8) : Option LengthForm :=
  if octet.toNat < 192 then some .oneOctet
  else if octet.toNat < 224 then some .twoOctet
  else if octet.toNat = 255 then some .fiveOctet
  else none

def properForm (length : Nat) : LengthForm :=
  if length ≤ 191 then .oneOctet else if length ≤ 8383 then .twoOctet else .fiveOctet

def readOldLength (lengthType : Nat) (input : Bytes) : Option (Nat × Bytes) :=
  match lengthType with
  | 0 => (readOctet input).map fun (octet, rest) => (octet.toNat, rest)
  | 1 => readUint16 input
  | 2 => readUint32 input
  | _ => some (input.length, input)

def readPacket (input : Bytes) : Option (Packet × Bytes) := do
  let (header, rest) ← readOctet input
  if header.toNat < 128 then none
  else if header.toNat < 192 then
    let (length, rest) ← readOldLength (header.toNat % 4) rest
    let (body, rest) ← readOctets length rest
    return (⟨(header.toNat - 128) / 4, body⟩, rest)
  else
    let (length, rest) ← readLength rest
    let (body, rest) ← readOctets length rest
    return (⟨header.toNat - 192, body⟩, rest)

def parsePackets : Bytes → Option (List Packet) := parseAll readPacket

/-! Multiprecision integers. -/

def octetBits (octet : UInt8) : Nat := if octet = 0 then 0 else Nat.log2 octet.toNat + 1

def bitLength : Bytes → Nat
  | [] => 0
  | first :: rest => 8 * rest.length + octetBits first

def readMPI (input : Bytes) : Option (Bytes × Bytes) := do
  let (bits, rest) ← readUint16 input
  let (octets, rest) ← readOctets ((bits + 7) / 8) rest
  if bitLength octets = bits then return (octets, rest) else none

def padLeft (size : Nat) (octets : Bytes) : Bytes :=
  List.replicate (size - octets.length) 0 ++ octets

theorem octetBits_bounds {octet : UInt8} (nonzero : octet ≠ 0) :
    0 < octetBits octet ∧ octetBits octet ≤ 8 := by
  rw [octetBits, if_neg nonzero]
  have positive : octet.toNat ≠ 0 := by
    intro zero
    exact nonzero (UInt8.toNat_inj.mp zero)
  have small := (Nat.log2_lt positive).mpr (show octet.toNat < 2 ^ 8 from octet.toNat_lt)
  omega

theorem readMPI_minimal {first : UInt8} {octets : Bytes} (nonzero : first ≠ 0)
    (short : octets.length < 8191) (rest : Bytes) :
    readMPI (be16 (bitLength (first :: octets)) ++ (first :: octets) ++ rest) =
      some (first :: octets, rest) := by
  have bounds := octetBits_bounds nonzero
  have count : (bitLength (first :: octets) + 7) / 8 = (first :: octets).length := by
    rw [bitLength, List.length_cons]
    omega
  have small : bitLength (first :: octets) < 65536 := by
    rw [bitLength]
    omega
  rw [readMPI, List.append_assoc, readUint16_be16 small]
  simp only [Option.bind_eq_bind, Option.bind_some]
  rw [count, readOctets_append rfl]
  simp

theorem readMPI_zero (rest : Bytes) : readMPI (0 :: 0 :: rest) = some ([], rest) := by
  simp [readMPI, readUint16, readOctets, bitLength]

/-! Version 4 keys of EdDSA. -/

def eddsa : UInt8 := 22

structure PublicKey where
  created : Nat
  oid : Bytes
  point : Bytes
  deriving DecidableEq, Repr

def readPublicKey (input : Bytes) : Option (PublicKey × Bytes) := do
  let (version, rest) ← readOctet input
  let (created, rest) ← readUint32 rest
  let (algorithm, rest) ← readOctet rest
  let (size, rest) ← readOctet rest
  let (oid, rest) ← readOctets size.toNat rest
  let (point, rest) ← readMPI rest
  -- Sizes 0 and 255 of the curve's name are reserved.
  if version = 4 ∧ algorithm = eddsa ∧ size ≠ 0 ∧
    size ≠ 255 then return (⟨created, oid, point⟩, rest) else none

/-- `encoded` is what the secret number was read from. -/
structure SecretKey where
  key : PublicKey
  publicPart : Bytes
  secret : Bytes
  encoded : Bytes
  checksum : Nat
  deriving DecidableEq, Repr

def consumed (input rest : Bytes) : Bytes := input.take (input.length - rest.length)

def readSecretKey (input : Bytes) : Option SecretKey := do
  let (key, rest) ← readPublicKey input
  let (usage, numbers) ← readOctet rest
  let (secret, after) ← readMPI numbers
  let (checksum, left) ← readUint16 after
  if usage = 0 ∧ left = [] then
    return ⟨key, consumed input rest, secret, consumed numbers after, checksum⟩
  else none

def octetSum : Bytes → Nat
  | [] => 0
  | octet :: rest => octet.toNat + octetSum rest

/-! Version 4 signatures of EdDSA. -/

structure Signature where
  kind : UInt8
  hashAlgorithm : UInt8
  hashed : Bytes
  unhashed : Bytes
  leftBits : Bytes
  r : Bytes
  s : Bytes
  deriving DecidableEq, Repr

def readSignature (input : Bytes) : Option Signature := do
  let (version, rest) ← readOctet input
  let (kind, rest) ← readOctet rest
  let (algorithm, rest) ← readOctet rest
  let (hashAlgorithm, rest) ← readOctet rest
  let (size, rest) ← readUint16 rest
  let (hashed, rest) ← readOctets size rest
  let (size, rest) ← readUint16 rest
  let (unhashed, rest) ← readOctets size rest
  let (leftBits, rest) ← readOctets 2 rest
  let (r, rest) ← readMPI rest
  let (s, rest) ← readMPI rest
  if version = 4 ∧ algorithm = eddsa ∧
    rest = [] then return ⟨kind, hashAlgorithm, hashed, unhashed, leftBits, r, s⟩
  else none

def Signature.prologue (signature : Signature) : Bytes :=
  [4, signature.kind, eddsa, signature.hashAlgorithm] ++ be16 signature.hashed.length ++ signature.hashed

/-- What a certification of a user ID is computed over: the key, the user ID, the
signature up to its hashed subpackets, and a trailer with the length of that part. -/
def certificationInput (keyBody userID : Bytes) (signature : Signature) : Bytes :=
  0x99 :: be16 keyBody.length ++ keyBody ++ (0xB4 :: putUint32 userID.length ++ userID) ++
    signature.prologue ++
    (4 :: 0xFF :: putUint32 signature.prologue.length)

/-! Subpackets. -/

structure Subpacket where
  kind : UInt8
  data : Bytes
  deriving DecidableEq, Repr

def readSubpacketLength : Bytes → Option (Nat × Bytes)
  | [] => none
  | octet :: rest =>
      if octet.toNat < 192 then some (octet.toNat, rest)
      else if octet.toNat < 255 then do
        let (low, rest) ← readOctet rest
        return ((octet.toNat - 192) * 256 + low.toNat + 192, rest)
      else readUint32 rest

def readSubpacket (input : Bytes) : Option (Subpacket × Bytes) := do
  let (length, rest) ← readSubpacketLength input
  let (body, rest) ← readOctets length rest
  let (kind, data) ← readOctet body
  return (⟨kind, data⟩, rest)

def parseSubpackets : Bytes → Option (List Subpacket) := parseAll readSubpacket

end OpenPGP
