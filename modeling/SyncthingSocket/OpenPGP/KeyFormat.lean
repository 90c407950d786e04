import SyncthingSocket.OpenPGP.Key

/-!
The derived key read back by the rules of RFC 4880: its packets, its numbers and the
data under its self-signature.
-/

namespace SyncthingSocket

open Framing OpenPGP

/-! Numbers. -/

theorem leadingZeros8_octetBits (x : UInt8) : 8 - leadingZeros8 x = octetBits x := by
  have every : ∀ n : Fin 256, 8 - leadingZeros8 (UInt8.ofNat n.val) = octetBits (UInt8.ofNat n.val) := by
    decide +kernel
  have this := every ⟨x.toNat, x.toNat_lt⟩
  rwa [UInt8.ofNat_toNat] at this

theorem dropWhile_zero_head {b : Bytes} {first : UInt8} {rest : Bytes}
    (minimal : b.dropWhile (· == 0) = first :: rest) : first ≠ 0 := by
  have head := List.head?_dropWhile_not (· == 0) b
  rw [minimal] at head
  simpa using head

theorem readMPI_mpi {b : Bytes} (short : b.length ≤ 8191) (rest : Bytes) :
    readMPI (mpi b ++ rest) = some (b.dropWhile (· == 0), rest) := by
  have shorter := (List.dropWhile_sublist (· == 0) (l := b)).length_le
  rw [mpi]
  cases minimal : b.dropWhile (· == 0) with
  | nil => exact readMPI_zero rest
  | cons first octets =>
      rw [minimal, List.length_cons] at shorter
      have nonzero := dropWhile_zero_head minimal
      have read := readMPI_minimal nonzero (show octets.length < 8191 by omega) rest
      rw [bitLength, Nat.mul_comm, ← leadingZeros8_octetBits] at read
      exact read

theorem mpi_length_le (b : Bytes) : (mpi b).length ≤ b.length + 2 := by
  have shorter := (List.dropWhile_sublist (· == 0) (l := b)).length_le
  rw [mpi]
  cases minimal : b.dropWhile (· == 0) with
  | nil => simp
  | cons first octets =>
      rw [minimal] at shorter
      simp only [List.length_append, be16_length]
      omega

theorem padLeft_dropWhile (b : Bytes) : padLeft b.length (b.dropWhile (· == 0)) = b := by
  -- The leading zeros that an MPI leaves out come back with the size.
  induction b with
  | nil => rfl
  | cons octet b ih =>
      by_cases zero : octet = 0
      · subst zero
        have shorter := (List.dropWhile_sublist (· == 0) (l := b)).length_le
        rw [padLeft] at ih ⊢
        rw [List.dropWhile_cons_of_pos (by simp), List.length_cons, Nat.succ_sub shorter,
          List.replicate_succ, List.cons_append, ih]
      · rw [List.dropWhile_cons_of_neg (by simpa using zero), padLeft]
        simp

example : mpi (List.replicate 31 0 ++ [5]) = [0, 3, 5] := by decide

theorem checksum_toNat (secret : Bytes) : (checksum secret).toNat = octetSum secret % 65536 := by
  have general : ∀ (octets : Bytes) (sum : UInt16),
      (octets.foldl (fun sum c => sum + c.toUInt16) sum).toNat =
        (sum.toNat + octetSum octets) % 65536 := by
    intro octets
    induction octets with
    | nil =>
        intro sum
        exact (Nat.mod_eq_of_lt sum.toNat_lt).symm
    | cons octet octets ih =>
        intro sum
        rw [List.foldl_cons, ih, octetSum, UInt16.toNat_add, UInt8.toNat_toUInt16]
        omega
  rw [checksum, general]
  simp

/-! Packets and subpackets. -/

theorem header_toNat {tag : UInt8} (small : tag.toNat < 64) :
    (0xC0 ||| tag).toNat = 192 + tag.toNat := by
  have every : ∀ n : Fin 64, (0xC0 ||| UInt8.ofNat n.val).toNat =
      192 + (UInt8.ofNat n.val).toNat := by decide +kernel
  have this := every ⟨tag.toNat, small⟩
  rwa [UInt8.ofNat_toNat] at this

theorem packet_header (tag : UInt8) {body : Bytes} (fits : body.length < 4294967296) :
    ∃ first octets, packet tag body = (0xC0 ||| tag) :: first :: octets ++ body ∧
      lengthForm first = some (properForm body.length) ∧
      (first :: octets).length = (properForm body.length).size ∧
      ∀ following, readLength (first :: octets ++ following) = some (body.length, following) := by
  rw [packet]
  by_cases one : body.length < 192
  · have value : (UInt8.ofNat body.length).toNat = body.length := by
      rw [UInt8.toNat_ofNat']
      omega
    have proper : properForm body.length = .oneOctet := if_pos (by omega)
    refine ⟨UInt8.ofNat body.length, [], by rw [if_pos one]; rfl, ?_, by rw [proper]; rfl, ?_⟩
    · rw [lengthForm, value, if_pos one, proper]
    · intro following
      rw [List.cons_append, readLength, value, if_pos one, List.nil_append]
  by_cases two : body.length < 8384
  · have high : (UInt8.ofNat ((body.length - 192) / 256 + 192)).toNat =
        (body.length - 192) / 256 + 192 := by
      rw [UInt8.toNat_ofNat']
      omega
    have low : (UInt8.ofNat ((body.length - 192) % 256)).toNat = (body.length - 192) % 256 := by
      rw [UInt8.toNat_ofNat']
      omega
    have proper : properForm body.length = .twoOctet := by
      rw [properForm, if_neg (by omega), if_pos (by omega)]
    refine ⟨UInt8.ofNat ((body.length - 192) / 256 + 192), [UInt8.ofNat ((body.length - 192) % 256)],
      by rw [if_neg one, if_pos two]; rfl, ?_, by rw [proper]; rfl, ?_⟩
    · rw [lengthForm, high, if_neg (by omega), if_pos (by omega), proper]
    · intro following
      rw [List.cons_append, readLength, high, if_neg (by omega), if_pos (by omega)]
      simp only [List.cons_append, List.nil_append, readOctet_cons, Option.bind_eq_bind,
        Option.bind_some, low, Option.pure_def, Option.some.injEq, Prod.mk.injEq, and_true]
      omega
  · have proper : properForm body.length = .fiveOctet := by
      rw [properForm, if_neg (by omega), if_neg (by omega)]
    refine ⟨0xFF, putUint32 body.length, by rw [if_neg one, if_neg two], by rw [proper]; rfl, ?_, ?_⟩
    · rw [proper, List.length_cons, putUint32_length]
      rfl
    · intro following
      rw [List.cons_append, readLength, if_neg (by decide), if_neg (by decide), if_pos (by decide),
        readUint32_putUint32 fits]

theorem packet_written {tag : UInt8} {body : Bytes} (small : tag.toNat < 64)
    (fits : body.length < 4294967296) :
    Written readPacket (packet tag body) ⟨tag.toNat, body⟩ := by
  obtain ⟨first, octets, split, _, _, length⟩ := packet_header tag fits
  have header := header_toNat small
  have tagged : (0xC0 ||| tag).toNat - 192 = tag.toNat := by omega
  refine ⟨by rw [split]; simp, fun rest => ?_⟩
  rw [split, List.append_assoc, List.cons_append, readPacket, readOctet_cons]
  simp only [Option.bind_eq_bind, Option.bind_some]
  rw [if_neg (by omega), if_neg (by omega), length, Option.bind_some, readOctets_append rfl]
  simp only [Option.bind_some, Option.pure_def, tagged]

theorem subpacket_written {typ : UInt8} {data : Bytes} (short : data.length < 191) :
    Written readSubpacket (subpacket typ data) ⟨typ, data⟩ := by
  have value : (UInt8.ofNat (typ :: data).length).toNat = (typ :: data).length := by
    rw [UInt8.toNat_ofNat', List.length_cons]
    omega
  refine ⟨by simp [subpacket], fun rest => ?_⟩
  rw [subpacket, List.cons_append, readSubpacket, readSubpacketLength, value,
    if_pos (by rw [List.length_cons]; omega)]
  simp only [Option.bind_eq_bind, Option.bind_some]
  rw [readOctets_append rfl]
  rfl

/-! The key. -/

theorem mpi_point (pub : Bytes) : (0x40 :: pub).dropWhile (· == 0) = 0x40 :: pub :=
  List.dropWhile_cons_of_neg (by decide)

theorem readPublicKey_body {pub : Bytes} (size : pub.length = 32) (rest : Bytes) :
    readPublicKey (publicKeyBody pub ++ rest) =
      some (⟨pgpKeyCreationTime, ed25519OID, 0x40 :: pub⟩, rest) := by
  have created := readUint32_putUint32 (show pgpKeyCreationTime < 4294967296 by decide)
  have named :=
    readOctets_append (show ed25519OID.length = (UInt8.ofNat ed25519OID.length).toNat from rfl)
  have point : ∀ rest, readMPI (mpi (0x40 :: pub) ++ rest) = some (0x40 :: pub, rest) := by
    intro rest
    rw [readMPI_mpi (by rw [List.length_cons]; omega), mpi_point]
  simp only [publicKeyBody, List.cons_append, List.append_assoc, readPublicKey, readOctet_cons,
    Option.bind_eq_bind, Option.bind_some, created, named, point, Option.pure_def]
  exact if_pos (by decide)

theorem publicKeyBody_length {pub : Bytes} (size : pub.length = 32) :
    (publicKeyBody pub).length ≤ 51 := by
  have point := mpi_length_le (0x40 :: pub)
  rw [List.length_cons, size] at point
  simp only [publicKeyBody, List.length_append, List.length_cons, putUint32_length]
  have name : ed25519OID.length = 9 := rfl
  omega

theorem consumed_append (octets rest : Bytes) : consumed (octets ++ rest) rest = octets := by
  rw [consumed, List.length_append, Nat.add_sub_cancel, List.take_left']
  rfl

theorem readSecretKey_body (priv : PrivateKey) :
    readSecretKey (secretKeyBody priv) = some ⟨⟨pgpKeyCreationTime, ed25519OID, 0x40 :: priv.pub⟩,
      publicKeyBody priv.pub, priv.seed.dropWhile (· == 0), mpi priv.seed,
        octetSum (mpi priv.seed) % 65536⟩ := by
  have key := readPublicKey_body priv.pub_length
  have secret := readMPI_mpi (b := priv.seed) (by rw [priv.seed_length]; decide)
  have sum : ∀ rest, readUint16 (be16 (checksum (mpi priv.seed)).toNat ++ rest) =
      some (octetSum (mpi priv.seed) % 65536, rest) := by
    intro rest
    rw [readUint16_be16 (checksum (mpi priv.seed)).toNat_lt, checksum_toNat]
  have sumOnly := sum []
  rw [List.append_nil] at sumOnly
  rw [readSecretKey, secretKeyBody, List.append_assoc, key]
  simp only [List.cons_append, readOctet_cons, Option.bind_eq_bind, Option.bind_some, secret,
    sumOnly, and_self, if_true, Option.pure_def]
  rw [consumed_append, consumed_append]

/-! The self-signature. -/

section

variable (crypto : Crypto)

theorem fingerprint_length (pub : Bytes) :
    (fingerprint crypto pub).length = 20 := crypto.sha1_length _

theorem keyID_length (pub : Bytes) : (keyID crypto pub).length = 8 := by
  rw [keyID, List.length_drop, fingerprint_length]

theorem subpacket_length (typ : UInt8) (data : Bytes) :
    (subpacket typ data).length = data.length + 2 := rfl

theorem hashedArea_length (pub : Bytes) : (hashedArea crypto pub).length = 32 := by
  simp only [hashedArea, List.length_append, subpacket_length, putUint32_length, List.length_cons,
    List.length_nil, fingerprint_length]

def issuerArea (pub : Bytes) : Bytes := subpacket 16 (keyID crypto pub)

theorem issuerArea_length (pub : Bytes) : (issuerArea crypto pub).length = 10 := by
  rw [issuerArea, subpacket_length, keyID_length]

theorem hashedArea_subpackets (pub : Bytes) :
    parseSubpackets (hashedArea crypto pub) = some [⟨2, putUint32 pgpKeyCreationTime⟩, ⟨27, [0x03]⟩,
      ⟨33, 4 :: fingerprint crypto pub⟩] := by
  have print : (4 :: fingerprint crypto pub).length < 191 := by
    rw [List.length_cons, fingerprint_length]
    decide
  have written : List.Forall₂ (Written readSubpacket)
      [subpacket 2 (putUint32 pgpKeyCreationTime), subpacket 27 [0x03],
        subpacket 33 (4 :: fingerprint crypto pub)]
      [⟨2, putUint32 pgpKeyCreationTime⟩, ⟨27, [0x03]⟩, ⟨33, 4 :: fingerprint crypto pub⟩] :=
    .cons (subpacket_written (by decide)) (.cons (subpacket_written (by decide))
      (.cons (subpacket_written print) .nil))
  have parsed := parseAll_written written
  simp only [List.flatten_cons, List.flatten_nil, List.append_nil, ← List.append_assoc] at parsed
  exact parsed

theorem issuerArea_subpackets (pub : Bytes) :
    parseSubpackets (issuerArea crypto pub) = some [⟨16, keyID crypto pub⟩] := by
  have short : (keyID crypto pub).length < 191 := by
    rw [keyID_length]
    decide
  have written : List.Forall₂ (Written readSubpacket) [subpacket 16 (keyID crypto pub)]
    [⟨16, keyID crypto pub⟩] :=
    .cons (subpacket_written short) .nil
  have parsed := parseAll_written written
  simp only [List.flatten_cons, List.flatten_nil, List.append_nil] at parsed
  exact parsed

variable (priv : PrivateKey) (uid : Bytes)

def certification : Signature :=
  let digest := selfSignatureDigest crypto priv uid
  let sig := crypto.sign priv digest
  { kind := pgpSigTypePosit
    hashAlgorithm := pgpHashSHA256
    hashed := hashedArea crypto priv.pub
    unhashed := issuerArea crypto priv.pub
    leftBits := digest.take 2
    r := (sig.take 32).dropWhile (· == 0)
    s := (sig.drop 32).dropWhile (· == 0) }

theorem take_two {digest : Bytes} (size : digest.length = 32) :
    digest.take 2 = [digest.getD 0 0, digest.getD 1 0] := by
  match digest, size with
  | first :: second :: rest, _ => rfl

theorem readSignature_body :
    readSignature (selfSignatureBody crypto priv uid) = some (certification crypto priv uid) := by
  have size := crypto.sign_length priv (selfSignatureDigest crypto priv uid)
  have hashedSize := readUint16_be16 (show (hashedArea crypto priv.pub).length < 65536 by
    rw [hashedArea_length]; decide)
  have issuerSize := readUint16_be16 (show (issuerArea crypto priv.pub).length < 65536 by
    rw [issuerArea_length]; decide)
  have hashed := readOctets_append (rfl : (hashedArea crypto priv.pub).length = _)
  have issuer := readOctets_append (rfl : (issuerArea crypto priv.pub).length = _)
  have bits := take_two (crypto.sha256_length (selfSignatureInput crypto priv.pub uid))
  have left := readOctets_append (show ((selfSignatureDigest crypto priv uid).take 2).length = 2 by
    rw [selfSignatureDigest, bits]; rfl)
  have r := readMPI_mpi (b := (crypto.sign priv (selfSignatureDigest crypto priv uid)).take 32)
    (by rw [List.length_take]; omega)
  have s := readMPI_mpi (b := (crypto.sign priv (selfSignatureDigest crypto priv uid)).drop 32)
    (by rw [List.length_drop]; omega) []
  rw [List.append_nil] at s
  have body : selfSignatureBody crypto priv uid = 4 :: pgpSigTypePosit :: pgpAlgoEdDSA :: pgpHashSHA256 ::
      (be16 (hashedArea crypto priv.pub).length ++ (hashedArea crypto priv.pub ++
        (be16 (issuerArea crypto priv.pub).length ++ (issuerArea crypto priv.pub ++
          ((selfSignatureDigest crypto priv uid).take 2 ++
            (mpi ((crypto.sign priv (selfSignatureDigest crypto priv uid)).take 32) ++
              mpi ((crypto.sign priv (selfSignatureDigest crypto priv uid)).drop 32))))))) := by
    rw [selfSignatureDigest, bits]
    simp only [selfSignatureBody, signedPart, issuerArea, selfSignatureDigest, List.cons_append,
      List.nil_append, List.append_assoc]
  rw [body]
  simp only [readSignature, readOctet_cons, Option.bind_eq_bind, Option.bind_some, hashedSize,
    hashed, issuerSize, issuer, left, r, s, Option.pure_def]
  exact if_pos (by decide)

theorem certificationInput_body :
    certificationInput (publicKeyBody priv.pub) uid (certification crypto priv uid) =
      selfSignatureInput crypto priv.pub uid := rfl

theorem secretKeyBody_length : (secretKeyBody priv).length ≤ 88 := by
  have key := publicKeyBody_length priv.pub_length
  have secret := mpi_length_le priv.seed
  rw [priv.seed_length] at secret
  simp only [secretKeyBody, List.length_append, List.length_cons, be16_length]
  omega

theorem selfSignatureBody_length : (selfSignatureBody crypto priv uid).length ≤ 120 := by
  have size := crypto.sign_length priv (selfSignatureDigest crypto priv uid)
  have r := mpi_length_le ((crypto.sign priv (selfSignatureDigest crypto priv uid)).take 32)
  have s := mpi_length_le ((crypto.sign priv (selfSignatureDigest crypto priv uid)).drop 32)
  rw [List.length_take, size] at r
  rw [List.length_drop, size] at s
  simp only [selfSignatureBody, signedPart, List.length_append, List.length_cons,
    List.length_nil, be16_length, hashedArea_length, subpacket_length, keyID_length]
  omega

theorem userIDOctets_length : userIDOctets.length = 50 := by decide +kernel

theorem transferable_packets {tag : UInt8} {body : Bytes} (small : tag.toNat < 64)
    (short : body.length ≤ 88) :
    parsePackets
      (packet tag body ++ packet pgpTagUserID userIDOctets ++ selfSignature crypto priv userIDOctets) =
      some [⟨tag.toNat, body⟩, ⟨13, userIDOctets⟩, ⟨2, selfSignatureBody crypto priv userIDOctets⟩] := by
  have signature := selfSignatureBody_length crypto priv userIDOctets
  have written : List.Forall₂ (Written readPacket)
      [packet tag body, packet pgpTagUserID userIDOctets, selfSignature crypto priv userIDOctets]
      [⟨tag.toNat, body⟩, ⟨13, userIDOctets⟩, ⟨2, selfSignatureBody crypto priv userIDOctets⟩] :=
    .cons (packet_written small (by omega))
      (.cons (packet_written (by decide) (by rw [userIDOctets_length]; decide))
      (.cons (packet_written (by decide) (by omega)) .nil))
  have parsed := parseAll_written written
  simp only [List.flatten_cons, List.flatten_nil, List.append_nil, ← List.append_assoc] at parsed
  exact parsed

theorem derived_key_well_formed : ∃ keyBody secretBody signatureBody key secret signature,
    parsePackets (transferablePublicKey crypto priv) =
      some [⟨6, keyBody⟩, ⟨13, userIDOctets⟩, ⟨2, signatureBody⟩] ∧
    parsePackets (transferableSecretKey crypto priv) =
      some [⟨5, secretBody⟩, ⟨13, userIDOctets⟩, ⟨2, signatureBody⟩] ∧
    readPublicKey keyBody = some (key, []) ∧ readSecretKey secretBody = some secret ∧
    readSignature signatureBody = some signature ∧
    padLeft 33 key.point = 0x40 :: priv.pub ∧
    secret.key = key ∧ secret.publicPart = keyBody ∧
    padLeft 32 secret.secret = priv.seed ∧ readMPI secret.encoded = some (secret.secret, []) ∧
    secret.checksum = octetSum secret.encoded % 65536 ∧
    certificationInput keyBody userIDOctets signature = selfSignatureInput crypto priv.pub userIDOctets ∧
    signature.leftBits = (crypto.sha256 (certificationInput keyBody userIDOctets signature)).take 2 ∧
    padLeft 32 signature.r =
      (crypto.sign priv (crypto.sha256 (certificationInput keyBody userIDOctets signature))).take 32 ∧
    padLeft 32 signature.s =
      (crypto.sign priv (crypto.sha256 (certificationInput keyBody userIDOctets signature))).drop 32 ∧
    parseSubpackets signature.hashed = some [⟨2, putUint32 key.created⟩, ⟨27, [0x03]⟩,
      ⟨33, 4 :: fingerprint crypto priv.pub⟩] ∧
    parseSubpackets signature.unhashed = some [⟨16, (fingerprint crypto priv.pub).drop 12⟩] := by
  have keyShort := publicKeyBody_length priv.pub_length
  have key := readPublicKey_body priv.pub_length []
  rw [List.append_nil] at key
  have seed := padLeft_dropWhile priv.seed
  have encoded := readMPI_mpi (b := priv.seed) (by rw [priv.seed_length]; decide) []
  rw [List.append_nil] at encoded
  rw [priv.seed_length] at seed
  have size := crypto.sign_length priv (selfSignatureDigest crypto priv userIDOctets)
  have r := padLeft_dropWhile ((crypto.sign priv (selfSignatureDigest crypto priv userIDOctets)).take 32)
  have s := padLeft_dropWhile ((crypto.sign priv (selfSignatureDigest crypto priv userIDOctets)).drop 32)
  rw [List.length_take, size] at r
  rw [List.length_drop, size] at s
  refine ⟨publicKeyBody priv.pub, secretKeyBody priv, selfSignatureBody crypto priv userIDOctets,
    _, _, certification crypto priv userIDOctets, ?_, ?_, key, readSecretKey_body priv,
    readSignature_body crypto priv userIDOctets, ?_, rfl, rfl, seed, encoded, rfl,
    certificationInput_body crypto priv userIDOctets, rfl, r, s, hashedArea_subpackets crypto priv.pub,
    issuerArea_subpackets crypto priv.pub⟩
  · exact transferable_packets crypto priv (by decide) (by omega)
  · exact transferable_packets crypto priv (by decide) (secretKeyBody_length priv)
  · simp [padLeft, priv.pub_length]

end

end SyncthingSocket
