import SyncthingSocket.Json.Encode
import SyncthingSocket.OpenPGP.Format

/-!
`openpgp_key.go`: the APT signing key as an OpenPGP key with a certified user ID, put
together octet by octet.
-/

namespace SyncthingSocket

open Framing OpenPGP

def pgpTagSignature : UInt8 := 2

def pgpTagSecretKey : UInt8 := 5

def pgpTagPublicKey : UInt8 := 6

def pgpTagUserID : UInt8 := 13

def pgpAlgoEdDSA : UInt8 := 22

def pgpHashSHA256 : UInt8 := 8

def pgpSigTypePosit : UInt8 := 0x13

def pgpKeyCreationTime : Nat := 1704067200

def pgpUserID : String := "Syncthing LUKS APT repository <noreply@github.com>"

def ed25519OID : Bytes := [0x2B, 0x06, 0x01, 0x04, 0x01, 0xDA, 0x47, 0x0F, 0x01]

/-- `ed25519.PrivateKey`: the seed and the public key. -/
structure PrivateKey where
  seed : Bytes
  pub : Bytes
  seed_length : seed.length = 32
  pub_length : pub.length = 32

structure Crypto where
  sha1 : Bytes → Bytes
  sha256 : Bytes → Bytes
  sign : PrivateKey → Bytes → Bytes
  sha1_length : ∀ data, (sha1 data).length = 20
  sha256_length : ∀ data, (sha256 data).length = 32
  sign_length : ∀ priv message, (sign priv message).length = 64

/-- The loop of `leadingZeros8`, below bit `i`. -/
def leadingZerosBelow (x : UInt8) : Nat → Nat
  | 0 => 0
  | i + 1 => if x &&& (1 <<< UInt8.ofNat i) ≠ 0 then 0 else leadingZerosBelow x i + 1

def leadingZeros8 (x : UInt8) : Nat := leadingZerosBelow x 8

def mpi (b : Bytes) : Bytes :=
  match b.dropWhile (· == 0) with
  | [] => [0, 0]
  | first :: rest => be16 (rest.length * 8 + (8 - leadingZeros8 first)) ++ first :: rest

def publicKeyBody (pub : Bytes) : Bytes :=
  4 :: putUint32 pgpKeyCreationTime ++
    pgpAlgoEdDSA :: UInt8.ofNat ed25519OID.length :: ed25519OID ++ mpi (0x40 :: pub)

/-- The sum of the octets in a `uint16`. -/
def checksum (secret : Bytes) : UInt16 := secret.foldl (fun sum c => sum + c.toUInt16) 0

def secretKeyBody (priv : PrivateKey) : Bytes :=
  publicKeyBody priv.pub ++ 0 :: mpi priv.seed ++ be16 (checksum (mpi priv.seed)).toNat

def packet (tag : UInt8) (body : Bytes) : Bytes :=
  let n := body.length
  if n < 192 then (0xC0 ||| tag) :: UInt8.ofNat n :: body
  else if n < 8384 then
    let n := n - 192
    (0xC0 ||| tag) :: UInt8.ofNat (n / 256 + 192) :: UInt8.ofNat (n % 256) :: body
  else (0xC0 ||| tag) :: 0xFF :: putUint32 n ++ body

def subpacket (typ : UInt8) (data : Bytes) : Bytes :=
  let body := typ :: data
  UInt8.ofNat body.length :: body

section

variable (crypto : Crypto)

def fingerprint (pub : Bytes) : Bytes :=
  let body := publicKeyBody pub
  crypto.sha1 (0x99 :: be16 body.length ++ body)

def keyID (pub : Bytes) : Bytes := (fingerprint crypto pub).drop 12

def hashedArea (pub : Bytes) : Bytes :=
  subpacket 2 (putUint32 pgpKeyCreationTime) ++ subpacket 27 [0x03] ++
    subpacket 33 (4 :: fingerprint crypto pub)

def signedPart (pub : Bytes) : Bytes :=
  let hashed := hashedArea crypto pub
  [4, pgpSigTypePosit, pgpAlgoEdDSA, pgpHashSHA256] ++ be16 hashed.length ++ hashed

def selfSignatureInput (pub uid : Bytes) : Bytes :=
  let keyBody := publicKeyBody pub
  let signed := signedPart crypto pub
  0x99 :: be16 keyBody.length ++ keyBody ++ (0xB4 :: putUint32 uid.length ++ uid) ++ signed ++
    ([0x04, 0xFF] ++ putUint32 signed.length)

def selfSignatureDigest (priv : PrivateKey) (uid : Bytes) : Bytes :=
  crypto.sha256 (selfSignatureInput crypto priv.pub uid)

def selfSignatureBody (priv : PrivateKey) (uid : Bytes) : Bytes :=
  let digest := selfSignatureDigest crypto priv uid
  let sig := crypto.sign priv digest
  let unhashed := subpacket 16 (keyID crypto priv.pub)
  signedPart crypto priv.pub ++ be16 unhashed.length ++ unhashed ++ [digest.getD 0 0, digest.getD 1 0] ++
    mpi (sig.take 32) ++ mpi (sig.drop 32)

def selfSignature (priv : PrivateKey) (uid : Bytes) : Bytes :=
  packet pgpTagSignature (selfSignatureBody crypto priv uid)

def userIDOctets : Bytes := Json.utf8 pgpUserID.toList

def transferableSecretKey (priv : PrivateKey) : Bytes :=
  packet pgpTagSecretKey (secretKeyBody priv) ++ packet pgpTagUserID userIDOctets ++
    selfSignature crypto priv userIDOctets

def transferablePublicKey (priv : PrivateKey) : Bytes :=
  packet pgpTagPublicKey (publicKeyBody priv.pub) ++ packet pgpTagUserID userIDOctets ++
    selfSignature crypto priv userIDOctets

end

end SyncthingSocket
