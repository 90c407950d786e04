import SyncthingSocket.OpenPGP.Armor
import SyncthingSocket.OpenPGP.Key
import SyncthingSocket.Signing.Hkdf

/-!
What `generate_keystore` derives from the master seed: an ECDSA key or an Ed25519 key for
each role, and the passphrase of its keystore.
-/

namespace SyncthingSocket

open Framing OpenPGP

def Rune.octets : Rune → Bytes
  | .char c => String.utf8EncodeChar c
  | .invalid octet => [octet]

def Text.octets (s : Text) : Bytes := s.flatMap Rune.octets

def p256N : Nat := 0xFFFFFFFF00000000FFFFFFFFFFFFFFFFBCE6FAADA7179E84F3B9CAC2FC632551

/-- `ecdsa.PrivateKey`: the scalar and the public key. -/
structure ECPrivateKey (Point : Type) where
  d : Nat
  pub : Point
  deriving DecidableEq, Repr

/-- The cryptography and the encodings of the standard library, over the type `Point` of
ECDSA public keys. A certificate is parsed to its ECDSA key, or `none` for another kind. -/
structure SigningKit (Point : Type) where
  mac : Hkdf.Mac
  mac_size : mac.size = 32
  crypto : Crypto
  scalarBaseMult : Nat → Point
  ed25519Public : Bytes → Bytes
  ed25519Public_length : ∀ seed, (ed25519Public seed).length = 32
  marshalECPrivateKey : ECPrivateKey Point → Except Err Bytes
  marshal_on_curve : ∀ d, 1 ≤ d → d < p256N → ∃ der, marshalECPrivateKey ⟨d, scalarBaseMult d⟩ = .ok der
  parseCertificate : Bytes → Except Err (Option Point)
  pemEncode : Text → Bytes → Text
  pemDecode : Text → Option (Text × Bytes)
  pemDecode_encode : ∀ der, pemDecode (pemEncode (text "CERTIFICATE") der) =
    some (text "CERTIFICATE", der)
  join : Text → Text → Text
  join_plain : ∀ directory name, .char '/' ∉ directory → .char '/' ∉ name → directory ≠ text "" →
    name ≠ text "" →
    directory ≠ text "." → name ≠ text "." → directory ≠ text ".." → name ≠ text ".." →
    join directory name = directory ++ text "/" ++ name

def hkdfSalt : Text := text "syncthing-luks"

/-- `base64.RawURLEncoding`: the alphabet for file names, and no padding. -/
def urlCharacter (c : Char) : Char := if c = '+' then '-' else if c = '/' then '_' else c

def rawURLEncoding (data : Bytes) : List Char :=
  ((Base64.encode data).filter (· ≠ '=')).map urlCharacter

def isURLSafe (c : Char) : Bool := c.isAlphanum || c == '-' || c == '_'

/-- What is derived for a role, each with a purpose of its own. -/
inductive DerivedKey
  | ecdsa
  | passphrase
  | ed25519
  deriving DecidableEq

def DerivedKey.purpose : DerivedKey → Text
  | .ecdsa => text ""
  | .passphrase => text ":passphrase-key"
  | .ed25519 => text ":openpgp-ed25519"

section

variable {Point : Type} (kit : SigningKit Point)

def expand (seed role purpose : Text) (length : Nat) : Except Err Bytes :=
  let r := Hkdf.newReader kit.mac seed.octets hkdfSalt.octets (role ++ purpose).octets
  match r.read kit.mac length with
  | none => .error (.text "hkdf: entropy limit reached")
  | some (out, _) => .ok out

def deriveECKey (seed role : Text) : Except Err (ECPrivateKey Point) := do
  let okm ← expand kit seed role DerivedKey.ecdsa.purpose 32
  let d := bigEndian okm % (p256N - 1) + 1
  return { d := d, pub := kit.scalarBaseMult d }

def derivePassphrase (seed role : Text) : Except Err (List Char) := do
  let prk ← expand kit seed role DerivedKey.passphrase.purpose 32
  let sum := kit.mac.sum prk (role ++ text ":passphrase").octets
  return rawURLEncoding (sum.take 24)

/-- `none` is the panic for a seed of another size. -/
def newKeyFromSeed (seed : Bytes) : Option PrivateKey :=
  if size : seed.length = 32 then
    some { seed := seed, pub := kit.ed25519Public seed, seed_length := size,
           pub_length := kit.ed25519Public_length seed }
  else none

def deriveEd25519Key (seed role : Text) : Except Err PrivateKey := do
  let okm ← expand kit seed role DerivedKey.ed25519.purpose 32
  match newKeyFromSeed kit okm with
  | some priv => return priv
  | none => throw (.text "ed25519: bad seed length")

theorem expand_block (seed role purpose : Text) :
    ∃ okm, expand kit seed role purpose 32 = .ok okm ∧ okm.length = 32 := by
  have first := Hkdf.read_first kit.mac seed.octets hkdfSalt.octets (role ++ purpose).octets
    (Nat.le_of_eq kit.mac_size.symm)
  obtain ⟨⟨okm, after⟩, read, taken⟩ := Option.map_eq_some_iff.mp first
  refine ⟨okm, ?_, ?_⟩
  · rw [expand, read]
  · rw [show okm = _ from taken, List.length_take, kit.mac.sum_length, kit.mac_size]
    rfl

theorem newKeyFromSeed_some {seed : Bytes} (size : seed.length = 32) :
    ∃ priv, newKeyFromSeed kit seed = some priv :=
  ⟨_, dif_pos size⟩

/-! The passphrase. -/

theorem urlCharacter_safe {c : Char} (known : c ∈ Base64.alphabet) :
    isURLSafe (urlCharacter c) = true := by
  have all : Base64.alphabet.all (fun c => isURLSafe (urlCharacter c)) = true := by decide
  exact List.all_eq_true.mp all c known

theorem rawURLEncoding_whole {quanta : Nat} {data : Bytes} (whole : data.length = 3 * quanta) :
    (rawURLEncoding data).length = 4 * quanta ∧ ∀ c ∈ rawURLEncoding data, isURLSafe c = true := by
  obtain ⟨length, unpadded⟩ := Base64.encode_unpadded whole
  have kept : (Base64.encode data).filter (· ≠ '=') = Base64.encode data := by
    refine List.filter_eq_self.mpr fun c member => ?_
    exact decide_eq_true fun same => unpadded (same ▸ member)
  rw [rawURLEncoding, kept]
  refine ⟨by rw [List.length_map, length], fun c member => ?_⟩
  obtain ⟨before, found, rfl⟩ := List.mem_map.mp member
  rcases Base64.encode_chars data before found with known | padded
  · exact urlCharacter_safe known
  · exact absurd (padded ▸ found) unpadded

/-! The roles. -/

theorem purpose_split {role : Text} (plain : .char ':' ∉ role) (key : DerivedKey) :
    (role ++ key.purpose).takeWhile (· ≠ .char ':') = role := by
  have stops : key.purpose.takeWhile (· ≠ .char ':') = [] := by cases key <;> decide
  rw [List.takeWhile_append_of_pos, stops, List.append_nil]
  intro rune member
  exact decide_eq_true fun same => plain (same ▸ member)

theorem purpose_injective {key other : DerivedKey} (same : key.purpose = other.purpose) :
    key = other := by
  cases key <;> cases other <;> first | rfl | exact absurd same (by decide)

theorem deriveECKey_in_range (seed role : Text) :
    ∃ priv, deriveECKey kit seed role = .ok priv ∧ 1 ≤ priv.d ∧
    priv.d < p256N ∧ priv.pub = kit.scalarBaseMult priv.d := by
  obtain ⟨okm, expanded, _⟩ := expand_block kit seed role DerivedKey.ecdsa.purpose
  refine ⟨_, by rw [deriveECKey, expanded]; rfl, Nat.le_add_left 1 _, ?_, rfl⟩
  have below := Nat.mod_lt (bigEndian okm) (show 0 < p256N - 1 by decide)
  exact Nat.add_lt_of_lt_sub below

theorem derivePassphrase_word (seed role : Text) :
    ∃ pass, derivePassphrase kit seed role = .ok pass ∧
    pass.length = 32 ∧ ∀ c ∈ pass, isURLSafe c = true := by
  obtain ⟨prk, expanded, _⟩ := expand_block kit seed role DerivedKey.passphrase.purpose
  have whole : ((kit.mac.sum prk (role ++ text ":passphrase").octets).take 24).length = 3 * 8 := by
    rw [List.length_take, kit.mac.sum_length, kit.mac_size]
    rfl
  exact ⟨_, by rw [derivePassphrase, expanded]; rfl, rawURLEncoding_whole whole⟩

theorem deriveEd25519Key_some (seed role : Text) :
    ∃ priv, deriveEd25519Key kit seed role = .ok priv := by
  obtain ⟨okm, expanded, size⟩ := expand_block kit seed role DerivedKey.ed25519.purpose
  obtain ⟨priv, made⟩ := newKeyFromSeed_some kit size
  refine ⟨priv, ?_⟩
  simp only [deriveEd25519Key, expanded, bind, Except.bind, made]
  rfl

/-- Every derivation succeeds: the scalar is in the range of the curve, the passphrase is one
word of 32 characters, and no two derivations for roles without a colon use one stream. -/
theorem derivations_sound (seed role : Text) :
    (∃ priv, deriveECKey kit seed role = .ok priv ∧ 1 ≤ priv.d ∧ priv.d < p256N ∧
      priv.pub = kit.scalarBaseMult priv.d) ∧
    (∃ pass, derivePassphrase kit seed role = .ok pass ∧ pass.length = 32 ∧
      ∀ c ∈ pass, isURLSafe c = true) ∧
    (∃ priv, deriveEd25519Key kit seed role = .ok priv) ∧
    ∀ (other : Text) (key otherKey : DerivedKey), .char ':' ∉ role → .char ':' ∉ other →
      (role ++ key.purpose = other ++ otherKey.purpose ↔ role = other ∧ key = otherKey) := by
  refine ⟨deriveECKey_in_range kit seed role, derivePassphrase_word kit seed role,
    deriveEd25519Key_some kit seed role, ?_⟩
  intro other key otherKey plain otherPlain
  refine ⟨fun same => ?_, fun ⟨sameRole, sameKey⟩ => by rw [sameRole, sameKey]⟩
  have roles := purpose_split plain key
  rw [same, purpose_split otherPlain otherKey] at roles
  subst roles
  exact ⟨rfl, purpose_injective (List.append_cancel_left same)⟩

end

theorem take_padded_length (octets : Bytes) :
    ((octets ++ List.replicate 32 0).take 32).length = 32 := by
  rw [List.length_take, List.length_append, List.length_replicate]
  omega

/-- A kit to run the tool with: the hash is the start of its input, a public key is a
byte of the scalar, and a certificate is that byte. -/
def sampleKit : SigningKit Nat where
  mac :=
    { sum := fun key message => (key ++ message ++ List.replicate 32 0).take 32
      size := 32
      sum_length := fun key message => take_padded_length (key ++ message)
      size_pos := Nat.succ_pos 31 }
  mac_size := rfl
  crypto :=
    { sha1 := fun _ => List.replicate 20 0
      sha256 := fun _ => List.replicate 32 0
      sign := fun _ _ => List.replicate 64 0
      sha1_length := fun _ => rfl
      sha256_length := fun _ => rfl
      sign_length := fun _ _ => rfl }
  scalarBaseMult := fun d => d >>> 136 % 256
  ed25519Public := fun seed => (seed ++ List.replicate 32 0).take 32
  ed25519Public_length := take_padded_length
  marshalECPrivateKey := fun priv => .ok [UInt8.ofNat priv.d]
  marshal_on_curve := fun d _ _ => ⟨[UInt8.ofNat d], rfl⟩
  parseCertificate := fun der => .ok (der.head?.map UInt8.toNat)
  pemEncode := fun blockType der => blockType ++ der.map Rune.invalid
  pemDecode := fun s => some (s.take 11, (s.drop 11).filterMap fun
    | .char _ => none
    | .invalid octet => some octet)
  pemDecode_encode := by
    intro der
    have size : (text "CERTIFICATE").length = 11 := rfl
    rw [List.take_append_of_le_length (Nat.le_of_eq size.symm),
      List.take_of_length_le (Nat.le_of_eq size),
      List.drop_append_of_le_length (Nat.le_of_eq size.symm),
        List.drop_of_length_le (Nat.le_of_eq size), List.nil_append,
      List.filterMap_map]
    congr 2
    exact List.filterMap_some
  join := fun directory name => directory ++ text "/" ++ name
  join_plain := fun _ _ _ _ _ _ _ _ _ _ => rfl

theorem app_and_fdroid_apart : text "app" ++ DerivedKey.passphrase.purpose ≠
    text "fdroid" ++ DerivedKey.ed25519.purpose := fun same =>
  absurd (((derivations_sound sampleKit (text "seed") (text "app")).2.2.2
    (text "fdroid") .passphrase .ed25519
    (by decide) (by decide)).mp same).1 (by decide)

end SyncthingSocket
