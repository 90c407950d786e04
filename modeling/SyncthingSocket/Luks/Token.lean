import SyncthingSocket.Luks.Fetch
import SyncthingSocket.Json.Scan

/-!
The two sources of the unlock configuration in `luks_agent.go`: `parseLUKSToken`
reads a token document of a LUKS2 header, `parseLuksConf` the file that overrides it.
-/

namespace SyncthingSocket

open Json

structure LuksToken where
  type : Text := []
  version : Int := 0
  seed : Text := []
  keyHolderDeviceID : Text := []
  role : Text := []
  deriving DecidableEq, Repr

def decodeString (raw : Text) : Text := (unquote raw).map .char

/-- The digits that `strconv` reads as an `int64`, behind the sign. -/
def signedDigits (negative : Bool) (digits : Text) : Option Int :=
  if digits = [] then none
  else
    match Text.parseDigits 0 digits with
    | .error _ => none
    | .ok n =>
        if negative then if n ≤ 0x8000000000000000 then some (Int.negOfNat n) else none
        else if n < 0x8000000000000000 then some (Int.ofNat n) else none

/-- `strconv.ParseInt(s, 10, 64)` on a JSON number, which has no plus sign. -/
def parseInt (raw : Text) : Option Int :=
  match raw with
  | .char '-' :: digits => signedDigits true digits
  | digits => signedDigits false digits

theorem parseInt_digits {c : Char} {digits : Text} {value : Int} (digit : c.isDigit = true)
    (parsed : parseInt (.char c :: digits) = some value) :
    ∃ n, Text.parseDigits 0 (.char c :: digits) = .ok n ∧ value = Int.ofNat n := by
  have unsigned : c ≠ '-' := by
    rintro rfl
    exact absurd digit (by decide)
  rw [parseInt, signedDigits, if_neg (List.cons_ne_nil _ _)] at parsed
  · split at parsed
    · simp at parsed
    · next n read =>
        rw [if_neg (by decide)] at parsed
        split_ifs at parsed
        cases parsed
        exact ⟨n, read, rfl⟩
  · intro rest same
    injection same with same _
    injection same with same
    exact unsigned same

theorem parseInt_one {c : Char} {digits : Text} (digit : c.isDigit = true) (nonzero : c ≠ '0')
    (one : parseInt (.char c :: digits) = some 1) : .char c :: digits = text "1" := by
  obtain ⟨n, read, same⟩ := parseInt_digits digit one
  obtain rfl : n = 1 := (Int.ofNat.inj same).symm
  obtain ⟨lower, _⟩ := digit_toNat digit
  have zero : '0'.toNat = 48 := rfl
  have different : c.toNat ≠ '0'.toNat := fun same => nonzero (Char.toNat_inj.mp same)
  simp only [Text.parseDigits, digit, ↓reduceIte] at read
  split at read
  · obtain ⟨upper, more⟩ := Text.parseDigits_ge read
    have isOne : c = '1' := Char.toNat_inj.mp (show c.toNat = 49 by omega)
    have alone : digits = [] := by
      by_contra others
      have large := more others
      omega
    rw [isOne, alone]
    rfl
  · simp at read

/-- Storing a value in a field of type `string`: `null` changes nothing, and anything
but a string is an error. -/
def storeString (field : Text) : Datum → Option Text
  | .null => some field
  | .string raw => some (decodeString raw)
  | _ => none

def storeInt (field : Int) : Datum → Option Int
  | .null => some field
  | .number raw => parseInt raw
  | _ => none

def nameMatches (key : Text) (field : String) : Bool :=
  foldName (unquote key) == foldName field.toList

def LuksToken.store (tok : LuksToken) (member : Text × Datum) : Option LuksToken :=
  if nameMatches member.1 "type" then (storeString tok.type member.2).map fun value =>
    { tok with type := value }
  else if nameMatches member.1 "version" then
    (storeInt tok.version member.2).map fun value => { tok with version := value }
  else if nameMatches member.1 "p2p_key_seed" then
    (storeString tok.seed member.2).map fun value => { tok with seed := value }
  else if nameMatches member.1 "key_holder_device_id" then
    (storeString tok.keyHolderDeviceID member.2).map fun value => { tok with keyHolderDeviceID := value }
  else if nameMatches member.1 "unlock_role" then
    (storeString tok.role member.2).map fun value => { tok with role := value }
  else some tok

/-- `json.Unmarshal` into a `luksToken`; which of its errors it is, is left open. -/
def unmarshalToken (raw : Text) : Option LuksToken :=
  match scan raw with
  | none => none
  | some scanned =>
      match scanned.top with
      | some .object => scanned.members.foldlM LuksToken.store {}
      | some .null => some {}
      | _ => none

def luksTokenType : Text := text "syncthing-socket"

def luksTokenVersion : Int := 1

def parseLUKSToken (quote : Text → String) (raw : Text) : Except Err (Option LuksConfig) :=
  match unmarshalToken raw with
  | none => .error (.text "json")
  | some tok =>
      if tok.type ≠ luksTokenType then .ok none
      else if tok.version ≠ luksTokenVersion then
        if tok.version = 0 then
          .error (.text
            "this syncthing-socket token carries no version; re-run syncthing-luks-bind to write one")
        else
          .error (.text ("this syncthing-socket token is version " ++ toString tok.version ++
            " and this build understands version 1"))
      else if tok.seed = [] then .error (.text "the syncthing-socket token carries no p2p_key_seed")
      else
        let role := if tok.role = [] then text "client" else tok.role
        if role ≠ text "client" ∧
          role ≠ text "server" then .error (.text ("unknown unlock_role " ++ quote role))
        else .ok (some ⟨[], tok.seed, tok.keyHolderDeviceID, role⟩)

theorem parseLUKSToken_ok {quote : Text → String} {raw : Text} {cfg : LuksConfig}
    (parsed : parseLUKSToken quote raw = .ok (some cfg)) :
    ∃ tok, unmarshalToken raw = some tok ∧ tok.version = luksTokenVersion ∧ tok.seed ≠ [] ∧
      cfg.seed = tok.seed ∧ cfg.keyHolderDeviceID = tok.keyHolderDeviceID := by
  simp only [parseLUKSToken] at parsed
  cases unmarshalled : unmarshalToken raw with
  | none => simp [unmarshalled] at parsed
  | some tok =>
      simp only [unmarshalled] at parsed
      generalize (if tok.role = [] then text "client" else tok.role) = role at parsed
      split at parsed
      · simp at parsed
      · split at parsed
        · split at parsed <;> simp at parsed
        · next version =>
            split at parsed
            · simp at parsed
            · next given =>
                split at parsed
                · simp at parsed
                · cases parsed
                  exact ⟨tok, rfl, not_not.mp version, given, rfl, rfl⟩

def isQuote (rune : Rune) : Bool := rune = .char '"' || rune = .char '\''

def LuksConfig.readLine (cfg : LuksConfig) (line : Text) : LuksConfig :=
  let line := line.trimSpace
  if line = [] ∨ text "#" <+: line then cfg
  else
    match line.cut '=' with
    | none => cfg
    | some (key, value) =>
        let value := value.trimSpace.trimFunc isQuote
        if key.trimSpace = text "P2P_KEY_SEED" then { cfg with seed := value }
        else if key.trimSpace = text "KEY_HOLDER_DEVICE_ID" then { cfg with keyHolderDeviceID := value }
        else if key.trimSpace = text "UNLOCK_ROLE" then
          if value ≠ [] then { cfg with role := value } else cfg
        else cfg

def parseLuksConf (quote : Text → String) (file : FileRead) : Except Err (Option LuksConfig) :=
  let cfg := file.scanLines.1.foldl LuksConfig.readLine ⟨[], [], [], text "client"⟩
  match file.scanLines.2 with
  | some err => .error err
  | none =>
      if cfg.seed = [] then .ok none
      else if cfg.role ≠ text "client" ∧ cfg.role ≠ text "server" then
        .error (.text ("unknown UNLOCK_ROLE " ++ quote cfg.role))
      else .ok (some cfg)

end SyncthingSocket
