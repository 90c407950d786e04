import Mathlib.Data.Bool.AllAny
import SyncthingSocket.Bits.Base64
import SyncthingSocket.Json.Standard
import SyncthingSocket.Platform

/-!
The pairing code of `syncthing-luks-setup`, from the passphrase as bash reads it through two
substitutions of sed to the QR code; and `parsePairing` of the Android app, over any JSON reader
that keeps to RFC 8259.
-/

namespace SyncthingSocket

open Rfc8259

def isShellBlank (c : Char) : Bool := c = ' ' || c = '\t'

/-- `read -rs PASSPHRASE` fails at the end of the input. Bash drops NUL, and blanks at
either end of the line. -/
def readPassphrase (input : List Char) : Option (List Char) :=
  if '\n' ∈ input then
    let line := (input.takeWhile (· ≠ '\n')).filter (· ≠ '\x00')
    some ((line.dropWhile isShellBlank).reverse.dropWhile isShellBlank).reverse
  else none

/-- `sed s/pattern/replacement/g`, on a line. -/
def substitute (pattern : Char) (replacement line : List Char) : List Char :=
  line.flatMap fun c => if c = pattern then replacement else [c]

def jsonEscape (value : List Char) : List Char :=
  substitute '"' ['\\', '"'] (substitute '\\' ['\\', '\\'] value)

def pairingPayload (passphrase unlockSeed machineDeviceID : List Char) : List Char :=
  "\x7b\"version\":1,\"passphrase\":\"".toList ++ jsonEscape passphrase ++
    "\",\"p2p_key_seed\":\"".toList ++ unlockSeed ++
    "\",\"machine_device_id\":\"".toList ++ machineDeviceID ++ "\"\x7d\n".toList

/-- What the script asks of other programs: whether the passphrase opens the device, and
the Device IDs of a seed, where nothing stands for an ID that is not printed. -/
structure SetupMachine where
  opens : List Char → Bool
  machineDeviceID : List Char → List Char
  phoneDeviceID : List Char → List Char

def setupPayload (machine : SetupMachine) (device : String) (unlockSeed input : List Char) :
    Except (List String) (List Char) :=
  match readPassphrase input with
  | none => .error []
  | some passphrase =>
      if passphrase = [] then .error ["Error: empty passphrase."]
      else if machine.opens passphrase = false then
        .error ["", "Error: that passphrase does not unlock " ++ device ++ ".",
          "Nothing has been changed. Enrolling it would produce a QR code that cannot",
          "unlock this machine, and the failure would only appear at the next boot."]
      else if machine.machineDeviceID unlockSeed = [] ∨ machine.phoneDeviceID unlockSeed = [] then
        .error ["Error: could not derive Device IDs from the seed."]
      else .ok (pairingPayload passphrase unlockSeed (machine.machineDeviceID unlockSeed))

structure Pairing where
  passphrase : List UInt16
  seed : List UInt16
  deviceId : List UInt16
  deriving DecidableEq

/-- `JSONObject`: no document where the constructor throws, no string where `getString` does. -/
structure JsonReader where
  Document : Type
  jsonObject : List Char → Option Document
  optInt : Document → List UInt16 → Int
  getString : Document → List UInt16 → Option (List UInt16)

def pairingFormatVersion : Int := 1

def parsePairing (reader : JsonReader) (payload : List Char) : Option Pairing := do
  let json ← reader.jsonObject payload
  if reader.optInt json (utf16 "version".toList) = pairingFormatVersion then do
    let passphrase ← reader.getString json (utf16 "passphrase".toList)
    let seed ← reader.getString json (utf16 "p2p_key_seed".toList)
    let deviceId ← reader.getString json (utf16 "machine_device_id".toList)
    some ⟨passphrase, seed, deviceId⟩
  else none

def decimal (raw : List Char) : Option Int :=
  if raw ≠ [] ∧ raw.all Char.isDigit ∧
    Nat.ofDigitChars 10 raw 0 < 0x80000000 then some (Nat.ofDigitChars 10 raw 0) else none

/-- A reader has to accept every JSON text, and may accept others. An object whose names
are all different has the members that are written. -/
def JsonReader.Conforming (reader : JsonReader) : Prop :=
  ∀ text members, read text = some (.object members) → (members.map Prod.fst).Nodup →
    ∃ document, reader.jsonObject text = some document ∧
      (∀ name units, members.lookup name = some (.string units) →
        reader.getString document name = some units) ∧
      (∀ name raw n, members.lookup name = some (.number raw) → decimal raw = some n →
        reader.optInt document name = n)

def strictReader : JsonReader where
  Document := List (List UInt16 × Value)
  jsonObject text :=
    match read text with
    | some (.object members) => some members
    | _ => none
  optInt members name :=
    match members.lookup name with
    | some (.number raw) => (decimal raw).getD 0
    | _ => 0
  getString members name :=
    match members.lookup name with
    | some (.string units) => some units
    | _ => none

theorem strictReader_conforming : strictReader.Conforming := by
  intro text members found _
  refine ⟨members, ?_, ?_, ?_⟩
  · simp [strictReader, found]
  · intro name units named
    simp [strictReader, named]
  · intro name raw n named number
    simp [strictReader, named, number]

/-- The document is a JSON object with the members of this pairing, and the app reads the
pairing from it. -/
structure EnrolsExactly (document passphrase seed deviceID : List Char) : Prop where
  valid : ∃ members, read document = some (.object members) ∧ (members.map Prod.fst).Nodup ∧
    members.lookup (utf16 "version".toList) = some (.number ['1']) ∧
    members.lookup (utf16 "passphrase".toList) = some (.string (utf16 passphrase)) ∧
    members.lookup (utf16 "p2p_key_seed".toList) = some (.string (utf16 seed)) ∧
    members.lookup (utf16 "machine_device_id".toList) = some (.string (utf16 deviceID))
  recovered : ∀ reader : JsonReader, reader.Conforming →
    parsePairing reader document = some ⟨utf16 passphrase, utf16 seed, utf16 deviceID⟩

theorem parsePairing_members {document : List Char} {members : List (List UInt16 × Value)}
    {passphrase seed deviceId : List UInt16} (found : read document = some (.object members))
    (distinct : (members.map Prod.fst).Nodup)
    (version : members.lookup (utf16 "version".toList) = some (.number ['1']))
    (first : members.lookup (utf16 "passphrase".toList) = some (.string passphrase))
    (second : members.lookup (utf16 "p2p_key_seed".toList) = some (.string seed))
    (third : members.lookup (utf16 "machine_device_id".toList) = some (.string deviceId))
    {reader : JsonReader} (conforming : reader.Conforming) :
    parsePairing reader document = some ⟨passphrase, seed, deviceId⟩ := by
  obtain ⟨json, parsed, strings, numbers⟩ := conforming document members found distinct
  have one : decimal ['1'] = some pairingFormatVersion := by decide
  simp only [parsePairing, parsed, numbers _ _ _ version one, strings _ _ first, strings _ _ second,
    strings _ _ third, Option.bind_eq_bind, Option.bind_some, if_true]

/-! The substitutions, character by character. -/

def escapeCharacter (c : Char) : List Char :=
  if c = '"' then ['\\', '"'] else if c = '\\' then ['\\', '\\'] else [c]

theorem jsonEscape_eq (value : List Char) : jsonEscape value = value.flatMap escapeCharacter := by
  rw [jsonEscape, substitute, substitute, List.flatMap_assoc]
  refine List.flatMap_congr fun c _ => ?_
  rw [escapeCharacter]
  -- the backslashes of the second substitution come too late for the first
  split_ifs with backslash quote quote
  all_goals simp_all

theorem readChars_escapeCharacter (c : Char) (rest : List Char) :
    readChars (escapeCharacter c ++ rest) =
    if 0x20 ≤ c.toNat then extend (utf16Char c ++ ·) (readChars rest) else none := by
  rw [escapeCharacter]
  split_ifs with quote printing backslash printing printing
  · rw [quote]
    exact readChars_escaped_quote rest
  · rw [quote] at printing
    exact absurd (by decide) printing
  · rw [backslash]
    exact readChars_escaped_backslash rest
  · rw [backslash] at printing
    exact absurd (by decide) printing
  · exact readChars_plain quote backslash printing rest
  · exact readChars_control (by omega) rest

theorem readChars_jsonEscape (passphrase rest : List Char) :
    readChars (jsonEscape passphrase ++ '"' :: rest) =
    if passphrase.all (fun c => 0x20 ≤ c.toNat) then some (utf16 passphrase, rest) else none := by
  rw [jsonEscape_eq]
  induction passphrase with
  | nil => rfl
  | cons c passphrase ih =>
      rw [List.flatMap_cons, List.append_assoc, readChars_escapeCharacter, ih, List.all_cons]
      by_cases printing : 0x20 ≤ c.toNat
      · simp only [printing, decide_true, Bool.true_and, if_true]
        split_ifs
        · rfl
        · rfl
      · simp [printing]

/-! The document. -/

def memberNames : List String := ["version", "passphrase", "p2p_key_seed", "machine_device_id"]

theorem memberNames_plain (name : String) (listed : name ∈ memberNames) :
    ∀ c ∈ name.toList, Plain c := by
  have plain : (memberNames.all fun name => name.toList.all fun c => decide (Plain c)) = true := by decide
  intro c member
  exact List.all_iff_forall_prop.mp (List.all_eq_true.mp plain name listed) c member

def payloadRest (unlockSeed machineDeviceID : List Char) : List Char :=
  ',' :: '"' :: ("p2p_key_seed".toList ++ '"' :: ':' :: '"' :: (unlockSeed ++ '"' ::
    ',' :: '"' ::
      ("machine_device_id".toList ++ '"' :: ':' :: '"' :: (machineDeviceID ++ ['"', '}', '\n']))))

theorem pairingPayload_eq (passphrase unlockSeed machineDeviceID : List Char) :
    pairingPayload passphrase unlockSeed machineDeviceID =
      '{' :: '"' ::
        ("version".toList ++ '"' :: ':' :: '1' :: ',' :: '"' :: ("passphrase".toList ++ '"' :: ':' :: '"' ::
        (jsonEscape passphrase ++ '"' :: payloadRest unlockSeed machineDeviceID))) := by
  have opening : "\x7b\"version\":1,\"passphrase\":\"".toList = '{' :: '"' :: ("version".toList ++
      '"' :: ':' :: '1' :: ',' :: '"' :: ("passphrase".toList ++ ['"', ':', '"'])) := by decide
  have second : "\",\"p2p_key_seed\":\"".toList =
      '"' :: ',' :: '"' :: ("p2p_key_seed".toList ++ ['"', ':', '"']) := by
    decide
  have third : "\",\"machine_device_id\":\"".toList =
      '"' :: ',' :: '"' :: ("machine_device_id".toList ++ ['"', ':', '"']) := by decide
  have closing : "\"\x7d\n".toList = ['"', '}', '\n'] := by decide
  unfold pairingPayload payloadRest
  rewrite [opening, second, third, closing]
  generalize "version".toList = version, "passphrase".toList = passphraseName,
    "p2p_key_seed".toList = seedName,
    "machine_device_id".toList = idName
  simp only [List.append_assoc, List.cons_append, List.nil_append]

variable {machineDeviceID unlockSeed : List Char}

theorem payloadRest_read (seedPlain : ∀ c ∈ unlockSeed, Plain c)
    (idPlain : ∀ c ∈ machineDeviceID, Plain c) (fuel : Nat) (first : List UInt16 × Value) :
    readFurther '}' (readMembers (fuel + 3)) first (payloadRest unlockSeed machineDeviceID) =
      some ([first, (utf16 "p2p_key_seed".toList, .string (utf16 unlockSeed)),
        (utf16 "machine_device_id".toList, .string (utf16 machineDeviceID))], ['\n']) := by
  have seedName := memberNames_plain "p2p_key_seed" (by simp [memberNames])
  have idName := memberNames_plain "machine_device_id" (by simp [memberNames])
  rw [payloadRest, readFurther, if_pos rfl, skip_cons rfl, readMembers_string seedName,
    readChars_string seedPlain]
  simp only [Option.bind_some]
  rw [skip_cons rfl, readFurther, if_pos rfl, skip_cons rfl, readMembers_string idName]
  rw [readChars_string idPlain]
  rfl

def pairingMembers (passphrase unlockSeed machineDeviceID : List Char) :
    List (List UInt16 × Value) :=
  [(utf16 "version".toList, .number ['1']), (utf16 "passphrase".toList, .string (utf16 passphrase)),
    (utf16 "p2p_key_seed".toList, .string (utf16 unlockSeed)),
    (utf16 "machine_device_id".toList, .string (utf16 machineDeviceID))]

theorem pairingPayload_read (passphrase : List Char) (seedPlain : ∀ c ∈ unlockSeed, Plain c)
    (idPlain : ∀ c ∈ machineDeviceID, Plain c) (fuel : Nat) :
    readValue (fuel + 6) (skip (pairingPayload passphrase unlockSeed machineDeviceID)) =
      if passphrase.all (fun c => 0x20 ≤ c.toNat) then
        some (.object (pairingMembers passphrase unlockSeed machineDeviceID), ['\n'])
      else none := by
  have versionName := memberNames_plain "version" (by simp [memberNames])
  have passphraseName := memberNames_plain "passphrase" (by simp [memberNames])
  have one : ∀ text, readValue (fuel + 4) (skip ('1' :: ',' :: text)) =
      some (.number ['1'], ',' :: text) := fun _ => rfl
  rw [pairingPayload_eq, skip_cons rfl, readValue, readEnclosed, skip_cons rfl,
    if_neg (by simp), readMembers, readName_plain versionName, Option.bind_eq_bind,
    Option.bind_some]
  simp only [one, Option.bind_eq_bind, Option.bind_some]
  rw [skip_cons rfl, readFurther, if_pos rfl, skip_cons rfl, readMembers_string passphraseName,
    readChars_jsonEscape]
  -- only the passphrase can stop the reader
  split_ifs with printing
  · have blankless :
        skip (payloadRest unlockSeed machineDeviceID) = payloadRest unlockSeed machineDeviceID :=
      skip_cons rfl
    simp only [Option.bind_some]
    rw [blankless, payloadRest_read seedPlain idPlain]
    rfl
  · rfl

theorem pairingPayload_valid_iff (passphrase : List Char) (seedPlain : ∀ c ∈ unlockSeed, Plain c)
    (idPlain : ∀ c ∈ machineDeviceID, Plain c) (value : Value) :
    read (pairingPayload passphrase unlockSeed machineDeviceID) = some value ↔
      (∀ c ∈ passphrase, 0x20 ≤ c.toNat) ∧
        value = .object (pairingMembers passphrase unlockSeed machineDeviceID) := by
  rw [read_iff (Nat.le_add_right _ 6), pairingPayload_read passphrase seedPlain idPlain]
  constructor
  · rintro ⟨rest, found, _⟩
    split_ifs at found with printing
    cases found
    exact ⟨List.all_iff_forall_prop.mp printing, rfl⟩
  · rintro ⟨printing, rfl⟩
    exact ⟨['\n'], if_pos (List.all_iff_forall_prop.mpr printing), rfl⟩

theorem pairingMembers_distinct (passphrase unlockSeed machineDeviceID : List Char) :
    ((pairingMembers passphrase unlockSeed machineDeviceID).map Prod.fst).Nodup := by
  have names : (memberNames.map fun name => utf16 name.toList).Nodup := by decide
  exact names

theorem lookup_of_mem {members : List (List UInt16 × Value)} {name : List UInt16} {value : Value}
    (distinct : (members.map Prod.fst).Nodup) (member : (name, value) ∈ members) :
    members.lookup name = some value := by
  obtain ⟨earlier, later, rfl⟩ := List.append_of_mem member
  refine List.lookup_eq_some_iff.mpr ⟨earlier, later, rfl, fun other before => ?_⟩
  rw [List.map_append, List.map_cons, List.nodup_middle, List.nodup_cons, List.mem_append] at distinct
  simp only [bne_iff_ne]
  rintro rfl
  exact distinct.1 (.inl (List.mem_map.mpr ⟨other, before, rfl⟩))

def Base64Text (text : List Char) : Prop := ∀ c ∈ text, c ∈ Base64.alphabet ∨ c = '='

theorem Base64Text.plain {text : List Char} (base64 : Base64Text text) : ∀ c ∈ text, Plain c := by
  have listed : (('=' :: Base64.alphabet).all fun c => decide (Plain c)) = true := by decide
  intro c member
  exact List.all_iff_forall_prop.mp listed c (List.mem_cons.mpr (base64 c member).symm)

theorem deviceID_plain {id : List Char} (printed : ∀ c ∈ id, c ∈ deviceIDAlphabet) :
    ∀ c ∈ id, Plain c := by
  have listed : (deviceIDAlphabet.all fun c => decide (Plain c)) = true := by decide
  intro c member
  exact List.all_iff_forall_prop.mp listed c (printed c member)

theorem pairingPayload_enrols_iff (passphrase : List Char)
    (seedPlain : ∀ c ∈ unlockSeed, Plain c) (idPlain : ∀ c ∈ machineDeviceID, Plain c) :
    EnrolsExactly (pairingPayload passphrase unlockSeed machineDeviceID) passphrase unlockSeed
      machineDeviceID ↔
      ∀ c ∈ passphrase, 0x20 ≤ c.toNat := by
  constructor
  · rintro ⟨⟨members, found, _⟩, _⟩
    exact ((pairingPayload_valid_iff passphrase seedPlain idPlain _).mp found).1
  · intro printing
    have found := (pairingPayload_valid_iff passphrase seedPlain idPlain _).mpr ⟨printing, rfl⟩
    have distinct := pairingMembers_distinct passphrase unlockSeed machineDeviceID
    have version := lookup_of_mem distinct (.head _)
    have first := lookup_of_mem distinct (.tail _ (.head _))
    have second := lookup_of_mem distinct (.tail _ (.tail _ (.head _)))
    have third := lookup_of_mem distinct (.tail _ (.tail _ (.tail _ (.head _))))
    exact ⟨⟨_, found, distinct, version, first, second, third⟩, fun reader conforming =>
      parsePairing_members found distinct version first second third conforming⟩

/-- Once the device has opened, the script encodes a pairing code that carries the
pairing, unless the passphrase holds a control character. -/
theorem setup_enrols_iff (machine : SetupMachine) (device : String)
    {unlockSeed input passphrase : List Char} (typed : readPassphrase input = some passphrase)
    (given : passphrase ≠ []) (opens : machine.opens passphrase = true)
    (base64 : Base64Text unlockSeed) (machineID : machine.machineDeviceID unlockSeed ≠ [])
    (phoneID : machine.phoneDeviceID unlockSeed ≠ [])
    (printed : ∀ c ∈ machine.machineDeviceID unlockSeed, c ∈ deviceIDAlphabet) :
    ∃ document, setupPayload machine device unlockSeed input = .ok document ∧
      (EnrolsExactly document passphrase unlockSeed (machine.machineDeviceID unlockSeed) ↔
        ∀ c ∈ passphrase, 0x20 ≤ c.toNat) := by
  refine ⟨pairingPayload passphrase unlockSeed (machine.machineDeviceID unlockSeed), ?_,
    pairingPayload_enrols_iff passphrase base64.plain (deviceID_plain printed)⟩
  simp [setupPayload, typed, given, opens, machineID, phoneID]

def sampleMachineID : List Char := List.replicate 56 'A'

def sampleMachine : SetupMachine where
  opens _ := true
  machineDeviceID _ := sampleMachineID
  phoneDeviceID _ := List.replicate 56 'B'

theorem sampleMachineID_printed : ∀ c ∈ sampleMachineID, c ∈ deviceIDAlphabet := by
  intro c member
  rw [List.eq_of_mem_replicate member]
  decide

def sampleSeed : List Char := Base64.encode (List.replicate 32 7)

def quotedPassphrase : List Char := "say \"\\o/\"".toList

theorem quoted_passphrase_enrolled :
    readPassphrase (quotedPassphrase ++ ['\n']) = some quotedPassphrase ∧
    ∃ document, setupPayload sampleMachine "/dev/sda2" sampleSeed (quotedPassphrase ++ ['\n']) =
      .ok document ∧
      EnrolsExactly document quotedPassphrase sampleSeed sampleMachineID := by
  have typed : readPassphrase (quotedPassphrase ++ ['\n']) = some quotedPassphrase := by decide
  have printing : (quotedPassphrase.all fun c => decide (0x20 ≤ c.toNat)) = true := by decide
  obtain ⟨document, encoded, enrols⟩ := setup_enrols_iff sampleMachine "/dev/sda2" typed (by decide) rfl
    (Base64.encode_chars (List.replicate 32 7)) (by decide) (by decide) sampleMachineID_printed
  exact ⟨typed, document, encoded, enrols.mpr (List.all_iff_forall_prop.mp printing)⟩

def tabbedPassphrase : List Char := ['a', '\t', 'b']

theorem tab_breaks_pairing_code :
    readPassphrase (tabbedPassphrase ++ ['\n']) = some tabbedPassphrase ∧
    ∃ document, setupPayload sampleMachine "/dev/sda2" sampleSeed (tabbedPassphrase ++ ['\n']) =
      .ok document ∧
      read document = none ∧ parsePairing strictReader document = none ∧
      ¬ EnrolsExactly document tabbedPassphrase sampleSeed sampleMachineID := by
  have refused : read (pairingPayload tabbedPassphrase sampleSeed sampleMachineID) = none := by
    refine Option.eq_none_iff_forall_ne_some.mpr fun value found => ?_
    have printing :=
      ((pairingPayload_valid_iff tabbedPassphrase (Base64Text.plain (Base64.encode_chars _))
      (deviceID_plain sampleMachineID_printed) value).mp found).1
    exact absurd (printing '\t' (by decide)) (by decide)
  refine ⟨by decide, pairingPayload tabbedPassphrase sampleSeed sampleMachineID, rfl, refused, ?_, ?_⟩
  · have thrown : strictReader.jsonObject
      (pairingPayload tabbedPassphrase sampleSeed sampleMachineID) = none := by
      simp only [strictReader, refused]
    rw [parsePairing, thrown]
    rfl
  · rintro ⟨⟨members, found, _⟩, _⟩
    exact absurd (refused.symm.trans found) (by simp)

end SyncthingSocket
