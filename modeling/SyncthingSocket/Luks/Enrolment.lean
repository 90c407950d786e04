import SyncthingSocket.DeviceIDText
import SyncthingSocket.Luks.BoundToken
import SyncthingSocket.Luks.Pairing
import SyncthingSocket.Luks.Pinning
import SyncthingSocket.Unlock

/-!
Enrolling a phone: `id` derives two Device IDs from a seed, `syncthing-luks-setup` puts the
machine's into a pairing code and, through `syncthing-luks-bind`, the phone's into the header; at
boot the machine reads it and accepts the clients listed there.
-/

namespace SyncthingSocket

open Effect Effect.Program Framing Json Rfc8259

/-! The command `id`. -/

/-- The certificate that `GenerateDeterministicCert` makes of a seed. -/
abbrev Certificates := Text → Except Err Bytes

section

variable (verbs : Verbs) (newDeviceID : Bytes → DeviceID) (certificates : Certificates)

def idCommand (idSeed : Text) : Except Err (List Char) :=
  if idSeed = [] then .error (.text "Error: --seed is required")
  else
    match certificates (idSeed ++ certSuffixServer) with
    | .error err => .error (err.wrap "Error generating server cert: ")
    | .ok serverCert =>
        match certificates (idSeed ++ text certSuffixClient) with
        | .error err => .error (err.wrap "Error generating client cert: ")
        | .ok clientCert => do
            let serverID ← deviceIDString verbs (newDeviceID serverCert)
            let clientID ← deviceIDString verbs (newDeviceID clientCert)
            return "Server ID: ".toList ++ serverID ++
              '\n' :: ("Client ID: ".toList ++ clientID ++ ['\n'])

/-! The script. -/

/-- `$(…)` drops every NUL and the newlines at the end. -/
def substituted {α : Type} [DecidableEq α] (nul newline : α) (output : List α) : List α :=
  ((output.filter (· ≠ nul)).reverse.dropWhile (· = newline)).reverse

def commandSubstitution (output : List Char) : List Char := substituted '\x00' '\n' output

def isAwkBlank (c : Char) : Bool := c = ' ' || c = '\t' || c = '\n'

def awkFields (line : List Char) : List (List Char) := (line.splitOnP isAwkBlank).filter (· ≠ [])

def awkRecords (input : List Char) : List (List Char) :=
  let pieces := input.splitOn '\n'
  if pieces.getLast? = some [] then pieces.dropLast else pieces

/-- `awk '/^start/ {print $3}'`. -/
def awkThird (start input : List Char) : List Char :=
  ((awkRecords input).filter start.isPrefixOf).flatMap fun line => (awkFields line).getD 2 [] ++ ['\n']

/-- `IDS=$(syncthing-socket id …)`, and one ID out of it; the script ends where the
command fails. -/
def setupID (start : List Char) (unlockSeed : List Char) : List Char :=
  match idCommand verbs newDeviceID certificates (runes unlockSeed) with
  | .error _ => []
  | .ok output => commandSubstitution (awkThird start (commandSubstitution output ++ ['\n']))

def enrolmentMachine (opens : List Char → Bool) : SetupMachine where
  opens := opens
  machineDeviceID := setupID verbs newDeviceID certificates "Server ID:".toList
  phoneDeviceID := setupID verbs newDeviceID certificates "Client ID:".toList

end

def setupBindArgs (device : Text) (unlockSeed phoneDeviceID : List Char) : List Text :=
  [device, runes unlockSeed, runes phoneDeviceID, text "server"]

def noFaults : Faults := ⟨false, false, false, fun _ => false, false⟩

/-! Cutting the IDs out. -/

def OneWord (word : List Char) : Prop := word ≠ [] ∧ ∀ c ∈ word, isAwkBlank c = false ∧ c ≠ '\x00'

theorem commandSubstitution_line {line : List Char} (word : OneWord line) (front : List Char)
    (clean : ∀ c ∈ front, c ≠ '\x00') :
    commandSubstitution (front ++ line ++ ['\n']) = front ++ line := by
  have kept : (front ++ line ++ ['\n']).filter (· ≠ '\x00') = front ++ line ++ ['\n'] := by
    rw [List.filter_eq_self]
    intro c member
    simp only [List.mem_append, List.mem_singleton] at member
    rcases member with (early | inside) | rfl
    · simpa using clean c early
    · simpa using (word.2 c inside).2
    · decide
  rw [commandSubstitution, substituted, kept, List.reverse_append, List.reverse_singleton,
    List.singleton_append, List.dropWhile_cons_of_pos (by simp), List.reverse_append]
  cases reversed : line.reverse with
  | nil => exact absurd (List.reverse_eq_nil_iff.mp reversed) word.1
  | cons c rest =>
      have inside : c ∈ line := by
        rw [← List.mem_reverse, reversed]
        exact List.mem_cons_self
      have visible : c ≠ '\n' := by
        rintro rfl
        exact absurd (word.2 _ inside).1 (by decide)
      rw [List.cons_append, List.dropWhile_cons_of_neg (by simpa using visible),
        ← List.cons_append, ← reversed, ← List.reverse_append, List.reverse_reverse]

theorem awkFields_third {first second third : List Char} (one : OneWord first)
    (two : OneWord second) (three : OneWord third) :
    awkFields (first ++ ' ' :: (second ++ ' ' :: third)) = [first, second, third] := by
  rw [awkFields, List.splitOnP_append_cons_of_forall_mem (fun c member => (one.2 c member).1) ' ' rfl,
    List.splitOnP_append_cons_of_forall_mem (fun c member => (two.2 c member).1) ' ' rfl,
    List.splitOnP_eq_singleton fun c member => (three.2 c member).1]
  simp [one.1, two.1, three.1]

theorem awkRecords_lines {first second : List Char} (one : '\n' ∉ first) (two : '\n' ∉ second) :
    awkRecords (first ++ '\n' :: (second ++ ['\n'])) = [first, second] := by
  have split : (first ++ '\n' :: (second ++ ['\n'])).splitOn '\n' = [first, second, []] := by
    have joined : first ++ '\n' :: (second ++ ['\n']) = ['\n'].intercalate [first, second, []] := by
      simp [List.intercalate]
    rw [joined, List.splitOn_intercalate]
    · intro piece member
      simp only [List.mem_cons, List.not_mem_nil, or_false] at member
      rcases member with rfl | rfl | rfl
      · exact one
      · exact two
      · simp
    · simp
  simp [awkRecords, split]

theorem isPrinted_facts {c : Char} (printed : isPrinted c) :
    isAwkBlank c = false ∧ c ≠ '\x00' ∧ c ∈ deviceIDAlphabet := by
  have listed :
      (Base32.alphabet.all fun b => !isAwkBlank (Char.ofNat b.toNat) && Char.ofNat b.toNat != '\x00' &&
      deviceIDAlphabet.contains (Char.ofNat b.toNat)) = true := by decide
  rcases printed with rfl | ⟨b, letter, rfl⟩
  · decide
  · have here := List.all_eq_true.mp listed b letter
    simpa [and_assoc] using here

theorem printed_oneWord {printed : List Char} (known : ∀ c ∈ printed, isPrinted c)
    (given : printed ≠ []) :
    OneWord printed :=
  ⟨given, fun c member => ⟨(isPrinted_facts (known c member)).1, (isPrinted_facts (known c member)).2.1⟩⟩

theorem OneWord.no_newline {word : List Char} (oneWord : OneWord word) : '\n' ∉ word := by
  intro member
  exact absurd (oneWord.2 _ member).1 (by decide)

theorem setup_cuts_ids {serverID clientID : List Char} (server : OneWord serverID)
    (client : OneWord clientID) :
    let output := "Server ID: ".toList ++ serverID ++ '\n' :: ("Client ID: ".toList ++ clientID ++ ['\n'])
    commandSubstitution (awkThird "Server ID:".toList (commandSubstitution output ++ ['\n'])) = serverID ∧
      commandSubstitution (awkThird "Client ID:".toList (commandSubstitution output ++ ['\n'])) =
        clientID := by
  intro output
  have words : OneWord "Server".toList ∧ OneWord "Client".toList ∧ OneWord "ID:".toList := by
    refine ⟨⟨by decide, ?_⟩, ⟨by decide, ?_⟩, ⟨by decide, ?_⟩⟩ <;>
      exact List.all_iff_forall_prop.mp (by decide)
  have serverLine : "Server ID: ".toList ++ serverID =
      "Server".toList ++ ' ' :: ("ID:".toList ++ ' ' :: serverID) := rfl
  have clientLine : "Client ID: ".toList ++ clientID =
      "Client".toList ++ ' ' :: ("ID:".toList ++ ' ' :: clientID) := rfl
  have kept : commandSubstitution output ++ ['\n'] = output := by
    have front : output = ("Server ID: ".toList ++ serverID ++ '\n' :: "Client ID: ".toList) ++
        clientID ++ ['\n'] := by
      simp [output]
    rw [front, commandSubstitution_line client]
    intro c member
    simp only [List.mem_append, List.mem_cons] at member
    have fixed : ∀ c ∈ "Server ID: ".toList ++ '\n' :: "Client ID: ".toList, c ≠ '\x00' :=
      List.all_iff_forall_prop.mp (by decide)
    rcases member with (start | inside) | rest
    · exact fixed c (List.mem_append_left _ start)
    · exact (server.2 c inside).2
    · exact fixed c (List.mem_append_right _ (List.mem_cons.mpr rest))
  have records :
      awkRecords output = ["Server ID: ".toList ++ serverID, "Client ID: ".toList ++ clientID] := by
    refine awkRecords_lines ?_ ?_
    · rw [List.mem_append, not_or]
      exact ⟨by decide, server.no_newline⟩
    · rw [List.mem_append, not_or]
      exact ⟨by decide, client.no_newline⟩
  have last {word : List Char} (oneWord : OneWord word) : commandSubstitution (word ++ ['\n']) = word :=
    commandSubstitution_line oneWord [] (by simp)
  rw [kept, awkThird, awkThird, records]
  refine ⟨?_, ?_⟩
  · have picked : ["Server ID: ".toList ++ serverID, "Client ID: ".toList ++ clientID].filter
        "Server ID:".toList.isPrefixOf = ["Server ID: ".toList ++ serverID] := rfl
    rw [picked, List.flatMap_singleton, serverLine, awkFields_third words.1 words.2.2 server]
    exact last server
  · have picked : ["Server ID: ".toList ++ serverID, "Client ID: ".toList ++ clientID].filter
        "Client ID:".toList.isPrefixOf = ["Client ID: ".toList ++ clientID] := rfl
    rw [picked, List.flatMap_singleton, clientLine, awkFields_third words.2.1 words.2.2 client]
    exact last client

/-! The characters of seeds and of printed IDs. -/

variable {id : DeviceID} {header : Header} {s : List Char}

theorem isPlain_runes (plain : ∀ c ∈ s, Plain c) : ∀ rune ∈ runes s, isPlain rune = true := by
  intro rune member
  obtain ⟨c, inside, rfl⟩ := List.mem_map.mp member
  obtain ⟨quote, backslash, visible⟩ := plain c inside
  simp [isPlain, quote, backslash, visible]

theorem runes_ne_nil (given : s ≠ []) : runes s ≠ [] := by
  simpa [runes] using given

theorem Plain.nonzero (plain : ∀ c ∈ s, Plain c) : .char '\x00' ∉ runes s := by
  intro member
  obtain ⟨c, inside, same⟩ := List.mem_map.mp member
  cases same
  exact absurd (plain _ inside).2.2 (by decide)

theorem printed_alone {printed : List Char} (known : ∀ c ∈ printed, isPrinted c) :
    (runes printed).splitOn (.char ',') = [runes printed] ∧
      Text.trimSpace (runes printed) = runes printed := by
  have letters : (deviceIDAlphabet.all fun c => c ≠ ',' && !(Rune.char c).isSpace) = true := by decide
  have kept {rune : Rune} (member : rune ∈ runes printed) : rune ≠ .char ',' ∧ rune.isSpace = false := by
    obtain ⟨c, inside, rfl⟩ := List.mem_map.mp member
    simpa using List.all_eq_true.mp letters c (isPrinted_facts (known c inside)).2.2
  refine ⟨?_, ?_⟩
  · exact List.splitOnP_eq_singleton fun rune member => by simpa using (kept member).1
  · exact Text.trimFunc_self (fun rune first => (kept (List.mem_of_head? first)).2)
      fun rune last => (kept (List.mem_of_getLast? last)).2

/-! The Device IDs of a seed. -/

/-- A seed from which both certificates can be made, and of which neither has the ID
that stands for no device. -/
structure Derived (newDeviceID : Bytes → DeviceID)
    (certificates : Certificates) (unlockSeed : List Char) where
  serverCert : Bytes
  clientCert : Bytes
  given : unlockSeed ≠ []
  base64 : Base64Text unlockSeed
  server : certificates (runes unlockSeed ++ certSuffixServer) = .ok serverCert
  client : certificates (runes unlockSeed ++ text certSuffixClient) = .ok clientCert
  server_known : newDeviceID serverCert ≠ emptyDeviceID
  client_known : newDeviceID clientCert ≠ emptyDeviceID

structure Prints (verbs : Verbs) (id : DeviceID) (printed : List Char) : Prop where
  known : ∀ c ∈ printed, isPrinted c
  given : printed ≠ []
  read : ∀ unicode, deviceIDFromString verbs unicode (runes printed) = .ok id

theorem Prints.plain {verbs : Verbs} {printed : List Char} (prints : Prints verbs id printed) :
    ∀ c ∈ printed, Plain c :=
  deviceID_plain fun c member => (isPrinted_facts (prints.known c member)).2.2

theorem deviceIDString_prints (verbs : Verbs) (known : id ≠ emptyDeviceID) :
    ∃ printed, deviceIDString verbs id = .ok printed ∧ Prints verbs id printed := by
  obtain ⟨printed, ran, letters, given, read⟩ := deviceIDString_spec verbs id
  exact ⟨printed, ran, letters, given known, fun unicode => read unicode _ (Respelled.self printed)⟩

section

variable (verbs : Verbs) {newDeviceID : Bytes → DeviceID} {certificates : Certificates}
  {unlockSeed : List Char}

theorem Derived.printed (derived : Derived newDeviceID certificates unlockSeed)
    (opens : List Char → Bool) :
    Prints verbs (newDeviceID derived.serverCert)
        ((enrolmentMachine verbs newDeviceID certificates opens).machineDeviceID unlockSeed) ∧
      Prints verbs (newDeviceID derived.clientCert)
        ((enrolmentMachine verbs newDeviceID certificates opens).phoneDeviceID unlockSeed) := by
  obtain ⟨machineID, machinePrinted, machinePrints⟩ := deviceIDString_prints verbs derived.server_known
  obtain ⟨phoneID, phonePrinted, phonePrints⟩ := deviceIDString_prints verbs derived.client_known
  have output : idCommand verbs newDeviceID certificates (runes unlockSeed) =
      .ok ("Server ID: ".toList ++ machineID ++
      '\n' :: ("Client ID: ".toList ++ phoneID ++ ['\n'])) := by
    rw [idCommand, if_neg (runes_ne_nil derived.given)]
    simp only [derived.server, derived.client, machinePrinted, phonePrinted]
    rfl
  obtain ⟨machineCut, phoneCut⟩ :=
    setup_cuts_ids (printed_oneWord machinePrints.known machinePrints.given)
    (printed_oneWord phonePrints.known phonePrints.given)
  have machineSame : (enrolmentMachine verbs newDeviceID certificates opens).machineDeviceID
    unlockSeed = machineID := by
    simp only [enrolmentMachine, setupID, output]
    exact machineCut
  have phoneSame : (enrolmentMachine verbs newDeviceID certificates opens).phoneDeviceID
    unlockSeed = phoneID := by
    simp only [enrolmentMachine, setupID, output]
    exact phoneCut
  rw [machineSame, phoneSame]
  exact ⟨machinePrints, phonePrints⟩

theorem Derived.encoded (derived : Derived newDeviceID certificates unlockSeed)
    {opens : List Char → Bool} {input passphrase : List Char}
    (typed : readPassphrase input = some passphrase) (given : passphrase ≠ [])
    (fits : opens passphrase = true) (printing : ∀ c ∈ passphrase, 0x20 ≤ c.toNat)
    (deviceName : String) :
    ∃ document, setupPayload (enrolmentMachine verbs newDeviceID certificates opens) deviceName
      unlockSeed input =
        .ok document ∧
      EnrolsExactly document passphrase unlockSeed
        ((enrolmentMachine verbs newDeviceID certificates opens).machineDeviceID unlockSeed) := by
  obtain ⟨machinePrints, phonePrints⟩ := derived.printed verbs opens
  refine ⟨_, ?_,
    (pairingPayload_enrols_iff passphrase derived.base64.plain machinePrints.plain).mpr printing⟩
  have opened : (enrolmentMachine verbs newDeviceID certificates opens).opens passphrase = true := fits
  simp [setupPayload, typed, given, opened, machinePrints.given, phonePrints.given]

end

/-! The header. -/

/-- What `cryptsetup` makes of a document that it need not rewrite. -/
def KeepsDocuments (reads : Text → Option Token) : Prop :=
  ∀ request : BindRequest, (∀ rune ∈ request.seed, isPlain rune = true) →
    (∀ rune ∈ request.keyHolderDeviceID, isPlain rune = true) →
    ∃ token, reads request.document = some token ∧ token.type = luksTokenType ∧
      token.document ++ [.char '\n'] = request.document

/-- The header after a binding: the token of the request, and besides it only tokens
that were there before and do not mention our type. -/
def Enrolled (request : BindRequest) (before after : Header) : Prop :=
  ∃ id token, after.slot id = some token ∧ IsBound request token ∧
    ∀ other found, other ≠ id → after.slot other = some found →
      before.slot other = some found ∧ mentionsType found.document = false

theorem syncthingLuksBind_enrols {reads : Text → Option Token} (keeps : KeepsDocuments reads)
    {request : BindRequest} (seedPlain : ∀ rune ∈ request.seed, isPlain rune = true)
    (holderPlain : ∀ rune ∈ request.keyHolderDeviceID, isPlain rune = true) {before : Header}
    (room : ∃ id, id < 32 ∧ (before.slot id = none ∨ before.mentions id = true)) :
    ∃ after, syncthingLuksBind reads noFaults
        [request.device, request.seed, request.keyHolderDeviceID, request.role] before = .ok after ∧
      Enrolled request before after := by
  obtain ⟨token, accepted, ours, kept⟩ := keeps request seedPlain holderPlain
  have document : token.document = request.line :=
    List.append_cancel_right (kept.trans request.document_eq)
  have swept := removeFrom_swept noFaults 32 0 before
  have imported := importToken_imported reads noFaults request.document (before.without 0 32)
  have ran : syncthingLuksBind reads noFaults [request.device, request.seed,
    request.keyHolderDeviceID, request.role]
      before = removeFrom noFaults 32 0 before >>= importToken reads noFaults request.document := by
    rw [syncthingLuksBind, bindRequest_given]
    rfl
  rw [ran]
  rw [Nat.zero_add] at swept
  generalize removeFrom noFaults 32 0 before = loop at swept
  cases swept with
  | stopped id _ _ _ fails => exact absurd fails (by simp [noFaults])
  | done _ =>
      change ∃ after, importToken reads noFaults request.document (before.without 0 32) = .ok after ∧ _
      generalize importToken reads noFaults request.document (before.without 0 32) = result at imported
      cases imported with
      | failed why =>
          obtain ⟨id, bound, free⟩ := room
          rcases why with fails | refused | full
          · exact absurd fails (by simp [noFaults])
          · simp [accepted] at refused
          · exact absurd ((Header.without_slot_none bound).mpr free) (full id bound)
      | done id new _ read bound _ =>
          obtain rfl : token = new := Option.some.inj (accepted.symm.trans read)
          refine ⟨_, rfl, id, token, Header.insert_slot_self bound,
            ⟨seedPlain, holderPlain, ours, document⟩, ?_⟩
          intro other found different stored
          rw [Header.insert_slot_other different] at stored
          obtain ⟨old, unmentioned⟩ := Header.without_slot_some stored
          exact ⟨old, by simpa [Header.mentions, old] using unmentioned⟩

theorem Enrolled.read {request : BindRequest} {before after : Header}
    (enrolled : Enrolled request before after) (quote : Text → String) :
    findLUKSConfig quote none request.device after =
        .ok (some ⟨request.device, request.seed, request.keyHolderDeviceID, request.role⟩) ∧
      readConfig none after = some ⟨request.seed, request.keyHolderDeviceID, request.role⟩ := by
  obtain ⟨id, token, stored, bound, others⟩ := enrolled
  have agent := Header.tokens_first stored (bound.agent quote)
    fun other found early held =>
      agentReads_unmentioned (others other found (Nat.ne_of_lt early) held).2 quote
  have script := Header.tokens_first stored (bound.script (sourcedConfig none))
    fun other found early held =>
      scriptReads_unmentioned (others other found (Nat.ne_of_lt early) held).2 _
  refine ⟨?_, ?_⟩
  · rw [findLUKSConfig, scanDevice_eq, agent]
    rfl
  · rw [readConfig_eq, readTokens_eq, script, Option.getD_some, if_neg request.seed_given]

section

variable {newDeviceID : Bytes → DeviceID} {certificates : Certificates} {unlockSeed : List Char}

theorem server_role : text "server" = text "client" ∨ text "server" = text "server" := Or.inr rfl

/-- The binding that the setup script prints. -/
def setupRequest {device : Text} (named : device ≠ []) (given : unlockSeed ≠ [])
    (phoneID : List Char) : BindRequest :=
  ⟨device, runes unlockSeed, runes phoneID, text "server", named, runes_ne_nil given, server_role⟩

theorem Derived.plain (derived : Derived newDeviceID certificates unlockSeed) (verbs : Verbs)
    (opens : List Char → Bool) : (∀ rune ∈ runes unlockSeed, isPlain rune = true) ∧
    ∀ rune ∈ runes ((enrolmentMachine verbs newDeviceID certificates opens).phoneDeviceID unlockSeed),
      isPlain rune = true :=
  ⟨isPlain_runes derived.base64.plain, isPlain_runes (derived.printed verbs opens).2.plain⟩

theorem Derived.enrols (derived : Derived newDeviceID certificates unlockSeed) (verbs : Verbs)
    (opens : List Char → Bool) {reads : Text → Option Token} (keeps : KeepsDocuments reads)
    {device : Text} (named : device ≠ []) {before : Header}
    (room : ∃ id, id < 32 ∧ (before.slot id = none ∨ before.mentions id = true)) :
    let phoneID := (enrolmentMachine verbs newDeviceID certificates opens).phoneDeviceID unlockSeed
    ∃ after, syncthingLuksBind reads noFaults (setupBindArgs device unlockSeed phoneID)
      before = .ok after ∧ Enrolled (setupRequest named derived.given phoneID) before after := by
  intro phoneID
  obtain ⟨seedPlain, holderPlain⟩ := derived.plain verbs opens
  exact @syncthingLuksBind_enrols reads keeps (setupRequest named derived.given phoneID) seedPlain
    holderPlain _ room

end

/-! The next boot. -/

def enrolmentEnv (verbs : Verbs) (unicode : UpperCase) (certificates : Certificates)
    (newCertificateInMemory : Except Err Unit) :
    ServerEnv where
  generateDeterministicCert seed := (certificates seed).map fun _ => ()
  newCertificateInMemory := newCertificateInMemory
  deviceIDFromString := deviceIDFromString verbs unicode

theorem unlockServer_one {verbs : Verbs} {printed unlockSeed : List Char}
    (prints : Prints verbs id printed) {cert : Bytes} {certificates : Certificates}
    (given : unlockSeed ≠ []) (plain : ∀ c ∈ unlockSeed, Plain c)
    (made : certificates (runes unlockSeed ++ certSuffixServer) = .ok cert) (unicode : UpperCase)
    (fresh : Except Err Unit) (quote : Text → String) (device : Text) :
    unlockServer (enrolmentEnv verbs unicode certificates fresh) quote
      ⟨device, runes unlockSeed, runes printed, text "server"⟩ = .ok [id] := by
  obtain ⟨alone, untrimmed⟩ := printed_alone prints.known
  have nonempty := runes_ne_nil prints.given
  rw [unlockServer_eq _ rfl (runes_ne_nil given) nonempty]
  have nonzero : ¬ (.char '\x00' ∈ runes unlockSeed ∨ .char '\x00' ∈ runes printed) := by
    rintro (found | found)
    · exact Plain.nonzero plain found
    · exact Plain.nonzero prints.plain found
  have added : addClient (deviceIDFromString verbs unicode) [] (runes printed) = .ok [id] := by
    simp [addClient, untrimmed, nonempty, prints.read unicode]
  simp only [nonzero, ↓reduceIte, alone, enrolmentEnv, made, List.foldlM_cons, List.foldlM_nil, added]
  rfl

def Rune.octet : Rune → UInt8
  | char c => UInt8.ofNat c.toNat
  | invalid byte => byte

def seedCertificates : Certificates := fun seed => .ok (seed.map Rune.octet)

theorem seed_known {c : Char} (visible : (Rune.char c).octet ≠ 0) (rest : Text) :
    referencePlatform.newDeviceID ((Rune.char c :: rest).map Rune.octet) ≠ emptyDeviceID := by
  intro same
  have first := congrArg (fun id : DeviceID => id[0]) same
  simp [referencePlatform, emptyDeviceID] at first
  exact visible first

def enrolledSeed : List Char := "c2VlZA==".toList

def enrolledIDs : Derived referencePlatform.newDeviceID seedCertificates enrolledSeed where
  serverCert := (runes enrolledSeed ++ certSuffixServer).map Rune.octet
  clientCert := (runes enrolledSeed ++ text certSuffixClient).map Rune.octet
  given := by decide
  base64 := List.all_iff_forall_prop.mp (by decide)
  server := rfl
  client := rfl
  server_known := seed_known (by decide) _
  client_known := seed_known (by decide) _

def keepingReads (document : Text) : Option Token :=
  if shown : text "\"type\":\"" ++ luksTokenType ++ text "\"" <:+: document.dropLast then
    some ⟨luksTokenType, document.dropLast, fun _ => shown⟩
  else none

theorem keepingReads_keeps : KeepsDocuments keepingReads := by
  intro request seedPlain holderPlain
  have last : request.document.dropLast = request.line := by
    rw [request.document_eq, List.dropLast_concat]
  have shown : text "\"type\":\"" ++ luksTokenType ++ text "\"" <:+: request.document.dropLast := by
    rw [last]
    exact ⟨[.char '\x7b'], _, rfl⟩
  refine ⟨_, dif_pos shown, rfl, ?_⟩
  exact (congrArg (· ++ [.char '\n']) last).trans request.document_eq.symm

theorem vda2_given : text "/dev/vda2" ≠ [] := List.cons_ne_nil _ _

theorem IsBound.unbroken {request : BindRequest} {token : Token} (bound : IsBound request token) :
    .char '\n' ∉ token.document := by
  have plain {w : Text} (plain : ∀ rune ∈ w, isPlain rune = true) : .char '\n' ∉ w :=
    fun member => absurd (plain _ member) (by decide)
  rw [bound.document]
  simp [BindRequest.line, Scan.separator, plain bound.seed_plain, plain bound.holder_plain,
    plain request.role_plain, text]

end SyncthingSocket
