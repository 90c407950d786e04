import SyncthingSocket.Admission
import SyncthingSocket.Luks.Token
import SyncthingSocket.Lines

/-!
Pinning the key holder: from the Device ID in the configuration, through the arguments of
`fetchPassphrase` and the server command of `main.go`, to the list that `handleServerConn` checks.
-/

namespace SyncthingSocket

open Effect Effect.Program Framing

/-! The server command, for the flags that `fetchPassphrase` gives it. The others keep
their defaults: no mode but the pipe, and no TOTP secret. -/

def parseFlags : List Text → Option (List (Text × Text))
  | [] => some []
  | [_] => none
  | flag :: value :: rest =>
      if text "--" <+: flag then (parseFlags rest).map fun flags => (flag.drop 2, value) :: flags else none

def flagValue (flags : List (Text × Text)) (name : Text) : Text :=
  ((flags.reverse.find? fun flag => flag.1 = name).map Prod.snd).getD []

/-- One round of the loop over `strings.Split(serverAuthorizedClients, ",")`. -/
def addClient (deviceIDFromString : Text → Except Err DeviceID) (authorizedClients : List DeviceID)
    (idStr : Text) : Except Err (List DeviceID) := do
  let idStr := idStr.trimSpace
  if idStr ≠ [] then
    let devID ← deviceIDFromString idStr
    return authorizedClients ++ [devID]
  else return authorizedClients

def parseAuthorizedClients (deviceIDFromString : Text → Except Err DeviceID)
    (serverAuthorizedClients : Text) :
    Except Err (List DeviceID) :=
  if serverAuthorizedClients ≠ [] then
    (serverAuthorizedClients.splitOn (.char ',')).foldlM (addClient deviceIDFromString) []
  else .ok []

def certSuffixServer : Text := text "server"

structure ServerEnv where
  generateDeterministicCert : Text → Except Err Unit
  newCertificateInMemory : Except Err Unit
  deviceIDFromString : Text → Except Err DeviceID

/-- Up to the call of `runServerWrapper`: the clients it will accept. An error is the
exit of the process. -/
def serverCommand (env : ServerEnv) (flags : List (Text × Text)) : Except Err (List DeviceID) := do
  let serverSeed := flagValue flags (text "seed")
  if serverSeed ≠ [] then env.generateDeterministicCert (serverSeed ++ certSuffixServer)
  else env.newCertificateInMemory
  parseAuthorizedClients env.deviceIDFromString (flagValue flags (text "authorized-clients"))

/-- Running the program with these arguments; the system refuses an argument with a
zero byte in it. -/
def startServer (env : ServerEnv) (args : List Text) : Except Err (List DeviceID) :=
  if args.any fun arg => .char '\x00' ∈ arg then .error (.text "invalid argument")
  else
    match args with
    | command :: rest =>
        match parseFlags rest with
        | some flags =>
            if command = text "server" then serverCommand env flags
            else .error (.text "unknown command")
        | none => .error (.text "unknown flag")
    | [] => .error (.text "unknown command")

def unlockServer (env : ServerEnv) (quote : Text → String) (cfg : LuksConfig) :
    Except Err (List DeviceID) := do
  let args ← fetchArgs quote cfg
  startServer env args

def pipeMode : ServerMode := ⟨false, false, "", ""⟩

def StaysPinned (platform : Platform) (env : ServerEnv) (keyHolderDeviceID : Text)
    (authorizedClients : List DeviceID) : Prop :=
  authorizedClients ≠ [] ∧
  (∀ id ∈ authorizedClients, ∃ idStr ∈ keyHolderDeviceID.splitOn (.char ','),
    env.deviceIDFromString (Text.trimSpace idStr) = .ok id) ∧
  ∀ isRelay log rest op, Runs
    (handleServerConn platform ⟨isRelay, authorizedClients, ""⟩ pipeMode) log rest →
    (Asks rest op ∨ ∃ answer, (⟨op, answer⟩ : Sigma Answer) ∈ log) → ApplicationOp op →
    ∃ leaf others later, log = ⟨.handshake .incoming, .ok (leaf :: others)⟩ :: later ∧
      platform.newDeviceID leaf ∈ authorizedClients

/-! The list. -/

theorem mem_splitOnP_iff {α : Type} (p : α → Bool) (l : List α) (a : α) :
    (∃ piece ∈ l.splitOnP p, a ∈ piece) ↔ a ∈ l ∧ p a = false := by
  induction l with
  | nil => simp
  | cons first rest ih =>
      rw [List.splitOnP_cons_eq_if_modifyHead]
      cases parts : rest.splitOnP p with
      | nil => exact absurd parts (List.splitOnP_ne_nil p rest)
      | cons head others =>
          rw [parts] at ih
          cases separates : p first with
          | true =>
              simp only [↓reduceIte, List.mem_cons, exists_eq_or_imp, List.not_mem_nil, false_or] at ih ⊢
              rw [ih]
              constructor
              · rintro ⟨member, inside⟩
                exact ⟨Or.inr member, inside⟩
              · rintro ⟨rfl | member, inside⟩
                · simp [separates] at inside
                · exact ⟨member, inside⟩
          | false =>
              simp only [Bool.false_eq_true, ↓reduceIte, List.modifyHead_cons, List.mem_cons,
                exists_eq_or_imp] at ih ⊢
              rw [or_assoc, ih]
              constructor
              · rintro (rfl | ⟨member, inside⟩)
                · exact ⟨Or.inl rfl, separates⟩
                · exact ⟨Or.inr member, inside⟩
              · rintro ⟨rfl | member, inside⟩
                · exact Or.inl rfl
                · exact Or.inr ⟨member, inside⟩

theorem addClient_blank {deviceIDFromString : Text → Except Err DeviceID} {before : List DeviceID}
    {idStr : Text} (blank : idStr.trimSpace = []) :
    addClient deviceIDFromString before idStr = .ok before := by
  simp only [addClient, blank, ne_eq, not_true_eq_false, ↓reduceIte]
  rfl

theorem addClients_ok {deviceIDFromString : Text → Except Err DeviceID} {idStrs : List Text}
    {before after : List DeviceID}
    (added : idStrs.foldlM (addClient deviceIDFromString) before = .ok after) :
    (∀ id ∈ after, id ∈ before ∨ ∃ idStr ∈ idStrs, deviceIDFromString idStr.trimSpace = .ok id) ∧
      (after = [] → before = [] ∧ ∀ idStr ∈ idStrs, idStr.trimSpace = []) := by
  induction idStrs generalizing before with
  | nil =>
      cases added
      exact ⟨fun id member => Or.inl member, fun empty => ⟨empty, by simp⟩⟩
  | cons idStr idStrs ih =>
      rw [List.foldlM_cons] at added
      by_cases blank : idStr.trimSpace = []
      · rw [addClient_blank blank] at added
        obtain ⟨members, empty⟩ := ih added
        refine ⟨?_, ?_⟩
        · intro id member
          rcases members id member with early | ⟨other, listed, parsed⟩
          · exact Or.inl early
          · exact Or.inr ⟨other, List.mem_cons_of_mem _ listed, parsed⟩
        · intro none
          refine ⟨(empty none).1, ?_⟩
          intro other member
          rcases List.mem_cons.mp member with rfl | member
          · exact blank
          · exact (empty none).2 other member
      · cases parsed : deviceIDFromString idStr.trimSpace with
        | error err =>
            have failed : addClient deviceIDFromString before idStr = .error err := by
              simp [addClient, blank, parsed]
            rw [failed] at added
            cases added
        | ok devID =>
            have appended : addClient deviceIDFromString before idStr = .ok (before ++ [devID]) := by
              simp [addClient, blank, parsed]
            rw [appended] at added
            obtain ⟨members, empty⟩ := ih added
            refine ⟨?_, ?_⟩
            · intro id member
              rcases members id member with early | ⟨other, listed, also⟩
              · rcases List.mem_append.mp early with early | last
                · exact Or.inl early
                · rw [List.mem_singleton.mp last]
                  exact Or.inr ⟨idStr, List.mem_cons_self, parsed⟩
              · exact Or.inr ⟨other, List.mem_cons_of_mem _ listed, also⟩
            · intro none
              -- a client that was added stays on the list
              have gone := (empty none).1
              simp at gone

theorem addClients_blank {deviceIDFromString : Text → Except Err DeviceID} {idStrs : List Text}
    {before : List DeviceID} (blank : ∀ idStr ∈ idStrs, idStr.trimSpace = []) :
    idStrs.foldlM (addClient deviceIDFromString) before = .ok before := by
  induction idStrs with
  | nil => rfl
  | cons idStr idStrs ih =>
      rw [List.foldlM_cons, addClient_blank (blank idStr List.mem_cons_self)]
      exact ih fun other member => blank other (List.mem_cons_of_mem _ member)

theorem blank_pieces_iff (list : Text) :
    (∀ idStr ∈ list.splitOn (.char ','), Text.trimSpace idStr = []) ↔
      ∀ rune ∈ list, rune = .char ',' ∨ rune.isSpace = true := by
  constructor
  · intro blank rune member
    by_cases comma : rune = .char ','
    · exact Or.inl comma
    · obtain ⟨piece, listed, inside⟩ :=
        (mem_splitOnP_iff (· == Rune.char ',') list rune).mpr ⟨member, by simpa using comma⟩
      exact Or.inr ((trimSpace_eq_nil_iff piece).mp (blank piece listed) rune inside)
  · intro spaces piece listed
    rw [trimSpace_eq_nil_iff]
    intro rune inside
    obtain ⟨member, other⟩ := (mem_splitOnP_iff (· == Rune.char ',') list rune).mp ⟨piece, listed, inside⟩
    exact (spaces rune member).resolve_left (by simpa using other)

/-! The configuration. -/

def LuksConfig.Accepted (quote : Text → String) (cfg : LuksConfig) : Prop :=
  (∃ raw found, parseLUKSToken quote raw = .ok (some found) ∧ cfg = { found with device := cfg.device }) ∨
    ∃ file, parseLuksConf quote file = .ok (some cfg)

theorem LuksConfig.Accepted.seed_given {quote : Text → String} {cfg : LuksConfig}
    (accepted : cfg.Accepted quote) :
    cfg.seed ≠ [] := by
  rcases accepted with ⟨raw, found, parsed, same⟩ | ⟨file, parsed⟩
  · obtain ⟨tok, _, _, given, seed, _⟩ := parseLUKSToken_ok parsed
    rw [same, seed]
    exact given
  · rw [parseLuksConf] at parsed
    split at parsed
    · simp at parsed
    · split at parsed
      · simp at parsed
      · next given =>
          split at parsed
          · simp at parsed
          · cases parsed
            exact given

theorem unlockServer_eq (env : ServerEnv) {quote : Text → String} {cfg : LuksConfig}
    (role : cfg.role = text "server") (seed : cfg.seed ≠ []) (holder : cfg.keyHolderDeviceID ≠ []) :
    unlockServer env quote cfg =
      if .char '\x00' ∈ cfg.seed ∨
        .char '\x00' ∈ cfg.keyHolderDeviceID then .error (.text "invalid argument")
      else env.generateDeterministicCert (cfg.seed ++ certSuffixServer) >>= fun _ =>
        (cfg.keyHolderDeviceID.splitOn (.char ',')).foldlM (addClient env.deviceIDFromString) [] := by
  have args : fetchArgs quote cfg = .ok [text "server", text "--seed", cfg.seed, text "--log-level", text "error",
      text "--authorized-clients", cfg.keyHolderDeviceID, text "--announce-interval", text unlockAnnounceInterval] := by
    simp [fetchArgs, role, holder]
  have flags : parseFlags [text "--seed", cfg.seed, text "--log-level", text "error", text "--authorized-clients",
      cfg.keyHolderDeviceID, text "--announce-interval", text unlockAnnounceInterval] =
        some [(text "seed", cfg.seed), (text "log-level", text "error"),
          (text "authorized-clients", cfg.keyHolderDeviceID),
            (text "announce-interval", text unlockAnnounceInterval)] :=
    rfl
  have zeros : ([text "server", text "--seed", cfg.seed, text "--log-level", text "error",
      text "--authorized-clients", cfg.keyHolderDeviceID, text "--announce-interval", text unlockAnnounceInterval].any
        fun arg => .char '\x00' ∈ arg) = true ↔ .char '\x00' ∈ cfg.seed ∨
          .char '\x00' ∈ cfg.keyHolderDeviceID := by
    simp [text, unlockAnnounceInterval]
  have command : serverCommand env [(text "seed", cfg.seed), (text "log-level", text "error"),
      (text "authorized-clients", cfg.keyHolderDeviceID),
        (text "announce-interval", text unlockAnnounceInterval)] =
      env.generateDeterministicCert (cfg.seed ++ certSuffixServer) >>= fun _ =>
        (cfg.keyHolderDeviceID.splitOn (.char ',')).foldlM (addClient env.deviceIDFromString) [] := by
    have seedFlag : flagValue [(text "seed", cfg.seed), (text "log-level", text "error"),
        (text "authorized-clients", cfg.keyHolderDeviceID),
        (text "announce-interval", text unlockAnnounceInterval)] (text "seed") = cfg.seed := rfl
    have clientsFlag : flagValue [(text "seed", cfg.seed), (text "log-level", text "error"),
        (text "authorized-clients", cfg.keyHolderDeviceID),
        (text "announce-interval", text unlockAnnounceInterval)] (text "authorized-clients") =
          cfg.keyHolderDeviceID := rfl
    simp only [serverCommand, seedFlag, clientsFlag, seed, holder, parseAuthorizedClients, ne_eq,
      not_false_eq_true, ↓reduceIte]
  rw [unlockServer, args]
  change startServer env _ = _
  rw [startServer]
  by_cases zero : .char '\x00' ∈ cfg.seed ∨ .char '\x00' ∈ cfg.keyHolderDeviceID
  · rw [if_pos (zeros.mpr zero), if_pos zero]
  · rw [if_neg fun found => zero (zeros.mp found), if_neg zero]
    simp only [flags, ↓reduceIte]
    exact command

theorem staysPinned_of_listed (platform : Platform) {env : ServerEnv} {holder : Text}
    {clients : List DeviceID} (nonempty : clients ≠ [])
    (parsed : ∀ id ∈ clients, ∃ idStr ∈ holder.splitOn (.char ','), env.deviceIDFromString
      (Text.trimSpace idStr) = .ok id) :
    StaysPinned platform env holder clients := by
  refine ⟨nonempty, parsed, ?_⟩
  intro isRelay log rest op run occurs application
  rcases admitConn_gate run with ⟨certs, auth, later, rfl, listed, _⟩ | ⟨events, asks⟩
  · rcases listed with empty | ⟨leaf, others, rfl, member⟩
    · exact absurd empty nonempty
    · exact ⟨leaf, others, _, rfl, member⟩
  · rcases occurs with asked | ⟨answer, member⟩
    · exact absurd (Or.inl application) (asks op asked).not_application
    · exact absurd (Or.inl application) (events _ member).not_application

/-- The pin holds exactly if the configured Device ID has more to it than commas and
white space, unless the child exits before it listens. -/
theorem key_holder_stays_pinned_iff (platform : Platform) (env : ServerEnv)
    (quote : Text → String) (cfg : LuksConfig) (accepted : cfg.Accepted quote)
    (server : cfg.role = text "server") (pinned : cfg.keyHolderDeviceID ≠ []) :
    (∀ authorizedClients, unlockServer env quote cfg = .ok authorizedClients →
      StaysPinned platform env cfg.keyHolderDeviceID authorizedClients) ↔
    (∃ rune ∈ cfg.keyHolderDeviceID, rune ≠ .char ',' ∧ rune.isSpace = false) ∨ .char '\x00' ∈ cfg.seed ∨
      ∃ err, env.generateDeterministicCert (cfg.seed ++ certSuffixServer) = .error err := by
  rw [unlockServer_eq env server accepted.seed_given pinned]
  constructor
  · intro stays
    by_contra fails
    simp only [not_or, not_exists, not_and, Bool.not_eq_false] at fails
    obtain ⟨spaces, seedZero, certified⟩ := fails
    have blank : ∀ rune ∈ cfg.keyHolderDeviceID, rune = .char ',' ∨ rune.isSpace = true := by
      intro rune member
      by_cases comma : rune = .char ','
      · exact Or.inl comma
      · exact Or.inr (spaces rune member comma)
    have holderZero : .char '\x00' ∉ cfg.keyHolderDeviceID := by
      intro member
      rcases blank _ member with comma | space
      · exact absurd comma (by decide)
      · exact absurd space (by decide)
    have zero : ¬ (.char '\x00' ∈ cfg.seed ∨ .char '\x00' ∈ cfg.keyHolderDeviceID) := by
      rintro (found | found)
      · exact seedZero found
      · exact holderZero found
    obtain ⟨cert, generated⟩ :
        ∃ cert, env.generateDeterministicCert (cfg.seed ++ certSuffixServer) = .ok cert := by
      cases outcome : env.generateDeterministicCert (cfg.seed ++ certSuffixServer) with
      | error err => exact absurd outcome (certified err)
      | ok cert => exact ⟨cert, rfl⟩
    have unpinned := stays []
    rw [if_neg zero, generated] at unpinned
    exact (unpinned (addClients_blank ((blank_pieces_iff _).mpr blank))).1 rfl
  · rintro condition authorizedClients started
    split at started
    · simp at started
    · next zero =>
        cases generated : env.generateDeterministicCert (cfg.seed ++ certSuffixServer) with
        | error err =>
            rw [generated] at started
            cases started
        | ok cert =>
            rw [generated] at started
            obtain ⟨parsed, empty⟩ := addClients_ok started
            rcases condition with ⟨rune, member, comma, space⟩ | found | ⟨err, failed⟩
            · refine staysPinned_of_listed platform ?_ fun id member =>
                (parsed id member).resolve_left (by simp)
              intro none
              rcases (blank_pieces_iff _).mp (empty none).2 rune member with same | blank
              · exact comma same
              · simp [space] at blank
            · exact absurd (Or.inl found) zero
            · simp [generated] at failed

def referenceEnv : ServerEnv where
  generateDeterministicCert _ := .ok ()
  newCertificateInMemory := .ok ()
  deviceIDFromString s := .ok (referencePlatform.newDeviceID (s.map fun rune => UInt8.ofNat rune.size))

def confWithHolder (holder : String) : FileRead :=
  ⟨text ("P2P_KEY_SEED=s\nUNLOCK_ROLE=server\nKEY_HOLDER_DEVICE_ID=" ++ holder), none⟩

def configWithHolder (holder : String) : LuksConfig := ⟨[], text "s", text holder, text "server"⟩

theorem named_holder_stays_pinned : (configWithHolder "A").Accepted (fun _ => "") ∧
    ∀ authorizedClients, unlockServer referenceEnv (fun _ => "") (configWithHolder "A") =
      .ok authorizedClients →
      StaysPinned referencePlatform referenceEnv (text "A") authorizedClients := by
  have accepted : (configWithHolder "A").Accepted (fun _ => "") :=
    Or.inr ⟨confWithHolder "A", by decide +kernel⟩
  refine ⟨accepted, ?_⟩
  exact (key_holder_stays_pinned_iff referencePlatform referenceEnv (fun _ => "")
    (configWithHolder "A") accepted
    rfl (by decide)).mpr (Or.inl ⟨.char 'A', by decide, by decide, by decide⟩)

theorem comma_admits_everyone :
    parseLuksConf (fun _ => "") (confWithHolder ",") = .ok (some (configWithHolder ",")) ∧
    unlockServer referenceEnv (fun _ => "") (configWithHolder ",") = .ok [] ∧
    ∃ log rest, Runs (handleServerConn referencePlatform ⟨false, [], ""⟩ pipeMode) log rest ∧
      (⟨.handshake .incoming, .ok [[7]]⟩ : Sigma Answer) ∈ log ∧
        Asks rest (.handle .pipe (.tls .incoming)) := by
  refine ⟨by decide +kernel, by decide +kernel, ?_⟩
  have listed : Listed referencePlatform ⟨false, [], ""⟩ [[7]] := Or.inl rfl
  have passed := admitConn_proceeds (fun _ conn => handleConn pipeMode conn) listed
    (performServerAuth_open referencePlatform (.tls .incoming))
  exact ⟨_, _, passed, List.mem_cons_self, _, rfl⟩

end SyncthingSocket
