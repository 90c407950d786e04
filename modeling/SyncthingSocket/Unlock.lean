import SyncthingSocket.StdinFeed
import SyncthingSocket.PeerVerification
import SyncthingSocket.ClientFailures
import SyncthingSocket.Sequence.Occurs

/-!
`UnlockLUKS` of the mobile bridge: it feeds the passphrase to `RunClient` through a
replaced stdin and decides from the text of the error whether that went well.
-/

namespace SyncthingSocket

open Effect Effect.Program Framing

def certSuffixClient : String := "client"

def defaultDiscoveryURL : String := "https://discovery-lookup.syncthing.net/v2/"

def unlockOptions (serverDeviceID : String) : ClientOptions where
  serverID := serverDeviceID
  relayURI := ""
  discoveryServer := defaultDiscoveryURL
  tryDirect := true
  socks := ""
  shell := false
  reverseForward := ""
  totpPasscode := ""

/-- `strings.Contains`. -/
def containsText (s substr : String) : Bool := Sequence.occurs s.toList substr.toList

/-- What `UnlockLUKS` makes of the error of `RunClient`. -/
def unlockResult : Option Err → Option Err
  | none => none
  | some err => if containsText err.message "EOF" then none else some (err.wrap "client failed: ")

/-- The read end of the pipe is stdin from the `go` statement on. -/
def unlockLUKS (platform : Platform) (passphrase : Bytes) (p2pKeySeed serverDeviceID : String) :
    Goroutine (Option Err) := do
  match ← perform .osPipe with
  | some err => return some (err.wrap "failed to create pipe: ")
  | none =>
  perform (.goWriteStdin passphrase)
  match ← perform (.generateCert (p2pKeySeed ++ certSuffixClient)) with
  | some err => return some (err.wrap "failed to generate cert: ")
  | none =>
  let err ← runClient platform (unlockOptions serverDeviceID)
  return unlockResult err

def unlockPrelude (passphrase : Bytes) (p2pKeySeed : String) : Log :=
  [⟨.osPipe, none⟩, ⟨.goWriteStdin passphrase, ()⟩,
    ⟨.generateCert (p2pKeySeed ++ certSuffixClient), none⟩]

/-- All of the passphrase was written to a connection whose peer had proved the
Device ID and on which authentication had succeeded. -/
def PassphraseDelivered (platform : Platform) (serverDeviceID : String) (passphrase : Bytes)
    (log : Log) : Prop :=
  ∃ before conn report after serverID, log = before ++ ⟨.handle .pipe conn, report⟩ :: after ∧
    report.sent = passphrase ∧ platform.deviceIDFromString serverDeviceID = .ok serverID ∧
    Handed platform (unlockOptions serverDeviceID) serverID before conn

variable {passphrase : Bytes} {opts : ClientOptions} {conn : Conn} {client log : Log}
  {platform : Platform} {label : String}

theorem unlockLUKS_runs {p2pKeySeed serverDeviceID : String} {result : Option Err}
    (run : Runs (unlockLUKS platform passphrase p2pKeySeed serverDeviceID) log (.done result)) :
    (result ≠ none ∧ NoHandle log ∧ ∀ client, log ≠ unlockPrelude passphrase p2pKeySeed ++ client) ∨
    ∃ client ended, log = unlockPrelude passphrase p2pKeySeed ++ client ∧
      Runs (runClient platform (unlockOptions serverDeviceID)) client (.done ended) ∧
      result = unlockResult ended := by
  simp only [unlockLUKS, perform_bind] at run
  rcases run with _ | ⟨piped, later⟩
  cases piped with
  | some err =>
      simp only [pure_eq_done, runs_done, Program.done.injEq] at later
      obtain ⟨rfl, rfl⟩ := later
      exact Or.inl ⟨by simp, by simp [NoHandle, isHandle], by simp [unlockPrelude]⟩
  | none =>
  rcases later with _ | ⟨_, later⟩
  rcases later with _ | ⟨certified, later⟩
  cases certified with
  | some err =>
      simp only [pure_eq_done, runs_done, Program.done.injEq] at later
      obtain ⟨rfl, rfl⟩ := later
      exact Or.inl ⟨by simp, by simp [NoHandle, isHandle], by simp [unlockPrelude]⟩
  | none =>
      obtain ⟨client, rest, ended, rfl, early, last⟩ := runs_bind_done later
      simp only [pure_eq_done, runs_done, Program.done.injEq] at last
      obtain ⟨rfl, rfl⟩ := last
      exact Or.inr ⟨client, ended, by simp [unlockPrelude], early, rfl⟩

theorem Verified.after {serverID : DeviceID} {link : Link}
    {later : Log} (verified : Verified platform opts serverID link log later) (early : Log) :
    Verified platform opts serverID link (early ++ log) later := by
  obtain ⟨before, leaf, others, auth, rfl, proved⟩ := verified
  exact ⟨early ++ before, leaf, others, auth, by simp, proved⟩

theorem Handed.after {serverID : DeviceID} (handed : Handed platform opts serverID log conn)
    (early : Log) :
    Handed platform opts serverID (early ++ log) conn := by
  cases conn with
  | tls link =>
      obtain ⟨later, verified⟩ := handed
      exact ⟨later, verified.after early⟩
  | p2p =>
      obtain ⟨upgrade, later, verified, upgraded⟩ := handed
      exact ⟨upgrade, later, verified.after early, upgraded⟩
  | raw link => exact handed.elim
  | target => exact handed.elim

theorem runClient_delivers {serverDeviceID : String} {early : Log} {ended : Option Err}
    {report : PipeReport}
    (run : Runs (runClient platform (unlockOptions serverDeviceID)) client (.done ended))
    (handled : (⟨.handle .pipe conn, report⟩ : Sigma Answer) ∈ client)
    (sent : report.sent = passphrase) :
    PassphraseDelivered platform serverDeviceID passphrase (early ++ client) := by
  obtain ⟨before, after, rfl⟩ := List.append_of_mem handled
  obtain ⟨next, asked⟩ := run.asked
  obtain ⟨serverID, identity⟩ := runClient_identity asked
  obtain ⟨_, handed⟩ := (runClient_meets identity).asks asked
  exact ⟨early ++ before, conn, report, after, serverID, by simp, sent, identity, handed.after early⟩

theorem runClient_fails_unhandled {err : Err}
    (run : Runs (runClient platform opts) client (.done (some err))) : NoHandle client := by
  cases identity : platform.deviceIDFromString opts.serverID with
  | ok serverID => exact ((runClient_meets identity).finishes run).2 (by simp)
  | error failure =>
      simp only [runClient, identity, pure_eq_done, runs_done] at run
      simp [run.1, NoHandle]

/-! A client with none of the other modes selected hands its connection to the pipe. -/

def PipeOnly : Op → Prop
  | .handle app _ => app = .pipe
  | _ => True

theorem talks_pipeOnly {α : Type} {link : Link} {program : Goroutine α} (log : Log)
    (talks : Meets (Contract.always fun _ op => Talk link op) (fun _ _ => True) program []) :
    Meets (Contract.always fun _ op => PipeOnly op) (fun _ _ => True) program log := by
  apply meets_of_runs
  · intro inner op next run
    have quiet := ((talks.confined run).2 op next rfl).1.1
    cases op with
    | handle app conn => simp [isHandle] at quiet
    | _ => trivial
  · simp

section

variable {platform : Platform} {serverDeviceID : String} {serverID : DeviceID}

theorem handleClientConn_pipeOnly (conn : Conn) (log : Log) :
    Meets (Contract.always fun _ op => PipeOnly op) (fun _ _ => True)
      (handleClientConn (unlockOptions serverDeviceID) conn) log := by
  simp only [handleClientConn, unlockOptions, ne_eq, not_true_eq_false, Bool.false_eq_true, if_false]
  exact ⟨rfl, fun _ _ => ⟨trivial, fun _ _ => trivial⟩⟩

theorem attemptDirect_pipeOnly (index : Nat) (addrStr : String) (log : Log) :
    Meets (Contract.always fun _ op => PipeOnly op) (fun _ _ => True)
      (attemptDirect platform (unlockOptions serverDeviceID) serverID index addrStr) log := by
  simp only [attemptDirect, perform_bind]
  cases platform.urlHost addrStr with
  | error err => trivial
  | ok host =>
  refine ⟨trivial, fun dialled _ => ?_⟩
  cases dialled with
  | some err => trivial
  | none =>
  refine ⟨trivial, fun shaken _ => ?_⟩
  rcases shaken with err | _ | ⟨leaf, others⟩
  · exact ⟨trivial, fun _ _ => trivial⟩
  · exact ⟨trivial, fun _ _ => trivial⟩
  simp only
  split
  · exact ⟨trivial, fun _ _ => trivial⟩
  apply Meets.bind
  apply (talks_pipeOnly _ (performClientAuth_talks _ _)).mono
  intro failure later _
  cases failure with
  | some err => exact ⟨trivial, fun _ _ => trivial⟩
  | none => exact ((handleClientConn_pipeOnly _ _).mono fun _ _ _ => trivial).bind

theorem attemptAll_pipeOnly (index : Nat) (addresses : List String) (log : Log) :
    Meets (Contract.always fun _ op => PipeOnly op) (fun _ _ => True)
      (attemptAll platform (unlockOptions serverDeviceID) serverID index addresses) log := by
  induction addresses generalizing index log with
  | nil => trivial
  | cons addrStr rest ih =>
      apply Meets.bind
      apply (attemptDirect_pipeOnly index addrStr log).mono
      intro used later _
      cases used with
      | true => trivial
      | false => exact ih _ _

theorem useRelay_pipeOnly (log : Log) :
    Meets (Contract.always fun _ op => PipeOnly op) (fun _ _ => True)
      (useRelay platform (unlockOptions serverDeviceID)) log := by
  simp only [useRelay, perform_bind]
  split
  · exact handleClientConn_pipeOnly _ _
  apply Meets.bind
  apply (talks_pipeOnly _ (negotiateWebRTCClient_talks _)).mono
  intro failure later _
  cases failure with
  | some err =>
      apply Meets.bind
      apply (talks_pipeOnly _ (sendSignal_talks _ _)).mono
      exact fun _ _ _ => handleClientConn_pipeOnly _ _
  | none => exact ⟨trivial, fun _ _ => handleClientConn_pipeOnly _ _⟩

theorem relaySession_pipeOnly (log : Log) :
    Meets (Contract.always fun _ op => PipeOnly op) (fun _ _ => True)
      (relaySession platform (unlockOptions serverDeviceID) serverID) log := by
  simp only [relaySession, deferClose, perform_bind, ask_bind]
  have closing {later : Log} {result : Option Err} :
      Meets (Contract.always fun _ op => PipeOnly op) (fun _ _ => True)
        (.ask (.close (.raw .relay)) fun _ => .done result) later :=
    ⟨trivial, fun _ _ => trivial⟩
  refine ⟨trivial, fun shaken _ => ?_⟩
  rcases shaken with err | _ | ⟨leaf, others⟩
  · exact closing
  · exact ⟨trivial, fun _ _ => closing⟩
  simp only
  split
  · exact ⟨trivial, fun _ _ => closing⟩
  simp only [Program.bind_assoc]
  apply Meets.bind
  apply (talks_pipeOnly _ (performClientAuth_talks _ _)).mono
  intro failure later _
  cases failure with
  | some err => exact ⟨trivial, fun _ _ => closing⟩
  | none =>
      simp only [Program.bind_assoc]
      apply Meets.bind
      exact (useRelay_pipeOnly _).mono fun _ _ _ => closing

theorem runClient_pipeOnly :
    Meets (Contract.always fun _ op => PipeOnly op) (fun _ _ => True)
      (runClient platform (unlockOptions serverDeviceID)) [] := by
  rw [runClient]
  cases platform.deviceIDFromString (unlockOptions serverDeviceID).serverID with
  | error err => trivial
  | ok serverID =>
  have looks : Meets (Contract.always fun _ op => PipeOnly op) (fun _ _ => True)
      (lookupAddresses platform (unlockOptions serverDeviceID) serverID) [] := by
    refine ⟨trivial, fun found _ => ?_⟩
    cases found <;> trivial
  apply Meets.bind
  apply looks.mono
  intro found log _
  cases found with
  | error err => trivial
  | ok addresses =>
  apply Meets.bind
  have attempts {log : Log} : Meets (Contract.always fun _ op => PipeOnly op) (fun _ _ => True)
      (if (unlockOptions serverDeviceID).tryDirect = true ∧ (addresses.filter isDirect).length > 0 then
        attemptAll platform (unlockOptions serverDeviceID) serverID 0 (addresses.filter isDirect)
        else return false) log := by
    split
    · exact attemptAll_pipeOnly _ _ _
    · trivial
  apply attempts.mono
  intro used later _
  cases used with
  | true => trivial
  | false =>
  simp only [Bool.false_eq_true, if_false]
  split
  · trivial
  refine ⟨trivial, fun dialled _ => ?_⟩
  cases dialled with
  | some err => trivial
  | none => exact relaySession_pipeOnly _

theorem runClient_pipes
    (run : Runs (runClient platform (unlockOptions serverDeviceID)) client (.done none)) :
    ∃ conn report, (⟨.handle .pipe conn, report⟩ : Sigma Answer) ∈ client := by
  cases identity : platform.deviceIDFromString (unlockOptions serverDeviceID).serverID with
  | error failure =>
      simp only [runClient, identity, pure_eq_done, runs_done] at run
      cases run.2
  | ok serverID =>
      obtain ⟨before, ⟨op, answer⟩, after, rfl, _, isHandled, _⟩ :=
        ((runClient_meets identity).finishes run).1 rfl
      cases op with
      | handle app conn =>
          obtain ⟨next, asked⟩ := run.asked
          have piped : app = .pipe := runClient_pipeOnly.asks asked
          cases app with
          | pipe => exact ⟨conn, answer, by simp⟩
          | _ => cases piped
      | _ => simp [isHandle] at isHandled

end

/-! Where the text of an error can come to contain `EOF`. -/

def RelayFailure.texts : RelayFailure → List String
  | unusable => []
  | invitation host cause => [host, cause.message]
  | session host cause => [host, cause.message]

def ClientFailure.texts : ClientFailure → List String
  | badServerID cause => [cause.message]
  | notFound serverID => [serverID]
  | lookup cause => [cause.message]
  | unconnectable => []
  | relays failure => failure.texts
  | cancelled err => [err.message]
  | handshake cause => [cause.message]
  | noCertificates => []
  | mismatch peerID serverID => [peerID, serverID]
  | auth cause => [cause.message]

theorem contains_behind {substr : String} (cause : String)
    (apart : Sequence.abuts label.toList substr.toList = false)
    (absent : containsText label substr = false) :
    containsText (label ++ cause) substr = containsText cause substr := by
  rw [Bool.eq_iff_iff, containsText, containsText, Sequence.occurs_iff, Sequence.occurs_iff,
    String.toList_append, Sequence.infix_behind_label _ apart]
  refine or_iff_right fun inside => ?_
  rw [containsText, (Sequence.occurs_iff _ _).mpr inside] at absent
  contradiction

theorem contains_before {rest substr : String} {mark : Char} {tail : List Char} (first : String)
    (begins : rest.toList = mark :: tail) (absent : mark ∉ substr.toList) :
    containsText (first ++ rest) substr = (containsText first substr || containsText rest substr) := by
  rw [Bool.eq_iff_iff, Bool.or_eq_true, containsText, containsText, containsText, Sequence.occurs_iff,
    Sequence.occurs_iff, Sequence.occurs_iff, String.toList_append, begins]
  exact Sequence.infix_before_mark _ absent

theorem relay_mentions (host cause : String)
    (apart : Sequence.abuts label.toList "EOF".toList = false)
    (absent : containsText label "EOF" = false) :
    containsText (label ++ host ++ ": " ++ cause) "EOF" =
      [host, cause].any (containsText · "EOF") := by
  have colon : (": " ++ cause).toList = ':' :: ' ' :: cause.toList := by simp
  rw [String.append_assoc, String.append_assoc, contains_behind _ apart absent,
    contains_before host colon (by decide), contains_behind cause (by decide) (by decide)]
  simp

theorem RelayFailure.mentions_iff (failure : RelayFailure) :
    containsText failure.err.message "EOF" = failure.texts.any (containsText · "EOF") := by
  cases failure with
  | unusable => decide
  | invitation host cause => exact relay_mentions host cause.message (by decide) (by decide)
  | session host cause => exact relay_mentions host cause.message (by decide) (by decide)

theorem wrap_mentions (cause : Err) (apart : Sequence.abuts label.toList "EOF".toList = false)
    (absent : containsText label "EOF" = false) :
    containsText (cause.wrap label).message "EOF" = [cause.message].any (containsText · "EOF") := by
  rw [Err.wrap, Err.message, contains_behind _ apart absent]
  simp

theorem ClientFailure.mentions_iff (failure : ClientFailure) :
    containsText failure.err.message "EOF" = failure.texts.any (containsText · "EOF") := by
  cases failure with
  | badServerID cause => exact wrap_mentions cause (by decide) (by decide)
  | notFound serverID =>
      have blank : " not found in discovery".toList = ' ' :: "not found in discovery".toList := by decide
      have silent : containsText " not found in discovery" "EOF" = false := by decide
      simp only [ClientFailure.err, Err.wrap, Err.message]
      rw [contains_behind _ (by decide) (by decide), String.append_assoc,
        contains_behind _ (by decide) (by decide), contains_before serverID blank (by decide), silent]
      simp [ClientFailure.texts]
  | lookup cause => exact wrap_mentions cause (by decide) (by decide)
  | unconnectable => decide
  | relays failure => exact failure.mentions_iff
  | cancelled err => simp [ClientFailure.err, ClientFailure.texts]
  | handshake cause => exact wrap_mentions cause (by decide) (by decide)
  | noCertificates => decide
  | mismatch peerID serverID =>
      have comma :
          (", expected " ++ serverID).toList = ',' :: (" expected ".toList ++ serverID.toList) := by
        simp
      simp only [ClientFailure.err, Err.message]
      rw [String.append_assoc, String.append_assoc, contains_behind _ (by decide) (by decide),
        contains_before peerID comma (by decide), contains_behind serverID (by decide) (by decide)]
      simp [ClientFailure.texts]
  | auth cause => exact wrap_mentions cause (by decide) (by decide)

/-! A whole call. -/

/-- A call that has returned. If it came to use a connection, `feeding` is what had become of
the two pipes, the one in the place of stdin and the one to the server, after these events. -/
structure Unlocked (platform : Platform) (passphrase : Bytes) (p2pKeySeed serverDeviceID : String) where
  log : Log
  result : Option Err
  run : Runs (unlockLUKS platform passphrase p2pKeySeed serverDeviceID) log (.done result)
  relays : RelayAnswers platform log
  events : List FeedEvent
  feeding : Feeding
  fed : Trace FeedStep (Feeding.start passphrase) events feeding
  piped : ∀ conn report, (⟨.handle .pipe conn, report⟩ : Sigma Answer) ∈ log →
    report = feeding.pipe.report ∧ feeding.pipe.returned = true

section

variable {platform : Platform} {passphrase : Bytes} {p2pKeySeed serverDeviceID : String}

/-- No stage failed with a text that has `EOF` in it. -/
def Unlocked.FailsPlainly (unlocked : Unlocked platform passphrase p2pKeySeed serverDeviceID) :
    Prop :=
  ∀ client failure, unlocked.log = unlockPrelude passphrase p2pKeySeed ++ client →
    Failing platform (unlockOptions serverDeviceID) client failure →
    ∀ text ∈ failure.texts, containsText text "EOF" = false

/-- If a connection was used, it answered every block of the passphrase with its length, and
the last of them before the call returned. -/
def Unlocked.SendsWhole (unlocked : Unlocked platform passphrase p2pKeySeed serverDeviceID) :
    Prop :=
  ∀ conn report, (⟨.handle .pipe conn, report⟩ : Sigma Answer) ∈ unlocked.log →
    SentWhole passphrase unlocked.events

theorem PassphraseDelivered.handled
    (delivered : PassphraseDelivered platform serverDeviceID passphrase log) :
    ∃ conn report, (⟨.handle .pipe conn, report⟩ : Sigma Answer) ∈ log ∧ report.sent = passphrase := by
  obtain ⟨before, conn, report, after, _, rfl, sent, _⟩ := delivered
  exact ⟨conn, report, by simp, sent⟩

theorem RelayAnswers.later {early later : Log} (answers : RelayAnswers platform (early ++ later)) :
    RelayAnswers platform later :=
  fun relayAddresses err member => answers relayAddresses err (List.mem_append_right _ member)

theorem unlockPrelude_unhandled : NoHandle (unlockPrelude passphrase p2pKeySeed) := by
  simp [NoHandle, unlockPrelude, isHandle]

theorem NoHandle.unpiped (unhandled : NoHandle log) (conn : Conn) (report : PipeReport) :
    (⟨.handle .pipe conn, report⟩ : Sigma Answer) ∉ log := fun member =>
  absurd (unhandled _ member) (by simp [isHandle])

theorem failed_truthful_iff {err : Err} (answers : RelayAnswers platform client)
    (ran : Runs (runClient platform (unlockOptions serverDeviceID)) client (.done (some err))) :
    unlockResult (some err) ≠ none ↔
      ∀ failure, Failing platform (unlockOptions serverDeviceID) client failure →
        ∀ text ∈ failure.texts, containsText text "EOF" = false := by
  have reported : unlockResult (some err) ≠ none ↔ containsText err.message "EOF" = false := by
    simp [unlockResult]
  have same {failure : ClientFailure}
      (failing : Failing platform (unlockOptions serverDeviceID) client failure) : err = failure.err := by
    have equal := ran.rest_unique failing.runs
    injection equal with equal
    injection equal
  rw [reported]
  constructor
  · intro plain failure failing
    rw [same failing, failure.mentions_iff] at plain
    simpa using plain
  · intro plain
    obtain ⟨failure, failing⟩ := failing_of_runs answers ran
    rw [same failing, failure.mentions_iff]
    simpa using plain failure failing

/-- `UnlockLUKS` reports a delivery that did not happen exactly when a stage fails with a text
that has `EOF` in it, or the connection did not take the passphrase in time. -/
theorem unlockLUKS_truthful_iff
    (unlocked : Unlocked platform passphrase p2pKeySeed serverDeviceID) :
    (unlocked.result = none →
      PassphraseDelivered platform serverDeviceID passphrase unlocked.log) ↔
      unlocked.FailsPlainly ∧ unlocked.SendsWhole := by
  obtain ⟨log, result, run, relays, events, feeding, fed, piped⟩ := unlocked
  simp only [Unlocked.FailsPlainly, Unlocked.SendsWhole]
  rcases unlockLUKS_runs run with ⟨failed, unhandled, elsewhere⟩ | ⟨client, ended, rfl, ran, rfl⟩
  · refine iff_of_true (fun succeeded => absurd succeeded failed) ⟨?_, ?_⟩
    · intro client _ split
      exact absurd split (elsewhere client)
    · intro conn report handled
      exact absurd handled (unhandled.unpiped conn report)
  have handles {conn : Conn} {report : PipeReport}
      (member : (⟨.handle .pipe conn, report⟩ : Sigma Answer) ∈ unlockPrelude passphrase
        p2pKeySeed ++ client) :
      (⟨.handle .pipe conn, report⟩ : Sigma Answer) ∈ client :=
    (List.mem_append.mp member).resolve_left (unlockPrelude_unhandled.unpiped conn report)
  cases ended with
  | some err =>
      -- nothing was handed over, so the first half of the condition decides
      have unhandled := runClient_fails_unhandled ran
      have undelivered :
          ¬ PassphraseDelivered platform serverDeviceID passphrase
            (unlockPrelude passphrase p2pKeySeed ++ client) := by
        intro delivered
        obtain ⟨conn, report, member, _⟩ := delivered.handled
        exact unhandled.unpiped conn report (handles member)
      have settled := failed_truthful_iff relays.later ran
      constructor
      · intro truthful
        refine ⟨?_, fun conn report member => absurd (handles member) (unhandled.unpiped conn report)⟩
        rintro other failure same failing
        obtain rfl : client = other := List.append_cancel_left same
        exact settled.mp (fun succeeded => undelivered (truthful succeeded)) failure failing
      · rintro ⟨plain, _⟩ succeeded
        exact absurd succeeded (settled.mpr fun failure failing => plain client failure rfl failing)
  | none =>
      -- the connection has been used, and no stage failed
      obtain ⟨conn, report, member⟩ := runClient_pipes ran
      have reported := (piped conn report (List.mem_append_right _ member)).1
      have sent := sent_eq_passphrase_iff fed
      constructor
      · intro truthful
        refine ⟨?_, fun _ _ _ => ?_⟩
        · rintro other failure same failing
          obtain rfl : client = other := List.append_cancel_left same
          have equal := ran.rest_unique failing.runs
          cases equal
        · obtain ⟨conn, report, member, whole⟩ := (truthful rfl).handled
          rw [(piped conn report member).1] at whole
          exact sent.mp whole
      · rintro ⟨_, whole⟩ _
        refine runClient_delivers ran member ?_
        rw [reported]
        exact sent.mpr (whole conn report (List.mem_append_right _ member))

end

/-! A server that discovery finds at a direct address. -/

def serverA : DeviceID := referencePlatform.newDeviceID (Json.utf8 ['A'])

/-- The log of a `RunClient` that reaches the server `A` at its only address and hands
the connection to its pipe. -/
def directLog (report : PipeReport) : Log :=
  ⟨.lookup (referencePlatform.deviceIDString serverA) defaultDiscoveryURL, .ok ["tcp://host"]⟩ ::
  ⟨.dialContext 0 "tcp://host", none⟩ :: ⟨.handshake (.direct 0), .ok [Json.utf8 ['A']]⟩ ::
  (readFrame (.tls (.direct 0)) okChallenge.marshal okChallenge.marshal_pos ++
    [⟨.handle .pipe (.tls (.direct 0)), report⟩, ⟨.close (.tls (.direct 0)), ()⟩])

theorem direct_runs (report : PipeReport) :
    Runs (runClient referencePlatform (unlockOptions "A")) (directLog report) (.done none) := by
  refine Runs.step _ (Runs.step _ (Runs.step _ ?_))
  have authenticated := performClientAuth_open referencePlatform (.tls (.direct 0)) ""
  refine (((authenticated.bind _).bind _).bind _).trans ?_
  simp only [done_bind, handleClientConn, unlockOptions, ne_eq, not_true_eq_false, Bool.false_eq_true,
    ↓reduceIte, perform_bind, ask_bind, pure_eq_done]
  apply Runs.step
  apply Runs.step
  exact Runs.start _

theorem unlock_direct_runs (passphrase : Bytes) (report : PipeReport) :
    Runs (unlockLUKS referencePlatform passphrase "seed" "A")
      (unlockPrelude passphrase "seed" ++ directLog report) (.done none) := by
  apply Runs.step
  apply Runs.step
  apply Runs.step
  exact (direct_runs report).bind fun err => (pure (unlockResult err) : Goroutine (Option Err))

theorem direct_handles {report other : PipeReport}
    (member : (⟨.handle .pipe conn, other⟩ : Sigma Answer) ∈
      unlockPrelude passphrase "seed" ++ directLog report) : other = report := by
  simp only [unlockPrelude, directLog, readFrame, readWhole, List.cons_append, List.nil_append,
    List.mem_cons, Sigma.mk.injEq, reduceCtorEq, false_and, false_or, Op.handle.injEq, true_and,
    List.not_mem_nil,
    or_false] at member
  exact eq_of_heq member.2

theorem direct_relays (passphrase : Bytes) (report : PipeReport) :
    RelayAnswers referencePlatform (unlockPrelude passphrase "seed" ++ directLog report) := by
  intro relayAddresses err member
  simp [unlockPrelude, directLog, readFrame, readWhole] at member

def unlockedDirectly {passphrase : Bytes} {events : List FeedEvent} {feeding : Feeding}
    (fed : Trace FeedStep (Feeding.start passphrase) events feeding)
    (returned : feeding.pipe.returned = true) :
    Unlocked referencePlatform passphrase "seed" "A" where
  log := unlockPrelude passphrase "seed" ++ directLog feeding.pipe.report
  result := none
  run := unlock_direct_runs passphrase feeding.pipe.report
  relays := direct_relays passphrase feeding.pipe.report
  events := events
  feeding := feeding
  fed := fed
  piped := fun _ _ member => ⟨direct_handles member, returned⟩

theorem passphrase_read : ∃ events, Trace FeedStep (Feeding.start [1, 2]) events
    ⟨⟨[], [], true⟩, { send := { phase := .writing [1, 2] none, taken := [1, 2] } }⟩ := by
  have start : Trace FeedStep (Feeding.start [1, 2]) [] (Feeding.start [1, 2]) := .here
  have filled := start.take (.write 2) (.write (by decide) (by decide))
  have closed := filled.take .close (.close rfl rfl)
  exact ⟨_, closed.take (.pipe (.send (.read [1, 2] none)))
    (.pipe (.send (.read rfl (by decide))) (.bytes rfl (by decide)))⟩

theorem whole_sent : ∃ events feeding, Trace FeedStep (Feeding.start [1, 2]) events feeding ∧
    feeding.pipe.returned = true ∧ SentWhole [1, 2] events := by
  obtain ⟨events, read⟩ := passphrase_read
  have written := read.take (.pipe (.send (.write 2 none)))
    (.pipe (.send (.write rfl)) (.other (by simp)))
  have ended := written.take (.pipe (.send (.read [] (some .eof))))
    (.pipe (.send (.read rfl (by decide))) (.ended rfl rfl))
  have closed := ended.take (.pipe (.closeWrite none))
    (.pipe (.closeWrite rfl rfl (by decide) rfl) (.other (by simp)))
  have flushed := closed.take (.pipe .stdinDone)
    (.pipe (.stdinDone rfl (Or.inr (Or.inr rfl)) rfl) (.other (by simp)))
  have heard := flushed.take (.pipe (.receive (.read [] (some .eof))))
    (.pipe (.receive (.read rfl (by decide))) (.other (by simp)))
  have returned := heard.take (.pipe (.returns .stdinDone))
    (.pipe (.returns rfl ⟨rfl, rfl⟩ rfl) (.other (by simp)))
  exact ⟨_, _, returned, rfl, (sent_eq_passphrase_iff returned).mp rfl⟩

theorem half_sent : ∃ events feeding, Trace FeedStep (Feeding.start [1, 2]) events feeding ∧
    feeding.pipe.returned = true ∧ feeding.pipe.report.sent = [1] := by
  obtain ⟨events, read⟩ := passphrase_read
  have failed := read.take (.pipe (.send (.write 1 (some (.text "broken pipe")))))
    (.pipe (.send (.write rfl)) (.other (by simp)))
  have broken := failed.take (.pipe (.receive (.read [] (some (.text "connection reset by peer")))))
    (.pipe (.receive (.read rfl (by decide))) (.other (by simp)))
  have flushed := broken.take (.pipe .stdinDone)
    (.pipe (.stdinDone rfl (Or.inl rfl) rfl) (.other (by simp)))
  have returned := flushed.take (.pipe (.returns .stdinDone))
    (.pipe (.returns rfl ⟨rfl, rfl⟩ rfl) (.other (by simp)))
  exact ⟨_, _, returned, rfl, rfl⟩

theorem whole_passphrase_reported : ∃ unlocked : Unlocked referencePlatform [1, 2] "seed" "A",
    unlocked.result = none ∧ PassphraseDelivered referencePlatform "A" [1, 2] unlocked.log := by
  obtain ⟨events, feeding, fed, returned, whole⟩ := whole_sent
  refine ⟨unlockedDirectly fed returned, rfl, ?_⟩
  refine (unlockLUKS_truthful_iff (unlockedDirectly fed returned)).mpr ⟨?_, fun _ _ _ => whole⟩ rfl
  rintro client failure same failing
  obtain rfl : directLog feeding.pipe.report = client := List.append_cancel_left same
  have equal := (direct_runs feeding.pipe.report).rest_unique failing.runs
  cases equal

/-! A server that discovery does not find. -/

def lookedUp (deviceID : DeviceID) (cause : Err) : Log :=
  [⟨.lookup (referencePlatform.deviceIDString deviceID) defaultDiscoveryURL, .error cause⟩]

theorem nowhere_runs (serverDeviceID : String) (deviceID : DeviceID) (cause : Err)
    (identity : referencePlatform.deviceIDFromString serverDeviceID = .ok deviceID)
    (mentions : containsText cause.message "EOF" = true) :
    Runs (unlockLUKS referencePlatform [1, 2] "seed" serverDeviceID)
      (unlockPrelude [1, 2] "seed" ++ lookedUp deviceID cause) (.done none) := by
  have failed : Runs (runClient referencePlatform (unlockOptions serverDeviceID))
      (lookedUp deviceID cause) (.done (some (cause.wrap "discovery lookup failed: "))) :=
    runClient_lookup_fails identity rfl cause
  have swallowed : unlockResult (some (cause.wrap "discovery lookup failed: ")) = none := by
    rw [unlockResult, Err.wrap, Err.message, contains_behind _ (by decide) (by decide), if_pos mentions]
  rw [← swallowed]
  apply Runs.step
  apply Runs.step
  apply Runs.step
  exact failed.bind fun err => (pure (unlockResult err) : Goroutine (Option Err))

theorem nowhere_unhandled (deviceID : DeviceID) (cause : Err) :
    NoHandle (unlockPrelude [1, 2] "seed" ++ lookedUp deviceID cause) := by
  simp [NoHandle, unlockPrelude, lookedUp, isHandle]

theorem nowhere_relays (deviceID : DeviceID) (cause : Err) :
    RelayAnswers referencePlatform (unlockPrelude [1, 2] "seed" ++ lookedUp deviceID cause) := by
  intro relayAddresses err member
  simp [unlockPrelude, lookedUp] at member

def unlockedNowhere (serverDeviceID : String) (deviceID : DeviceID) (cause : Err)
    (identity : referencePlatform.deviceIDFromString serverDeviceID = .ok deviceID)
    (mentions : containsText cause.message "EOF" = true) :
    Unlocked referencePlatform [1, 2] "seed" serverDeviceID where
  log := unlockPrelude [1, 2] "seed" ++ lookedUp deviceID cause
  result := none
  run := nowhere_runs serverDeviceID deviceID cause identity mentions
  relays := nowhere_relays deviceID cause
  events := []
  feeding := Feeding.start [1, 2]
  fed := .here
  piped := fun conn report member =>
    absurd member ((nowhere_unhandled deviceID cause).unpiped conn report)

def unknownDevice (deviceID : DeviceID) : Err :=
  .text ("device " ++ referencePlatform.deviceIDString deviceID ++ " not found in discovery")

def serverEOF : DeviceID := referencePlatform.newDeviceID (Json.utf8 ['E', 'O', 'F'])

theorem undelivered_passphrase_reported :
    (∃ unlocked : Unlocked referencePlatform [1, 2] "seed" "A",
      unlocked.log = unlockPrelude [1, 2] "seed" ++ lookedUp serverA .eof ∧ unlocked.result = none ∧
      ¬ PassphraseDelivered referencePlatform "A" [1, 2] unlocked.log) ∧
    (∃ unlocked : Unlocked referencePlatform [1, 2] "seed" "EOF",
      unlocked.log = unlockPrelude [1, 2] "seed" ++ lookedUp serverEOF (unknownDevice serverEOF) ∧
      unlocked.result = none ∧ ¬ PassphraseDelivered referencePlatform "EOF" [1, 2] unlocked.log) ∧
    ∃ unlocked : Unlocked referencePlatform [1, 2] "seed" "A",
      unlocked.log = unlockPrelude [1, 2] "seed" ++ directLog unlocked.feeding.pipe.report ∧
      unlocked.feeding.pipe.report.sent = [1] ∧ unlocked.result = none ∧
      ¬ PassphraseDelivered referencePlatform "A" [1, 2] unlocked.log := by
  refine ⟨⟨unlockedNowhere "A" serverA .eof rfl (by decide), rfl, rfl, ?_⟩,
    ⟨unlockedNowhere "EOF" serverEOF (unknownDevice serverEOF) rfl (by decide), rfl, rfl, ?_⟩, ?_⟩
  · intro delivered
    obtain ⟨conn, report, member, _⟩ := delivered.handled
    exact (nowhere_unhandled _ _).unpiped conn report member
  · intro delivered
    obtain ⟨conn, report, member, _⟩ := delivered.handled
    exact (nowhere_unhandled _ _).unpiped conn report member
  · obtain ⟨events, feeding, fed, returned, half⟩ := half_sent
    refine ⟨unlockedDirectly fed returned, rfl, half, rfl, ?_⟩
    intro delivered
    obtain ⟨conn, report, member, whole⟩ := delivered.handled
    rw [direct_handles member, half] at whole
    exact absurd whole (by decide)

end SyncthingSocket
