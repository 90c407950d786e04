import SyncthingSocket.Client
import SyncthingSocket.RaceWinner

/-!
How `RunClient` fails: what each failing run has done, stage by stage, and the error
that it ends with.
-/

namespace SyncthingSocket

open Effect Effect.Program Framing

/-- How the GET of `lookup` ends; a body is given as what decoding it yields. -/
inductive LookupOutcome
  | requestError (err : Err)
  | transportError (err : Err)
  | answered (status : Nat) (body : Except Err (List String))

def statusNotFound : Nat := 404

def statusOK : Nat := 200

def lookup (serverID : String) : LookupOutcome → Except Err (List String)
  | .requestError err => .error err
  | .transportError err => .error err
  | .answered status body =>
      if status = statusNotFound then .error (.text ("device " ++ serverID ++ " not found in discovery"))
      else if status ≠ statusOK then .error (.text ("discovery lookup returned HTTP " ++ toString status))
      else body

/-- How `dialFastestRelay` fails when it is not cancelled. -/
inductive RelayFailure
  | unusable
  | invitation (host : String) (cause : Err)
  | session (host : String) (cause : Err)
  deriving DecidableEq, Repr

def RelayFailure.err : RelayFailure → Err
  | unusable => .text "no usable relay addresses to try"
  | invitation host cause => cause.wrap ("failed to get invitation from relay " ++ host ++ ": ")
  | session host cause => cause.wrap ("failed to join session on relay " ++ host ++ ": ")

inductive ClientFailure
  | badServerID (cause : Err)
  | notFound (serverID : String)
  | lookup (cause : Err)
  | unconnectable
  | relays (failure : RelayFailure)
  | cancelled (err : Err)
  | handshake (cause : Err)
  | noCertificates
  | mismatch (peerID serverID : String)
  | auth (cause : Err)
  deriving DecidableEq, Repr

def ClientFailure.err : ClientFailure → Err
  | badServerID cause => cause.wrap "invalid server Device ID: "
  | notFound serverID =>
      Err.wrap "discovery lookup failed: " (.text ("device " ++ serverID ++ " not found in discovery"))
  | lookup cause => cause.wrap "discovery lookup failed: "
  | unconnectable => .text "no connectable relay or TCP addresses found"
  | relays failure => failure.err
  | cancelled err => err
  | handshake cause => cause.wrap "TLS handshake failed: "
  | noCertificates => .text "server presented no TLS certificates"
  | mismatch peerID serverID =>
      .text ("security mismatch: connected to device " ++ peerID ++ ", expected " ++ serverID)
  | auth cause => cause.wrap "authentication failed: "

variable {serverID : DeviceID} {addresses : List String} {log : Log}

section

variable (platform : Platform) (opts : ClientOptions)

def RelayFailure.From (relayAddresses : List String) (outcome : Nat → RaceOutcome) :
    RelayFailure → Prop
  | unusable => racerCount platform relayAddresses = 0
  | invitation host cause => ∃ i < racerCount platform relayAddresses,
      raceHost platform relayAddresses i = host ∧ outcome i = .noInvitation cause
  | session host cause => ∃ i < racerCount platform relayAddresses,
      raceHost platform relayAddresses i = host ∧ outcome i = .noSession cause

def RaceEnds (relayAddresses : List String) (outcome : Nat → RaceOutcome) (main : RaceMain) :
    Prop :=
  ∃ race, Reach (RaceStep platform relayAddresses outcome) anyStep
    (Race.start platform relayAddresses) race ∧
    race.main = main

def RelaysFail (relayAddresses : List String) (failure : RelayFailure) : Prop :=
  ∃ outcome, RaceEnds platform relayAddresses outcome (.failed failure.err) ∧
    failure.From platform relayAddresses outcome

def RaceCancelled (relayAddresses : List String) : Prop :=
  ∃ outcome, RaceEnds platform relayAddresses outcome .gaveUp

/-- `dialFastestRelay` has returned the errors of its races. -/
def RelayAnswers (log : Log) : Prop :=
  ∀ relayAddresses err, (⟨.dialFastestRelay relayAddresses, some err⟩ : Sigma Answer) ∈ log →
    (∃ outcome, RaceEnds platform relayAddresses outcome (.failed err)) ∨
      RaceCancelled platform relayAddresses

structure Located (serverID : DeviceID) (addresses : List String) (log : Log) : Prop where
  identity : platform.deviceIDFromString opts.serverID = .ok serverID
  found : ∃ looking trying, log = looking ++ trying ∧
    Runs (lookupAddresses platform opts serverID) looking (.done (.ok addresses)) ∧
    Runs (if opts.tryDirect = true ∧ (addresses.filter isDirect).length > 0 then
      attemptAll platform opts serverID 0 (addresses.filter isDirect) else return false)
        trying (.done false)

def hungUp : Log := [⟨.close (.tls .relay), ()⟩, ⟨.close (.raw .relay), ()⟩]

def greeted (relayAddresses : List String) (presented : Except Err (List Bytes)) (later : Log) :
    Log :=
  ⟨.dialFastestRelay relayAddresses, none⟩ :: ⟨.handshake .relay, presented⟩ :: later

inductive Failing : Log → ClientFailure → Prop
  | badServerID {cause : Err} (identity : platform.deviceIDFromString opts.serverID = .error cause) :
      Failing [] (.badServerID cause)
  | notFound {serverID : DeviceID} {body : Except Err (List String)} {answer : Except Err (List String)}
      (identity : platform.deviceIDFromString opts.serverID = .ok serverID) (unset : opts.relayURI = "")
      (answered : lookup (platform.deviceIDString serverID) (.answered statusNotFound body) = answer) :
      Failing [⟨.lookup (platform.deviceIDString serverID) opts.discoveryServer, answer⟩]
        (.notFound (platform.deviceIDString serverID))
  | lookup {serverID : DeviceID} {outcome : LookupOutcome} {cause : Err}
      (identity : platform.deviceIDFromString opts.serverID = .ok serverID) (unset : opts.relayURI = "")
      (answered : lookup (platform.deviceIDString serverID) outcome = .error cause)
      (other : ∀ body, outcome ≠ .answered statusNotFound body) :
      Failing [⟨.lookup (platform.deviceIDString serverID) opts.discoveryServer, .error cause⟩]
        (.lookup cause)
  | unconnectable {serverID : DeviceID} {addresses : List String} {log : Log}
      (located : Located platform opts serverID addresses log)
        (unrelayed : addresses.filter isRelayed = []) :
      Failing log .unconnectable
  | relays {serverID : DeviceID} {addresses : List String} {log : Log} {failure : RelayFailure}
      (located : Located platform opts serverID addresses log) (relayed : addresses.filter isRelayed ≠ [])
      (failed : RelaysFail platform (addresses.filter isRelayed) failure) :
      Failing (log ++ [⟨.dialFastestRelay (addresses.filter isRelayed), some failure.err⟩])
        (.relays failure)
  | cancelled {serverID : DeviceID} {addresses : List String} {log : Log} {err : Err}
      (located : Located platform opts serverID addresses log) (relayed : addresses.filter isRelayed ≠ [])
      (cancelled : RaceCancelled platform (addresses.filter isRelayed)) :
      Failing (log ++ [⟨.dialFastestRelay (addresses.filter isRelayed), some err⟩]) (.cancelled err)
  | handshake {serverID : DeviceID} {addresses : List String} {log : Log} {cause : Err}
      (located : Located platform opts serverID addresses log)
        (relayed : addresses.filter isRelayed ≠ []) :
      Failing (log ++ greeted (addresses.filter isRelayed) (.error cause) [⟨.close (.raw .relay), ()⟩])
        (.handshake cause)
  | noCertificates {serverID : DeviceID} {addresses : List String} {log : Log}
      (located : Located platform opts serverID addresses log)
        (relayed : addresses.filter isRelayed ≠ []) :
      Failing (log ++ greeted (addresses.filter isRelayed) (.ok []) hungUp) .noCertificates
  | mismatch {serverID : DeviceID} {addresses : List String} {log : Log} {leaf : Bytes}
    {others : List Bytes}
      (located : Located platform opts serverID addresses log) (relayed : addresses.filter isRelayed ≠ [])
      (mismatch : platform.newDeviceID leaf ≠ serverID) :
      Failing (log ++ greeted (addresses.filter isRelayed) (.ok (leaf :: others)) hungUp)
        (.mismatch (platform.deviceIDString (platform.newDeviceID leaf))
          (platform.deviceIDString serverID))
  | auth {addresses : List String} {log exchange : Log} {leaf : Bytes} {others : List Bytes} {cause : Err}
      (located : Located platform opts (platform.newDeviceID leaf) addresses log)
      (relayed : addresses.filter isRelayed ≠ [])
      (refused : Runs (performClientAuth platform (.tls .relay) opts.totpPasscode) exchange
        (.done (some cause))) :
      Failing (log ++ greeted (addresses.filter isRelayed) (.ok (leaf :: others))
        (exchange ++ hungUp)) (.auth cause)

variable {platform opts}

theorem race_failure {relayAddresses : List String} {outcome : Nat → RaceOutcome} {err : Err}
    (ends : RaceEnds platform relayAddresses outcome (.failed err)) :
    ∃ failure : RelayFailure, err = failure.err ∧ RelaysFail platform relayAddresses failure := by
  obtain ⟨race, reached, failed⟩ := ends
  have racing := racing_of_reach reached
  have decided := decided_of_reach reached
  simp only [Race.Decided, failed] at decided
  rcases decided with ⟨none, rfl⟩ | ⟨last, received, final⟩
  · exact ⟨.unusable, rfl, outcome, ⟨race, reached, failed⟩, none⟩
  · have placed : last ∈ race.placed := by simp [Race.placed, List.mem_of_getLast? received]
    have bound := ((racing.placed last).mp placed).1
    rw [raceResult] at final
    cases result : outcome last with
    | session => simp [result] at final
    | noInvitation cause =>
        simp only [result, Option.some.injEq] at final
        subst final
        exact ⟨.invitation _ cause, rfl, outcome, ⟨race, reached, failed⟩, last, bound, rfl, result⟩
    | noSession cause =>
        simp only [result, Option.some.injEq] at final
        subst final
        exact ⟨.session _ cause, rfl, outcome, ⟨race, reached, failed⟩, last, bound, rfl, result⟩

/-! The rest of `RunClient` once the direct addresses are used up. -/

def overRelays (platform : Platform) (opts : ClientOptions) (serverID : DeviceID)
    (relayAddresses : List String) :
    Goroutine (Option Err) := do
  if relayAddresses.length = 0 then return some (.text "no connectable relay or TCP addresses found")
  else
    match ← perform (.dialFastestRelay relayAddresses) with
    | some err => return some err
    | none => relaySession platform opts serverID

theorem Located.runs (located : Located platform opts serverID addresses log) :
    Runs (runClient platform opts) log
      (overRelays platform opts serverID (addresses.filter isRelayed)) := by
  obtain ⟨identity, looking, trying, rfl, found, tried⟩ := located
  rw [runClient, identity]
  exact (found.bind _).trans (tried.bind _)

theorem overRelays_some {relayAddresses : List String} (relayed : relayAddresses ≠ []) :
    overRelays platform opts serverID relayAddresses = .ask (.dialFastestRelay relayAddresses) fun
      | some err => .done (some err)
      | none => relaySession platform opts serverID := by
  have length : relayAddresses.length ≠ 0 := by simpa using relayed
  simp only [overRelays, length, if_false, perform_bind]
  rfl

theorem lookupAddresses_fails (unset : opts.relayURI = "") (cause : Err) :
    Runs (lookupAddresses platform opts serverID)
      [⟨.lookup (platform.deviceIDString serverID) opts.discoveryServer, .error cause⟩]
      (.done (.error (cause.wrap "discovery lookup failed: "))) := by
  simp only [lookupAddresses, unset, ne_eq, not_true_eq_false, if_false, perform_bind]
  exact Runs.step _ (Runs.start _)

theorem runClient_lookup_fails
    (identity : platform.deviceIDFromString opts.serverID = .ok serverID)
    (unset : opts.relayURI = "") (cause : Err) :
    Runs (runClient platform opts)
      [⟨.lookup (platform.deviceIDString serverID) opts.discoveryServer, .error cause⟩]
      (.done (some (cause.wrap "discovery lookup failed: "))) := by
  rw [runClient, identity]
  exact (lookupAddresses_fails unset cause).bind _

theorem Located.joins {later : Log} {err : Option Err}
    (located : Located platform opts serverID addresses log)
    (relayed : addresses.filter isRelayed ≠ [])
    (session : Runs (relaySession platform opts serverID) later (.done err)) :
    Runs (runClient platform opts)
      (log ++ ⟨.dialFastestRelay (addresses.filter isRelayed), none⟩ :: later)
      (.done err) := by
  refine located.runs.trans ?_
  rw [overRelays_some relayed]
  apply Runs.step
  exact session

theorem Located.refused (located : Located platform opts serverID addresses log)
    (relayed : addresses.filter isRelayed ≠ []) (err : Err) :
    Runs (runClient platform opts) (log ++ [⟨.dialFastestRelay (addresses.filter isRelayed), some err⟩])
      (.done (some err)) := by
  refine located.runs.trans ?_
  rw [overRelays_some relayed]
  apply Runs.step
  exact Runs.start _

theorem relaySession_unshaken (cause : Err) :
    Runs (relaySession platform opts serverID) [⟨.handshake .relay, .error cause⟩,
      ⟨.close (.raw .relay), ()⟩]
      (.done (some (cause.wrap "TLS handshake failed: "))) := by
  apply Runs.step
  apply Runs.step
  exact Runs.start _

theorem relaySession_anonymous :
    Runs (relaySession platform opts serverID) (⟨.handshake .relay, .ok []⟩ :: hungUp)
      (.done (some (.text "server presented no TLS certificates"))) := by
  apply Runs.step
  apply Runs.step
  apply Runs.step
  exact Runs.start _

theorem relaySession_mismatched {leaf : Bytes} {others : List Bytes}
    (mismatch : platform.newDeviceID leaf ≠ serverID) :
    Runs (relaySession platform opts serverID) (⟨.handshake .relay, .ok (leaf :: others)⟩ :: hungUp)
      (.done (some (.text ("security mismatch: connected to device " ++
        platform.deviceIDString (platform.newDeviceID leaf) ++ ", expected " ++
        platform.deviceIDString serverID)))) := by
  simp only [relaySession, deferClose, perform_bind, ask_bind]
  apply Runs.step
  simp only [mismatch, ne_eq, not_false_eq_true, if_true]
  apply Runs.step
  apply Runs.step
  exact Runs.start _

theorem relaySession_refused {leaf : Bytes} {others : List Bytes} {exchange : Log} {cause : Err}
    (refused : Runs (performClientAuth platform (.tls .relay) opts.totpPasscode) exchange
      (.done (some cause))) :
    Runs (relaySession platform opts (platform.newDeviceID leaf))
      (⟨.handshake .relay, .ok (leaf :: others)⟩ :: (exchange ++ hungUp))
      (.done (some (cause.wrap "authentication failed: "))) := by
  simp only [relaySession, deferClose, perform_bind, ask_bind]
  apply Runs.step
  simp only [ne_eq, not_true_eq_false, if_false]
  refine ((refused.bind _).bind _).trans ?_
  apply Runs.step
  apply Runs.step
  exact Runs.start _

theorem Failing.runs {failure : ClientFailure} (failing : Failing platform opts log failure) :
    Runs (runClient platform opts) log (.done (some failure.err)) := by
  cases failing with
  | badServerID identity =>
      rw [runClient, identity]
      exact Runs.start _
  | notFound identity unset answered =>
      subst answered
      exact runClient_lookup_fails identity unset _
  | lookup identity unset _ _ => exact runClient_lookup_fails identity unset _
  | unconnectable located unrelayed =>
      have run := located.runs
      rw [unrelayed] at run
      exact run
  | relays located relayed _ => exact located.refused relayed _
  | cancelled located relayed _ => exact located.refused relayed _
  | handshake located relayed => exact located.joins relayed (relaySession_unshaken _)
  | noCertificates located relayed => exact located.joins relayed relaySession_anonymous
  | mismatch located relayed mismatch => exact located.joins relayed (relaySession_mismatched mismatch)
  | auth located relayed refused => exact located.joins relayed (relaySession_refused refused)

/-! Every failing run is one of these. -/

theorem relaySession_failing {err : Err}
    (run : Runs (relaySession platform opts serverID) log (.done (some err))) :
    (∃ cause, log = [⟨.handshake .relay, .error cause⟩, ⟨.close (.raw .relay), ()⟩] ∧
      err = cause.wrap "TLS handshake failed: ") ∨
    (log = ⟨.handshake .relay, .ok []⟩ :: hungUp ∧ err = .text "server presented no TLS certificates") ∨
    (∃ leaf others, log = ⟨.handshake .relay, .ok (leaf :: others)⟩ :: hungUp ∧
      platform.newDeviceID leaf ≠ serverID ∧
      err = .text ("security mismatch: connected to device " ++
        platform.deviceIDString (platform.newDeviceID leaf) ++ ", expected " ++
          platform.deviceIDString serverID)) ∨
    ∃ leaf others exchange cause, log =
      ⟨.handshake .relay, .ok (leaf :: others)⟩ :: (exchange ++ hungUp) ∧
      platform.newDeviceID leaf = serverID ∧
      Runs (performClientAuth platform (.tls .relay) opts.totpPasscode) exchange (.done (some cause)) ∧
      err = cause.wrap "authentication failed: " := by
  simp only [relaySession, deferClose, perform_bind, ask_bind] at run
  cases run with
  | step presented later =>
      rcases presented with cause | presented
      · cases later with
        | step _ ended =>
            obtain ⟨rfl, equal⟩ := runs_done.mp ended
            cases equal
            exact Or.inl ⟨cause, rfl, rfl⟩
      rcases presented with _ | ⟨leaf, others⟩
      · rcases later with _ | ⟨_, _ | ⟨_, ended⟩⟩
        obtain ⟨rfl, equal⟩ := runs_done.mp ended
        cases equal
        exact Or.inr (Or.inl ⟨rfl, rfl⟩)
      simp only at later
      by_cases mismatch : platform.newDeviceID leaf ≠ serverID
      · rw [if_pos mismatch] at later
        rcases later with _ | ⟨_, _ | ⟨_, ended⟩⟩
        obtain ⟨rfl, equal⟩ := runs_done.mp ended
        cases equal
        exact Or.inr (Or.inr (Or.inl ⟨leaf, others, rfl, mismatch, rfl⟩))
      · rw [if_neg mismatch, Program.bind_assoc] at later
        obtain ⟨exchange, tail, result, rfl, authenticated, last⟩ := runs_bind_done later
        cases result with
        | some cause =>
            rcases last with _ | ⟨_, _ | ⟨_, ended⟩⟩
            obtain ⟨rfl, equal⟩ := runs_done.mp ended
            cases equal
            exact Or.inr (Or.inr (Or.inr ⟨leaf, others, exchange, cause, rfl, not_not.mp mismatch,
              authenticated, rfl⟩))
        | none =>
            simp only [Program.bind_assoc, pure_eq_done, done_bind] at last
            obtain ⟨_, _, _, _, _, closing⟩ := runs_bind_done last
            rcases closing with _ | ⟨_, ended⟩
            obtain ⟨_, equal⟩ := runs_done.mp ended
            cases equal

theorem lookupAddresses_runs {cause : Err}
    (run : Runs (lookupAddresses platform opts serverID) log (.done (.error cause))) :
    opts.relayURI = "" ∧
      ∃ err, log = [⟨.lookup (platform.deviceIDString serverID) opts.discoveryServer, .error err⟩] ∧
      cause = err.wrap "discovery lookup failed: " := by
  rw [lookupAddresses] at run
  by_cases given : opts.relayURI ≠ ""
  · rw [if_pos given] at run
    obtain ⟨_, equal⟩ := runs_done.mp run
    cases equal
  · rw [if_neg given, perform_bind] at run
    refine ⟨not_not.mp given, ?_⟩
    rcases run with _ | ⟨answer, later⟩
    cases answer with
    | error err =>
        obtain ⟨rfl, equal⟩ := runs_done.mp later
        cases equal
        exact ⟨err, rfl, rfl⟩
    | ok addresses =>
        obtain ⟨_, equal⟩ := runs_done.mp later
        cases equal

theorem failing_of_runs {err : Err} (answers : RelayAnswers platform log)
    (run : Runs (runClient platform opts) log (.done (some err))) :
    ∃ failure, Failing platform opts log failure := by
  rw [runClient] at run
  cases identity : platform.deviceIDFromString opts.serverID with
  | error cause =>
      rw [identity] at run
      obtain ⟨rfl, _⟩ := runs_done.mp run
      exact ⟨_, .badServerID identity⟩
  | ok serverID =>
  simp only [identity] at run
  obtain ⟨looking, later, found, rfl, looked, late⟩ := runs_bind_done run
  cases found with
  | error cause =>
      obtain ⟨unset, failure, rfl, _⟩ := lookupAddresses_runs looked
      obtain ⟨rfl, _⟩ := runs_done.mp late
      have answered : lookup (platform.deviceIDString serverID) (.transportError failure) =
          .error failure := rfl
      exact ⟨_, .lookup identity unset answered (by simp)⟩
  | ok addresses =>
  obtain ⟨trying, tail, used, rfl, tried, last⟩ := runs_bind_done late
  cases used with
  | true =>
      obtain ⟨_, equal⟩ := runs_done.mp last
      cases equal
  | false =>
  have located : Located platform opts serverID addresses (looking ++ trying) :=
    ⟨identity, looking, trying, rfl, looked, tried⟩
  rw [← List.append_assoc] at answers ⊢
  change Runs (overRelays platform opts serverID (addresses.filter isRelayed)) tail _ at last
  by_cases relayed : addresses.filter isRelayed = []
  · rw [relayed] at last
    obtain ⟨rfl, _⟩ := runs_done.mp last
    rw [List.append_nil]
    exact ⟨_, .unconnectable located relayed⟩
  rw [overRelays_some relayed] at last
  rcases last with _ | ⟨dialled, session⟩
  cases dialled with
  | some failed =>
      obtain ⟨rfl, _⟩ := runs_done.mp session
      rcases answers (addresses.filter isRelayed) failed (by simp) with ⟨outcome, ends⟩ | cancelled
      · obtain ⟨failure, rfl, relaysFail⟩ := race_failure ends
        exact ⟨_, .relays located relayed relaysFail⟩
      · exact ⟨_, .cancelled located relayed cancelled⟩
  | none =>
      rcases relaySession_failing session with
        ⟨cause, rfl, _⟩ | ⟨rfl, _⟩ | ⟨leaf, others, rfl, mismatch, _⟩ |
        ⟨leaf, others, exchange, cause, rfl, rfl, refused, _⟩
      · exact ⟨_, .handshake located relayed⟩
      · exact ⟨_, .noCertificates located relayed⟩
      · exact ⟨_, .mismatch located relayed mismatch⟩
      · exact ⟨_, .auth located relayed refused⟩

end

end SyncthingSocket
