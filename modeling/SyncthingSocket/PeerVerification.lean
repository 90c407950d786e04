import SyncthingSocket.Client
import SyncthingSocket.Reference

/-!
What `RunClient` does with the connections it opens: only one that proved the
requested Device ID and passed authentication, or the data channel negotiated
over it, ever reaches `handleClientConn`.
-/

namespace SyncthingSocket

open Effect Effect.Program Framing

def isHandle : Op → Bool
  | .handle _ _ => true
  | _ => false

def NoHandle (log : Log) : Prop := ∀ event ∈ log, isHandle event.1 = false

def Released (log : Log) : Prop :=
  ∀ index host, (⟨.dialContext index host, none⟩ : Sigma Answer) ∈ log →
    (⟨.close (.raw (.direct index)), ()⟩ : Sigma Answer) ∈ log ∨
    (⟨.close (.tls (.direct index)), ()⟩ : Sigma Answer) ∈ log

def Quiet (op : Op) : Prop := isHandle op = false ∧ ∀ index host, op ≠ .dialContext index host

variable {link : Link} {log : Log} {index : Nat} {op : Op}

theorem NoHandle.append {later : Log} (unhandled : NoHandle log)
    (quiet : ∀ event ∈ later, Quiet event.1) : NoHandle (log ++ later) := by
  intro event member
  rcases List.mem_append.mp member with member | member
  · exact unhandled event member
  · exact (quiet event member).1

def MessagePiece (data : Bytes) : Prop :=
  ∃ body, ((∃ resp : AuthResponse, body = resp.marshal) ∨ ∃ msg : SignalMessage, body = msg.marshal) ∧
    (data = putUint32 body.length ∨ data = body)

theorem SignalPiece.message {data : Bytes} (piece : SignalPiece data) : MessagePiece data := by
  obtain ⟨msg, isPiece⟩ := piece
  exact ⟨msg.marshal, Or.inr ⟨msg, rfl⟩, isPiece⟩

section

variable (platform : Platform) (opts : ClientOptions) (serverID : DeviceID)

/-- The peer of this link presented the requested identity, and authentication
on it succeeded; `later` is what happened since. -/
def Verified (link : Link) (log later : Log) : Prop :=
  ∃ before leaf others auth,
    log = before ++ ⟨.handshake link, .ok (leaf :: others)⟩ :: (auth ++ later) ∧
    platform.newDeviceID leaf = serverID ∧
    Runs (performClientAuth platform (.tls link) opts.totpPasscode) auth (.done none)

def Handed (log : Log) : Conn → Prop
  | .tls link => ∃ later, Verified platform opts serverID link log later
  | .p2p => ∃ upgrade later, Verified platform opts serverID .relay log (upgrade ++ later) ∧
      Runs (negotiateWebRTCClient platform (.tls .relay)) upgrade (.done none)
  | _ => False

def ClientAsks (log : Log) : Op → Prop
  | .handle _ conn => NoHandle log ∧ Handed platform opts serverID log conn
  | .write conn data => NoHandle log ∧ (∃ link, conn = .tls link) ∧ MessagePiece data
  | .dialContext _ _ => opts.tryDirect = true ∧ Released log
  | .dialFastestRelay addresses => Released log ∧ ∀ addr ∈ addresses, hasPrefix addr "relay://" = true
  | _ => True

def HandledOnce (log : Log) : Prop :=
  ∃ before event after, log = before ++ event :: after ∧ NoHandle before ∧ isHandle event.1 = true ∧
    NoHandle after

def ClientReturns (result : Option Err) (log : Log) : Prop :=
  (result = none → HandledOnce log) ∧ (result ≠ none → NoHandle log)

def Idle (log : Log) : Prop := NoHandle log ∧ Released log

def Talk (link : Link) (op : Op) : Prop :=
  Quiet op ∧ (∀ conn data, op = .write conn data → conn = .tls link ∧ MessagePiece data) ∧
  ∀ addresses, op ≠ .dialFastestRelay addresses

variable {platform opts serverID}

theorem Talk.asks (talk : Talk link op) (unhandled : NoHandle log) :
    ClientAsks platform opts serverID log op := by
  obtain ⟨⟨notHandle, notDial⟩, writes, notRelay⟩ := talk
  cases op with
  | handle app conn => simp [isHandle] at notHandle
  | dialContext index host => exact absurd rfl (notDial index host)
  | dialFastestRelay addresses => exact absurd rfl (notRelay addresses)
  | write conn data =>
      obtain ⟨overLink, piece⟩ := writes conn data rfl
      exact ⟨unhandled, ⟨link, overLink⟩, piece⟩
  | _ => trivial

theorem talk_meets {α : Type} {program : Goroutine α} (unhandled : NoHandle log)
    (talks : Meets (Contract.always fun _ op => Talk link op) (fun _ _ => True) program []) :
    Meets (Contract.always (ClientAsks platform opts serverID))
      (fun value later => ∃ inner, later = log ++ inner ∧ Runs program inner (.done value) ∧
        ∀ event ∈ inner, Quiet event.1) program log := by
  apply meets_of_runs
  · intro inner op next run
    obtain ⟨events, asks⟩ := talks.confined run
    exact (asks op next rfl).asks (unhandled.append fun event member => (events event member).1)
  · intro inner value run
    exact ⟨inner, rfl, run, fun event member => ((talks.confined run).1 event member).1⟩

theorem talk_of_neither (quiet : Quiet op) (notWrite : ∀ conn data, op ≠ .write conn data)
    (notRelay : ∀ addresses, op ≠ .dialFastestRelay addresses) :
    Talk link op :=
  ⟨quiet, fun conn data asked => absurd asked (notWrite conn data), notRelay⟩

theorem performClientAuth_talks (link : Link) (totpPasscode : String) :
    Meets (Contract.always fun _ op => Talk link op) (fun _ _ => True)
      (performClientAuth platform (.tls link) totpPasscode) [] := by
  apply meets_of_runs
  · intro log op next run
    rcases (performClientAuth_meets platform _ _).asks run with ⟨⟨size, _, rfl⟩, _⟩ |
      ⟨data, challenge, code, rfl, _, _, _, piece⟩ | ⟨rfl | rfl, _⟩
    · exact talk_of_neither (by simp [Quiet, isHandle]) (by simp) (by simp)
    · refine ⟨by simp [Quiet, isHandle], ?_, by simp⟩
      rintro conn written ⟨rfl, rfl⟩
      exact ⟨rfl, _, Or.inl ⟨_, rfl⟩, piece⟩
    · exact talk_of_neither (by simp [Quiet, isHandle]) (by simp) (by simp)
    · exact talk_of_neither (by simp [Quiet, isHandle]) (by simp) (by simp)
  · simp

theorem UpgradeOp.talk (upgrade : UpgradeOp (.tls link) op) : Talk link op := by
  rcases upgrade with ⟨size, _, rfl⟩ | ⟨data, rfl, piece⟩ | pion
  · simp [Talk, Quiet, isHandle]
  · refine ⟨by simp [Quiet, isHandle], ?_, by simp⟩
    rintro conn written ⟨rfl, rfl⟩
    exact ⟨rfl, piece.message⟩
  · cases op <;> simp_all [PionOp, Talk, Quiet, isHandle]

theorem negotiateWebRTCClient_talks (link : Link) :
    Meets (Contract.always fun _ op => Talk link op) (fun _ _ => True)
      (negotiateWebRTCClient platform (.tls link)) [] := by
  apply meets_of_runs
  · intro log op next run
    exact ((negotiateWebRTCClient_meets _ platform).asks run).1.talk
  · simp

theorem sendSignal_talks (link : Link) (msg : SignalMessage) :
    Meets (Contract.always fun _ op => Talk link op) (fun _ _ => True)
      (sendSignal (.tls link) msg) [] := by
  apply meets_of_runs
  · intro log op next run
    obtain ⟨data, asked, piece⟩ := sendSignal_asks run
    exact UpgradeOp.talk (Or.inr (Or.inl ⟨data, asked, piece⟩))
  · simp

theorem handleClientConn_meets {conn : Conn} (unhandled : NoHandle log)
    (handed : Handed platform opts serverID log conn) :
    Meets (Contract.always (ClientAsks platform opts serverID)) (fun _ later => HandledOnce later)
      (handleClientConn opts conn) log := by
  have once : ∀ app answer, HandledOnce (log ++ [⟨.handle app conn, answer⟩]) :=
    fun app answer => ⟨log, _, [], rfl, unhandled, rfl, by simp [NoHandle]⟩
  rw [handleClientConn]
  by_cases socks : opts.socks ≠ ""
  · simp only [socks, ne_eq, not_false_eq_true, ↓reduceIte]
    exact ⟨⟨unhandled, handed⟩, fun answer _ => once _ answer⟩
  by_cases shell : opts.shell = true
  · simp only [socks, shell, ↓reduceIte]
    exact ⟨⟨unhandled, handed⟩, fun answer _ => once _ answer⟩
  by_cases reverse : opts.reverseForward ≠ ""
  · simp only [socks, shell, reverse, ne_eq, not_false_eq_true, ↓reduceIte]
    exact ⟨⟨unhandled, handed⟩, fun answer _ => once _ answer⟩
  simp only [socks, shell, reverse, ↓reduceIte]
  refine ⟨⟨unhandled, handed⟩, fun answer _ => ⟨trivial, fun closed _ => ?_⟩⟩
  refine ⟨log, ⟨.handle .pipe conn, answer⟩, [⟨.close conn, closed⟩], ?_, unhandled, rfl, ?_⟩
  · simp
  · simp [NoHandle, isHandle]

theorem Idle.closed {middle : Log} {host : String} {conn : Conn} (idle : Idle log)
    (quiet : ∀ event ∈ middle, Quiet event.1)
    (own : conn = .raw (.direct index) ∨ conn = .tls (.direct index)) :
    Idle (log ++ ⟨.dialContext index host, none⟩ :: (middle ++ [⟨.close conn, ()⟩])) := by
  constructor
  · intro event member
    simp only [List.mem_append, List.mem_cons, List.not_mem_nil, or_false] at member
    rcases member with member | rfl | member | rfl
    · exact idle.1 event member
    · rfl
    · exact (quiet event member).1
    · rfl
  · intro other otherHost member
    simp only [List.mem_append, List.mem_cons, List.not_mem_nil, or_false] at member ⊢
    rcases member with member | same | member | same
    · rcases idle.2 other otherHost member with closed | closed
      · exact Or.inl (Or.inl closed)
      · exact Or.inr (Or.inl closed)
    · obtain ⟨rfl, _⟩ : other = index ∧ otherHost = host := by simpa using same
      rcases own with rfl | rfl
      · exact Or.inl (Or.inr (Or.inr (Or.inr rfl)))
      · exact Or.inr (Or.inr (Or.inr (Or.inr rfl)))
    · exact absurd rfl ((quiet _ member).2 other otherHost)
    · simp at same

theorem attemptDirect_meets {addrStr : String} (idle : Idle log) (direct : opts.tryDirect = true) :
    Meets (Contract.always (ClientAsks platform opts serverID))
      (fun used later => if used then HandledOnce later else Idle later)
      (attemptDirect platform opts serverID index addrStr) log := by
  simp only [attemptDirect, perform_bind]
  cases platform.urlHost addrStr with
  | error err => exact idle
  | ok host =>
  refine ⟨⟨direct, idle.2⟩, fun dialled _ => ?_⟩
  cases dialled with
  | some err =>
      constructor
      · intro event member
        rcases List.mem_append.mp member with member | member
        · exact idle.1 event member
        · rw [List.mem_singleton.mp member]
          rfl
      · intro other otherHost member
        simp only [List.mem_append, List.mem_singleton] at member ⊢
        rcases member with member | same
        · rcases idle.2 other otherHost member with closed | closed
          · exact Or.inl (Or.inl closed)
          · exact Or.inr (Or.inl closed)
        · simp at same
  | none =>
  refine ⟨trivial, fun shaken _ => ?_⟩
  have unhandled : ∀ outcome, NoHandle (log ++ [⟨.dialContext index host, none⟩] ++
      [⟨.handshake (.direct index), outcome⟩]) := by
    intro outcome event member
    simp only [List.mem_append, List.mem_singleton] at member
    rcases member with (member | rfl) | rfl
    · exact idle.1 event member
    · rfl
    · rfl
  -- every failure from here on ends in the deferred close of this attempt's connection
  have closed : ∀ outcome middle conn, (∀ event ∈ middle, Quiet event.1) →
      conn = .raw (.direct index) ∨ conn = .tls (.direct index) →
      Idle (log ++ [⟨.dialContext index host, none⟩] ++ [⟨.handshake (.direct index), outcome⟩] ++
        middle ++ [⟨.close conn, ()⟩]) := by
    intro outcome middle conn quiet own
    have between : ∀ event ∈ (⟨.handshake (.direct index), outcome⟩ : Sigma Answer) :: middle,
        Quiet event.1 := by
      intro event member
      rcases List.mem_cons.mp member with rfl | member
      · simp [Quiet, isHandle]
      · exact quiet event member
    simpa using idle.closed between own
  rcases shaken with err | presented
  · refine ⟨trivial, fun _ _ => ?_⟩
    simpa [Meets] using closed (.error err) [] (.raw (.direct index)) (by simp) (Or.inl rfl)
  rcases presented with _ | ⟨leaf, others⟩
  · refine ⟨trivial, fun _ _ => ?_⟩
    simpa [Meets] using closed (.ok []) [] (.tls (.direct index)) (by simp) (Or.inr rfl)
  simp only
  by_cases mismatch : platform.newDeviceID leaf ≠ serverID
  · simp only [mismatch, ne_eq, not_false_eq_true, ↓reduceIte]
    refine ⟨trivial, fun _ _ => ?_⟩
    simpa [Meets] using closed (.ok (leaf :: others)) [] (.tls (.direct index)) (by simp) (Or.inr rfl)
  simp only [mismatch, ↓reduceIte]
  apply Meets.bind
  apply (talk_meets (unhandled _) (performClientAuth_talks _ _)).mono
  rintro failure later ⟨auth, rfl, run, quiet⟩
  cases failure with
  | some err => exact ⟨trivial, fun _ _ => closed _ auth _ quiet (Or.inr rfl)⟩
  | none =>
      apply Meets.bind
      have handed : Handed platform opts serverID (log ++ [⟨.dialContext index host, none⟩] ++
          [⟨.handshake (.direct index), .ok (leaf :: others)⟩] ++ auth) (.tls (.direct index)) :=
        ⟨[], log ++ [⟨.dialContext index host, none⟩], leaf, others, auth, by simp,
          not_not.mp mismatch, run⟩
      apply (handleClientConn_meets ((unhandled _).append quiet) handed).mono
      exact fun _ later once => once

theorem attemptAll_meets {addresses : List String} (idle : Idle log)
    (direct : opts.tryDirect = true) :
    Meets (Contract.always (ClientAsks platform opts serverID))
      (fun used later => if used then HandledOnce later else Idle later)
      (attemptAll platform opts serverID index addresses) log := by
  induction addresses generalizing log index with
  | nil => exact idle
  | cons addrStr rest ih =>
      apply Meets.bind
      apply (attemptDirect_meets idle direct).mono
      intro used later outcome
      cases used with
      | true => exact outcome
      | false => exact ih outcome

theorem useRelay_meets {leaf : Bytes} {others : List Bytes} {before auth : Log}
    (unhandled : NoHandle log)
    (split : log = before ++ ⟨.handshake .relay, .ok (leaf :: others)⟩ :: auth)
    (identity : platform.newDeviceID leaf = serverID)
    (authenticated : Runs (performClientAuth platform (.tls .relay) opts.totpPasscode) auth
      (.done none)) :
    Meets (Contract.always (ClientAsks platform opts serverID)) (fun _ later => HandledOnce later)
      (useRelay platform opts) log := by
  have verified : ∀ later, Verified platform opts serverID .relay (log ++ later) later :=
    fun later => ⟨before, leaf, others, auth, by simp [split], identity, authenticated⟩
  simp only [useRelay, perform_bind]
  by_cases relayOnly : opts.tryDirect = false
  · simp only [relayOnly, ↓reduceIte]
    exact handleClientConn_meets unhandled ⟨[], by simpa using verified []⟩
  simp only [relayOnly]
  apply Meets.bind
  apply (talk_meets unhandled (negotiateWebRTCClient_talks _)).mono
  rintro failure _ ⟨upgrade, rfl, negotiated, quiet⟩
  have still := unhandled.append quiet
  cases failure with
  | some err =>
      apply Meets.bind
      apply (talk_meets still (sendSignal_talks _ _)).mono
      rintro _ _ ⟨telling, rfl, _, quietly⟩
      apply handleClientConn_meets (still.append quietly)
      rw [List.append_assoc]
      exact ⟨upgrade ++ telling, verified _⟩
  | none =>
      refine ⟨trivial, fun closed _ => ?_⟩
      apply handleClientConn_meets
      · exact still.append (by simp [Quiet, isHandle])
      · rw [List.append_assoc]
        exact ⟨upgrade, [⟨.close (.tls .relay), closed⟩], verified _, negotiated⟩

theorem HandledOnce.append (once : HandledOnce log) {event : Sigma Answer}
    (other : isHandle event.1 = false) : HandledOnce (log ++ [event]) := by
  obtain ⟨before, handled, after, rfl, early, isHandled, late⟩ := once
  refine ⟨before, handled, after ++ [event], by simp, early, isHandled, ?_⟩
  intro later member
  rcases List.mem_append.mp member with member | member
  · exact late later member
  · rw [List.mem_singleton.mp member]
    exact other

theorem relaySession_meets (unhandled : NoHandle log) :
    Meets (Contract.always (ClientAsks platform opts serverID)) ClientReturns
      (relaySession platform opts serverID) log := by
  simp only [relaySession, deferClose, perform_bind, ask_bind]
  refine ⟨trivial, fun shaken _ => ?_⟩
  have greeted : ∀ outcome, NoHandle (log ++ [⟨.handshake .relay, outcome⟩]) :=
    fun outcome => unhandled.append (by simp [Quiet, isHandle])
  have failed : ∀ {later : Log} {err : Err}, NoHandle later →
      Meets (Contract.always (ClientAsks platform opts serverID)) ClientReturns
        (.ask (.close (.raw .relay)) fun _ => .done (some err)) later := by
    intro later err still
    exact ⟨trivial, fun _ _ => ⟨by simp, fun _ => still.append (by simp [Quiet, isHandle])⟩⟩
  rcases shaken with err | presented
  · exact failed (greeted _)
  rcases presented with _ | ⟨leaf, others⟩
  · exact ⟨trivial, fun _ _ => failed ((greeted _).append (by simp [Quiet, isHandle]))⟩
  simp only
  by_cases mismatch : platform.newDeviceID leaf ≠ serverID
  · simp only [mismatch, ne_eq, not_false_eq_true, ↓reduceIte]
    exact ⟨trivial, fun _ _ => failed ((greeted _).append (by simp [Quiet, isHandle]))⟩
  simp only [mismatch, ↓reduceIte, Program.bind_assoc]
  apply Meets.bind
  apply (talk_meets (greeted _) (performClientAuth_talks _ _)).mono
  rintro failure _ ⟨auth, rfl, authenticated, quiet⟩
  have still := (greeted (.ok (leaf :: others))).append quiet
  cases failure with
  | some err => exact ⟨trivial, fun _ _ => failed (still.append (by simp [Quiet, isHandle]))⟩
  | none =>
      simp only [Program.bind_assoc]
      apply Meets.bind
      have split : log ++ [⟨.handshake .relay, .ok (leaf :: others)⟩] ++ auth =
          log ++ ⟨.handshake .relay, .ok (leaf :: others)⟩ :: auth := by simp
      apply (useRelay_meets still split (not_not.mp mismatch) authenticated).mono
      intro _ later once
      exact ⟨trivial, fun _ _ => ⟨fun _ => once.append rfl, by simp⟩⟩

theorem lookupAddresses_meets :
    Meets (Contract.always (ClientAsks platform opts serverID)) (fun _ later => Idle later)
      (lookupAddresses platform opts serverID) [] := by
  have start : Idle [] := ⟨by simp [NoHandle], by simp [Released]⟩
  rw [lookupAddresses]
  by_cases given : opts.relayURI ≠ ""
  · simp only [given, ne_eq, not_false_eq_true, ↓reduceIte]
    exact start
  simp only [given, ↓reduceIte, perform_bind]
  refine ⟨trivial, fun answer _ => ?_⟩
  have idle : Idle [⟨.lookup (platform.deviceIDString serverID) opts.discoveryServer, answer⟩] :=
    ⟨by simp [NoHandle, isHandle], by simp [Released]⟩
  cases answer <;> exact idle

theorem runClient_meets (identity : platform.deviceIDFromString opts.serverID = .ok serverID) :
    Meets (Contract.always (ClientAsks platform opts serverID)) ClientReturns
      (runClient platform opts) [] := by
  simp only [runClient, identity]
  apply Meets.bind
  apply lookupAddresses_meets.mono
  intro found log idle
  cases found with
  | error err => exact ⟨by simp, fun _ => idle.1⟩
  | ok addresses =>
  simp only
  have attempts : Meets (Contract.always (ClientAsks platform opts serverID))
      (fun used later => if used then HandledOnce later else Idle later)
      (if opts.tryDirect = true ∧ (addresses.filter isDirect).length > 0 then
        attemptAll platform opts serverID 0 (addresses.filter isDirect) else return false) log := by
    by_cases direct : opts.tryDirect = true ∧ (addresses.filter isDirect).length > 0
    · rw [if_pos direct]
      exact attemptAll_meets idle direct.1
    · rw [if_neg direct]
      exact idle
  apply Meets.bind
  apply attempts.mono
  intro used later outcome
  cases used with
  | true => exact ⟨fun _ => outcome, by simp⟩
  | false =>
  have idleStill : Idle later := outcome
  simp only [Bool.false_eq_true, ↓reduceIte]
  by_cases unreachable : (addresses.filter isRelayed).length = 0
  · simp only [unreachable, ↓reduceIte]
    exact ⟨by simp, fun _ => idleStill.1⟩
  simp only [unreachable, ↓reduceIte, perform_bind]
  refine ⟨⟨idleStill.2, ?_⟩, fun dialled _ => ?_⟩
  · intro addr member
    have relayed := (List.mem_filter.mp member).2
    rw [isRelayed, Bool.and_eq_true] at relayed
    exact relayed.2
  · have still : NoHandle (later ++ [⟨.dialFastestRelay (addresses.filter isRelayed), dialled⟩]) :=
      idleStill.1.append (by simp [Quiet, isHandle])
    cases dialled with
    | some err => exact ⟨by simp, fun _ => still⟩
    | none => exact relaySession_meets still

end

theorem runClient_identity {platform : Platform} {opts : ClientOptions}
    {next : Answer op → Goroutine (Option Err)}
    (run : Runs (runClient platform opts) log (.ask op next)) :
    ∃ serverID, platform.deviceIDFromString opts.serverID = .ok serverID := by
  cases identity : platform.deviceIDFromString opts.serverID with
  | ok serverID => exact ⟨serverID, rfl⟩
  | error err =>
      simp only [runClient, identity, pure_eq_done, runs_done] at run
      exact absurd run.2 (by simp)

theorem handled_at_most_once
    (first : ∀ before event after, log = before ++ event :: after → isHandle event.1 = true →
      NoHandle before) : log.countP (fun event => isHandle event.1) ≤ 1 := by
  induction log using List.reverseRecOn with
  | nil => simp
  | append_singleton early last ih =>
      rw [List.countP_append]
      cases handled : isHandle last.1 with
      | false =>
          have fewer := ih fun before event after split isHandled =>
            first before event (after ++ [last]) (by simp [split]) isHandled
          simpa [handled] using fewer
      | true =>
          have none : early.countP (fun event => isHandle event.1) = 0 := by
            rw [List.countP_eq_zero]
            intro event member
            simp [first early last [] rfl handled event member]
          simp [none, handled]

theorem runClient_uses_verified_peer (platform : Platform) (opts : ClientOptions) {log : Log}
    {rest : Goroutine (Option Err)} (run : Runs (runClient platform opts) log rest) :
    (log.countP fun event => isHandle event.1) ≤ 1 ∧
    (∀ app conn, Asks rest (.handle app conn) → NoHandle log ∧
      ∃ serverID, platform.deviceIDFromString opts.serverID = .ok serverID ∧
        Handed platform opts serverID log conn) ∧
    (∀ conn data, Asks rest (.write conn data) →
      NoHandle log ∧ (∃ link, conn = .tls link) ∧ MessagePiece data) ∧
    (∀ init inner op, (∃ next, Runs (sendCandidate (.tls .relay) init) inner (.ask op next)) →
      ∃ data, op = .write (.tls .relay) data ∧ MessagePiece data) ∧
    (rest = .done none → ∃ event ∈ log, isHandle event.1 = true) ∧
    (∀ index host, Asks rest (.dialContext index host) → opts.tryDirect = true ∧ Released log) ∧
    (∀ addresses, Asks rest (.dialFastestRelay addresses) →
      Released log ∧ ∀ addr ∈ addresses, hasPrefix addr "relay://" = true) := by
  have asks : ∀ {history op}, (∃ next, Runs (runClient platform opts) history (.ask op next)) →
      ∃ serverID, platform.deviceIDFromString opts.serverID = .ok serverID ∧
        ClientAsks platform opts serverID history op := by
    rintro history op ⟨next, early⟩
    obtain ⟨serverID, identity⟩ := runClient_identity early
    exact ⟨serverID, identity, (runClient_meets identity).asks early⟩
  refine ⟨?_, ?_, ?_, ?_, ?_, ?_, ?_⟩
  · apply handled_at_most_once
    rintro before ⟨op, answer⟩ after rfl isHandled
    obtain ⟨serverID, _, guard⟩ := asks run.asked
    cases op with
    | handle app conn => exact guard.1
    | _ => simp [isHandle] at isHandled
  · rintro app conn ⟨next, rfl⟩
    obtain ⟨serverID, identity, unhandled, handed⟩ := asks ⟨next, run⟩
    exact ⟨unhandled, serverID, identity, handed⟩
  · rintro conn data ⟨next, rfl⟩
    obtain ⟨serverID, _, guard⟩ := asks ⟨next, run⟩
    exact guard
  · rintro init inner op ⟨next, sending⟩
    obtain ⟨data, asked, piece⟩ := sendSignal_asks sending
    exact ⟨data, asked, piece.message⟩
  · rintro rfl
    cases identity : platform.deviceIDFromString opts.serverID with
    | error err =>
        simp only [runClient, identity, pure_eq_done, runs_done, Program.done.injEq] at run
        exact absurd run.2 (by simp)
    | ok serverID =>
        obtain ⟨before, event, after, rfl, _, isHandled, _⟩ :=
          ((runClient_meets identity).finishes run).1 rfl
        exact ⟨event, by simp, isHandled⟩
  · rintro index host ⟨next, rfl⟩
    obtain ⟨serverID, _, guard⟩ := asks ⟨next, run⟩
    exact guard
  · rintro addresses ⟨next, rfl⟩
    obtain ⟨serverID, _, guard⟩ := asks ⟨next, run⟩
    exact guard

def relayOnly : ClientOptions where
  serverID := "A"
  relayURI := "relay://host"
  discoveryServer := ""
  tryDirect := false
  socks := ""
  shell := false
  reverseForward := ""
  totpPasscode := ""

theorem relayOnly_reaches_verified_peer :
    ∃ log rest, Runs (runClient referencePlatform relayOnly) log rest ∧
      Asks rest (.handle .pipe (.tls .relay)) ∧ NoHandle log ∧
      ∃ serverID, referencePlatform.deviceIDFromString relayOnly.serverID = .ok serverID ∧
        Handed referencePlatform relayOnly serverID log (.tls .relay) := by
  have identity : referencePlatform.deviceIDFromString relayOnly.serverID =
      .ok (referencePlatform.newDeviceID (Json.utf8 ['A'])) := rfl
  have reached := (runClient_meets_server identity (by decide)).trans
    ((performClientAuth_open referencePlatform (.tls .relay) "").bind _)
  have asks : Asks (.done none >>= afterClientAuth referencePlatform relayOnly)
      (.handle .pipe (.tls .relay)) := ⟨_, rfl⟩
  exact ⟨_, _, reached, asks,
    (runClient_uses_verified_peer referencePlatform relayOnly reached).2.1 .pipe (.tls .relay) asks⟩

end SyncthingSocket
