import SyncthingSocket.HandlerRuns
import SyncthingSocket.Services

/-!
What is left open when a connection handler returns: a peer-to-peer connection has to be closed by
whatever was run on it, the connection to a forward target by the forwarding.
-/

namespace SyncthingSocket

open Effect Effect.Program Framing

/-! The peer connection of a negotiation is closed, or becomes the data connection. -/

def created : Sigma Answer := ⟨.newPeerConnection, none⟩

def discarded : Sigma Answer := ⟨.closePeerConnection, ()⟩

def Settles (result : Bool × Option Err) (log : Log) : Prop :=
  result = (false, none) ∧ ChannelOpened log ∨
  (result.1 = true ∨ result.2 ≠ none) ∧ ¬ ChannelOpened log ∧ (created ∈ log → discarded ∈ log)

variable {conn dataConn : Conn} {err : Err} {certs : List Bytes} {log session : Log} {bound : Nat}
  {platform : Platform} {handler : ServerHandler} {opts : ServerOptions} {goos : String}

section Negotiation

variable {relayConn : Conn} {log : Log}

theorem OnlyReads.unsettled (reads : OnlyReads relayConn log) :
    ¬ ChannelOpened log ∧ created ∉ log := by
  constructor
  · intro opened
    obtain ⟨size, same⟩ := reads _ opened
    cases same
  · intro member
    obtain ⟨size, same⟩ := reads _ member
    cases same

theorem OnlyWrites.unsettled (writes : OnlyWrites relayConn log) :
    ¬ ChannelOpened log ∧ created ∉ log := by
  constructor
  · intro opened
    obtain ⟨data, same⟩ := writes _ opened
    cases same
  · intro member
    obtain ⟨data, same⟩ := writes _ member
    cases same

theorem channelOpened_append {first second : Log} :
    ChannelOpened (first ++ second) ↔ ChannelOpened first ∨ ChannelOpened second :=
  List.mem_append

theorem sendSignal_unsettled {msg : SignalMessage} {post : Option Err → Log → Prop}
    (then_ : ∀ failure sending, OnlyWrites relayConn sending → post failure (log ++ sending)) :
    Meets Unrestricted post (sendSignal relayConn msg) log := by
  apply meets_of_runs
  · intro sending op next run
    trivial
  · intro sending failure run
    exact then_ failure sending (sendFramed_runs marshal_ne_nil run).1

theorem sendFallback_settles (unopened : ¬ ChannelOpened log)
    (closed : created ∈ log → discarded ∈ log) :
    Meets Unrestricted Settles (do let _ ← sendSignal relayConn fallbackSignal; return (true,
      some err)) log := by
  refine Meets.bind (sendSignal_unsettled fun failure sending writes => ?_)
  refine Or.inr ⟨Or.inl rfl, ?_, ?_⟩
  · rw [channelOpened_append, not_or]
    exact ⟨unopened, writes.unsettled.1⟩
  · intro member
    rcases List.mem_append.mp member with before | sent
    · exact List.mem_append_left _ (closed before)
    · exact absurd sent writes.unsettled.2

theorem refuseOffer_settles (unopened : ¬ ChannelOpened log) :
    Meets Unrestricted Settles (refuseOffer relayConn err) log := by
  refine ⟨trivial, fun _ _ => ?_⟩
  refine sendFallback_settles ?_ fun _ => by simp [discarded]
  rw [channelOpened_append, not_or]
  exact ⟨unopened, by simp [ChannelOpened]⟩

theorem abandon_settles {answer : Await} (notOpened : answer ≠ .opened)
    (unopened : ¬ ChannelOpened log) :
    Meets Unrestricted (fun outcome later => Settles (false, outcome) later) (abandon err)
      (log ++ [⟨.awaitDataChannel, answer⟩]) := by
  refine ⟨trivial, fun _ _ => Or.inr ⟨Or.inr (by simp), ?_, fun _ => by simp [discarded]⟩⟩
  simp only [channelOpened_append, not_or]
  refine ⟨⟨unopened, ?_⟩, by simp [ChannelOpened]⟩
  simpa [ChannelOpened] using notOpened.symm

theorem awaitConn_settles (unopened : ¬ ChannelOpened log) :
    Meets Unrestricted (fun outcome later => Settles (false, outcome) later) awaitConn log := by
  refine ⟨trivial, fun answer _ => ?_⟩
  cases answer with
  | opened => exact Or.inl ⟨rfl, by simp [ChannelOpened]⟩
  | cancelled err => exact abandon_settles (by simp) unopened
  | timeout => exact abandon_settles (by simp) unopened

end Negotiation

theorem unopened_snoc (event : Sigma Answer) (other : event.1 ≠ .awaitDataChannel)
    (unopened : ¬ ChannelOpened log) : ¬ ChannelOpened (log ++ [event]) := by
  rw [channelOpened_append, not_or]
  refine ⟨unopened, fun opened => other ?_⟩
  rw [← List.mem_singleton.mp opened]

theorem negotiateWebRTCServer_settles (platform : Platform) (relayConn : Conn) :
    Meets Unrestricted Settles (negotiateWebRTCServer platform relayConn) [] := by
  simp only [negotiateWebRTCServer, perform_bind]
  apply Meets.bind
  apply meets_of_runs
  · intro hearing op next run
    trivial
  intro hearing first run
  obtain ⟨unopened, uncreated⟩ := (readFramed_runs run).1.unsettled
  simp only [List.nil_append]
  cases first with
  | error err => exact Or.inr ⟨Or.inr (by simp), unopened, fun member => absurd member uncreated⟩
  | ok msg =>
  simp only
  split
  · exact Or.inr ⟨Or.inl rfl, unopened, fun member => absurd member uncreated⟩
  split
  · exact Or.inr ⟨Or.inr (by simp), unopened, fun member => absurd member uncreated⟩
  refine ⟨trivial, fun made _ => ?_⟩
  -- from here on there may be a peer connection to dispose of
  replace unopened := unopened_snoc ⟨.newPeerConnection, made⟩ (by simp) unopened
  cases made with
  | some err =>
      refine sendFallback_settles unopened fun member => ?_
      simp only [created, List.mem_append, List.mem_singleton, Sigma.mk.injEq, heq_eq_eq, reduceCtorEq,
        and_false, or_false] at member
      exact absurd member uncreated
  | none =>
  refine ⟨trivial, fun registered _ => ?_⟩
  replace unopened := unopened_snoc ⟨.onOpen, registered⟩ (by simp) unopened
  refine ⟨trivial, fun registered _ => ?_⟩
  replace unopened := unopened_snoc ⟨.onICECandidate relayConn, registered⟩ (by simp) unopened
  refine ⟨trivial, fun remote _ => ?_⟩
  replace unopened := unopened_snoc ⟨.setRemoteDescription msg.sdp, remote⟩ (by simp) unopened
  cases remote with
  | some err => exact refuseOffer_settles unopened
  | none =>
  refine ⟨trivial, fun answered _ => ?_⟩
  replace unopened := unopened_snoc ⟨.createAnswer, answered⟩ (by simp) unopened
  cases answered with
  | error err => exact refuseOffer_settles unopened
  | ok answer =>
  refine ⟨trivial, fun described _ => ?_⟩
  replace unopened := unopened_snoc ⟨.setLocalDescription answer, described⟩ (by simp) unopened
  cases described with
  | some err => exact refuseOffer_settles unopened
  | none =>
  refine Meets.bind (sendSignal_unsettled fun failure sending writes => ?_)
  have still : ¬ ChannelOpened (_ ++ sending) := fun opened =>
    (channelOpened_append.mp opened).elim unopened writes.unsettled.1
  cases failure with
  | some err =>
      refine ⟨trivial, fun _ _ => Or.inr ⟨Or.inr (by simp), ?_, fun _ => by simp [discarded]⟩⟩
      exact unopened_snoc _ (by simp) still
  | none =>
      refine ⟨trivial, fun started _ => ?_⟩
      exact Meets.bind (awaitConn_settles (unopened_snoc _ (by simp) still))

/-! What the handlers do before they have a data connection. -/

def CheckOp (op : Op) : Prop :=
  op = .handshake .incoming ∨ IsRead (.tls .incoming) op ∨ (∃ data, op = .write (.tls .incoming) data) ∨
    op = .close (.tls .incoming)

theorem admission_checks (platform : Platform) (opts : ServerOptions) :
    Meets (Contract.always fun _ op => CheckOp op) (fun _ _ => True) (admission platform opts) [] := by
  simp only [admission, perform_bind]
  refine ⟨Or.inl rfl, fun outcome _ => ?_⟩
  cases outcome with
  | error err => trivial
  | ok certs =>
      simp only
      split
      · exact ⟨Or.inr (Or.inr (Or.inr rfl)), fun _ _ => trivial⟩
      · apply Meets.bind
        apply meets_of_runs
        · intro auth op next run
          rcases (performServerAuth_meets platform _ _).asks run with ⟨isRead, _⟩ | ⟨isWrite, _⟩
          · exact Or.inr (Or.inl isRead)
          · exact Or.inr (Or.inr (Or.inl isWrite))
        · intro auth failure run
          cases failure with
          | some err => exact ⟨Or.inr (Or.inr (Or.inr rfl)), fun _ _ => trivial⟩
          | none => trivial

/-- The operations before a handler's own part: nothing is run, dialled or sent on, and
only the TLS connection is ever closed. -/
def Preliminary : Op → Prop
  | .close conn => conn = .tls .incoming
  | .handle _ _ | .dialTarget _ _ | .writeProxyHeader _ => False
  | _ => True

theorem CheckOp.preliminary {op : Op} (check : CheckOp op) :
    Preliminary op ∧ op ≠ .awaitDataChannel ∧ op ≠ .newPeerConnection := by
  rcases check with rfl | ⟨size, _, rfl⟩ | ⟨data, rfl⟩ | rfl <;> simp [Preliminary]

theorem UpgradeOp.preliminary {op : Op} (upgrade : UpgradeOp (.tls .incoming) op) :
    Preliminary op := by
  rcases upgrade with ⟨size, _, rfl⟩ | ⟨data, rfl, _⟩ | pion
  · trivial
  · trivial
  · cases op <;> trivial

theorem negotiation_preliminary {rest : Goroutine (Bool × Option Err)}
    (run : Runs (negotiateWebRTCServer platform (.tls .incoming)) log rest) :
    ∀ event ∈ log, Preliminary event.1 := by
  intro event member
  obtain ⟨before, after, rfl⟩ := List.append_of_mem member
  exact ((negotiateWebRTCServer_meets platform (.tls .incoming)).guarded run).1.preliminary

/-- A data channel has been negotiated exactly if it is the data connection; otherwise no
peer connection is left behind. -/
def Chosen (dataConn : Conn) (early : Log) : Prop :=
  dataConn = .p2p ∧ ChannelOpened early ∨
  dataConn = .tls .incoming ∧ ¬ ChannelOpened early ∧ (created ∈ early → discarded ∈ early)

theorem serverDataConn_chosen {isRelay : Bool} {choice : Log}
    (run : Runs (serverDataConn platform isRelay) choice (.done dataConn)) :
    (∀ event ∈ choice, Preliminary event.1) ∧ Chosen dataConn choice := by
  rcases serverDataConn_done run with ⟨rfl, rfl | ⟨result, negotiated, relayed⟩⟩ |
    ⟨rfl, negotiation, rfl, negotiated⟩
  · exact ⟨by simp, Or.inr ⟨rfl, by simp [ChannelOpened], by simp⟩⟩
  · refine ⟨negotiation_preliminary negotiated, Or.inr ⟨rfl, ?_⟩⟩
    rcases (negotiateWebRTCServer_settles platform _).finishes negotiated with
      ⟨rfl, _⟩ | ⟨_, unopened, closed⟩
    · simp at relayed
    · exact ⟨unopened, closed⟩
  · constructor
    · intro event member
      rcases List.mem_append.mp member with inside | last
      · exact negotiation_preliminary negotiated event inside
      · rw [List.mem_singleton.mp last]
        exact rfl
    · refine Or.inl ⟨rfl, channelOpened_append.mpr (Or.inl ?_)⟩
      rcases (negotiateWebRTCServer_settles platform _).finishes negotiated with
        ⟨_, opened⟩ | ⟨relayed, _⟩
      · exact opened
      · simp at relayed

theorem ServedRun.early {proceed : List Bytes → Conn → Goroutine Unit}
    (served : ServedRun platform opts proceed log certs dataConn session) :
    ∃ early, log = early ++ session ++ [closing (.raw .incoming)] ∧
      (∀ event ∈ early, Preliminary event.1) ∧ Chosen dataConn early := by
  obtain ⟨checks, choice, rfl, passed, chose⟩ := served.split
  have checked := ((admission_checks platform opts).confined passed).1
  obtain ⟨preliminary, chosen⟩ := serverDataConn_chosen chose
  have unopened : ¬ ChannelOpened checks := fun opened => (checked _ opened).preliminary.2.1 rfl
  have uncreated : created ∉ checks := fun made => (checked _ made).preliminary.2.2 rfl
  refine ⟨checks ++ choice, rfl, ?_, ?_⟩
  · intro event member
    rcases List.mem_append.mp member with inside | inside
    · exact (checked event inside).preliminary.1
    · exact preliminary event inside
  · rcases chosen with ⟨rfl, opened⟩ | ⟨rfl, still, closed⟩
    · exact Or.inl ⟨rfl, channelOpened_append.mpr (Or.inr opened)⟩
    · refine Or.inr ⟨rfl, ?_, ?_⟩
      · rw [channelOpened_append, not_or]
        exact ⟨unopened, still⟩
      · intro made
        exact List.mem_append_right _ (closed ((List.mem_append.mp made).resolve_left uncreated))

/-! The session itself. -/

def ClosedAbove (conn : Conn) (log : Log) : Prop :=
  closing conn ∈ log ∨ ∃ event ∈ log, ∃ app : App, event.1 = .handle app conn ∧ app.isMultiplexed = true

def Keeps (log : Log) : ServerHandler → Prop
  | .serve mode => ∃ commandStr, mode.app = .commandServer commandStr
  | .forward _ _ => ∃ header err, (⟨.writeProxyHeader header, some err⟩ : Sigma Answer) ∈ log

structure SessionEnds (handler : ServerHandler) (dataConn : Conn) (session : Log) : Prop where
  settled : ¬ ChannelOpened session ∧ created ∉ session
  target : ∀ network addr, (⟨.dialTarget network addr, none⟩ : Sigma Answer) ∈ session →
    closing .target ∈ session
  dataConn : ClosedAbove dataConn session ↔ ¬ Keeps session handler

theorem handleConn_eq (mode : ServerMode) (conn : Conn) :
    handleConn mode conn = .ask (.handle mode.app conn) fun _ =>
      if mode.app = .pipe then perform (.close conn) else return () := by
  by_cases socks : mode.isSocks = true
  · have app : mode.app = .socksServer := by rw [ServerMode.app, if_pos socks]
    rw [app, handleConn, if_pos socks]
    rfl
  by_cases shell : mode.isShell = true
  · have app : mode.app = .shellServer := by rw [ServerMode.app, if_neg socks, if_pos shell]
    rw [app, handleConn, if_neg socks, if_pos shell]
    rfl
  by_cases command : mode.isCommand ≠ ""
  · have app : mode.app = .commandServer mode.isCommand := by
      rw [ServerMode.app, if_neg socks, if_neg shell, if_pos command]
    rw [app, handleConn, if_neg socks, if_neg shell, if_pos command]
    rfl
  by_cases reverse : mode.reverseForward ≠ ""
  · have app : mode.app = .reverseForwardServer mode.reverseForward := by
      rw [ServerMode.app, if_neg socks, if_neg shell, if_neg command, if_pos reverse]
    rw [app, handleConn, if_neg socks, if_neg shell, if_neg command, if_pos reverse]
    rfl
  · have app : mode.app = .pipe := by
      rw [ServerMode.app, if_neg socks, if_neg shell, if_neg command, if_neg reverse]
    rw [app, handleConn, if_neg socks, if_neg shell, if_neg command, if_neg reverse]
    rfl

theorem handleConn_done {mode : ServerMode} (run : Runs (handleConn mode conn) session (.done ())) :
    ∃ answer : Answer (.handle mode.app conn), session = ⟨.handle mode.app conn, answer⟩ ::
      if mode.app = .pipe then [closing conn] else [] := by
  rw [handleConn_eq] at run
  cases run with
  | step answer later =>
      refine ⟨answer, ?_⟩
      split at later
      case isTrue pipe =>
        cases later with
        | step _ finished =>
            obtain ⟨rfl, -⟩ := runs_done.mp finished
            rw [if_pos pipe]
            rfl
      case isFalse service =>
        obtain ⟨rfl, -⟩ := runs_done.mp later
        rw [if_neg service]

theorem ServerMode.app_cases (mode : ServerMode) :
    mode.app.isMultiplexed = true ∨ (∃ commandStr, mode.app = .commandServer commandStr) ∨
      mode.app = .pipe := by
  rw [ServerMode.app]
  split
  · exact Or.inl rfl
  split
  · exact Or.inl rfl
  split
  · exact Or.inr (Or.inl ⟨_, rfl⟩)
  split
  · exact Or.inl rfl
  · exact Or.inr (Or.inr rfl)

theorem serve_ends {mode : ServerMode} (run : Runs (handleConn mode conn) session (.done ())) :
    SessionEnds (.serve mode) conn session := by
  obtain ⟨answer, rfl⟩ := handleConn_done run
  refine ⟨?_, ?_, ?_⟩
  · split <;> simp [ChannelOpened, created, closing]
  · split <;> simp [closing]
  · rcases mode.app_cases with multiplexed | ⟨commandStr, command⟩ | pipe
    · refine iff_of_true (Or.inr ⟨_, List.mem_cons_self, mode.app, rfl, multiplexed⟩) ?_
      rintro ⟨commandStr, command⟩
      rw [command] at multiplexed
      cases multiplexed
    · refine iff_of_false ?_ fun released => released ⟨commandStr, command⟩
      have notPipe : mode.app ≠ .pipe := by simp [command]
      rw [if_neg notPipe]
      rintro (closed | ⟨event, member, app, call, multiplexed⟩)
      · simp [closing] at closed
      · rw [List.mem_singleton.mp member] at call
        injection call with same _
        rw [← same, command] at multiplexed
        cases multiplexed
    · refine iff_of_true (Or.inl ?_) ?_
      · rw [if_pos pipe]
        simp
      · rintro ⟨commandStr, command⟩
        rw [pipe] at command
        cases command

def HeaderOp (op : Op) : Prop :=
  (∃ conn, op = .remoteAddr conn) ∨ op = .localAddr .target ∨ ∃ sent, op = .writeProxyHeader sent

theorem HeaderOp.absent {header : Log} (ops : ∀ event ∈ header, HeaderOp event.1)
    (event : Sigma Answer) (other : ¬ HeaderOp event.1) : event ∉ header :=
  fun member => other (ops event member)

theorem headerStep_done {proxyProtocol : Bool} {header : Log} {result : Option Err}
    (run : Runs (headerStep platform proxyProtocol certs dataConn) header (.done result)) :
    (∀ event ∈ header, HeaderOp event.1) ∧
    ∀ err : Err, result = some err ↔
      ∃ sent, (⟨.writeProxyHeader sent, some err⟩ : Sigma Answer) ∈ header := by
  rw [headerStep] at run
  split at run
  · obtain ⟨asked, src, dst, rfl, source⟩ := sendProxyHeader_done run
    have inside : ∀ {event : Sigma Answer}, event ∈ asked → event.1 = .remoteAddr dataConn := by
      intro event member
      rcases source with ⟨-, -, rfl⟩ | rfl
      · cases member
      · rw [List.mem_singleton.mp member]
    constructor
    · intro event member
      rcases List.mem_append.mp member with early | late
      · exact Or.inl ⟨dataConn, inside early⟩
      · rcases List.mem_cons.mp late with rfl | late
        · exact Or.inr (Or.inl rfl)
        · rw [List.mem_singleton.mp late]
          exact Or.inr (Or.inr ⟨_, rfl⟩)
    · intro err
      constructor
      · rintro rfl
        exact ⟨_, List.mem_append_right _ (List.mem_cons_of_mem _ List.mem_cons_self)⟩
      · rintro ⟨sent, member⟩
        rcases List.mem_append.mp member with early | late
        · cases inside early
        · rcases List.mem_cons.mp late with same | late
          · cases same
          · cases List.mem_singleton.mp late
            rfl
  · obtain ⟨rfl, same⟩ := runs_done.mp run
    injection same with same
    subst same
    simp

theorem forward_ends {forwardAddr : String} {proxyProtocol : Bool}
    (notTarget : dataConn ≠ .target)
    (run : Runs (forwardConn platform forwardAddr proxyProtocol certs dataConn) session (.done ())) :
    SessionEnds (.forward forwardAddr proxyProtocol) dataConn session := by
  cases forwardConn_done.mp run with
  | unreachable err =>
      refine ⟨by simp [ChannelOpened, created, dialled, closing], ?_, ?_⟩
      · simp [dialled, closing]
      · refine iff_of_true (Or.inl (by simp)) ?_
        simp [Keeps, dialled, closing]
  | @headerFailed header err sent =>
      obtain ⟨ops, failed⟩ := headerStep_done sent
      obtain ⟨written, member⟩ := (failed err).mp rfl
      have opened := HeaderOp.absent ops ⟨.awaitDataChannel, .opened⟩ (by simp [HeaderOp])
      have made := HeaderOp.absent ops ⟨.newPeerConnection, none⟩ (by simp [HeaderOp])
      have kept := HeaderOp.absent ops ⟨.close dataConn, ()⟩ (by simp [HeaderOp])
      refine ⟨by simp [ChannelOpened, created, dialled, closing, opened, made], fun _ _ _ => by simp, ?_⟩
      refine iff_of_false ?_ fun released => released ⟨written, err, by simp [member]⟩
      rintro (closed | ⟨event, inside, app, call, -⟩)
      · simp [dialled, closing, kept, notTarget] at closed
      · have other : ¬ HeaderOp event.1 := by simp [HeaderOp, call]
        have absent := HeaderOp.absent ops event other
        simp only [List.cons_append, List.mem_cons, List.mem_append, absent, List.not_mem_nil, or_false,
          false_or] at inside
        rcases inside with rfl | rfl <;> cases call
  | @copied header outcome sent =>
      obtain ⟨ops, failed⟩ := headerStep_done sent
      have opened := HeaderOp.absent ops ⟨.awaitDataChannel, .opened⟩ (by simp [HeaderOp])
      have made := HeaderOp.absent ops ⟨.newPeerConnection, none⟩ (by simp [HeaderOp])
      refine ⟨by simp [ChannelOpened, created, dialled, closing, opened, made], fun _ _ _ => by simp, ?_⟩
      refine iff_of_true (Or.inl (by simp)) ?_
      rintro ⟨written, err, inside⟩
      have member : (⟨.writeProxyHeader written, some err⟩ : Sigma Answer) ∈ header := by
        simpa [dialled, closing] using inside
      cases (failed err).mpr ⟨written, member⟩

/-! Whole runs, first of a handler alone, then with its services. -/

structure OthersReleased (log : Log) : Prop where
  incoming : closing (.raw .incoming) ∈ log
  abandoned : created ∈ log → discarded ∈ log ∨ ChannelOpened log
  target : ∀ network addr, (⟨.dialTarget network addr, none⟩ : Sigma Answer) ∈ log →
    ClosedAbove .target log

def ChannelReleased (log : Log) : Prop := ChannelOpened log → ClosedAbove .p2p log

theorem Preliminary.not_closedAbove {early : Log}
    (preliminary : ∀ event ∈ early, Preliminary event.1) (notTls : conn ≠ .tls .incoming) :
    ¬ ClosedAbove conn early := by
  rintro (closed | ⟨event, member, app, call, -⟩)
  · exact notTls (preliminary _ closed)
  · have early := preliminary event member
    rw [call] at early
    exact early

theorem closedAbove_append {first second : Log} :
    ClosedAbove conn (first ++ second) ↔ ClosedAbove conn first ∨ ClosedAbove conn second := by
  constructor
  · rintro (closed | ⟨event, member, call⟩)
    · exact (List.mem_append.mp closed).imp Or.inl Or.inl
    · rcases List.mem_append.mp member with inside | inside
      · exact Or.inl (Or.inr ⟨event, inside, call⟩)
      · exact Or.inr (Or.inr ⟨event, inside, call⟩)
  · rintro ((closed | ⟨event, member, call⟩) | (closed | ⟨event, member, call⟩))
    · exact Or.inl (List.mem_append_left _ closed)
    · exact Or.inr ⟨event, List.mem_append_left _ member, call⟩
    · exact Or.inl (List.mem_append_right _ closed)
    · exact Or.inr ⟨event, List.mem_append_right _ member, call⟩

theorem refused_releases
    (refused : RefusedRun platform opts log) : OthersReleased log ∧ ¬ ChannelOpened log := by
  obtain ⟨checks, rfl, run⟩ := refused
  have checked := ((admission_checks platform opts).confined run).1
  have absent : ∀ event : Sigma Answer, ¬ CheckOp event.1 → event ≠ closing (.raw .incoming) →
      event ∉ checks ++ [closing (.raw .incoming)] := by
    intro event other notLast member
    rcases List.mem_append.mp member with inside | last
    · exact other (checked event inside)
    · exact notLast (List.mem_singleton.mp last)
  refine ⟨⟨by simp, fun made => ?_, fun network addr dial => ?_⟩, ?_⟩
  · exact absurd made (absent _ (by simp [created, CheckOp, IsRead]) (by simp [created, closing]))
  · exact absurd dial (absent _ (by simp [CheckOp, IsRead]) (by simp [closing]))
  · exact absent _ (by simp [CheckOp, IsRead]) (by simp [closing])

theorem proceed_ends (notTarget : dataConn ≠ .target)
    (run : Runs (handler.proceed platform certs dataConn) session (.done ())) :
    SessionEnds handler dataConn session := by
  cases handler with
  | serve mode => exact serve_ends run
  | forward forwardAddr proxyProtocol => exact forward_ends notTarget run

section Served

variable {handler : ServerHandler} {dataConn : Conn} {early session : Log}

theorem served_opened_iff (ends : SessionEnds handler dataConn session) :
    ChannelOpened (early ++ session ++ [closing (.raw .incoming)]) ↔ ChannelOpened early := by
  have last : ¬ ChannelOpened [closing (.raw .incoming)] := by simp [ChannelOpened, closing]
  simp only [channelOpened_append, ends.settled.1, last, or_false]

theorem served_keeps_iff (preliminary : ∀ event ∈ early, Preliminary event.1) :
    Keeps (early ++ session ++ [closing (.raw .incoming)]) handler ↔ Keeps session handler := by
  cases handler with
  | serve mode => rfl
  | forward forwardAddr proxyProtocol =>
      have absent : ∀ header (err : Err), (⟨.writeProxyHeader header, some err⟩ : Sigma Answer) ∉ early :=
        fun _ _ member => preliminary _ member
      simp [Keeps, absent, closing]

theorem served_p2p_iff (preliminary : ∀ event ∈ early, Preliminary event.1) :
    ClosedAbove .p2p (early ++ session ++ [closing (.raw .incoming)]) ↔ ClosedAbove .p2p session := by
  have last : ¬ ClosedAbove .p2p [closing (.raw .incoming)] := by
    rintro (same | ⟨event, member, app, call, -⟩)
    · simp [closing] at same
    · rw [List.mem_singleton.mp member] at call
      cases call
  have first := Preliminary.not_closedAbove preliminary (show Conn.p2p ≠ .tls .incoming by simp)
  simp only [closedAbove_append, first, last, false_or, or_false]

theorem served_channel_iff (preliminary : ∀ event ∈ early, Preliminary event.1)
    (chosen : Chosen dataConn early) (ends : SessionEnds handler dataConn session) :
    ChannelReleased (early ++ session ++ [closing (.raw .incoming)]) ↔
      ¬ (ChannelOpened (early ++ session ++ [closing (.raw .incoming)]) ∧
        Keeps (early ++ session ++ [closing (.raw .incoming)]) handler) := by
  rw [ChannelReleased, served_opened_iff ends, served_keeps_iff preliminary, served_p2p_iff preliminary]
  rcases chosen with ⟨rfl, isOpen⟩ | ⟨rfl, unopened, -⟩
  · simp [isOpen, ends.dataConn]
  · simp [unopened]

theorem served_others (preliminary : ∀ event ∈ early, Preliminary event.1)
    (chosen : Chosen dataConn early) (ends : SessionEnds handler dataConn session) :
    OthersReleased (early ++ session ++ [closing (.raw .incoming)]) := by
  refine ⟨by simp, ?_, ?_⟩
  · intro made
    have notLast : created ≠ closing (.raw .incoming) := by simp [created, closing]
    have inEarly : created ∈ early := by
      simpa only [List.mem_append, List.mem_singleton, ends.settled.2, notLast, or_false] using made
    rcases chosen with ⟨-, isOpen⟩ | ⟨-, -, discards⟩
    · exact Or.inr ((served_opened_iff ends).mpr isOpen)
    · exact Or.inl (by simp [discards inEarly])
  · intro network addr dial
    have absent : (⟨.dialTarget network addr, none⟩ : Sigma Answer) ∉ early :=
      fun member => preliminary _ member
    have inSession : (⟨.dialTarget network addr, none⟩ : Sigma Answer) ∈ session := by
      simpa [absent, closing] using dial
    exact Or.inl (by simp [ends.target network addr inSession])

end Served

theorem handler_releases (run : Runs (handler.run platform opts) log (.done ())) :
    OthersReleased log ∧ (ChannelReleased log ↔ ¬ (ChannelOpened log ∧ Keeps log handler)) := by
  rw [ServerHandler.run_eq] at run
  rcases admitConn_done.mp run with refused | ⟨certs, dataConn, session, served⟩
  · obtain ⟨others, unopened⟩ := refused_releases refused
    exact ⟨others, iff_of_true (fun isOpen => absurd isOpen unopened) fun kept => unopened kept.1⟩
  · obtain ⟨early, rfl, preliminary, chosen⟩ := served.early
    have notTarget : dataConn ≠ .target := by
      rcases chosen with ⟨rfl, -⟩ | ⟨rfl, -⟩ <;> simp
    have ends := proceed_ends notTarget served.session
    exact ⟨served_others preliminary chosen ends, served_channel_iff preliminary chosen ends⟩

def negotiated : Sigma ServiceAnswer := ⟨.handler .awaitDataChannel, .opened⟩

def ClosedIn (conn : Conn) (log : ServiceLog) : Prop :=
  (⟨.handler (.close conn), ()⟩ : Sigma ServiceAnswer) ∈ log ∨
  (⟨.closeSession conn, ()⟩ : Sigma ServiceAnswer) ∈ log

structure Releases (log : ServiceLog) : Prop where
  incoming : (⟨.handler (.close (.raw .incoming)), ()⟩ : Sigma ServiceAnswer) ∈ log
  p2p : negotiated ∈ log → ClosedIn .p2p log
  abandoned : (⟨.handler .newPeerConnection, none⟩ : Sigma ServiceAnswer) ∈ log →
    (⟨.handler .closePeerConnection, ()⟩ : Sigma ServiceAnswer) ∈ log ∨ negotiated ∈ log
  target : ∀ network addr, (⟨.handler (.dialTarget network addr), none⟩ : Sigma ServiceAnswer) ∈ log →
    ClosedIn .target log

/-- A data channel was negotiated, and then the command service ran on it or the PROXY
header of a forwarded session failed. -/
def Retains (log : ServiceLog) : ServerHandler → Prop
  | .serve mode => negotiated ∈ log ∧ ∃ commandStr, mode.app = .commandServer commandStr
  | .forward _ _ => negotiated ∈ log ∧
      ∃ header err, (⟨.handler (.writeProxyHeader header), some err⟩ : Sigma ServiceAnswer) ∈ log

def ServerHandler.serving (platform : Platform) (opts : ServerOptions) (goos : String) (bound : Nat)
    (handler : ServerHandler) : Service Unit :=
  interpret (carryOut goos bound) (handler.run platform opts)

section Carried

variable {goos : String} {bound : Nat} {log : Log} {lower : ServiceLog}

theorem closedIn_iff (conn : Conn) (implements : Implements (carryOut goos bound) log lower) :
    ClosedIn conn lower ↔ ClosedAbove conn log :=
  or_congr (handler_event_iff (by simp [ServiceCall]) implements) (session_closed_iff implements)

theorem negotiated_iff (implements : Implements (carryOut goos bound) log lower) :
    negotiated ∈ lower ↔ ChannelOpened log :=
  handler_event_iff (by simp [ServiceCall]) implements

theorem releases_iff (implements : Implements (carryOut goos bound) log lower) :
    Releases lower ↔ OthersReleased log ∧ ChannelReleased log := by
  have plain : ∀ {op : Op} {answer : Answer op}, ¬ ServiceCall op →
      ((⟨.handler op, answer⟩ : Sigma ServiceAnswer) ∈ lower ↔ (⟨op, answer⟩ : Sigma Answer) ∈ log) :=
    fun other => handler_event_iff other implements
  have opened := negotiated_iff implements
  have closed := fun conn => closedIn_iff conn implements
  have dialled : ∀ {network addr},
    (⟨.handler (.dialTarget network addr), none⟩ : Sigma ServiceAnswer) ∈ lower ↔
      (⟨.dialTarget network addr, none⟩ : Sigma Answer) ∈ log := plain (by simp [ServiceCall])
  have made : (⟨.handler .newPeerConnection, none⟩ : Sigma ServiceAnswer) ∈ lower ↔ created ∈ log :=
    plain (by simp [ServiceCall])
  have discards : (⟨.handler .closePeerConnection, ()⟩ : Sigma ServiceAnswer) ∈ lower ↔ discarded ∈ log :=
    plain (by simp [ServiceCall])
  have incoming : (⟨.handler (.close (.raw .incoming)), ()⟩ : Sigma ServiceAnswer) ∈ lower ↔
      closing (.raw .incoming) ∈ log := plain (by simp [ServiceCall])
  constructor
  · intro releases
    refine ⟨⟨incoming.mp releases.incoming, ?_, ?_⟩, ?_⟩
    · exact fun isMade => (releases.abandoned (made.mpr isMade)).imp discards.mp opened.mp
    · exact fun network addr dial => (closed _).mp (releases.target network addr (dialled.mpr dial))
    · exact fun isOpen => (closed _).mp (releases.p2p (opened.mpr isOpen))
  · rintro ⟨others, channel⟩
    refine ⟨incoming.mpr others.incoming, ?_, ?_, ?_⟩
    · exact fun isOpen => (closed _).mpr (channel (opened.mp isOpen))
    · exact fun isMade => (others.abandoned (made.mp isMade)).imp discards.mpr opened.mpr
    · exact fun network addr dial => (closed _).mpr (others.target network addr (dialled.mp dial))

theorem retains_iff (handler : ServerHandler)
    (implements : Implements (carryOut goos bound) log lower) :
    Retains lower handler ↔ ChannelOpened log ∧ Keeps log handler := by
  cases handler with
  | serve mode => exact and_congr (negotiated_iff implements) Iff.rfl
  | forward forwardAddr proxyProtocol =>
      refine and_congr (negotiated_iff implements) (exists_congr fun header => exists_congr fun err => ?_)
      exact handler_event_iff (by simp [ServiceCall]) implements

end Carried

/-! Sessions over a negotiated data channel. -/

def upgrade : Log :=
  answering (.tls .incoming) "" "" ++ [⟨.goReadCandidates (.tls .incoming), ()⟩] ++
    [⟨.awaitDataChannel, .opened⟩]

theorem upgrade_runs (platform : Platform) :
    Runs (negotiateWebRTCServer platform (.tls .incoming)) upgrade (.done (false, none)) := by
  have fits : (offerSignal "").marshal.length ≤ maxMessage := by decide
  rw [upgrade]
  refine (negotiateWebRTCServer_answers platform "" fits).trans ?_
  apply Runs.step
  exact Runs.start _

theorem upgraded_runs (run : Runs (handler.proceed platform [] .p2p) session (.done ())) :
    Runs (handler.run platform ⟨true, [], ""⟩)
      ((⟨.handshake .incoming, .ok []⟩ :: writeFrame (.tls .incoming) okChallenge.marshal) ++
        (upgrade ++ [closing (.tls .incoming)]) ++ session ++ [closing (.raw .incoming)]) (.done ()) := by
  have chosen :
      Runs (serverDataConn platform true) (upgrade ++ [closing (.tls .incoming)]) (.done .p2p) := by
    refine ((upgrade_runs platform).bind _).trans ?_
    apply Runs.step
    exact Runs.start _
  rw [ServerHandler.run_eq]
  exact admitConn_done.mpr
    (Or.inr ⟨[], .p2p, session, ⟨_, _, rfl, admission_open platform true [], chosen⟩, run⟩)

theorem implements_plain (plain : ∀ event ∈ log, ¬ ServiceCall event.1) :
    Implements (carryOut goos bound) log (log.map fun event => ⟨.handler event.1, event.2⟩) := by
  induction log with
  | nil => exact .nil
  | cons event log ih =>
      have single : Runs (carryOut goos bound event.1) [⟨.handler event.1, event.2⟩] (.done event.2) := by
        rw [carryOut_other goos bound (plain event List.mem_cons_self)]
        apply Runs.step
        exact Runs.start _
      exact .cons single (ih fun later member => plain later (List.mem_cons_of_mem _ member))

theorem upgraded_serving {lower : ServiceLog}
    (run : Runs (handler.proceed platform [] .p2p) session (.done ()))
    (implements : Implements (carryOut goos bound) session lower) :
    ∃ log above, Runs (handler.serving platform ⟨true, [], ""⟩ goos bound) log (.done ()) ∧
      Implements (carryOut goos bound) above log ∧
        Runs (handler.run platform ⟨true, [], ""⟩) above (.done ()) ∧
      ChannelOpened above ∧ ∀ event ∈ session, event ∈ above := by
  have whole := upgraded_runs run
  have before : Implements (carryOut goos bound)
      ((⟨.handshake .incoming, .ok []⟩ :: writeFrame (.tls .incoming) okChallenge.marshal) ++
        (upgrade ++ [closing (.tls .incoming)])) _ :=
    implements_plain
      (by simp [upgrade, answering, hearing, readFrame, readWhole, writeFrame, closing, ServiceCall])
  have last : Implements (carryOut goos bound) [closing (.raw .incoming)] _ :=
    implements_plain (by simp [closing, ServiceCall])
  have carried := (before.append implements).append last
  refine ⟨_, _, interpret_done.mpr ⟨_, whole, carried⟩, carried, whole, ?_, ?_⟩
  · simp [ChannelOpened, upgrade]
  · intro event member
    simp [member]

/-! The result. -/

theorem handlers_release_iff (platform : Platform) (opts : ServerOptions)
    (handler : ServerHandler) (goos : String) (bound : Nat) {log : ServiceLog}
    (run : Runs (handler.serving platform opts goos bound) log (.done ())) :
    Releases log ↔ ¬ Retains log handler := by
  obtain ⟨above, whole, implements⟩ := interpret_done.mp run
  obtain ⟨others, channel⟩ := handler_releases whole
  rw [releases_iff implements, retains_iff handler implements, ← channel]
  exact and_iff_right others

theorem socks_over_channel_released :
    ∃ log, Runs ((ServerHandler.serve ⟨true, false, "", ""⟩).serving referencePlatform ⟨true, [],
      ""⟩ "linux" 1)
        log (.done ()) ∧ negotiated ∈ log ∧ Releases log := by
  have session : Runs ((ServerHandler.serve ⟨true, false, "", ""⟩).proceed referencePlatform [] .p2p)
      [⟨.handle .socksServer .p2p, ()⟩] (.done ()) := by
    apply Runs.step
    exact Runs.start _
  have service : Runs (carryOut "linux" 1 (.handle .socksServer .p2p))
      [⟨.newSocks5, none⟩, ⟨.sessionAccept .p2p, some .eof⟩, ⟨.closeSession .p2p, ()⟩] (.done ()) := by
    apply Runs.step
    apply Runs.step
    apply Runs.step
    exact Runs.start _
  obtain ⟨log, above, run, implements, -, opened, -⟩ := upgraded_serving session (.cons service .nil)
  refine ⟨log, run, (negotiated_iff implements).mpr opened, ?_⟩
  refine (handlers_release_iff referencePlatform ⟨true, [], ""⟩ _ "linux" 1 run).mpr ?_
  rintro ⟨-, commandStr, command⟩
  cases command

def leakingCommand : ServerHandler := .serve ⟨false, false, "true", ""⟩

def leakingForward : ServerHandler := .forward "127.0.0.1:80" true

def unannounced : Log :=
  [dialled "127.0.0.1:80" none, ⟨.localAddr .target, some (.tcp [127, 0, 0, 1] 40000)⟩,
    ⟨.writeProxyHeader (proxyHeader referencePlatform [] placeholder (.tcp [127, 0, 0, 1] 40000)),
      some (.text "proxyproto: invalid address")⟩,
    closing .target]

theorem channel_left_open
    {lower : ServiceLog} (run : Runs (handler.proceed referencePlatform [] .p2p) session (.done ()))
    (implements : Implements (carryOut goos bound) session lower)
    (keeps : ∀ log, (∀ event ∈ session, event ∈ log) → Keeps log handler) :
    ∃ log, Runs (handler.serving referencePlatform ⟨true, [], ""⟩ goos bound) log (.done ()) ∧
      negotiated ∈ log ∧ ¬ ClosedIn .p2p log ∧ ¬ Releases log := by
  obtain ⟨log, above, served, carried, whole, opened, inside⟩ := upgraded_serving run implements
  have kept : ¬ ChannelReleased above := fun released =>
    (handler_releases whole).2.mp released ⟨opened, keeps above inside⟩
  refine ⟨log, served, (negotiated_iff carried).mpr opened, ?_, ?_⟩
  · intro closed
    exact kept fun _ => (closedIn_iff .p2p carried).mp closed
  · intro releases
    exact kept ((releases_iff carried).mp releases).2

theorem command_and_failed_header_leak :
    (∃ log, Runs (leakingCommand.serving referencePlatform ⟨true, [], ""⟩ "linux" 0) log (.done ()) ∧
      negotiated ∈ log ∧ ¬ ClosedIn .p2p log ∧ ¬ Releases log) ∧
    (∃ log, Runs (leakingForward.serving referencePlatform ⟨true, [], ""⟩ "linux" 0) log (.done ()) ∧
      negotiated ∈ log ∧ ¬ ClosedIn .p2p log ∧ ¬ Releases log) := by
  constructor
  · have session : Runs (leakingCommand.proceed referencePlatform [] .p2p)
        [⟨.handle (.commandServer "true") .p2p, ()⟩] (.done ()) := by
      apply Runs.step
      exact Runs.start _
    have service : Runs (carryOut "linux" 0 (.handle (.commandServer "true") .p2p))
        [⟨.stdinPipe, none⟩, ⟨.stdoutPipe, none⟩, ⟨.stderrPipe, none⟩, ⟨.goScanStderr, ()⟩,
          ⟨.goRemoteToStdin .p2p, ()⟩, ⟨.goStdoutToRemote .p2p, ()⟩,
          ⟨.startCommand ["/bin/sh", "-c", "true"], none⟩, ⟨.waitGroup, ()⟩, ⟨.waitCommand, none⟩]
            (.done ()) := by
      iterate 9 apply Runs.step
      exact Runs.start _
    exact channel_left_open session (.cons service .nil) fun _ _ => ⟨"true", rfl⟩
  · have session : Runs (leakingForward.proceed referencePlatform [] .p2p) unannounced (.done ()) := by
      iterate 4 apply Runs.step
      exact Runs.start _
    have plain : ∀ event ∈ unannounced, ¬ ServiceCall event.1 := by
      simp [unannounced, dialled, closing, ServiceCall]
    exact channel_left_open session (implements_plain plain) fun log inside =>
      ⟨_, _, inside _ (List.mem_cons_of_mem _ (List.mem_cons_of_mem _ List.mem_cons_self))⟩

end SyncthingSocket
