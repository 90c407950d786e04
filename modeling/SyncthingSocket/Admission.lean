import SyncthingSocket.Server
import SyncthingSocket.Reference

/-!
Who gets past the two connection handlers: nothing is negotiated, run or dialled
for a client that has not passed the handshake, the list of authorized Device IDs
and the authentication exchange.
-/

namespace SyncthingSocket

open Effect Effect.Program Framing

variable {rest : Goroutine Unit} {log : Log}

section

variable (platform : Platform) (opts : ServerOptions)

def ApplicationOp (op : Op) : Prop :=
  (∃ app conn, op = .handle app conn) ∨ (∃ network addr, op = .dialTarget network addr) ∨
  ∃ left right, op = .copyBothWays left right

def GateOp (op : Op) : Prop :=
  op = .handshake .incoming ∨ IsRead (.tls .incoming) op ∨
  (∃ data, op = .write (.tls .incoming) data) ∨ ∃ conn, op = .close conn

def Listed (certs : List Bytes) : Prop :=
  opts.authorizedClients = [] ∨
  ∃ leaf others, certs = leaf :: others ∧ platform.newDeviceID leaf ∈ opts.authorizedClients

def Admitted (log : Log) : Prop :=
  ∃ certs auth later, log = ⟨.handshake .incoming, .ok certs⟩ :: (auth ++ later) ∧
    Listed platform opts certs ∧
    Runs (performServerAuth platform (.tls .incoming) opts.totpSecret) auth (.done none)

theorem authorized_iff (certs : List Bytes) :
    authorized platform opts.authorizedClients certs = true ↔ Listed platform opts certs := by
  rw [authorized, Listed]
  cases clients : opts.authorizedClients with
  | nil => simp
  | cons first others =>
      cases certs with
      | nil => simp
      | cons leaf rest =>
          simp only [List.length_cons, gt_iff_lt, Nat.zero_lt_succ, ↓reduceIte, clientID,
            List.any_eq_true, beq_iff_eq, reduceCtorEq, List.cons.injEq, false_or]
          constructor
          · rintro ⟨authID, member, rfl⟩
            exact ⟨leaf, rest, ⟨rfl, rfl⟩, member⟩
          · rintro ⟨_, _, ⟨rfl, rfl⟩, member⟩
            exact ⟨_, member, rfl⟩

theorem GateOp.not_application {op : Op} (gate : GateOp op) :
    ¬ (ApplicationOp op ∨ PionOp (.tls .incoming) op) := by
  rcases gate with rfl | ⟨size, _, rfl⟩ | ⟨data, rfl⟩ | ⟨conn, rfl⟩ <;> simp [ApplicationOp, PionOp]

theorem Closing.gate (closing : Closing log rest) :
    (∀ event ∈ log, GateOp event.1) ∧ ∀ op, Asks rest op → GateOp op := by
  constructor
  · intro event member
    exact Or.inr (Or.inr (Or.inr (closing.1 event member)))
  · rintro op ⟨next, asked⟩
    exact Or.inr (Or.inr (Or.inr (closing.2 op next asked)))

theorem performServerAuth_gate :
    Meets (Contract.always fun _ op => GateOp op) (fun _ _ => True)
      (performServerAuth platform (.tls .incoming) opts.totpSecret) [] := by
  apply meets_of_runs
  · intro log op next run
    rcases (performServerAuth_meets platform _ _).asks run with ⟨isRead, _⟩ | ⟨isWrite, _⟩
    · exact Or.inr (Or.inl isRead)
    · exact Or.inr (Or.inr (Or.inl isWrite))
  · simp

variable {platform opts}

theorem admitConn_gate {proceed : List Bytes → Conn → Goroutine Unit}
    (run : Runs (admitConn platform opts proceed) log rest) :
    Admitted platform opts log ∨
      ((∀ event ∈ log, GateOp event.1) ∧ ∀ op, Asks rest op → GateOp op) := by
  rcases admitConn_runs run with ⟨rfl, asks⟩ | ⟨err, later, rfl, closing⟩ |
    ⟨certs, later, rfl, checked⟩
  · refine Or.inr ⟨by simp, ?_⟩
    obtain ⟨next, rfl⟩ := asks
    rintro op ⟨_, same⟩
    injection same with same _
    exact Or.inl same.symm
  · obtain ⟨events, asks⟩ := closing.gate
    refine Or.inr ⟨?_, asks⟩
    intro event member
    rcases List.mem_cons.mp member with rfl | member
    · exact Or.inl rfl
    · exact events event member
  · have greeting : ∀ {tail : Log}, (∀ event ∈ tail, GateOp event.1) →
        ∀ event ∈ (⟨.handshake .incoming, .ok certs⟩ : Sigma Answer) :: tail, GateOp event.1 := by
      intro tail events event member
      rcases List.mem_cons.mp member with rfl | member
      · exact Or.inl rfl
      · exact events event member
    rcases checked with ⟨_, closing⟩ | ⟨listed, authenticating | refused | passed⟩
    · exact Or.inr ⟨greeting closing.gate.1, closing.gate.2⟩
    · obtain ⟨op, next, auth, asks⟩ := authenticating
      have confined := (performServerAuth_gate platform opts).confined auth
      refine Or.inr ⟨greeting confined.1, ?_⟩
      obtain ⟨_, rfl⟩ := asks
      rintro asked ⟨_, same⟩
      injection same with same _
      exact same ▸ confined.2 op next rfl
    · obtain ⟨auth, tail, err, rfl, authenticated, closing⟩ := refused
      have confined := (performServerAuth_gate platform opts).confined authenticated
      refine Or.inr ⟨greeting ?_, closing.gate.2⟩
      intro event member
      rcases List.mem_append.mp member with member | member
      · exact confined.1 event member
      · exact closing.gate.1 event member
    · obtain ⟨auth, tail, rfl, authenticated, _⟩ := passed
      exact Or.inl ⟨certs, auth, tail, rfl, (authorized_iff platform opts certs).mp listed,
        authenticated⟩

theorem admitConn_proceeds (proceed : List Bytes → Conn → Goroutine Unit) {certs : List Bytes}
    {auth : Log} (listed : Listed platform opts certs)
    (authenticated : Runs (performServerAuth platform (.tls .incoming) opts.totpSecret) auth
      (.done none)) :
    Runs (admitConn platform opts proceed) (⟨.handshake .incoming, .ok certs⟩ :: auth)
      (admitted platform opts proceed certs) := by
  have isAuthorized := (authorized_iff platform opts certs).mpr listed
  simp only [admitConn, admission, deferClose, perform_bind, ask_bind]
  apply Runs.step
  simp only [isAuthorized, Bool.true_eq_false, ↓reduceIte]
  rw [Program.bind_assoc, Program.bind_assoc]
  exact authenticated.bind _

theorem admission_passes {certs : List Bytes}
    (run : Runs (admission platform opts) log (.done (some certs))) :
    Admitted platform opts log := by
  simp only [admission, perform_bind] at run
  cases run with
  | step outcome later =>
      cases outcome with
      | error err =>
          simp only [pure_eq_done, runs_done, Program.done.injEq] at later
          exact absurd later.2 (by simp)
      | ok presented =>
          cases listed : authorized platform opts.authorizedClients presented with
          | false =>
              simp only [listed, ↓reduceIte] at later
              cases later with
              | step closed last =>
                  simp only [pure_eq_done, runs_done, Program.done.injEq] at last
                  exact absurd last.2 (by simp)
          | true =>
              simp only [listed, Bool.true_eq_false, ↓reduceIte] at later
              obtain ⟨auth, tail, failure, rfl, authenticated, last⟩ := runs_bind_done later
              cases failure with
              | some err =>
                  cases last with
                  | step closed last =>
                      simp only [pure_eq_done, runs_done, Program.done.injEq] at last
                      exact absurd last.2 (by simp)
              | none => exact ⟨presented, auth, tail, rfl,
                  (authorized_iff platform opts presented).mp listed, authenticated⟩

theorem Admitted.append (passed : Admitted platform opts log) (later : Log) :
    Admitted platform opts (log ++ later) := by
  obtain ⟨certs, auth, tail, rfl, listed, authenticated⟩ := passed
  exact ⟨certs, auth, tail ++ later, by simp, listed, authenticated⟩

theorem admitConn_agrees {first second : List Bytes → Conn → Goroutine Unit}
    (run : Runs (admitConn platform opts first) log rest) (refused : ¬ Admitted platform opts log) :
    ∃ other, Runs (admitConn platform opts second) log other ∧ ∀ op, Asks rest op ↔ Asks other op := by
  have sameAsk : ∀ {α : Type} (op : Op) (next : Answer op → Goroutine α) (k l : α → Goroutine Unit) asked,
      Asks (.ask op next >>= k) asked ↔ Asks (.ask op next >>= l) asked := by
    intro α op next k l asked
    simp only [ask_bind, Asks, Program.ask.injEq]
    constructor <;> rintro ⟨_, rfl, _⟩ <;> exact ⟨_, rfl, HEq.rfl⟩
  simp only [admitConn, deferClose, Program.bind_assoc] at run ⊢
  rcases runs_bind run with ⟨op, next, early, rfl⟩ | ⟨gate, later, certs, rfl, early, late⟩
  · exact ⟨_, early.bind _, fun asked => sameAsk op next _ _ asked⟩
  · cases certs with
    | none => exact ⟨rest, (early.bind _).trans late, fun _ => Iff.rfl⟩
    | some certs => exact absurd ((admission_passes early).append later) refused

end

def ServerMode.app (mode : ServerMode) : App :=
  if mode.isSocks then .socksServer
  else if mode.isShell then .shellServer
  else if mode.isCommand ≠ "" then .commandServer mode.isCommand
  else if mode.reverseForward ≠ "" then .reverseForwardServer mode.reverseForward
  else .pipe

def ServerHandler.application (conn : Conn) : ServerHandler → Op
  | serve mode => .handle mode.app conn
  | forward forwardAddr _ =>
      .dialTarget (parseNetworkAndAddr forwardAddr).1 (parseNetworkAndAddr forwardAddr).2

theorem ServerHandler.proceed_asks (platform : Platform) (handler : ServerHandler)
    (certs : List Bytes) (conn : Conn) :
    Asks (handler.proceed platform certs conn) (handler.application conn) := by
  cases handler with
  | serve mode =>
      simp only [proceed, application, handleConn, ServerMode.app]
      by_cases socks : mode.isSocks = true
      · simp only [socks, ↓reduceIte]
        exact ⟨_, rfl⟩
      by_cases shell : mode.isShell = true
      · simp only [socks, shell, ↓reduceIte]
        exact ⟨_, rfl⟩
      by_cases command : mode.isCommand ≠ ""
      · simp only [socks, shell, command, ne_eq, not_false_eq_true, ↓reduceIte]
        exact ⟨_, rfl⟩
      by_cases reverse : mode.reverseForward ≠ ""
      · simp only [socks, shell, command, reverse, ne_eq, not_false_eq_true, ↓reduceIte]
        exact ⟨_, rfl⟩
      simp only [socks, shell, command, reverse, ↓reduceIte]
      exact ⟨_, rfl⟩
  | forward forwardAddr proxyProtocol => exact ⟨_, rfl⟩

theorem Admitted.accepted {platform : Platform} {opts : ServerOptions} {auth : Log}
    (authenticated : Runs (performServerAuth platform (.tls .incoming) opts.totpSecret) auth (.done none))
    (secret : opts.totpSecret ≠ "") :
    ∃ resp, Answered platform (.tls .incoming) auth resp ∧ resp.type = "auth" ∧
      platform.totpValidate resp.totp opts.totpSecret = true := by
  rcases (performServerAuth_meets platform _ _).finishes authenticated with
    ⟨unprotected, _⟩ | ⟨_, resp, answered, isAuth, valid, _⟩
  · exact absurd unprotected secret
  · exact ⟨resp, answered, isAuth, valid⟩

theorem handlers_admit_exactly_checked_clients (platform : Platform) (opts : ServerOptions)
    (handler : ServerHandler) {log : Log} {rest : Goroutine Unit}
    (run : Runs (handler.run platform opts) log rest) :
    (∀ op, (Asks rest op ∨ ∃ answer, (⟨op, answer⟩ : Sigma Answer) ∈ log) →
      ApplicationOp op ∨ PionOp (.tls .incoming) op →
      ∃ certs auth later, log = ⟨.handshake .incoming, .ok certs⟩ :: (auth ++ later) ∧
        Listed platform opts certs ∧
        Runs (performServerAuth platform (.tls .incoming) opts.totpSecret) auth (.done none) ∧
        (opts.totpSecret ≠ "" → ∃ resp, Answered platform (.tls .incoming) auth resp ∧
          resp.type = "auth" ∧ platform.totpValidate resp.totp opts.totpSecret = true)) ∧
    (∀ certs auth, Listed platform opts certs →
      Runs (performServerAuth platform (.tls .incoming) opts.totpSecret) auth (.done none) →
      (opts.isRelay = true → ∃ following, Runs (handler.run platform opts)
        (⟨.handshake .incoming, .ok certs⟩ :: auth)
        (negotiateWebRTCServer platform (.tls .incoming) >>= following)) ∧
      (opts.isRelay = false → ∃ next, Runs (handler.run platform opts)
        (⟨.handshake .incoming, .ok certs⟩ :: auth)
        (.ask (handler.application (.tls .incoming)) next))) ∧
    (¬ Admitted platform opts log → ∀ other : ServerHandler,
      ∃ rest', Runs (other.run platform opts) log rest' ∧ ∀ op, Asks rest op ↔ Asks rest' op) ∧
    (opts.authorizedClients ≠ [] → ∀ later, log = ⟨.handshake .incoming, .ok []⟩ :: later →
      ¬ Admitted platform opts log) ∧
    (¬ Admitted platform opts log → (∀ event ∈ log, GateOp event.1) ∧
      (rest = .done () → (⟨.close (.raw .incoming), ()⟩ : Sigma Answer) ∈ log)) := by
  rw [ServerHandler.run_eq] at run
  refine ⟨?_, ?_, ?_, ?_, ?_⟩
  · intro op occurs application
    rcases admitConn_gate run with ⟨certs, auth, later, split, listed, authenticated⟩ | ⟨events, asks⟩
    · exact ⟨certs, auth, later, split, listed, authenticated, Admitted.accepted authenticated⟩
    · rcases occurs with asked | ⟨answer, member⟩
      · exact absurd application (asks op asked).not_application
      · exact absurd application (events _ member).not_application
  · intro certs auth listed authenticated
    have passed := admitConn_proceeds (handler.proceed platform) listed authenticated
    rw [ServerHandler.run_eq]
    constructor
    · intro relayed
      simp only [admitted, serverDataConn, relayed, ↓reduceIte, deferClose, Program.bind_assoc] at passed
      exact ⟨_, passed⟩
    · intro direct
      obtain ⟨next, asks⟩ := handler.proceed_asks platform certs (.tls .incoming)
      simp only [admitted, serverDataConn, direct, Bool.false_eq_true, ↓reduceIte, deferClose,
        pure_eq_done, done_bind, asks, ask_bind] at passed
      exact ⟨_, passed⟩
  · intro refused other
    rw [ServerHandler.run_eq]
    exact admitConn_agrees run refused
  · rintro nonempty later rfl ⟨certs, auth, tail, split, listed, _⟩
    simp only [List.cons.injEq, Sigma.mk.injEq, heq_eq_eq, Except.ok.injEq, true_and] at split
    rcases listed with empty | ⟨leaf, others, certsEq, _⟩
    · exact nonempty empty
    · simp [certsEq] at split
  · intro refused
    rcases admitConn_gate run with passed | ⟨events, _⟩
    · exact absurd passed refused
    · refine ⟨events, ?_⟩
      rintro rfl
      obtain ⟨inner, rfl, _⟩ := deferClose_done.mp run
      simp [closing]

theorem listed_client_reaches_pipe :
    ∃ log rest, Runs ((ServerHandler.serve ⟨false, false, "", ""⟩).run referencePlatform
        ⟨false, [referencePlatform.newDeviceID [1]], ""⟩) log rest ∧
      Asks rest (.handle .pipe (.tls .incoming)) ∧
      ∃ certs auth later, log = ⟨.handshake .incoming, .ok certs⟩ :: (auth ++ later) ∧
        Listed referencePlatform ⟨false, [referencePlatform.newDeviceID [1]], ""⟩ certs := by
  have listed : Listed referencePlatform ⟨false, [referencePlatform.newDeviceID [1]], ""⟩ [[1]] :=
    Or.inr ⟨[1], [], rfl, List.mem_singleton_self _⟩
  have start := handlers_admit_exactly_checked_clients referencePlatform
    ⟨false, [referencePlatform.newDeviceID [1]], ""⟩ (.serve ⟨false, false, "", ""⟩) (Runs.start _)
  obtain ⟨next, run⟩ := (start.2.1 [[1]] _ listed (performServerAuth_open _ _)).2 rfl
  obtain ⟨certs, auth, later, split, passed, _⟩ :=
    (handlers_admit_exactly_checked_clients referencePlatform _ _ run).1 _ (Or.inl ⟨next, rfl⟩)
      (Or.inl (Or.inl ⟨.pipe, .tls .incoming, rfl⟩))
  exact ⟨_, _, run, ⟨next, rfl⟩, certs, auth, later, split, passed⟩

end SyncthingSocket
