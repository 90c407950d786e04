import SyncthingSocket.Session
import SyncthingSocket.Client

/-!
How far `RunClient` and the two connection handlers have come with their relayed
connection: before it, authenticating over it, negotiating over it, or serving
the application with what came out.
-/

namespace SyncthingSocket

open Effect Effect.Program Framing

def Elsewhere : Op → Prop
  | .lookup _ _ | .dialContext _ _ | .dialFastestRelay _ | .handshake _
  | .stdinIsTerminal | .stdinReadString => True
  | .read conn _ | .write conn _ | .handle _ conn | .close conn =>
      ∃ index, conn = .tls (.direct index) ∨ conn = .raw (.direct index)
  | _ => False

def ServingOp (conn : Conn) : Op → Prop
  | .handle _ served => served = conn
  | .copyBothWays served _ => served = conn
  | .dialTarget _ _ | .remoteAddr _ | .localAddr _ | .writeProxyHeader _ | .close _ => True
  | _ => False

def IsClose (op : Op) : Prop := ∃ conn, op = .close conn

def Serves {α : Type} (conn : Conn) (program : Goroutine α) : Prop :=
  Meets (Contract.always fun _ op => ServingOp conn op) (fun _ _ => True) program []

variable {conn : Conn} {serverID : DeviceID} {rest : Goroutine (Option Err)} {early log : Log}
  {op : Op}

section Client

variable {platform : Platform} {opts : ClientOptions}

theorem handleClientConn_serving {guard : Log → Op → Prop}
    (asks : ∀ history op, (∃ app, op = .handle app conn) ∨ op = .close conn → guard history op) :
    Meets (Contract.always guard) (fun _ _ => True) (handleClientConn opts conn) log := by
  rw [handleClientConn]
  by_cases socks : opts.socks ≠ ""
  · simp only [socks, ne_eq, not_false_eq_true, ↓reduceIte]
    exact ⟨asks _ _ (Or.inl ⟨_, rfl⟩), fun _ _ => trivial⟩
  by_cases shell : opts.shell = true
  · simp only [socks, shell, ↓reduceIte]
    exact ⟨asks _ _ (Or.inl ⟨_, rfl⟩), fun _ _ => trivial⟩
  by_cases reverse : opts.reverseForward ≠ ""
  · simp only [socks, shell, reverse, ne_eq, not_false_eq_true, ↓reduceIte]
    exact ⟨asks _ _ (Or.inl ⟨_, rfl⟩), fun _ _ => trivial⟩
  simp only [socks, shell, reverse, ↓reduceIte]
  exact ⟨asks _ _ (Or.inl ⟨_, rfl⟩), fun _ _ => ⟨asks _ _ (Or.inr rfl), fun _ _ => trivial⟩⟩

theorem attemptDirect_elsewhere {index : Nat} {addrStr : String} :
    Meets (Contract.always fun _ op => Elsewhere op) (fun _ _ => True)
      (attemptDirect platform opts serverID index addrStr) log := by
  have closing : ∀ {conn : Conn} {later : Log}, conn = .tls (.direct index) ∨
      conn = .raw (.direct index) →
      Meets (Contract.always fun _ op => Elsewhere op) (fun _ _ => True)
        (.ask (.close conn) fun _ => .done false) later :=
    fun own => ⟨⟨index, own⟩, fun _ _ => trivial⟩
  simp only [attemptDirect, perform_bind]
  cases platform.urlHost addrStr with
  | error err => trivial
  | ok host =>
  refine ⟨trivial, fun dialled _ => ?_⟩
  cases dialled with
  | some err => trivial
  | none =>
  refine ⟨trivial, fun shaken _ => ?_⟩
  rcases shaken with err | presented
  · exact closing (Or.inr rfl)
  rcases presented with _ | ⟨leaf, others⟩
  · exact closing (Or.inl rfl)
  simp only
  by_cases mismatch : platform.newDeviceID leaf ≠ serverID
  · simp only [mismatch, ne_eq, not_false_eq_true, ↓reduceIte]
    exact closing (Or.inl rfl)
  simp only [mismatch, ↓reduceIte]
  apply Meets.bind
  apply meets_of_runs
  · intro inner op next run
    rcases (performClientAuth_meets platform _ _).asks run with ⟨⟨size, _, rfl⟩, _⟩ |
      ⟨data, _, _, rfl, _⟩ | ⟨rfl | rfl, _⟩
    · exact ⟨index, Or.inl rfl⟩
    · exact ⟨index, Or.inl rfl⟩
    · trivial
    · trivial
  intro inner failure run
  cases failure with
  | some err => exact closing (Or.inl rfl)
  | none =>
      apply Meets.bind
      apply (handleClientConn_serving ?_).mono
      · exact fun _ _ _ => trivial
      · rintro history op (⟨app, rfl⟩ | rfl)
        · exact ⟨index, Or.inl rfl⟩
        · exact ⟨index, Or.inl rfl⟩

theorem attemptAll_elsewhere {index : Nat} {addresses : List String} :
    Meets (Contract.always fun _ op => Elsewhere op) (fun _ _ => True)
      (attemptAll platform opts serverID index addresses) log := by
  induction addresses generalizing log index with
  | nil => trivial
  | cons addrStr rest ih =>
      apply Meets.bind
      apply attemptDirect_elsewhere.mono
      intro used later _
      cases used with
      | true => trivial
      | false => exact ih

theorem lookupAddresses_elsewhere :
    Meets (Contract.always fun _ op => Elsewhere op) (fun _ _ => True)
      (lookupAddresses platform opts serverID) [] := by
  rw [lookupAddresses]
  by_cases given : opts.relayURI ≠ ""
  · simp only [given, ne_eq, not_false_eq_true, ↓reduceIte]
    trivial
  · simp only [given, ↓reduceIte, perform_bind]
    refine ⟨trivial, fun answer _ => ?_⟩
    cases answer <;> trivial

def Away (log : Log) (rest : Goroutine (Option Err)) : Prop :=
  (∀ event ∈ log, Elsewhere event.1 ∨ IsClose event.1) ∧
  ∀ op, Asks rest op → Elsewhere op ∨ IsClose op

def OverRelay (platform : Platform) (opts : ClientOptions) (log : Log)
    (rest : Goroutine (Option Err)) :
    Prop :=
  ∃ early later, log = early ++ later ∧ (∀ event ∈ early, Elsewhere event.1) ∧
    Runs (performClientAuth platform (.tls .relay) opts.totpPasscode >>= afterClientAuth platform opts)
      later rest

theorem Away.of_meets {program : Goroutine (Option Err)}
    (kept : Meets (Contract.always fun _ op => Elsewhere op ∨ IsClose op) (fun _ _ => True) program [])
    (run : Runs program log rest) : Away log rest := by
  obtain ⟨events, asks⟩ := kept.confined run
  refine ⟨events, ?_⟩
  rintro op ⟨next, rfl⟩
  exact asks op next rfl

theorem Away.after (quiet : ∀ event ∈ early, Elsewhere event.1) (away : Away log rest) :
    Away (early ++ log) rest := by
  refine ⟨?_, away.2⟩
  intro event member
  rcases List.mem_append.mp member with member | member
  · exact Or.inl (quiet event member)
  · exact away.1 event member

theorem Away.finished {value : Option Err} (quiet : ∀ event ∈ early, Elsewhere event.1) :
    Away (early ++ []) (.done value) := by
  refine Away.after quiet ⟨by simp, ?_⟩
  rintro op ⟨next, same⟩
  cases same

theorem Away.within {α : Type} {program : Goroutine α} {next : Answer op → Goroutine α}
    {rest : α → Goroutine (Option Err)}
    (kept : Meets (Contract.always fun _ op => Elsewhere op) (fun _ _ => True) program [])
    (run : Runs program log (.ask op next)) : Away log (.ask op next >>= rest) := by
  obtain ⟨events, asks⟩ := kept.confined run
  refine ⟨fun event member => Or.inl (events event member), ?_⟩
  rintro asked ⟨_, same⟩
  injection same with same _
  exact Or.inl (same ▸ asks op next rfl)

theorem OverRelay.after
    (quiet : ∀ event ∈ early, Elsewhere event.1) (joined : OverRelay platform opts log rest) :
    OverRelay platform opts (early ++ log) rest := by
  obtain ⟨first, later, rfl, elsewhere, run⟩ := joined
  refine ⟨early ++ first, later, by simp, ?_, run⟩
  intro event member
  rcases List.mem_append.mp member with member | member
  · exact quiet event member
  · exact elsewhere event member

theorem relaySession_runs (run : Runs (relaySession platform opts serverID) log rest) :
    Away log rest ∨ OverRelay platform opts log rest := by
  simp only [relaySession, deferClose, perform_bind, ask_bind] at run
  cases run with
  | start _ =>
      refine Or.inl ⟨by simp, ?_⟩
      rintro op ⟨next, same⟩
      injection same with same _
      subst same
      exact Or.inl trivial
  | step shaken later =>
      have greeted : ∀ event ∈ [(⟨.handshake .relay, shaken⟩ : Sigma Answer)], Elsewhere event.1 := by
        simp [Elsewhere]
      rcases shaken with err | presented
      · refine Or.inl (Away.after greeted (Away.of_meets ?_ later))
        simp [Meets, Contract.always, IsClose]
      rcases presented with _ | ⟨leaf, others⟩
      · refine Or.inl (Away.after greeted (Away.of_meets ?_ later))
        simp [Meets, Contract.always, IsClose]
      simp only at later
      by_cases mismatch : platform.newDeviceID leaf ≠ serverID
      · simp only [mismatch, ne_eq, not_false_eq_true, ↓reduceIte] at later
        refine Or.inl (Away.after greeted (Away.of_meets ?_ later))
        simp [Meets, Contract.always, IsClose]
      · simp only [mismatch, ↓reduceIte, Program.bind_assoc] at later
        refine Or.inr (OverRelay.after greeted ⟨[], _, rfl, by simp, ?_⟩)
        convert later using 2
        funext failure
        cases failure with
        | some err => rfl
        | none => simp only [afterClientAuth, Program.bind_assoc, pure_eq_done, done_bind, perform_bind]

theorem runClient_runs (run : Runs (runClient platform opts) log rest) :
    Away log rest ∨ OverRelay platform opts log rest := by
  rw [runClient] at run
  cases identity : platform.deviceIDFromString opts.serverID with
  | error err =>
      simp only [identity, pure_eq_done, runs_done] at run
      obtain ⟨rfl, rfl⟩ := run
      exact Or.inl ⟨by simp, by rintro op ⟨next, same⟩; cases same⟩
  | ok serverID =>
  simp only [identity] at run
  rcases runs_bind run with ⟨op, next, early, rfl⟩ | ⟨looking, later, found, rfl, early, late⟩
  · exact Or.inl (Away.within lookupAddresses_elsewhere early)
  have quiet := (lookupAddresses_elsewhere.confined early).1
  cases found with
  | error err =>
      simp only [pure_eq_done, runs_done] at late
      obtain ⟨rfl, rfl⟩ := late
      exact Or.inl (Away.finished quiet)
  | ok addresses =>
  simp only at late
  have attempts : Meets (Contract.always fun _ op => Elsewhere op) (fun _ _ => True)
      (if opts.tryDirect = true ∧ (addresses.filter isDirect).length > 0 then
        attemptAll platform opts serverID 0 (addresses.filter isDirect) else return false) [] := by
    split
    · exact attemptAll_elsewhere
    · trivial
  rcases runs_bind late with ⟨op, next, trying, rfl⟩ | ⟨trying, tail, used, rfl, tried, last⟩
  · exact Or.inl (Away.after quiet (Away.within attempts trying))
  replace quiet : ∀ event ∈ looking ++ trying, Elsewhere event.1 := by
    intro event member
    rcases List.mem_append.mp member with member | member
    · exact quiet event member
    · exact (attempts.confined tried).1 event member
  rw [← List.append_assoc]
  cases used with
  | true =>
      simp only [↓reduceIte, pure_eq_done, runs_done] at last
      obtain ⟨rfl, rfl⟩ := last
      exact Or.inl (Away.finished quiet)
  | false =>
  simp only [Bool.false_eq_true, ↓reduceIte] at last
  by_cases unreachable : (addresses.filter isRelayed).length = 0
  · simp only [unreachable, ↓reduceIte, pure_eq_done, runs_done] at last
    obtain ⟨rfl, rfl⟩ := last
    exact Or.inl (Away.finished quiet)
  simp only [unreachable, ↓reduceIte, perform_bind] at last
  cases last with
  | start _ =>
      refine Or.inl (Away.after quiet ⟨by simp, ?_⟩)
      rintro op ⟨next, same⟩
      injection same with same _
      subst same
      exact Or.inl trivial
  | step dialled last =>
      have dialling : ∀ event ∈ looking ++ trying ++
          [(⟨.dialFastestRelay (addresses.filter isRelayed), dialled⟩ : Sigma Answer)],
          Elsewhere event.1 := by
        intro event member
        rcases List.mem_append.mp member with member | member
        · exact quiet event member
        · rw [List.mem_singleton.mp member]
          trivial
      cases dialled with
      | some err =>
          simp only [pure_eq_done, runs_done] at last
          obtain ⟨rfl, rfl⟩ := last
          exact Or.inl (by simpa using Away.finished dialling)
      | none =>
          rcases relaySession_runs last with away | joined
          · exact Or.inl (by simpa using Away.after dialling away)
          · exact Or.inr (by simpa using OverRelay.after dialling joined)

variable (platform opts)

def clientServes (conn : Conn) : Goroutine (Option Err) := do
  handleClientConn opts conn
  perform (.close (.raw .relay))
  return none

theorem clientServes_serves (conn : Conn) : Serves conn (clientServes opts conn) := by
  apply Meets.bind
  apply (handleClientConn_serving ?_).mono
  · exact fun _ _ _ => ⟨trivial, fun _ _ => trivial⟩
  · rintro history op (⟨app, rfl⟩ | rfl)
    · rfl
    · trivial

structure ClientPassed (early auth : Log) : Prop where
  quiet : ∀ event ∈ early, Elsewhere event.1
  run : Runs (performClientAuth platform (.tls .relay) opts.totpPasscode) auth (.done none)

inductive ClientServing (log : Log) (rest : Goroutine (Option Err)) : Conn → Prop
  | relayOnly {early auth tail : Log} (split : log = early ++ auth ++ tail)
      (passed : ClientPassed platform opts early auth) (off : opts.tryDirect = false)
      (serving : Runs (clientServes opts (.tls .relay)) tail rest) : ClientServing log rest (.tls .relay)
  | relayed {early auth upgrade telling tail : Log} {err : Err} {failure : Option Err}
      (split : log = early ++ auth ++ (upgrade ++ telling ++ tail))
      (passed : ClientPassed platform opts early auth) (direct : opts.tryDirect = true)
      (negotiated : Runs (negotiateWebRTCClient platform (.tls .relay)) upgrade (.done (some err)))
      (told : Runs (sendSignal (.tls .relay) fallbackSignal) telling (.done failure))
      (serving : Runs (clientServes opts (.tls .relay)) tail rest) : ClientServing log rest (.tls .relay)
  | upgraded {early auth upgrade tail : Log} (split : log = early ++ auth ++ (upgrade ++ tail))
      (passed : ClientPassed platform opts early auth) (direct : opts.tryDirect = true)
      (negotiated : Runs (negotiateWebRTCClient platform (.tls .relay)) upgrade (.done none))
      (serving : Runs (do perform (.close (.tls .relay)); clientServes opts .p2p) tail rest) :
      ClientServing log rest .p2p

inductive ClientStage (log : Log) (rest : Goroutine (Option Err)) : Prop
  | away (away : Away log rest)
  | authenticating {early auth : Log} {op : Op} {next : Answer op → Goroutine (Option Err)}
      (split : log = early ++ auth) (quiet : ∀ event ∈ early, Elsewhere event.1)
      (run : Runs (performClientAuth platform (.tls .relay) opts.totpPasscode) auth (.ask op next))
      (asks : Asks rest op)
  | refused {early auth tail : Log} {err : Err} (split : log = early ++ auth ++ tail)
      (quiet : ∀ event ∈ early, Elsewhere event.1)
      (run : Runs (performClientAuth platform (.tls .relay) opts.totpPasscode) auth (.done (some err)))
      (closing : (∀ event ∈ tail, IsClose event.1) ∧ ∀ op next, rest = .ask op next → IsClose op)
  | negotiating {early auth upgrade : Log} {op : Op} {next : Answer op → Goroutine (Option Err)}
      (split : log = early ++ auth ++ upgrade) (passed : ClientPassed platform opts early auth)
      (direct : opts.tryDirect = true)
      (run : Runs (negotiateWebRTCClient platform (.tls .relay)) upgrade (.ask op next))
      (asks : Asks rest op)
  | informing {early auth upgrade telling : Log} {err : Err} {op : Op}
      {next : Answer op → Goroutine (Option Err)}
      (split : log = early ++ auth ++ (upgrade ++ telling))
      (passed : ClientPassed platform opts early auth) (direct : opts.tryDirect = true)
      (negotiated : Runs (negotiateWebRTCClient platform (.tls .relay)) upgrade (.done (some err)))
      (run : Runs (sendSignal (.tls .relay) fallbackSignal) telling (.ask op next)) (asks : Asks rest op)
  | serving {conn : Conn} (serving : ClientServing platform opts log rest conn)

variable {platform opts}

theorem serves_after_close {α : Type} {closed : Conn} {program : Goroutine α}
    (serves : Serves conn program) : Serves conn (do perform (.close closed); program) := by
  refine ⟨trivial, fun _ _ => ?_⟩
  apply meets_of_runs
  · exact fun inner op next run => serves.asks run
  · exact fun _ _ _ => trivial

theorem ClientServing.serves (serving : ClientServing platform opts log rest conn) {later : Log}
    {next : Answer op → Goroutine (Option Err)} (run : Runs rest later (.ask op next)) :
    ServingOp conn op := by
  cases serving with
  | relayOnly _ _ _ serving => exact (clientServes_serves opts _).asks (serving.trans run)
  | relayed _ _ _ _ _ serving => exact (clientServes_serves opts _).asks (serving.trans run)
  | upgraded _ _ _ _ serving =>
      exact Meets.asks (serves_after_close (clientServes_serves opts _)) (serving.trans run)

theorem ClientServing.later {late : Log} {main : Goroutine (Option Err)}
    (serving : ClientServing platform opts log rest conn) (run : Runs rest late main) :
    ClientServing platform opts (log ++ late) main conn := by
  cases serving with
  | relayOnly split passed off serving =>
      exact .relayOnly (by simp [split]) passed off (serving.trans run)
  | relayed split passed direct negotiated told serving =>
      exact .relayed (by simp [split]) passed direct negotiated told (serving.trans run)
  | upgraded split passed direct negotiated serving =>
      exact .upgraded (by simp [split]) passed direct negotiated (serving.trans run)

theorem runClient_stage
    (run : Runs (runClient platform opts) log rest) : ClientStage platform opts log rest := by
  rcases runClient_runs run with away | ⟨early, later, rfl, quiet, run⟩
  · exact .away away
  rcases runs_bind run with ⟨op, next, asking, rfl⟩ | ⟨auth, later, failure, rfl, finished, late⟩
  · exact .authenticating rfl quiet asking ⟨_, rfl⟩
  cases failure with
  | some err =>
      have closes : Meets (Contract.always fun _ op => IsClose op) (fun _ _ => True)
          (afterClientAuth platform opts (some err)) [] := by
        simp [afterClientAuth, Meets, Contract.always, IsClose]
      exact .refused (List.append_assoc _ _ _).symm quiet finished (closes.confined late)
  | none =>
  have passed : ClientPassed platform opts early auth := ⟨quiet, finished⟩
  rw [← List.append_assoc]
  simp only [afterClientAuth, useRelay] at late
  cases direct : opts.tryDirect with
  | false =>
      simp only [direct, ↓reduceIte] at late
      exact .serving (.relayOnly rfl passed direct late)
  | true =>
  simp only [direct, Bool.true_eq_false, ↓reduceIte, Program.bind_assoc] at late
  rcases runs_bind late with ⟨op, next, asking, rfl⟩ | ⟨upgrade, later, outcome, rfl, negotiated, last⟩
  · exact .negotiating rfl passed direct asking ⟨_, rfl⟩
  cases outcome with
  | none =>
      simp only [Program.bind_assoc] at last
      exact .serving (.upgraded rfl passed direct negotiated last)
  | some err =>
      simp only [Program.bind_assoc] at last
      rcases runs_bind last with ⟨op, next, asking, rfl⟩ | ⟨telling, tail, failure, rfl, told, serving⟩
      · exact .informing rfl passed direct negotiated asking ⟨_, rfl⟩
      · exact .serving (.relayed (by simp) passed direct negotiated told serving)

/-! Where each outcome of the negotiation leads. -/

theorem useRelay_falls_back {upgrade : Log} {err : Err} (direct : opts.tryDirect = true)
    (negotiated : Runs (negotiateWebRTCClient platform (.tls .relay)) upgrade (.done (some err))) :
    Runs (afterClientAuth platform opts none)
      (upgrade ++ writeFrame (.tls .relay) fallbackSignal.marshal) (clientServes opts (.tls .relay)) := by
  simp only [afterClientAuth, useRelay, direct, Bool.true_eq_false, ↓reduceIte, Program.bind_assoc]
  refine (negotiated.bind _).trans ?_
  rw [done_bind]
  simp only [Program.bind_assoc]
  exact (sendFramed_whole (.tls .relay) fallbackSignal.marshal).bind _

theorem useRelay_upgrades {upgrade : Log} (direct : opts.tryDirect = true)
    (negotiated : Runs (negotiateWebRTCClient platform (.tls .relay)) upgrade (.done none)) :
    Runs (afterClientAuth platform opts none) (upgrade ++ [⟨.close (.tls .relay), ()⟩])
      (clientServes opts .p2p) := by
  simp only [afterClientAuth, useRelay, direct, Bool.true_eq_false, ↓reduceIte, Program.bind_assoc]
  refine (negotiated.bind _).trans ?_
  apply Runs.step
  exact Runs.start _

theorem useRelay_relayOnly (off : opts.tryDirect = false) :
    afterClientAuth platform opts none = clientServes opts (.tls .relay) := by
  simp only [afterClientAuth, useRelay, off, ↓reduceIte, clientServes]

end Client

section Server

variable (platform : Platform) (opts : ServerOptions) (handler : ServerHandler)

def serverServes (certs : List Bytes) (conn : Conn) : Goroutine Unit :=
  deferClose (.raw .incoming) (handler.proceed platform certs conn)

theorem proceed_serves (certs : List Bytes) (conn : Conn) (log : Log) :
    Meets (Contract.always fun _ op => ServingOp conn op) (fun _ _ => True)
      (handler.proceed platform certs conn) log := by
  cases handler with
  | serve mode =>
      simp only [ServerHandler.proceed, handleConn]
      split
      · exact ⟨rfl, fun _ _ => trivial⟩
      split
      · exact ⟨rfl, fun _ _ => trivial⟩
      split
      · exact ⟨rfl, fun _ _ => trivial⟩
      split
      · exact ⟨rfl, fun _ _ => trivial⟩
      · exact ⟨rfl, fun _ _ => ⟨trivial, fun _ _ => trivial⟩⟩
  | forward forwardAddr proxyProtocol =>
      simp only [ServerHandler.proceed, forwardConn, deferClose, perform_bind]
      refine ⟨trivial, fun dialled _ => ?_⟩
      cases dialled with
      | some err => exact ⟨trivial, fun _ _ => trivial⟩
      | none =>
      simp only [Program.bind_assoc]
      cases proxyProtocol with
      | false => exact ⟨rfl, fun _ _ => ⟨trivial, fun _ _ => ⟨trivial, fun _ _ => trivial⟩⟩⟩
      | true =>
          apply Meets.bind
          rw [if_pos rfl, sendProxyHeader]
          apply Meets.bind
          have addressed : ∀ later : Log, Meets (Contract.always fun _ op => ServingOp conn op)
              (fun _ _ => True) (remoteAddr conn) later := by
            intro later
            cases conn with
            | p2p => trivial
            | _ => exact ⟨trivial, fun _ _ => trivial⟩
          refine (addressed _).mono fun source later _ =>
            ⟨trivial, fun _ _ => ⟨trivial, fun sent _ => ?_⟩⟩
          cases sent with
          | some err => exact ⟨trivial, fun _ _ => trivial⟩
          | none => exact ⟨rfl, fun _ _ => ⟨trivial, fun _ _ => ⟨trivial, fun _ _ => trivial⟩⟩⟩

theorem serverServes_serves (certs : List Bytes) (conn : Conn) :
    Serves conn (serverServes platform handler certs conn) := by
  apply Meets.bind
  apply (proceed_serves platform handler certs conn []).mono
  exact fun _ _ _ => ⟨trivial, fun _ _ => trivial⟩

structure ServerPassed (certs : List Bytes) (auth : Log) : Prop where
  listed : authorized platform opts.authorizedClients certs = true
  run : Runs (performServerAuth platform (.tls .incoming) opts.totpSecret) auth (.done none)

def greeting (certs : List Bytes) (later : Log) : Log := ⟨.handshake .incoming, .ok certs⟩ :: later

inductive ServerServing (log : Log) (rest : Goroutine Unit) : Conn → Prop
  | relayed {certs : List Bytes} {auth upgrade tail : Log} {result : Bool × Option Err}
      (split : log = greeting certs (auth ++ (upgrade ++ tail)))
      (passed : ServerPassed platform opts certs auth)
      (negotiated : Runs (negotiateWebRTCServer platform (.tls .incoming)) upgrade (.done result))
      (relay : result.1 = true ∨ result.2 ≠ none)
      (serving : Runs (serverServes platform handler certs (.tls .incoming)) tail rest) :
      ServerServing log rest (.tls .incoming)
  | upgraded {certs : List Bytes} {auth upgrade tail : Log}
      (split : log = greeting certs (auth ++ (upgrade ++ tail)))
      (passed : ServerPassed platform opts certs auth)
      (negotiated : Runs (negotiateWebRTCServer platform (.tls .incoming)) upgrade (.done (false, none)))
      (serving : Runs (do perform (.close (.tls .incoming)); serverServes platform handler certs .p2p)
        tail rest) : ServerServing log rest .p2p

inductive ServerStage (log : Log) (rest : Goroutine Unit) : Prop
  | waiting (none : log = []) (asks : Asks rest (.handshake .incoming))
  | turnedAway {outcome : Answer (.handshake .incoming)} {later : Log}
      (split : log = ⟨.handshake .incoming, outcome⟩ :: later) (closing : Closing later rest)
  | authenticating {certs : List Bytes} {auth : Log} {op : Op} {next : Answer op → Goroutine (Option Err)}
      (split : log = greeting certs auth)
      (run : Runs (performServerAuth platform (.tls .incoming) opts.totpSecret) auth (.ask op next))
      (asks : Asks rest op)
  | refused {certs : List Bytes} {auth tail : Log} {err : Err}
    (split : log = greeting certs (auth ++ tail))
      (run : Runs (performServerAuth platform (.tls .incoming) opts.totpSecret) auth (.done (some err)))
      (closing : Closing tail rest)
  | negotiating {certs : List Bytes} {auth upgrade : Log} {op : Op}
      {next : Answer op → Goroutine (Bool × Option Err)}
      (split : log = greeting certs (auth ++ upgrade)) (passed : ServerPassed platform opts certs auth)
      (run : Runs (negotiateWebRTCServer platform (.tls .incoming)) upgrade (.ask op next))
      (asks : Asks rest op)
  | serving {conn : Conn} (serving : ServerServing platform opts handler log rest conn)

variable {platform opts handler}

theorem ServerServing.serves {rest : Goroutine Unit}
    (serving : ServerServing platform opts handler log rest conn) {later : Log}
    {next : Answer op → Goroutine Unit} (run : Runs rest later (.ask op next)) :
    ServingOp conn op := by
  cases serving with
  | relayed _ _ _ _ serving => exact (serverServes_serves platform handler _ _).asks (serving.trans run)
  | upgraded _ _ _ serving =>
      exact Meets.asks (serves_after_close (serverServes_serves platform handler _ _)) (serving.trans run)

theorem ServerServing.later {late : Log} {rest main : Goroutine Unit}
    (serving : ServerServing platform opts handler log rest conn) (run : Runs rest late main) :
    ServerServing platform opts handler (log ++ late) main conn := by
  cases serving with
  | relayed split passed negotiated relay serving =>
      exact .relayed (by simp [split, greeting]) passed negotiated relay (serving.trans run)
  | upgraded split passed negotiated serving =>
      exact .upgraded (by simp [split, greeting]) passed negotiated (serving.trans run)

theorem ServerPassed.stage {certs : List Bytes} {auth later : Log} {rest : Goroutine Unit}
    (passed : ServerPassed platform opts certs auth) (relayed : opts.isRelay = true)
    (split : log = greeting certs (auth ++ later))
    (run : Runs (admitted platform opts (handler.proceed platform) certs) later rest) :
    (∃ op next, Runs (negotiateWebRTCServer platform (.tls .incoming)) later (.ask op next) ∧
      Asks rest op) ∨
      ∃ conn, ServerServing platform opts handler log rest conn := by
  simp only [admitted, serverDataConn, relayed, ↓reduceIte, deferClose, Program.bind_assoc] at run
  rcases runs_bind run with ⟨op, next, asking, rfl⟩ | ⟨upgrade, tail, result, rfl, negotiated, last⟩
  · exact Or.inl ⟨op, next, asking, _, rfl⟩
  by_cases relay : result.1 = true ∨ result.2 ≠ none
  · refine Or.inr ⟨_, .relayed split passed negotiated relay ?_⟩
    simpa only [relay, ↓reduceIte, pure_eq_done, done_bind, serverServes, deferClose] using last
  · obtain ⟨fallback, err⟩ := result
    obtain ⟨notFallback, noErr⟩ := not_or.mp relay
    obtain rfl : fallback = false := by simpa using notFallback
    obtain rfl : err = none := not_not.mp noErr
    refine Or.inr ⟨_, .upgraded split passed negotiated ?_⟩
    simpa only [relay, ↓reduceIte, perform_bind, ask_bind, pure_eq_done, done_bind, serverServes,
      deferClose] using last

theorem serverHandler_stage {rest : Goroutine Unit} (relayed : opts.isRelay = true)
    (run : Runs (handler.run platform opts) log rest) :
    ServerStage platform opts handler log rest := by
  rw [ServerHandler.run_eq] at run
  rcases admitConn_runs run with
    ⟨none, asks⟩ | ⟨err, later, split, closing⟩ | ⟨certs, later, rfl, checked⟩
  · exact .waiting none asks
  · exact .turnedAway split closing
  rcases checked with ⟨_, closing⟩ | ⟨listed, ⟨op, next, asking, asks⟩ |
    ⟨auth, tail, err, rfl, refused, closing⟩ | ⟨auth, later, rfl, passed, late⟩⟩
  · exact .turnedAway rfl closing
  · exact .authenticating rfl asking asks
  · exact .refused rfl refused closing
  have passed : ServerPassed platform opts certs auth := ⟨listed, passed⟩
  rcases passed.stage relayed rfl late with ⟨op, next, negotiating, asks⟩ | ⟨conn, serving⟩
  · exact .negotiating rfl passed negotiating asks
  · exact .serving serving

theorem admitted_stays {certs : List Bytes} {upgrade : Log} {result : Bool × Option Err}
    (relayed : opts.isRelay = true)
    (negotiated : Runs (negotiateWebRTCServer platform (.tls .incoming)) upgrade (.done result))
    (relay : result.1 = true ∨ result.2 ≠ none) :
    Runs (admitted platform opts (handler.proceed platform) certs) upgrade
      (serverServes platform handler certs (.tls .incoming)) := by
  simp only [admitted, serverDataConn, relayed, ↓reduceIte, deferClose, Program.bind_assoc]
  rw [← List.append_nil upgrade]
  refine (negotiated.bind _).trans ?_
  simp only [done_bind, relay, ↓reduceIte, pure_eq_done]
  exact Runs.start _

end Server

end SyncthingSocket
