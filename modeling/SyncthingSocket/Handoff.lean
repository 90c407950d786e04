import SyncthingSocket.Admission
import SyncthingSocket.AuthAgreement
import SyncthingSocket.Stages

/-!
`RunClient` and a connection handler at the two ends of one relayed TLS
connection, from the first byte to the application.
-/

namespace SyncthingSocket

open Effect Effect.Program Framing

structure Deployment where
  platform : Platform
  client : ClientOptions
  server : ServerOptions
  handler : ServerHandler
  relayed : server.isRelay = true

def Deployment.Result : Side → Type
  | .client => Option Err
  | .server => Unit

def Deployment.program (deployment : Deployment) :
    (side : Side) → Goroutine (Deployment.Result side)
  | .client => runClient deployment.platform deployment.client
  | .server => deployment.handler.run deployment.platform deployment.server

def Uses {α : Type} (conn : Conn) (main : Goroutine α) : Prop :=
  (∃ app, Asks main (.handle app conn)) ∨ Asks main (.copyBothWays conn .target)

def TalkingOp (side : Side) (op : Op) : Prop :=
  Elsewhere op ∨ ExchangeOp side.conn op ∨ UpgradeOp side.conn op

variable {conn : Conn} {log : Log} {side : Side}

section Operations

variable {side : Side} {op : Op} {α : Type} {rest : Goroutine α}

theorem TalkingOp.spares (talking : TalkingOp side op) :
    match op with
    | .close conn | .handle _ conn => ∃ index, conn = .tls (.direct index) ∨ conn = .raw (.direct index)
    | .copyBothWays _ _ => False
    | _ => True := by
  rcases talking with elsewhere | (⟨_, _, rfl⟩ | ⟨_, rfl⟩ | rfl | rfl) | ⟨_, _, rfl⟩ | ⟨_, rfl, _⟩ | pion
  · cases op <;> first | exact elsewhere | trivial
  · trivial
  · trivial
  · trivial
  · trivial
  · trivial
  · trivial
  · cases op <;> first | exact pion.elim | trivial

theorem TalkingOp.not_closes (talking : TalkingOp side op) : ¬ Closes side op := by
  rintro (rfl | rfl) <;> obtain ⟨index, same⟩ := talking.spares <;>
    cases side <;> simp [Side.conn, Side.raw, Side.link] at same

theorem asks_unique {asked : Op} (one : Asks rest op) (two : Asks rest asked) : op = asked := by
  obtain ⟨next, rfl⟩ := one
  obtain ⟨_, same⟩ := two
  injection same

theorem TalkingOp.not_uses (talking : TalkingOp side op) (asks : Asks rest op)
    (relay : conn = side.conn ∨ conn = .p2p) : ¬ Uses conn rest := by
  rintro (⟨app, uses⟩ | uses)
  · obtain rfl := asks_unique asks uses
    obtain ⟨index, same⟩ := talking.spares
    rcases relay with rfl | rfl
    · cases side <;> simp [Side.conn, Side.link] at same
    · simp at same
  · obtain rfl := asks_unique asks uses
    exact talking.spares

theorem IsClose.not_uses (closes : IsClose op) (asks : Asks rest op) (conn : Conn) :
    ¬ Uses conn rest := by
  obtain ⟨closed, rfl⟩ := closes
  rintro (⟨app, uses⟩ | uses) <;> simpa using asks_unique asks uses

theorem Elsewhere.not_moves (elsewhere : Elsewhere op) (side : Side) : ¬ Moves side.conn op := by
  rintro (⟨size, rfl⟩ | ⟨data, rfl⟩) <;> obtain ⟨index, same⟩ := elsewhere <;>
    cases side <;> simp [Side.conn, Side.link] at same

theorem IsClose.not_moves (closes : IsClose op) (conn : Conn) : ¬ Moves conn op := by
  obtain ⟨closed, rfl⟩ := closes
  rintro (⟨size, same⟩ | ⟨data, same⟩) <;> simp at same

theorem ServingOp.not_moves {served : Conn} (serving : ServingOp served op) : ¬ Moves conn op := by
  rintro (⟨size, rfl⟩ | ⟨data, rfl⟩) <;> exact serving

end Operations

section Stages

variable {platform : Platform}

theorem Elsewhere.talking (quiet : ∀ event ∈ log, Elsewhere event.1) :
    ∀ event ∈ log, TalkingOp side event.1 :=
  fun event member => Or.inl (quiet event member)

theorem clientAuth_talks {totpPasscode : String} {rest : Goroutine (Option Err)}
    (run : Runs (performClientAuth platform Side.client.conn totpPasscode) log rest) :
    (∀ event ∈ log, TalkingOp .client event.1) ∧
      ∀ op next, rest = .ask op next → TalkingOp .client op := by
  obtain ⟨events, asks⟩ := (exchange_confined platform "" totpPasscode .client).confined run
  exact ⟨fun event member => Or.inr (Or.inl (events event member)),
    fun op next same => Or.inr (Or.inl (asks op next same))⟩

theorem serverAuth_talks {totpSecret : String} {rest : Goroutine (Option Err)}
    (run : Runs (performServerAuth platform Side.server.conn totpSecret) log rest) :
    (∀ event ∈ log, TalkingOp .server event.1) ∧
      ∀ op next, rest = .ask op next → TalkingOp .server op := by
  obtain ⟨events, asks⟩ := (exchange_confined platform totpSecret "" .server).confined run
  exact ⟨fun event member => Or.inr (Or.inl (events event member)),
    fun op next same => Or.inr (Or.inl (asks op next same))⟩

theorem upgrade_talks {α : Type} {program rest : Goroutine α}
    (upgrades : Meets (Contract.always fun _ op => UpgradeOp side.conn op) (fun _ _ => True) program [])
    (run : Runs program log rest) :
    (∀ event ∈ log, TalkingOp side event.1) ∧ ∀ op next, rest = .ask op next → TalkingOp side op := by
  obtain ⟨events, asks⟩ := upgrades.confined run
  exact ⟨fun event member => Or.inr (Or.inr (events event member)),
    fun op next same => Or.inr (Or.inr (asks op next same))⟩

theorem negotiateWebRTCClient_upgrades :
    Meets (Contract.always fun _ op => UpgradeOp Side.client.conn op) (fun _ _ => True)
      (negotiateWebRTCClient platform Side.client.conn) [] := by
  apply meets_of_runs
  · exact fun inner op next run => ((negotiateWebRTCClient_meets _ platform).asks run).1
  · exact fun _ _ _ => trivial

theorem negotiateWebRTCServer_upgrades :
    Meets (Contract.always fun _ op => UpgradeOp Side.server.conn op) (fun _ _ => True)
      (negotiateWebRTCServer platform Side.server.conn) [] := by
  apply meets_of_runs
  · exact fun inner op next run => ((negotiateWebRTCServer_meets platform _).asks run).1
  · exact fun _ _ _ => trivial

theorem sendSignal_upgrades (side : Side) (msg : SignalMessage) :
    Meets (Contract.always fun _ op => UpgradeOp side.conn op) (fun _ _ => True)
      (sendSignal side.conn msg) [] := by
  apply meets_of_runs
  · exact fun inner op next run => Or.inr (Or.inl (sendSignal_asks run))
  · exact fun _ _ _ => trivial

theorem all_append {first second : Log} {holds : Op → Prop} (early : ∀ event ∈ first, holds event.1)
    (late : ∀ event ∈ second, holds event.1) : ∀ event ∈ first ++ second, holds event.1 := by
  intro event member
  rcases List.mem_append.mp member with member | member
  · exact early event member
  · exact late event member

theorem ClientPassed.talks {opts : ClientOptions} {early auth : Log}
    (passed : ClientPassed platform opts early auth) :
    ∀ event ∈ early ++ auth, TalkingOp .client event.1 :=
  all_append (Elsewhere.talking passed.quiet) (clientAuth_talks passed.run).1

theorem not_uses_away {α : Type} {rest : Goroutine α} (relay : conn = side.conn ∨ conn = .p2p)
    (away : ∀ op, Asks rest op → Elsewhere op ∨ IsClose op) :
    ¬ Uses conn rest := by
  intro uses
  have asking : ∃ op, Asks rest op := by
    rcases uses with ⟨app, asks⟩ | asks
    · exact ⟨_, asks⟩
    · exact ⟨_, asks⟩
  obtain ⟨op, asks⟩ := asking
  rcases away op asks with elsewhere | closes
  · exact TalkingOp.not_uses (Or.inl elsewhere) asks relay uses
  · exact closes.not_uses asks conn uses

theorem ServingOp.of_uses {α : Type} {rest : Goroutine α} {served : Conn} (uses : Uses conn rest)
    (serves : ∀ op next, Runs rest [] (.ask op next) → ServingOp served op) : conn = served := by
  rcases uses with ⟨app, next, rfl⟩ | ⟨next, rfl⟩
  · exact serves _ next (Runs.start _)
  · exact serves _ next (Runs.start _)

section Client

variable {opts : ClientOptions} {log : Log} {rest : Goroutine (Option Err)}

theorem ClientStage.of_uses (stage : ClientStage platform opts log rest)
    (relay : conn = Side.client.conn ∨ conn = .p2p) (uses : Uses conn rest) :
    ClientServing platform opts log rest conn := by
  cases stage with
  | away away => exact absurd uses (not_uses_away relay away.2)
  | authenticating split quiet run asks =>
      exact absurd uses (((clientAuth_talks run).2 _ _ rfl).not_uses asks relay)
  | refused split quiet run closing =>
      refine absurd uses (not_uses_away relay ?_)
      rintro op ⟨next, asked⟩
      exact Or.inr (closing.2 op next asked)
  | negotiating split passed direct run asks =>
      have talks := (upgrade_talks negotiateWebRTCClient_upgrades run).2 _ _ rfl
      exact absurd uses (talks.not_uses asks relay)
  | informing split passed direct negotiated run asks =>
      have talks := (upgrade_talks (sendSignal_upgrades .client _) run).2 _ _ rfl
      exact absurd uses (talks.not_uses asks relay)
  | serving serving =>
      exact ServingOp.of_uses uses (fun _ _ => serving.serves) ▸ serving

theorem ClientStage.talks {op : Op} (stage : ClientStage platform opts log rest)
    (asks : Asks rest op) (moves : Moves Side.client.conn op) :
    ∀ event ∈ log, TalkingOp .client event.1 := by
  cases stage with
  | away away =>
      rcases away.2 op asks with elsewhere | closes
      · exact absurd moves (elsewhere.not_moves .client)
      · exact absurd moves (closes.not_moves _)
  | authenticating split quiet run asks =>
      exact split ▸ all_append (Elsewhere.talking quiet) (clientAuth_talks run).1
  | refused split quiet run closing =>
      obtain ⟨next, asked⟩ := asks
      exact absurd moves ((closing.2 op next asked).not_moves _)
  | negotiating split passed direct run asks =>
      exact split ▸ all_append passed.talks (upgrade_talks negotiateWebRTCClient_upgrades run).1
  | informing split passed direct negotiated run asks =>
      have events := (upgrade_talks negotiateWebRTCClient_upgrades negotiated).1
      have informs := (upgrade_talks (sendSignal_upgrades .client _) run).1
      exact split ▸ all_append passed.talks (all_append events informs)
  | serving serving =>
      obtain ⟨next, rfl⟩ := asks
      exact absurd moves (serving.serves (Runs.start _)).not_moves

end Client

theorem ServerPassed.talks {opts : ServerOptions} {certs : List Bytes} {auth : Log}
    (passed : ServerPassed platform opts certs auth) :
    ∀ event ∈ greeting certs auth, TalkingOp .server event.1 := by
  intro event member
  rcases List.mem_cons.mp member with rfl | member
  · exact Or.inl trivial
  · exact (serverAuth_talks passed.run).1 event member

section Server

variable {opts : ServerOptions} {handler : ServerHandler} {log : Log} {rest : Goroutine Unit}

theorem ServerStage.of_uses (stage : ServerStage platform opts handler log rest)
    (relay : conn = Side.server.conn ∨ conn = .p2p) (uses : Uses conn rest) :
    ServerServing platform opts handler log rest conn := by
  have closing : ∀ {tail : Log}, Closing tail rest → ¬ Uses conn rest := by
    intro tail ending
    refine not_uses_away relay ?_
    rintro op ⟨next, asked⟩
    exact Or.inr (ending.2 op next asked)
  cases stage with
  | waiting none asks =>
      have talks : TalkingOp .server (.handshake .incoming) := Or.inl trivial
      exact absurd uses (talks.not_uses asks relay)
  | turnedAway split ending => exact absurd uses (closing ending)
  | authenticating split run asks =>
      exact absurd uses (((serverAuth_talks run).2 _ _ rfl).not_uses asks relay)
  | refused split run ending => exact absurd uses (closing ending)
  | negotiating split passed run asks =>
      have talks := (upgrade_talks negotiateWebRTCServer_upgrades run).2 _ _ rfl
      exact absurd uses (talks.not_uses asks relay)
  | serving serving =>
      exact ServingOp.of_uses uses (fun _ _ => serving.serves) ▸ serving

theorem ServerStage.talks {op : Op} (stage : ServerStage platform opts handler log rest)
    (asks : Asks rest op) (moves : Moves Side.server.conn op) :
    ∀ event ∈ log, TalkingOp .server event.1 := by
  have closing : ∀ {tail : Log}, ¬ Closing tail rest := by
    intro tail ending
    obtain ⟨next, asked⟩ := asks
    exact IsClose.not_moves (ending.2 op next asked) _ moves
  cases stage with
  | waiting none asks => simp [none]
  | turnedAway split ending => exact absurd ending closing
  | authenticating split run asks =>
      intro event member
      rw [split] at member
      rcases List.mem_cons.mp member with rfl | member
      · exact Or.inl trivial
      · exact (serverAuth_talks run).1 event member
  | refused split run ending => exact absurd ending closing
  | @negotiating certs auth upgrade op next split passed run asks =>
      have together : log = greeting certs auth ++ upgrade := split
      exact together ▸ all_append passed.talks (upgrade_talks negotiateWebRTCServer_upgrades run).1
  | serving serving =>
      obtain ⟨next, rfl⟩ := asks
      exact absurd moves (serving.serves (Runs.start _)).not_moves

end Server

end Stages

def Deployment.protocol (deployment : Deployment) : Protocol where
  platform := deployment.platform
  Result := Deployment.Result
  program := deployment.program
  running side main := Uses side.conn main
  orderly := by
    intro side early handed later op next before uses run
    cases side with
    | client => exact (((runClient_stage before).of_uses (Or.inl rfl) uses).serves run).not_moves
    | server =>
        have stage := serverHandler_stage deployment.relayed before
        exact ((stage.of_uses (Or.inl rfl) uses).serves run).not_moves
  unclosed := by
    intro side log op next run moves event member
    cases side with
    | client => exact ((runClient_stage run).talks ⟨next, rfl⟩ moves event member).not_closes
    | server =>
        have stage := serverHandler_stage deployment.relayed run
        exact (stage.talks ⟨next, rfl⟩ moves event member).not_closes

def Served (deployment : Deployment) (side : Side) (conn : Conn)
    (state : End (Deployment.Result side)) : Prop :=
  ∃ early late handed, state.log = early ++ late ∧ Runs (deployment.program side) early handed ∧
    Uses conn handed ∧ Runs handed late state.main

theorem client_served {deployment : Deployment} {state : End (Deployment.Result .client)}
    (relay : conn = Side.client.conn ∨ conn = .p2p)
    (served : Served deployment .client conn state) :
    ClientServing deployment.platform deployment.client state.log state.main conn := by
  obtain ⟨early, late, handed, split, before, uses, run⟩ := served
  rw [split]
  exact ((runClient_stage before).of_uses relay uses).later run

theorem server_served {deployment : Deployment} {state : End (Deployment.Result .server)}
    (relay : conn = Side.server.conn ∨ conn = .p2p)
    (served : Served deployment .server conn state) :
    ServerServing deployment.platform deployment.server deployment.handler state.log state.main conn := by
  obtain ⟨early, late, handed, split, before, uses, run⟩ := served
  rw [split]
  exact ((serverHandler_stage deployment.relayed before).of_uses relay uses).later run

theorem clientServes_uses (opts : ClientOptions) (conn : Conn) :
    Uses conn (clientServes opts conn) := by
  refine Or.inl ?_
  simp only [clientServes, handleClientConn]
  by_cases socks : opts.socks ≠ ""
  · simp only [socks, ne_eq, not_false_eq_true, ↓reduceIte]
    exact ⟨_, _, rfl⟩
  by_cases shell : opts.shell = true
  · simp only [socks, shell, ↓reduceIte]
    exact ⟨_, _, rfl⟩
  by_cases reverse : opts.reverseForward ≠ ""
  · simp only [socks, shell, reverse, ne_eq, not_false_eq_true, ↓reduceIte]
    exact ⟨_, _, rfl⟩
  simp only [socks, shell, reverse, ↓reduceIte]
  exact ⟨_, _, rfl⟩

theorem serverServes_uses (platform : Platform) (mode : ServerMode) (certs : List Bytes)
    (conn : Conn) :
    Uses conn (serverServes platform (.serve mode) certs conn) := by
  obtain ⟨next, asks⟩ := (ServerHandler.serve mode).proceed_asks platform certs conn
  refine Or.inl ⟨mode.app, ?_⟩
  rw [serverServes, deferClose, asks]
  exact ⟨_, rfl⟩

/-! A deployment without a secret, whose ends have authenticated each other. -/

def sample (tryDirect : Bool) : Deployment where
  platform := referencePlatform
  client := ⟨"A", "relay://host", "", tryDirect, "", false, "", ""⟩
  server := ⟨true, [], ""⟩
  handler := .serve ⟨false, false, "", ""⟩
  relayed := rfl

def clientMeets (tryDirect : Bool) : Log :=
  relayDialled (sample tryDirect).client (Json.utf8 ['A']) ++
    readFrame Side.client.conn okChallenge.marshal okChallenge.marshal_pos

def serverMeets : Log := greeting [] (writeFrame Side.server.conn okChallenge.marshal)

theorem routine_clientMeets (tryDirect : Bool) :
    ∀ event ∈ clientMeets tryDirect, Routine event := by
  refine List.forall_mem_append.mpr ⟨?_, routine_readFrame _ _ _⟩
  simp [relayDialled, Routine, Smooth]

theorem routine_serverMeets : ∀ event ∈ serverMeets, Routine event := by
  refine List.forall_mem_cons.mpr ⟨?_, routine_writeFrame _ _⟩
  simp [Routine, Smooth]

theorem started_meeting (tryDirect : Bool) (platform : Platform) (side : Side) :
    ((clientMeets tryDirect).flatMap fun event => Net.started platform side event.1) = [] ∧
      (serverMeets.flatMap fun event => Net.started platform side event.1) = [] := by
  simp [clientMeets, relayDialled, serverMeets, greeting, writeFrame, readFrame, readWhole, Net.started]

structure Met (tryDirect : Bool) (net : Net (sample tryDirect).protocol) : Prop where
  sound : Sound net
  client : net.ends .client = {
    main := afterClientAuth referencePlatform (sample tryDirect).client none
    log := clientMeets tryDirect }
  server : net.ends .server = {
    main := admitted referencePlatform (sample tryDirect).server
      ((sample tryDirect).handler.proceed referencePlatform) []
    log := serverMeets }
  inbox : ∀ side, net.inbox side = []

theorem sample_client_meets {opts : ClientOptions} (serverID : opts.serverID = "A")
    (relayURI : opts.relayURI = "relay://host") :
    Runs (runClient referencePlatform opts) (relayDialled opts (Json.utf8 ['A']) ++
      readFrame Side.client.conn okChallenge.marshal okChallenge.marshal_pos)
      (afterClientAuth referencePlatform opts none) := by
  have identity : referencePlatform.deviceIDFromString opts.serverID =
      .ok (referencePlatform.newDeviceID (Json.utf8 ['A'])) := by
    rw [serverID]
    rfl
  have dialled := runClient_meets_server identity (by rw [relayURI]; decide)
  have passes := (performClientAuth_open referencePlatform (.tls .relay) opts.totpPasscode).bind
    (afterClientAuth referencePlatform opts)
  exact dialled.trans passes

theorem sample_meets (tryDirect : Bool) {allowed : Net (sample tryDirect).protocol → Label → Prop}
    (permitted : ∀ state side event, Routine event → allowed state (.main side event)) :
    ∃ net, Reach Step allowed (sample tryDirect).protocol.start net ∧ Met tryDirect net := by
  have serverRun : Runs ((sample tryDirect).protocol.start.ends .server).main serverMeets
      (admitted referencePlatform (sample tryDirect).server
        ((sample tryDirect).handler.proceed referencePlatform) []) :=
    admitConn_proceeds _ (Or.inl rfl) (performServerAuth_open referencePlatform _)
  have written : received Side.server.conn serverMeets = [] ∧
      sent Side.server.conn serverMeets = frame okChallenge.marshal := by
    simp [serverMeets, greeting, receivedBy, sentBy]
  have read : received Side.client.conn (clientMeets tryDirect) = frame okChallenge.marshal ∧
      sent Side.client.conn (clientMeets tryDirect) = [] := by
    simp [clientMeets, relayDialled, receivedBy, sentBy]
  obtain ⟨greeted, toGreeted, server⟩ := advance_routine permitted sound_start serverRun
    routine_serverMeets (by simp [written])
  have client : greeted.ends .client = (sample tryDirect).protocol.start.ends .client := server.peer
  have sending : greeted.inbox .client = [] ++ sent Side.server.conn serverMeets := server.outbox
  have clientRun : Runs (greeted.ends .client).main (clientMeets tryDirect)
      (afterClientAuth referencePlatform (sample tryDirect).client none) := by
    rw [client]
    exact sample_client_meets rfl rfl
  obtain ⟨net, toNet, met⟩ := advance_routine permitted server.sound clientRun
    (routine_clientMeets tryDirect) (by rw [read.1, sending, written.2]; simp)
  have kept : net.ends .server = greeted.ends .server := met.peer
  have left : greeted.inbox .server = [] := by
    have drained := server.inbox
    rw [written.1] at drained
    exact drained.symm
  refine ⟨net, toGreeted.trans toNet, met.sound, ?_, ?_, ?_⟩
  · rw [met.ends, client, (started_meeting tryDirect _ _).1]
    rfl
  · rw [kept, server.ends, (started_meeting tryDirect _ _).2]
    rfl
  · intro side
    cases side with
    | client =>
        have drained := met.inbox
        rw [read.1, sending, written.2, List.nil_append] at drained
        exact (List.append_right_eq_self.mp drained.symm)
    | server =>
        have nothing : net.inbox .server = greeted.inbox .server ++ sent Side.client.conn _ := met.outbox
        rw [nothing, left, read.2]
        rfl

end SyncthingSocket
