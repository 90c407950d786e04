import SyncthingSocket.RelayFallback

/-!
A client that was asked for relay only does not negotiate, but its server waits
for a signalling message all the same.
-/

namespace SyncthingSocket

open Effect Effect.Program Framing

def ClientSilent {protocol : Protocol} (_ : Net protocol) : Label → Prop
  | .main .client _ | .appWrites .client _ | .appCloses .client => False
  | _ => True

section Property

variable {deployment : Deployment} (net : Net deployment.protocol)

structure Authenticated : Prop where
  client : ∃ conn, ClientServing deployment.platform deployment.client (net.ends .client).log
    (net.ends .client).main conn
  server : ∃ certs auth later, Hears net certs auth later []

def ServerReached : Prop :=
  ∃ conn, ServerServing deployment.platform deployment.server deployment.handler (net.ends .server).log
    (net.ends .server).main conn

def Unconsumed : Prop :=
  ∀ certs auth upgrade tail rest, Hears net certs auth upgrade tail →
    Runs (negotiateWebRTCServer deployment.platform Side.server.conn) upgrade rest →
    received Side.server.conn upgrade = []

structure RelayCompatible : Prop where
  first : ∀ byte, (net.ends .server).appRead.head? = some byte →
    (net.ends .client).appWrote.head? = some byte
  unconsumed : Unconsumed net
  reaches : ∃ later, Reach Step ClientSilent net later ∧ ServerReached later ∧ Unconsumed later

end Property

section Silence

variable {protocol : Protocol} {net after : Net protocol} {label : Label}

structure SameClient (net after : Net protocol) : Prop where
  main : (after.ends .client).main = (net.ends .client).main
  log : (after.ends .client).log = (net.ends .client).log
  appWrote : (after.ends .client).appWrote = (net.ends .client).appWrote
  appClosed : (after.ends .client).appClosed = (net.ends .client).appClosed

theorem SameClient.closed (same : SameClient net after) :
    after.Closed .client ↔ net.Closed .client := by
  rw [Net.Closed, Net.Closed, same.log, same.appClosed]

theorem sameClient_step (silent : ClientSilent net label) (step : Step net label after) :
    SameClient net after := by
  obtain ⟨side, got, put, flow, acts⟩ := step_acts step
  rcases side.eq_or_peer .client with rfl | same
  · cases acts with
    | program _ _ _ => exact silent.elim
    | background changed _ _ _ _ => constructor <;> rw [changed]
    | opens _ changed => constructor <;> rw [changed]
    | application _ changed labelled =>
        rcases labelled with rfl | rfl
        · constructor <;> simp [changed]
        · exact silent.elim
    | closes _ _ => exact silent.elim
  · have untouched := flow.untouched
    rw [← same] at untouched
    constructor <;> rw [untouched]

theorem sameClient_reach (reached : Reach Step ClientSilent net after) : SameClient net after := by
  refine reached.invariant ⟨rfl, rfl, rfl, rfl⟩ ?_
  intro middle label later same silent step
  have next := sameClient_step silent step
  exact ⟨next.main.trans same.main, next.log.trans same.log, next.appWrote.trans same.appWrote,
    next.appClosed.trans same.appClosed⟩

end Silence

variable {relayConn : Conn} {certs : List Bytes} {auth log tail : Log} {platform : Platform}

section RelayOnly

variable {deployment : Deployment} {net after : Net deployment.protocol} {label : Label}

theorem relayOnly_unregistered (off : deployment.client.tryDirect = false) (sound : Sound net) :
    ∀ event ∈ (net.ends .client).log, ¬ Registers .client event.1 := by
  intro event member registers
  obtain ⟨before, later, split⟩ := List.append_of_mem member
  have run := sound.runs .client
  rw [split] at run
  obtain ⟨next, early⟩ := run.asked
  have direct := ((runClient_stage early).registers ⟨next, rfl⟩ registers).1
  simp [off] at direct

theorem relayOnly_plain (off : deployment.client.tryDirect = false) (sound : Sound net)
    (unregistered : ∀ event ∈ (net.ends .server).log, ¬ Registers .server event.1) : net.Plain := by
  intro side
  cases side with
  | client => exact sound.unregistered (relayOnly_unregistered off sound)
  | server => exact sound.unregistered unregistered

theorem relayOnly_unheard {upgrade : Log}
    (off : deployment.client.tryDirect = false) (sound : Sound net) (plain : net.Plain)
    (silent : (net.ends .client).appWrote = []) (hears : Hears net certs auth upgrade tail) :
    received Side.server.conn upgrade = [] ∧ (net.ends .server).appRead = [] ∧
      net.inbox .server = [] := by
  rcases (runClient_stage (sound.runs .client)).stream (fun direct => by simp [off] at direct) with
    said | ⟨early, clientAuth, later, spoke, nothing⟩
  · have nothing := said_unheard sound plain hears said silent
    simp only [List.append_eq_nil_iff] at nothing
    exact ⟨nothing.1.1, nothing.2⟩
  · have heard := spoke.heard sound plain hears
    rw [nothing off, silent] at heard
    simp only [List.append_nil, List.append_eq_nil_iff] at heard
    exact ⟨heard.1, heard.2.2⟩

theorem Signalled.heard {msg : SignalMessage}
    (signalled : Signalled platform relayConn log msg) : received relayConn log ≠ [] := by
  obtain ⟨body, finished, _⟩ := signalled
  rw [finished.eq_frame]
  exact frame_ne_nil body

theorem Offered.heard (offered : Offered platform relayConn log) : received relayConn log ≠ [] := by
  obtain ⟨msg, signalled, _⟩ := offered
  exact signalled.heard

theorem NotOffered.unheard {fallback : Bool}
    {err : Option Err} (notOffered : NotOffered platform relayConn fallback err log)
    (nothing : received relayConn log = []) : err ≠ none ∧ ReadFailed relayConn log := by
  rcases notOffered.2 with ⟨_, _, msg, signalled, _⟩ | ⟨_, failed, bad | ⟨msg, signalled, _⟩⟩
  · exact absurd nothing signalled.heard
  · rcases bad with ⟨body, _, finished, _⟩ | ⟨four, _⟩ | ⟨_, unread⟩
    · exact absurd (finished.eq_frame.symm.trans nothing) (frame_ne_nil body)
    · simp [nothing] at four
    · exact ⟨failed, unread⟩
  · exact absurd nothing signalled.heard

def Untouched (net : Net deployment.protocol) : Prop :=
  (net.ends .client).appWrote = [] → ∀ event ∈ (net.ends .server).log, ¬ Registers .server event.1

theorem untouched_step (off : deployment.client.tryDirect = false) (sound : Sound net)
    (untouched : Untouched net) (step : Step net label after) : Untouched after := by
  intro silent
  obtain ⟨side, got, put, flow, acts⟩ := step_acts step
  have before : (net.ends .client).appWrote = [] :=
    List.prefix_nil.mp (silent ▸ appWrote_grows flow acts .client)
  have unregistered := untouched before
  have plain := relayOnly_plain off sound unregistered
  rcases log_step flow acts .server with ⟨logEq, _⟩ | ⟨op, next, answer, _, asks, _, logEq, _⟩
  · rw [logEq]
    exact unregistered
  · rw [logEq]
    refine List.forall_mem_append.mpr ⟨unregistered, List.forall_mem_singleton.mpr ?_⟩
    intro registers
    obtain ⟨certs, auth, upgrade, hears, offered⟩ := server_registers sound asks registers
    exact offered.heard (relayOnly_unheard off sound plain before hears).1

theorem untouched_of_reach {allowed : Net deployment.protocol → Label → Prop}
    (off : deployment.client.tryDirect = false)
    (reached : Reach Step allowed deployment.protocol.start net) : Untouched net := by
  induction reached with
  | here => exact fun _ => by simp [Protocol.start]
  | next before _ step ih => exact untouched_step off (sound_of_reach before) ih step

theorem silent_unheard {allowed : Net deployment.protocol → Label → Prop}
    {upgrade : Log} (off : deployment.client.tryDirect = false)
    (reached : Reach Step allowed deployment.protocol.start net)
    (silent : (net.ends .client).appWrote = []) (hears : Hears net certs auth upgrade tail) :
    received Side.server.conn upgrade = [] ∧ (net.ends .server).appRead = [] ∧
      net.inbox .server = [] := by
  have sound := sound_of_reach reached
  have plain := relayOnly_plain off sound (untouched_of_reach off reached silent)
  exact relayOnly_unheard off sound plain silent hears

theorem Hears.unregistered {upgrade : Log}
    (hears : Hears net certs auth upgrade tail) (reads : OnlyReads Side.server.conn upgrade)
    (serving : ∀ event ∈ tail, ∃ conn, ServingOp conn event.1) :
    ∀ event ∈ (net.ends .server).log, ¬ Registers .server event.1 := by
  intro event member registers
  rw [hears.split] at member
  simp only [greeting, List.mem_cons, List.mem_append] at member
  rcases member with rfl | member | member | member
  · simp [Registers] at registers
  · have exchanges := ((exchange_confined deployment.platform _ "" .server).confined hears.passed.run).1
    exact (exchanges event member).not_registers registers
  · obtain ⟨size, isRead⟩ := reads event member
    simp [Registers, isRead] at registers
  · obtain ⟨conn, serves⟩ := serving event member
    exact serves.not_registers registers

theorem reached_unheard (serverReached : ServerReached net) (unconsumed : Unconsumed net) :
    ReadFailed Side.server.conn (net.ends .server).log ∧
      (∀ event ∈ (net.ends .server).log, ¬ Registers .server event.1) ∧
      ∃ certs auth upgrade tail, Hears net certs auth upgrade tail ∧
        received Side.server.conn upgrade = [] ∧ received Side.server.conn tail = [] := by
  obtain ⟨conn, serving⟩ := serverReached
  cases serving with
  | @relayed certs auth upgrade tail result split passed negotiated relay serving =>
      have hears : Hears net certs auth upgrade tail := ⟨split, passed⟩
      have nothing := unconsumed _ _ _ _ _ hears negotiated
      rcases (negotiateWebRTCServer_meets _ _).finishes negotiated with notOffered | ⟨offered, _⟩
      swap
      · exact absurd nothing offered.heard
      have serves := serverServes_serves deployment.platform deployment.handler certs (.tls .incoming)
      obtain ⟨size, err, failed⟩ : ReadFailed Side.server.conn upgrade := (notOffered.unheard nothing).2
      refine ⟨⟨size, err, ?_⟩, hears.unregistered notOffered.1 fun event member =>
        ⟨_, (serves.confined serving).1 event member⟩, certs, auth, upgrade, tail, hears, nothing,
        (serves.quiet serving _).1⟩
      rw [hears.split]
      simp [greeting, failed]
  | @upgraded certs auth upgrade tail split passed negotiated serving =>
      have nothing := unconsumed certs auth upgrade tail _ ⟨split, passed⟩ negotiated
      rcases (negotiateWebRTCServer_meets _ _).finishes negotiated with notOffered | ⟨offered, _⟩
      · exact absurd rfl (notOffered.unheard nothing).1
      · exact absurd nothing offered.heard

theorem closed_reaches (off : deployment.client.tryDirect = false)
    (reached : Reach Step anyStep deployment.protocol.start net)
    (server : ∃ certs auth later, Hears net certs auth later []) (closed : net.Closed .client)
    (silent : (net.ends .client).appWrote = []) :
    ∃ later, Reach Step ClientSilent net later ∧ ServerReached later ∧ Unconsumed later := by
  have unconsumed :
      ∀ {state : Net deployment.protocol}, Reach Step anyStep deployment.protocol.start state →
      (state.ends .client).appWrote = [] → Unconsumed state :=
    fun arrived quiet _ _ _ _ _ hears _ => (silent_unheard off arrived quiet hears).1
  obtain ⟨certs, auth, later, hears⟩ := server
  obtain ⟨nothing, _, drained⟩ := silent_unheard off reached silent hears
  have split := hears.split
  rw [List.append_nil] at split
  have passes := admitConn_proceeds (deployment.handler.proceed deployment.platform)
    ((authorized_iff _ _ _).mp hears.passed.listed) hears.passed.run
  have run : Runs (deployment.handler.run deployment.platform deployment.server) _ _ :=
    (sound_of_reach reached).runs .server
  rw [ServerHandler.run_eq, split] at run
  obtain ⟨middle, early, late⟩ : ∃ middle, Runs _ (greeting certs auth) middle ∧ Runs middle later _ :=
    Runs.split run
  obtain rfl := passes.rest_unique early
  rcases hears.passed.stage deployment.relayed split late with ⟨op, next, negotiating, _⟩ | serving
  swap
  · exact ⟨net, Reach.here, serving, unconsumed reached silent⟩
  obtain rfl := negotiateWebRTCServer_unheard _ negotiating nothing
  have deaf : Runs (negotiateWebRTCServer deployment.platform Side.server.conn) _ _ :=
    negotiateWebRTCServer_deaf deployment.platform .eof
  have gaveUp : (false, some Err.eof).1 = true ∨ (false, some Err.eof).2 ≠ none := Or.inr (by simp)
  have stays : Runs _ _ (serverServes deployment.platform deployment.handler certs Side.server.conn) :=
    admitted_stays deployment.relayed deaf gaveUp
  obtain ⟨next, asks, onward⟩ := runs_cons stays
  have current : (net.ends .server).main = .ask (.read Side.server.conn 4) next :=
    ((Runs.start _).rest_unique late).symm.trans asks
  have permitted : net.permits .server (.read Side.server.conn 4) (.error .eof) :=
    fun _ => Or.inr ⟨closed, drained⟩
  have quiet : ClientSilent net (.main .server ⟨.read Side.server.conn 4, .error .eof⟩) := trivial
  have step := Step.main current permitted
  have onHandler : next (.error .eof) =
      serverServes deployment.platform deployment.handler certs Side.server.conn :=
    (Runs.start _).rest_unique onward
  refine ⟨_, Reach.next Reach.here quiet step, ⟨Side.server.conn, ?_⟩,
    unconsumed (reached.next trivial step) silent⟩
  rw [Net.put_ends, onHandler]
  refine ServerServing.relayed ?_ hears.passed deaf gaveUp (Runs.start _)
  simp [split, greeting]

theorem compatible_closed (off : deployment.client.tryDirect = false)
    (reached : Reach Step anyStep deployment.protocol.start net) (authenticated : Authenticated net)
    (compatible : RelayCompatible net) : net.Closed .client ∧ (net.ends .client).appWrote = [] := by
  obtain ⟨later, toLater, serverReached, unconsumed⟩ := compatible.reaches
  have same := sameClient_reach toLater
  have sound := sound_of_reach (reached.trans (toLater.mono fun _ _ _ => trivial))
  obtain ⟨failed, unregistered, certs, auth, upgrade, tail, hears, noUpgrade, noTail⟩ :=
    reached_unheard serverReached unconsumed
  have plain := relayOnly_plain off sound unregistered
  obtain ⟨closed, drained, unread⟩ := sound.readFailed .server failed
  refine ⟨same.closed.mp closed, ?_⟩
  obtain ⟨conn, serving⟩ := authenticated.client
  rw [← same.log, ← same.main] at serving
  obtain ⟨early, clientAuth, clientLater, spoke, nothing⟩ :=
    serving.spoke fun direct => by simp [off] at direct
  have heard := spoke.heard sound plain hears
  rw [noUpgrade, noTail, unread, drained, nothing off] at heard
  exact same.appWrote.symm.trans heard.symm

theorem silent_server_waits (off : deployment.client.tryDirect = false)
    (reached : Reach Step anyStep deployment.protocol.start net)
    (silent : (net.ends .client).appWrote = []) (unclosed : ¬ net.Closed .client) :
    ¬ ServerReached net := by
  intro serverReached
  have unconsumed : Unconsumed net :=
    fun _ _ _ _ _ hears _ => (silent_unheard off reached silent hears).1
  have failed := (reached_unheard serverReached unconsumed).1
  exact unclosed ((sound_of_reach reached).readFailed .server failed).1

theorem relayOnly_compatible_iff_closed_unused (deployment : Deployment)
    (off : deployment.client.tryDirect = false) {net : Net deployment.protocol}
    (reached : Reach Step anyStep deployment.protocol.start net)
    (authenticated : Authenticated net) :
    RelayCompatible net ↔ net.Closed .client ∧ (net.ends .client).appWrote = [] := by
  constructor
  · exact compatible_closed off reached authenticated
  · rintro ⟨closed, silent⟩
    obtain ⟨certs, auth, later, hears⟩ := authenticated.server
    have unread := (silent_unheard off reached silent hears).2.1
    refine ⟨by simp [unread], ?_, closed_reaches off reached authenticated.server closed silent⟩
    exact fun _ _ _ _ _ hears _ => (silent_unheard off reached silent hears).1

end RelayOnly

theorem sample_authenticated {net : Net (sample false).protocol} (met : Met false net) :
    Authenticated net ∧ ¬ net.Closed .client := by
  have split : clientMeets false = clientMeets false ++ [] := (List.append_nil _).symm
  have passed : ClientPassed referencePlatform (sample false).client
      (relayDialled (sample false).client (Json.utf8 ['A']))
      (readFrame Side.client.conn okChallenge.marshal okChallenge.marshal_pos) :=
    ⟨by simp [relayDialled, Elsewhere], performClientAuth_open _ _ _⟩
  have main : afterClientAuth referencePlatform (sample false).client none =
      clientServes (sample false).client Side.client.conn := useRelay_relayOnly rfl
  refine ⟨⟨⟨Side.client.conn, ?_⟩, [], writeFrame Side.server.conn okChallenge.marshal, [], ?_, ?_⟩,
    Net.live ?_ ?_⟩
  · rw [met.client, main]
    exact .relayOnly split passed rfl (Runs.start _)
  · rw [met.server]
    simp [serverMeets]
  · exact ⟨rfl, performServerAuth_open _ _⟩
  · rw [met.client]
  · rw [met.client]
    exact fun event member => (routine_clientMeets false event member).2.2.2

theorem closing_client_is_compatible :
    ∃ net : Net (sample false).protocol, Reach Step anyStep (sample false).protocol.start net ∧
      Authenticated net ∧ RelayCompatible net := by
  obtain ⟨met, toMet, start⟩ : ∃ net, Reach Step anyStep (sample false).protocol.start net ∧
    Met false net :=
    sample_meets false fun _ _ _ _ => trivial
  obtain ⟨client, certs, auth, later, split, passed⟩ := (sample_authenticated start).1
  have running : Uses Side.client.conn (met.ends .client).main := by
    rw [start.client, useRelay_relayOnly rfl]
    exact clientServes_uses _ _
  have closes : Step met (.appCloses .client) _ := Step.appCloses running
  have reached := toMet.next trivial closes
  have still : Authenticated (met.put .client { met.ends .client with appClosed := true } met.inbox) :=
    ⟨client, certs, auth, later, split, passed⟩
  refine ⟨_, reached, still, ?_⟩
  rw [relayOnly_compatible_iff_closed_unused (sample false) rfl reached still]
  refine ⟨Or.inl rfl, ?_⟩
  rw [Net.put_ends, start.client]

theorem receiving_client_deadlocks :
    ∃ net : Net (sample false).protocol, Reach Step anyStep (sample false).protocol.start net ∧
      Authenticated net ∧ ¬ RelayCompatible net ∧
      ∀ later, Reach Step ClientSilent net later → ¬ ServerReached later := by
  obtain ⟨met, toMet, start⟩ : ∃ net, Reach Step anyStep (sample false).protocol.start net ∧
    Met false net :=
    sample_meets false fun _ _ _ _ => trivial
  obtain ⟨authenticated, unclosed⟩ := sample_authenticated start
  refine ⟨met, toMet, authenticated, ?_, ?_⟩
  · exact fun compatible => unclosed (compatible_closed rfl toMet authenticated compatible).1
  · intro later toLater
    have same := sameClient_reach toLater
    apply silent_server_waits rfl (toMet.trans (toLater.mono fun _ _ _ => trivial))
    · rw [same.appWrote, start.client]
    · exact fun closed => unclosed (same.closed.mp closed)

end SyncthingSocket
