import SyncthingSocket.Handoff

/-!
What the applications find on the relayed connection when both ends have fallen back to it: intact
streams if the client gave up before it had anything to signal, and left-over signalling messages
otherwise.
-/

namespace SyncthingSocket

open Effect Effect.Program Framing

variable {opts : ClientOptions} {conn : Conn} {rest : Goroutine (Option Err)} {certs : List Bytes}
  {auth clientAuth early log served tail telling upgrade : Log} {failure : Option Err} {side : Side}

theorem quiet_bytes (quiet : ∀ event ∈ log, ¬ Moves conn event.1) :
    received conn log = [] ∧ sent conn log = [] := by
  constructor
  · rw [received, List.flatMap_eq_nil_iff]
    intro event member
    by_contra moved
    exact quiet event member (moves_of_received moved)
  · rw [sent, List.flatMap_eq_nil_iff]
    intro event member
    by_contra moved
    exact quiet event member (moves_of_sent moved)

theorem Serves.quiet {α : Type} {served : Conn} {program rest : Goroutine α}
    (serves : Serves served program) (run : Runs program log rest) (conn : Conn) :
    received conn log = [] ∧ sent conn log = [] :=
  quiet_bytes fun event member => ((serves.confined run).1 event member).not_moves

theorem elsewhere_quiet (elsewhere : ∀ event ∈ log, Elsewhere event.1) (side : Side) :
    received side.conn log = [] ∧ sent side.conn log = [] :=
  quiet_bytes fun event member => (elsewhere event member).not_moves side

theorem greeting_bytes (certs : List Bytes) (log : Log) :
    received Side.server.conn (greeting certs log) = received Side.server.conn log ∧
      sent Side.server.conn (greeting certs log) = sent Side.server.conn log := by
  simp [greeting, receivedBy, sentBy]

section Client

variable {platform : Platform} {opts : ClientOptions} {log : Log}

theorem unsignalled_quiet
    (run : Runs (negotiateWebRTCClient platform Side.client.conn) upgrade rest)
    (undescribed : ¬ LocalDescriptionSet upgrade) :
    received Side.client.conn upgrade = [] ∧ sent Side.client.conn upgrade = [] := by
  apply quiet_bytes
  intro event member moves
  obtain ⟨before, after, rfl⟩ := List.append_of_mem member
  have touches : Touches Side.client.conn event.1 := moves.elim Or.inl (Or.inr ∘ Or.inl)
  have described := ((negotiateWebRTCClient_meets _ platform).guarded run).2 touches
  exact undescribed (described.append _)

/-- The client has authenticated, has taken nothing since, and has sent at most its
fallback message. -/
structure Spoke (platform : Platform) (opts : ClientOptions) (log early auth later : Log) : Prop where
  split : log = early ++ auth ++ later
  passed : ClientPassed platform opts early auth
  silent : received Side.client.conn later = []
  part : sent Side.client.conn later <+: frame fallbackSignal.marshal

theorem ClientPassed.bytes (passed : ClientPassed platform opts early auth) (later : Log) :
    received Side.client.conn (early ++ auth ++ later) =
      received Side.client.conn auth ++ received Side.client.conn later ∧
    sent Side.client.conn (early ++ auth ++ later) =
      sent Side.client.conn auth ++ sent Side.client.conn later := by
  obtain ⟨nothingReceived, nothingSent⟩ := elsewhere_quiet passed.quiet .client
  simp [nothingReceived, nothingSent]

theorem LocalDescriptionSet.mono {first second : Log} (described : LocalDescriptionSet first)
    (within : ∀ event ∈ first, event ∈ second) : LocalDescriptionSet second := by
  obtain ⟨sdp, member⟩ := described
  exact ⟨sdp, within _ member⟩

structure FellBack (platform : Platform) (opts : ClientOptions) (log early auth quiet telling served : Log)
    (failure : Option Err) : Prop where
  split : log = early ++ auth ++ (quiet ++ telling ++ served)
  passed : ClientPassed platform opts early auth
  unsignalled : received Side.client.conn quiet = [] ∧ sent Side.client.conn quiet = []
  told : Runs (sendSignal Side.client.conn fallbackSignal) telling (.done failure)
  serving : received Side.client.conn served = [] ∧ sent Side.client.conn served = []

theorem FellBack.sent_eq {quiet : Log}
    (fellBack : FellBack platform opts log early auth quiet telling served failure) :
    sent Side.client.conn (quiet ++ telling ++ served) = sent Side.client.conn telling := by
  simp [fellBack.unsignalled, fellBack.serving]

theorem FellBack.whole {quiet : Log}
    (fellBack : FellBack platform opts log early auth quiet telling served none) :
    sent Side.client.conn telling = frame fallbackSignal.marshal :=
  (sendFramed_runs marshal_ne_nil fellBack.told).2

theorem FellBack.spoke {quiet : Log}
    (fellBack : FellBack platform opts log early auth quiet telling served failure) :
    Spoke platform opts log early auth (quiet ++ telling ++ served) := by
  have writes := sendFramed_runs marshal_ne_nil fellBack.told
  refine ⟨fellBack.split, fellBack.passed, ?_, ?_⟩
  · simp [fellBack.unsignalled, fellBack.serving, writes.1.received_eq]
  · rw [fellBack.sent_eq]
    cases failure with
    | none => exact writes.2 ▸ List.prefix_rfl
    | some cause => exact writes.2.1

theorem fellBack_of_relayed {err : Err}
    (split : log = early ++ auth ++ (upgrade ++ telling ++ tail))
    (passed : ClientPassed platform opts early auth)
    (negotiated : Runs (negotiateWebRTCClient platform (.tls .relay)) upgrade (.done (some err)))
    (told : Runs (sendSignal (.tls .relay) fallbackSignal) telling (.done failure))
    (serving : Runs (clientServes opts (.tls .relay)) tail rest)
    (undescribed : ¬ LocalDescriptionSet log) :
    FellBack platform opts log early auth upgrade telling tail failure := by
  have still : ¬ LocalDescriptionSet upgrade :=
    fun described => undescribed (described.mono (by simp +contextual [split]))
  exact ⟨split, passed, unsignalled_quiet negotiated still, told,
    (clientServes_serves opts (.tls .relay)).quiet serving Side.client.conn⟩

theorem ClientServing.fellBack
    (serving : ClientServing platform opts log rest (.tls .relay)) (direct : opts.tryDirect = true)
    (undescribed : ¬ LocalDescriptionSet log) : ∃ early auth quiet telling served failure,
      FellBack platform opts log early auth quiet telling served failure := by
  cases serving with
  | relayOnly split passed off serving => simp [off] at direct
  | relayed split passed _ negotiated told serving =>
      exact ⟨_, _, _, _, _, _, fellBack_of_relayed split passed negotiated told serving undescribed⟩

theorem ClientServing.spoke (serving : ClientServing platform opts log rest conn)
    (undescribed : opts.tryDirect = true → ¬ LocalDescriptionSet log) :
    ∃ early auth later, Spoke platform opts log early auth later ∧
      (opts.tryDirect = false → sent Side.client.conn later = []) := by
  cases serving with
  | relayOnly split passed off serving =>
      have served := (clientServes_serves opts (.tls .relay)).quiet serving Side.client.conn
      exact ⟨_, _, _, ⟨split, passed, served.1, by simp [served]⟩, fun _ => served.2⟩
  | relayed split passed direct negotiated told serving =>
      have fellBack := fellBack_of_relayed split passed negotiated told serving (undescribed direct)
      exact ⟨_, _, _, fellBack.spoke, fun off => by simp [off] at direct⟩
  | @upgraded early auth upgrade tail split passed direct negotiated serving =>
      have still : ¬ LocalDescriptionSet upgrade :=
        fun described => undescribed direct (described.mono (by simp +contextual [split]))
      have quiet := unsignalled_quiet negotiated still
      have served := Serves.quiet (serves_after_close (clientServes_serves opts .p2p)) serving
        Side.client.conn
      exact ⟨early, auth, _, ⟨split, passed, by simp [quiet, served], by simp [quiet, served]⟩,
        fun off => by simp [off] at direct⟩

theorem ClientSaid.of_bytes (said : ClientSaid platform Side.client.conn auth)
    (same : received Side.client.conn log = received Side.client.conn auth ∧
      sent Side.client.conn log = sent Side.client.conn auth) :
    ClientSaid platform Side.client.conn log := by
  rwa [ClientSaid, same.1, same.2]

theorem ClientStage.stream (stage : ClientStage platform opts log rest)
    (undescribed : opts.tryDirect = true → ¬ LocalDescriptionSet log) :
    ClientSaid platform Side.client.conn log ∨
      ∃ early auth later, Spoke platform opts log early auth later ∧
        (opts.tryDirect = false → sent Side.client.conn later = []) := by
  cases stage with
  | away away =>
      refine Or.inl (Or.inl (quiet_bytes fun event member => ?_).2)
      rcases away.1 event member with elsewhere | closes
      · exact elsewhere.not_moves .client
      · exact closes.not_moves _
  | authenticating split quiet run asks =>
      have before := elsewhere_quiet quiet .client
      exact Or.inl ((performClientAuth_said run).of_bytes (by simp [split, before]))
  | refused split quiet run closing =>
      have before := elsewhere_quiet quiet .client
      have after := quiet_bytes fun event member => (closing.1 event member).not_moves Side.client.conn
      exact Or.inl ((performClientAuth_said run).of_bytes (by simp [split, before, after]))
  | @negotiating early auth upgrade op next split passed direct run asks =>
      have still : ¬ LocalDescriptionSet upgrade :=
        fun described => undescribed direct (described.mono (by simp +contextual [split]))
      have quiet := unsignalled_quiet run still
      exact Or.inr ⟨early, auth, upgrade, ⟨split, passed, quiet.1, by simp [quiet]⟩,
        fun off => by simp [off] at direct⟩
  | @informing early auth upgrade telling err op next split passed direct negotiated run asks =>
      have still : ¬ LocalDescriptionSet upgrade :=
        fun described => undescribed direct (described.mono (by simp +contextual [split]))
      have quiet := unsignalled_quiet negotiated still
      obtain ⟨writes, data, _, part, _⟩ := sendFramed_runs marshal_ne_nil run
      refine Or.inr ⟨early, auth, _, ⟨split, passed, by simp [quiet, writes.received_eq], ?_⟩,
        fun off => by simp [off] at direct⟩
      simp only [sent_append, quiet.2, List.nil_append]
      exact (List.prefix_append _ _).trans part
  | serving serving => exact Or.inr (serving.spoke undescribed)

end Client

section Session

variable {deployment : Deployment} {net : Net deployment.protocol}

theorem toServer_conserved (sound : Sound net) (plain : net.Plain) :
    received Side.server.conn (net.ends .server).log ++ (net.ends .server).appRead ++ net.inbox .server =
      sent Side.client.conn (net.ends .client).log ++ (net.ends .client).appWrote :=
  sound.conserved plain .server

theorem toClient_conserved (sound : Sound net) (plain : net.Plain) :
    received Side.client.conn (net.ends .client).log ++ (net.ends .client).appRead ++ net.inbox .client =
      sent Side.server.conn (net.ends .server).log ++ (net.ends .server).appWrote :=
  sound.conserved plain .client

structure Hears (net : Net deployment.protocol) (certs : List Bytes) (auth upgrade tail : Log) : Prop where
  split : (net.ends .server).log = greeting certs (auth ++ (upgrade ++ tail))
  passed : ServerPassed deployment.platform deployment.server certs auth

theorem Hears.returns (hears : Hears net certs auth upgrade tail) :
    ServerAuthReturns deployment.platform Side.server.conn deployment.server.totpSecret none auth :=
  (performServerAuth_meets _ _ _).finishes hears.passed.run

theorem Hears.received_eq (hears : Hears net certs auth upgrade tail) :
    received Side.server.conn (net.ends .server).log = received Side.server.conn auth ++
      (received Side.server.conn upgrade ++ received Side.server.conn tail) := by
  rw [hears.split, (greeting_bytes _ _).1, received_append, received_append]

theorem Hears.sent_eq (hears : Hears net certs auth upgrade tail) :
    sent Side.server.conn (net.ends .server).log = sent Side.server.conn auth ++
      (sent Side.server.conn upgrade ++ sent Side.server.conn tail) := by
  rw [hears.split, (greeting_bytes _ _).2, sent_append, sent_append]

theorem Spoke.aligned {upgrade later : Log} (sound : Sound net) (plain : net.Plain)
    (hears : Hears net certs auth upgrade tail)
    (spoke : Spoke deployment.platform deployment.client (net.ends .client).log early clientAuth later) :
    received Side.server.conn auth = sent Side.client.conn clientAuth ∧
      received Side.client.conn clientAuth = sent Side.server.conn auth := by
  -- Both ends are past the same authentication, so the server's negotiation starts where the
  -- client's does.
  have toServer := toServer_conserved sound plain
  have toClient := toClient_conserved sound plain
  rw [hears.received_eq, spoke.split, (spoke.passed.bytes later).2] at toServer
  rw [hears.sent_eq, spoke.split, (spoke.passed.bytes later).1] at toClient
  simp only [List.append_assoc] at toServer toClient
  exact both_pass_aligned hears.returns ((performClientAuth_meets _ _ _).finishes spoke.passed.run)
    ⟨_, toServer⟩ ⟨_, toClient⟩

theorem Spoke.heard {upgrade later : Log} (sound : Sound net) (plain : net.Plain)
    (hears : Hears net certs auth upgrade tail)
    (spoke : Spoke deployment.platform deployment.client (net.ends .client).log early clientAuth later) :
    received Side.server.conn upgrade ++ (received Side.server.conn tail ++
      ((net.ends .server).appRead ++ net.inbox .server)) =
      sent Side.client.conn later ++ (net.ends .client).appWrote := by
  have toServer := toServer_conserved sound plain
  rw [hears.received_eq, spoke.split, (spoke.passed.bytes later).2,
    (spoke.aligned sound plain hears).1] at toServer
  simpa only [List.append_assoc, List.append_cancel_left_eq] using toServer

theorem severed_fallback {upgrade quiet : Log} {cause : Err} (sound : Sound net)
    (plain : net.Plain) (hears : Hears net certs auth upgrade tail)
    (fellBack : FellBack deployment.platform deployment.client
      (net.ends .client).log early clientAuth quiet
      telling served (some cause)) :
    ∃ part, received Side.server.conn upgrade <+: part ∧ PartOf part fallbackSignal.marshal ∧
      ¬ ReadFailed Side.server.conn (net.ends .server).log := by
  obtain ⟨_, part, strict, data, err, failed⟩ := sendFramed_runs marshal_ne_nil fellBack.told
  obtain ⟨before, after, rfl⟩ := List.append_of_mem failed
  have split : (net.ends .client).log = early ++ clientAuth ++ (quiet ++ before) ++
      ⟨.write Side.client.conn data, some err⟩ :: (after ++ served) := by
    rw [fellBack.split]
    simp
  obtain ⟨_, heard, taken⟩ := sound.writeFailed .client _ _ _ _ split
  refine ⟨_, ?_, ⟨part, strict⟩, heard⟩
  have within : received Side.server.conn (net.ends .server).log ++ (net.ends .server).appRead <+:
      sent Side.client.conn (early ++ clientAuth ++ (quiet ++ before)) := taken plain
  rw [hears.received_eq, (fellBack.passed.bytes _).2, (fellBack.spoke.aligned sound plain hears).1,
    sent_append, fellBack.unsignalled.2, List.nil_append, List.append_assoc, List.append_assoc,
      List.prefix_append_right_inj] at within
  rw [sent_append]
  exact ((List.prefix_append _ _).trans within).trans (List.prefix_append _ _)

theorem said_unheard (sound : Sound net)
    (plain : net.Plain) (hears : Hears net certs auth upgrade tail)
    (said : ClientSaid deployment.platform Side.client.conn (net.ends .client).log)
    (silent : (net.ends .client).appWrote = []) :
    received Side.server.conn upgrade ++ received Side.server.conn tail ++
      ((net.ends .server).appRead ++ net.inbox .server) = [] := by
  have toServer := toServer_conserved sound plain
  have toClient := toClient_conserved sound plain
  rw [hears.received_eq, silent, List.append_nil, List.append_assoc, List.append_assoc] at toServer
  rw [hears.sent_eq, List.append_assoc, List.append_assoc] at toClient
  exact server_passed_heard_all hears.returns said ⟨[], by simpa using toServer⟩ ⟨_, toClient⟩

theorem heard_fallback (sound : Sound net) (plain : net.Plain)
    (hears : Hears net certs auth upgrade tail) (direct : deployment.client.tryDirect = true)
    (undescribed : ¬ LocalDescriptionSet (net.ends .client).log) :
    ∃ rest, received Side.server.conn upgrade <+: frame fallbackSignal.marshal ++ rest := by
  rcases sound.handed .client with fresh | handed
  · rcases (runClient_stage (sound.runs .client)).stream (fun _ => undescribed) with
      said | ⟨early, clientAuth, later, spoke, _⟩
    · have nothing := said_unheard sound plain hears said fresh.2.1
      simp only [List.append_eq_nil_iff] at nothing
      exact ⟨[], by simp [nothing.1.1]⟩
    · have heard := spoke.heard sound plain hears
      rw [fresh.2.1, List.append_nil] at heard
      exact ⟨[], by simpa using (List.IsPrefix.trans ⟨_, heard⟩ spoke.part)⟩
  · have serving := client_served (Or.inl rfl) handed
    obtain ⟨early, clientAuth, quiet, telling, served, failure, fellBack⟩ :=
      serving.fellBack direct undescribed
    cases failure with
    | none =>
        have heard := fellBack.spoke.heard sound plain hears
        rw [fellBack.sent_eq, fellBack.whole] at heard
        exact ⟨_, _, heard⟩
    | some cause =>
        obtain ⟨part, within, partOf, _⟩ := severed_fallback sound plain hears fellBack
        exact ⟨[], by simpa using within.trans partOf.1⟩

theorem not_offered (sound : Sound net) (plain : net.Plain)
    (hears : Hears net certs auth upgrade tail) (direct : deployment.client.tryDirect = true)
    (undescribed : ¬ LocalDescriptionSet (net.ends .client).log) :
    ¬ Offered deployment.platform Side.server.conn upgrade := by
  rintro ⟨msg, ⟨body, finished, decoded⟩, isOffer⟩
  obtain ⟨rest, arriving⟩ := heard_fallback sound plain hears direct undescribed
  obtain ⟨_, rfl⟩ := deployment.platform.signal.arrived finished decoded arriving
  simp [fallbackSignal] at isOffer

end Session

section Registration

variable {deployment : Deployment} {op : Op}

def Registers (side : Side) (op : Op) : Prop :=
  op = .goReadCandidates side.conn ∨ op = .onICECandidate side.conn

theorem ExchangeOp.not_registers (exchanges : ExchangeOp conn op) :
    ¬ Registers side op := by
  rintro (rfl | rfl) <;> simp [ExchangeOp, IsRead, StdinOp] at exchanges

theorem ServingOp.not_registers (serving : ServingOp conn op) :
    ¬ Registers side op := by
  rintro (rfl | rfl) <;> exact serving

theorem ClientStage.registers {platform : Platform} (stage : ClientStage platform opts log rest)
    (asked : Asks rest op) (registers : Registers .client op) :
    opts.tryDirect = true ∧ ∃ early upgrade next,
      log = early ++ upgrade ∧
        Runs (negotiateWebRTCClient platform Side.client.conn) upgrade (.ask op next) := by
  cases stage with
  | away away =>
      rcases away.2 _ asked with elsewhere | ⟨conn, isClose⟩
      · rcases registers with rfl | rfl <;> exact elsewhere.elim
      · simp [Registers, isClose] at registers
  | authenticating _ _ run asks =>
      have talks := ((exchange_confined platform "" _ .client).confined run).2 _ _ rfl
      rw [asks_unique asks asked] at talks
      exact absurd registers talks.not_registers
  | refused _ _ _ closing =>
      obtain ⟨next, rfl⟩ := asked
      obtain ⟨conn, isClose⟩ := closing.2 op next rfl
      simp [Registers, isClose] at registers
  | negotiating split _ direct run asks =>
      obtain rfl := asks_unique asks asked
      exact ⟨direct, _, _, _, split, run⟩
  | informing _ _ _ _ run asks =>
      obtain ⟨data, isWrite, _⟩ := sendSignal_asks run
      rw [asks_unique asks asked] at isWrite
      simp [Registers, isWrite] at registers
  | serving serving =>
      obtain ⟨next, rfl⟩ := asked
      exact absurd registers (serving.serves (Runs.start _)).not_registers

theorem client_described (run : Runs (deployment.program .client) log rest)
    (started : ReadsCandidates Side.client.conn log) :
    LocalDescriptionSet log := by
  obtain ⟨before, after, rfl⟩ := List.append_of_mem started
  obtain ⟨next, early⟩ := Runs.asked run
  obtain ⟨_, first, upgrade, _, rfl, negotiating⟩ :=
    (runClient_stage early).registers ⟨next, rfl⟩ (Or.inl rfl)
  have described := ((negotiateWebRTCClient_meets _ _).asks negotiating).2 (Or.inr (Or.inr rfl))
  exact described.mono (by simp +contextual)

theorem server_registers {net : Net deployment.protocol} (sound : Sound net)
    {next : Answer op → Goroutine (Deployment.Result .server)}
    (asks : (net.ends .server).main = .ask op next) (registers : Registers .server op) :
    ∃ certs auth upgrade, Hears net certs auth upgrade [] ∧
      Offered deployment.platform Side.server.conn upgrade := by
  have asked : Asks (net.ends .server).main op := ⟨next, asks⟩
  cases serverHandler_stage deployment.relayed (sound.runs .server) with
  | waiting _ waiting =>
      rw [← asks_unique waiting asked] at registers
      simp [Registers] at registers
  | turnedAway _ closing =>
      obtain ⟨conn, isClose⟩ := closing.2 op next asks
      simp [Registers, isClose] at registers
  | authenticating _ run asking =>
      have talks := ((exchange_confined deployment.platform _ "" .server).confined run).2 _ _ rfl
      rw [asks_unique asking asked] at talks
      exact absurd registers talks.not_registers
  | refused _ _ closing =>
      obtain ⟨conn, isClose⟩ := closing.2 op next asks
      simp [Registers, isClose] at registers
  | @negotiating certs auth upgrade _ _ split passed run asking =>
      obtain rfl := asks_unique asking asked
      refine ⟨certs, auth, upgrade, ⟨by simpa using split, passed⟩, ?_⟩
      rcases ((negotiateWebRTCServer_meets _ _).asks run).2 with ⟨⟨size, _, isRead⟩, _⟩ | offered
      · rcases registers with rfl | rfl <;> simp at isRead
      · exact offered
  | serving serving =>
      have now : Runs (net.ends .server).main [] (.ask op next) := by
        rw [asks]
        exact Runs.start _
      exact absurd registers (serving.serves now).not_registers

end Registration

/-- The client gives up its upgrade, if it does, before its local description is
set, and no candidate is reported to it before that. -/
def GivesUpEarly {protocol : Protocol} (net : Net protocol) (label : Label) : Prop :=
  (∀ init, label = .candidate .client init → LocalDescriptionSet (net.ends .client).log) ∧
  ∀ answer, label = .main .client ⟨.closePeerConnection, answer⟩ →
    ¬ LocalDescriptionSet (net.ends .client).log

structure Unsignalled {protocol : Protocol} (net : Net protocol) : Prop where
  senders : (net.ends .client).senders = []
  unregistered : ∀ event ∈ (net.ends .server).log, ¬ Registers .server event.1

section Early

variable {deployment : Deployment} {net after : Net deployment.protocol} {label : Label}

theorem Sound.unregistered (sound : Sound net)
    (unregistered : ∀ event ∈ (net.ends side).log, ¬ Registers side event.1) :
    (net.ends side).readers = [] ∧ (net.ends side).senders = [] := by
  constructor
  · by_contra reading
    exact unregistered _ (sound.reading side reading) (Or.inl rfl)
  · by_contra sending
    exact unregistered _ (sound.sending side sending) (Or.inr rfl)

theorem Unsignalled.plain (unsignalled : Unsignalled net) (sound : Sound net)
    (undescribed : ¬ LocalDescriptionSet (net.ends .client).log) : net.Plain := by
  intro side
  cases side with
  | client =>
      refine ⟨?_, unsignalled.senders⟩
      by_contra reading
      exact undescribed (client_described (sound.runs .client) (sound.reading .client reading))
  | server => exact sound.unregistered unsignalled.unregistered

theorem unsignalled_step (direct : deployment.client.tryDirect = true) (sound : Sound net)
    (unsignalled : Unsignalled net) (undescribed : ¬ LocalDescriptionSet (net.ends .client).log)
    (early : GivesUpEarly net label) (step : Step net label after) : Unsignalled after := by
  obtain ⟨side, got, put, flow, acts⟩ := step_acts step
  have plain := unsignalled.plain sound undescribed
  constructor
  · rcases side.eq_or_peer .client with rfl | same
    · cases acts with
      | program _ _ changed => rw [changed]; exact unsignalled.senders
      | @background _ _ senders _ _ changed _ _ registered _ =>
          rw [changed]
          by_contra started
          have more : senders.length ≠ (net.ends .client).senders.length := by
            rw [unsignalled.senders]
            exact fun empty => started (List.eq_nil_of_length_eq_zero empty)
          obtain ⟨init, isCandidate⟩ := (registered more).1
          exact undescribed (early.1 init isCandidate)
      | opens _ changed => rw [changed]; exact unsignalled.senders
      | application _ changed => rw [changed]; exact unsignalled.senders
      | closes _ changed => rw [changed]; exact unsignalled.senders
    · rw [same, flow.untouched, ← same]
      exact unsignalled.senders
  · rcases log_step flow acts .server with ⟨logEq, _⟩ | ⟨op, next, answer, _, asks, _, logEq, _⟩
    · rw [logEq]
      exact unsignalled.unregistered
    · rw [logEq]
      refine List.forall_mem_append.mpr ⟨unsignalled.unregistered, List.forall_mem_singleton.mpr ?_⟩
      intro registers
      obtain ⟨certs, auth, upgrade, hears, offered⟩ := server_registers sound asks registers
      exact not_offered sound plain hears direct undescribed offered

structure Early (net : Net deployment.protocol) : Prop where
  sound : Sound net
  kept : ¬ Abandoned (net.ends .client).log
  unsignalled : ¬ LocalDescriptionSet (net.ends .client).log → Unsignalled net

theorem early_start : Early deployment.protocol.start where
  sound := sound_start
  kept := by simp [Abandoned, Protocol.start]
  unsignalled _ := ⟨rfl, by simp [Protocol.start]⟩

theorem kept_step (kept : ¬ Abandoned (net.ends .client).log) (early : GivesUpEarly net label)
    (step : Step net label after) : ¬ Abandoned (after.ends .client).log := by
  obtain ⟨side, got, put, flow, acts⟩ := step_acts step
  rcases log_step flow acts .client with ⟨logEq, _⟩ | ⟨op, next, answer, labelEq, _, _, logEq, _⟩
  · rwa [logEq]
  · rintro ⟨before, later, split, described⟩
    rw [logEq] at split
    rcases List.eq_nil_or_concat later with rfl | ⟨rest, last, rfl⟩
    · obtain ⟨rfl, now⟩ := List.append_inj' split rfl
      obtain ⟨rfl, _⟩ := Sigma.mk.inj (List.singleton_inj.mp now)
      exact early.2 answer labelEq described
    · rw [List.concat_eq_append, ← List.cons_append, ← List.append_assoc] at split
      exact kept ⟨before, rest, (List.append_inj' split rfl).1, described⟩

theorem early_step (direct : deployment.client.tryDirect = true) (early : Early net)
    (permitted : GivesUpEarly net label) (step : Step net label after) : Early after := by
  refine ⟨sound_step early.sound step, kept_step early.kept permitted step, ?_⟩
  intro undescribed
  obtain ⟨side, got, put, flow, acts⟩ := step_acts step
  have before : ¬ LocalDescriptionSet (net.ends .client).log :=
    fun described => undescribed (described.mono (log_grows flow acts .client).subset)
  exact unsignalled_step direct early.sound (early.unsignalled before) before permitted step

theorem described_upgrade {platform : Platform}
    (split : log = early ++ auth ++ (upgrade ++ telling ++ tail))
    (passed : ClientPassed platform opts early auth)
    (told : Runs (sendSignal (.tls .relay) fallbackSignal) telling (.done failure))
    (serving : Runs (clientServes opts (.tls .relay)) tail rest)
    (described : LocalDescriptionSet log) :
    LocalDescriptionSet upgrade := by
  obtain ⟨sdp, member⟩ := described
  simp only [split, List.mem_append] at member
  rcases member with (member | member) | (member | member) | member
  · exact (passed.quiet _ member).elim
  · have exchanged := ((exchange_confined platform "" _ .client).confined passed.run).1 _ member
    simp [ExchangeOp, IsRead, StdinOp] at exchanged
  · exact ⟨sdp, member⟩
  · obtain ⟨data, isWrite⟩ := (sendFramed_runs marshal_ne_nil told).1 _ member
    simp at isWrite
  · exact (((clientServes_serves opts _).confined serving).1 _ member).elim

theorem Early.fellBack (early : Early net) (direct : deployment.client.tryDirect = true)
    (handed : HandedOver .client (net.ends .client)) :
    ¬ LocalDescriptionSet (net.ends .client).log ∧ ∃ before auth quiet telling served failure,
      FellBack deployment.platform deployment.client (net.ends .client).log before auth quiet
        telling served
        failure := by
  have serving := client_served (Or.inl rfl) handed
  have undescribed : ¬ LocalDescriptionSet (net.ends .client).log := by
    intro described
    cases serving with
    | relayOnly _ _ off _ => simp [off] at direct
    | @relayed before auth upgrade telling tail err failure split passed _ negotiated told serving =>
        have inUpgrade := described_upgrade split passed told serving described
        rcases ((negotiateWebRTCClient_meets _ _).finishes negotiated).2.2 with
          ⟨_, abandoned⟩ | ⟨never, _⟩
        · obtain ⟨first, second, upgradeEq, already⟩ := abandoned (by simp)
          refine early.kept ⟨before ++ auth ++ first, second ++ telling ++ tail, ?_, ?_⟩
          · simp [split, upgradeEq]
          · exact already.mono (by simp +contextual)
        · exact never inUpgrade
  exact ⟨undescribed, serving.fellBack direct undescribed⟩

theorem negotiation_heard {upgrade before quiet : Log} {result : Bool × Option Err}
    (sound : Sound net) (plain : net.Plain) (hears : Hears net certs auth upgrade tail)
    (fellBack : FellBack deployment.platform deployment.client
      (net.ends .client).log before clientAuth quiet
      telling served failure) (unread : received Side.server.conn tail = [])
    (notOffered : NotOffered deployment.platform Side.server.conn result.1 result.2 upgrade) :
    failure = none ∧ received Side.server.conn upgrade = frame fallbackSignal.marshal := by
  have failedNow : ReadFailed Side.server.conn upgrade →
      ReadFailed Side.server.conn (net.ends .server).log := by
    rintro ⟨size, err, member⟩
    exact ⟨size, err, by rw [hears.split]; simp [greeting, member]⟩
  -- whatever was understood is the fallback message, and nothing else cuts the reading short
  have understood : ∀ {rest : Bytes}, received Side.server.conn upgrade <+:
      frame fallbackSignal.marshal ++ rest →
        ¬ (Unfinished maxMessage (received Side.server.conn upgrade) ∧
        ReadFailed Side.server.conn upgrade) →
      received Side.server.conn upgrade = frame fallbackSignal.marshal := by
    intro rest arriving uncut
    obtain ⟨_, ⟨_, _, msg, ⟨body, finished, decoded⟩, _⟩ |
      ⟨_, _, bad | ⟨msg, ⟨body, finished, decoded⟩, _⟩⟩⟩ := notOffered
    · exact (deployment.platform.signal.arrived finished decoded arriving).1
    · exact absurd (deployment.platform.signal.bad_arrived bad arriving fallbackSignal_fits) uncut
    · exact (deployment.platform.signal.arrived finished decoded arriving).1
  cases failure with
  | some cause =>
      obtain ⟨part, within, partOf, unfailed⟩ := severed_fallback sound plain hears fellBack
      have whole := understood ((within.trans partOf.1).trans (List.prefix_append _ []))
        fun cut => unfailed (failedNow cut.2)
      exact (part_not_whole partOf (whole ▸ within)).elim
  | none =>
      have heard := fellBack.spoke.heard sound plain hears
      rw [fellBack.sent_eq, fellBack.whole, unread, List.nil_append] at heard
      refine ⟨rfl, understood ⟨_, heard⟩ ?_⟩
      rintro ⟨waiting, failed⟩
      obtain ⟨_, drained, nothing⟩ := sound.readFailed .server (failedNow failed)
      have short := waiting.lt_frame ⟨_, heard⟩
      rw [nothing, drained, List.append_nil, List.append_nil] at heard
      rw [heard, List.length_append] at short
      omega

theorem early_fallback_keeps_streams (deployment : Deployment)
    (direct : deployment.client.tryDirect = true) {net : Net deployment.protocol}
    (reached : Reach Step GivesUpEarly deployment.protocol.start net)
    (handed : ∀ side, HandedOver side (net.ends side)) (side : Side) :
    (net.ends side).appRead <+: (net.ends side.peer).appWrote ∧
      (net.ends side).appRead ++ net.inbox side = (net.ends side.peer).appWrote := by
  have early : Early net := reached.invariant early_start
    fun _ _ _ early permitted step => early_step direct early permitted step
  obtain ⟨undescribed, before, clientAuth, quiet, telling, served, failure, fellBack⟩ :=
    early.fellBack direct (handed .client)
  have sound := early.sound
  have plain := (early.unsignalled undescribed).plain sound undescribed
  suffices intact : (net.ends side).appRead ++ net.inbox side = (net.ends side.peer).appWrote from
    ⟨⟨_, intact⟩, intact⟩
  have serving := server_served (Or.inl rfl) (handed .server)
  cases serving with
  | @relayed certs auth upgrade tail result split passed negotiated relay serving =>
      have hears : Hears net certs auth upgrade tail := ⟨split, passed⟩
      have quietTail := (serverServes_serves _ _ _ _).quiet serving Side.server.conn
      rcases (negotiateWebRTCServer_meets _ _).finishes negotiated with notOffered | ⟨offered, _⟩
      swap
      · exact absurd offered (not_offered sound plain hears direct undescribed)
      obtain ⟨rfl, whole⟩ := negotiation_heard sound plain hears fellBack quietTail.1 notOffered
      cases side with
      | server =>
          have heard := fellBack.spoke.heard sound plain hears
          rw [fellBack.sent_eq, fellBack.whole, whole, quietTail.1, List.nil_append,
            List.append_cancel_left_eq] at heard
          exact heard
      | client =>
          have toClient := toClient_conserved sound plain
          rw [hears.sent_eq, fellBack.split, (fellBack.passed.bytes _).1, fellBack.spoke.silent,
            (fellBack.spoke.aligned sound plain hears).2, notOffered.1.sent_eq, quietTail.2] at toClient
          have intact :
              (net.ends .client).appRead ++ net.inbox .client = (net.ends .server).appWrote := by
            simpa using toClient
          exact intact

end Early

/-! A client whose pion fails at once. -/

def clientGivesUp : Log :=
  ⟨.newPeerConnection, some .eof⟩ :: writeFrame Side.client.conn fallbackSignal.marshal

theorem client_gives_up (direct : opts.tryDirect = true) :
    Runs (afterClientAuth referencePlatform opts none) clientGivesUp
      (clientServes opts Side.client.conn) := by
  have fails : Runs (negotiateWebRTCClient referencePlatform (.tls .relay))
      [⟨.newPeerConnection, some .eof⟩] (.done (some .eof)) := Runs.step _ (Runs.start _)
  exact useRelay_falls_back direct fails

theorem routine_clientGivesUp : ∀ event ∈ clientGivesUp, Routine event :=
  List.forall_mem_cons.mpr ⟨by simp [Routine, Smooth], routine_writeFrame _ _⟩

theorem routine_givesUpEarly {protocol : Protocol} (net : Net protocol) (side : Side)
    (event : Sigma Answer) (routine : Routine event) : GivesUpEarly net (.main side event) := by
  refine ⟨by simp, ?_⟩
  rintro answer same
  injection same with _ same
  exact absurd (congrArg Sigma.fst same) routine.2.1

theorem sample_gives_up :
    ∃ net : Net (sample true).protocol, Reach Step GivesUpEarly (sample true).protocol.start net ∧
      (∀ side, Uses side.conn (net.ends side).main ∧ ¬ net.Closed side ∧ (net.ends side).appWrote = [] ∧
        (net.ends side).appRead = []) := by
  obtain ⟨met, toMet, start⟩ := sample_meets true routine_givesUpEarly
  have givesUp : Runs (met.ends .client).main clientGivesUp
      (clientServes (sample true).client Side.client.conn) := by
    rw [start.client]
    exact client_gives_up rfl
  obtain ⟨told, toTold, client⟩ := advance_routine routine_givesUpEarly start.sound givesUp
    routine_clientGivesUp (by simp [clientGivesUp, receivedBy])
  have toServer : told.inbox .server = met.inbox .server ++ sent Side.client.conn _ := client.outbox
  have arrived : told.inbox .server = frame fallbackSignal.marshal := by
    rw [toServer, start.inbox]
    simp [clientGivesUp, sentBy]
  have serverThen : told.ends .server = met.ends .server := client.peer
  have stays : Runs (told.ends .server).main (hearing Side.server.conn fallbackSignal)
      (serverServes referencePlatform (sample true).handler [] Side.server.conn) := by
    rw [serverThen, start.server]
    exact admitted_stays rfl (negotiateWebRTCServer_told referencePlatform) (Or.inl rfl)
  obtain ⟨net, toNet, server⟩ := advance_routine routine_givesUpEarly client.sound stays
    (routine_hearing _ _) (by simp [arrived])
  have clientThen : net.ends .client = told.ends .client := server.peer
  refine ⟨net, toMet.trans (toTold.trans toNet), ?_⟩
  intro side
  cases side with
  | client =>
      refine ⟨?_, Net.live ?_ ?_, ?_⟩
      · rw [clientThen, client.ends]
        exact clientServes_uses _ _
      · rw [clientThen, client.ends, start.client]
      · rw [clientThen, client.ends, start.client]
        exact fun event member => (List.forall_mem_append.mpr
          ⟨routine_clientMeets true, routine_clientGivesUp⟩ event member).2.2.2
      · rw [clientThen, client.ends, start.client]
        exact ⟨rfl, rfl⟩
  | server =>
      refine ⟨?_, Net.live ?_ ?_, ?_⟩
      · rw [server.ends]
        exact serverServes_uses _ _ _ _
      · rw [server.ends, serverThen, start.server]
      · rw [server.ends, serverThen, start.server]
        exact fun event member => (List.forall_mem_append.mpr
          ⟨routine_serverMeets, routine_hearing _ _⟩ event member).2.2.2
      · rw [server.ends, serverThen, start.server]
        exact ⟨rfl, rfl⟩

theorem early_fallback_delivers :
    ∃ net : Net (sample true).protocol, Reach Step GivesUpEarly (sample true).protocol.start net ∧
      (net.ends .client).appWrote = [7] ∧ (net.ends .server).appRead ++ net.inbox .server = [7] := by
  obtain ⟨settled, toSettled, ends⟩ := sample_gives_up
  obtain ⟨net, toNet, client, server, _⟩ : ∃ net, Reach Step GivesUpEarly settled net ∧ _ :=
    application_writes [7] ⟨by simp, by simp⟩ (ends .client).1 (ends .client).2.1
  have server : net.ends .server = settled.ends .server := server
  have reached := toSettled.trans toNet
  have wrote : (net.ends .client).appWrote = [7] := by
    rw [client, (ends .client).2.2.1]
    rfl
  have handed : ∀ side, HandedOver side (net.ends side) := by
    intro side
    refine ⟨_, [], _, (List.append_nil _).symm, (sound_of_reach reached).runs side, ?_, Runs.start _⟩
    cases side with
    | client =>
        rw [client]
        exact (ends .client).1
    | server =>
        rw [server]
        exact (ends .server).1
  have intact := (early_fallback_keeps_streams (sample true) rfl reached handed .server).2
  exact ⟨net, reached, wrote, intact.trans wrote⟩

/-! A client that gives up because the server declined its offer. -/

def serverDeclines : Log :=
  hearing Side.server.conn (offerSignal "") ++ (⟨.newPeerConnection, some .eof⟩ ::
    writeFrame Side.server.conn fallbackSignal.marshal)

def clientRefused : Log :=
  hearing Side.client.conn fallbackSignal ++ (⟨.closePeerConnection, ()⟩ ::
    writeFrame Side.client.conn fallbackSignal.marshal)

theorem server_declines {opts : ServerOptions} {handler : ServerHandler}
    (relayed : opts.isRelay = true) :
    Runs (admitted referencePlatform opts (handler.proceed referencePlatform) []) serverDeclines
      (serverServes referencePlatform handler [] Side.server.conn) := by
  have fits : (offerSignal "").marshal.length ≤ maxMessage := by decide
  exact admitted_stays relayed (negotiateWebRTCServer_declines referencePlatform .eof fits) (Or.inl rfl)

theorem routine_serverDeclines : ∀ event ∈ serverDeclines, Routine event :=
  List.forall_mem_append.mpr ⟨routine_hearing _ _,
    List.forall_mem_cons.mpr ⟨by simp [Routine, Smooth], routine_writeFrame _ _⟩⟩

theorem client_refused (direct : opts.tryDirect = true) :
    Runs (afterClientAuth referencePlatform opts none) (offering Side.client.conn "" ++ clientRefused)
      (clientServes opts Side.client.conn) := by
  have stays := useRelay_falls_back direct (negotiateWebRTCClient_refused referencePlatform "")
  rw [List.append_assoc, List.append_assoc] at stays
  exact stays

theorem sample_falls_back :
    ∃ net : Net (sample true).protocol, Reach Step anyStep (sample true).protocol.start net ∧ Sound net ∧
      (∀ side, Uses side.conn (net.ends side).main ∧ (net.ends side).appWrote = [] ∧
        (net.ends side).appRead = []) ∧ ¬ net.Closed .server ∧
      net.inbox .server = frame fallbackSignal.marshal := by
  obtain ⟨met, toMet, start⟩ : ∃ net, Reach Step anyStep (sample true).protocol.start net ∧
    Met true net :=
    sample_meets true fun _ _ _ _ => trivial
  have clientRun : Runs (met.ends .client).main (offering Side.client.conn "" ++ clientRefused)
      (clientServes (sample true).client Side.client.conn) := by
    rw [start.client]
    exact client_refused rfl
  obtain ⟨_, offers, refused⟩ := clientRun.split
  obtain ⟨offered, toOffered, offer⟩ := advance_freely start.sound offers
    (fun event member => (routine_offering _ _ event member).1 _) (by simp)
  have toServer : offered.inbox .server = met.inbox .server ++ sent Side.client.conn _ := offer.outbox
  rw [start.inbox, sent_offering, List.nil_append] at toServer
  have serverThen : offered.ends .server = met.ends .server := offer.peer
  have declines : Runs (offered.ends .server).main serverDeclines
      (serverServes referencePlatform (sample true).handler [] Side.server.conn) := by
    rw [serverThen, start.server]
    exact server_declines rfl
  obtain ⟨declined, toDeclined, decline⟩ := advance_freely offer.sound declines
    (fun event member => (routine_serverDeclines event member).1 _)
    (by simp [serverDeclines, toServer, receivedBy])
  have heard : declined.inbox .server = [] := by
    have taken := decline.inbox
    rw [toServer] at taken
    simpa [serverDeclines, receivedBy] using taken
  have toClient : declined.inbox .client = offered.inbox .client ++ sent Side.server.conn _ :=
    decline.outbox
  have clientThen : declined.ends .client = offered.ends .client := decline.peer
  have refusing : Runs (declined.ends .client).main clientRefused
      (clientServes (sample true).client Side.client.conn) := by
    rw [clientThen, offer.ends]
    exact refused
  have drained := offer.inbox
  rw [start.inbox, received_offering, List.nil_append] at drained
  obtain ⟨net, toNet, settle⟩ := advance_freely decline.sound refusing
    (List.forall_mem_append.mpr ⟨fun event member => (routine_hearing _ _ event member).1 _,
      List.forall_mem_cons.mpr ⟨trivial, fun event member => (routine_writeFrame _ _ event member).1 _⟩⟩)
    (by rw [toClient, ← drained]; simp [clientRefused, serverDeclines, receivedBy, sentBy])
  have serverStill : net.ends .server = declined.ends .server := settle.peer
  have onTheWay : net.inbox .server = declined.inbox .server ++ sent Side.client.conn _ := settle.outbox
  refine ⟨net, toMet.trans (toOffered.trans (toDeclined.trans toNet)), settle.sound, ?_, ?_, ?_⟩
  · intro side
    cases side with
    | client =>
        rw [settle.ends, clientThen, offer.ends, start.client]
        exact ⟨clientServes_uses _ _, rfl, rfl⟩
    | server =>
        rw [serverStill, decline.ends, serverThen, start.server]
        exact ⟨serverServes_uses _ _ _ _, rfl, rfl⟩
  · apply Net.live
    · rw [serverStill, decline.ends, serverThen, start.server]
    · rw [serverStill, decline.ends, serverThen, start.server]
      exact fun event member => (List.forall_mem_append.mpr ⟨routine_serverMeets, routine_serverDeclines⟩
        event member).2.2.2
  · rw [onTheWay, heard]
    simp [clientRefused, sentBy]

theorem fallback_message_reaches_application :
    ∃ net : Net (sample true).protocol, Reach Step anyStep (sample true).protocol.start net ∧
      (∀ side, HandedOver side (net.ends side)) ∧ (net.ends .client).appWrote = [] ∧
      (net.ends .server).appRead = frame fallbackSignal.marshal ∧
      ¬ (net.ends .server).appRead <+: (net.ends .client).appWrote := by
  obtain ⟨settled, toSettled, _, ends, live, stray⟩ := sample_falls_back
  have arrived : frame fallbackSignal.marshal <+: settled.inbox .server := stray ▸ List.prefix_rfl
  obtain ⟨net, toNet, server, client⟩ : ∃ net, Reach Step anyStep settled net ∧ _ :=
    application_reads trivial (ends .server).1 live arrived
  have client : net.ends .client = settled.ends .client := client
  have reached := toSettled.trans toNet
  have wrote : (net.ends .client).appWrote = [] := by
    rw [client]
    exact (ends .client).2.1
  have read : (net.ends .server).appRead = frame fallbackSignal.marshal := by
    rw [server, (ends .server).2.2]
    rfl
  refine ⟨net, reached, ?_, wrote, read, ?_⟩
  · intro side
    refine ⟨_, [], _, (List.append_nil _).symm, (sound_of_reach reached).runs side, ?_, Runs.start _⟩
    cases side with
    | client =>
        rw [client]
        exact (ends .client).1
    | server =>
        rw [server]
        exact (ends .server).1
  · rw [wrote, read, List.prefix_nil]
    exact frame_ne_nil _

end SyncthingSocket
