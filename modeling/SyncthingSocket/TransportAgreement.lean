import SyncthingSocket.Handoff

/-!
Which transport each end hands to its application. The two ends decide
independently, each with its own timer: they agree as long as no timer fires
after the data channel has opened somewhere.
-/

namespace SyncthingSocket

open Effect Effect.Program Framing

theorem GaveUp.mono {first second : Log} (gaveUp : GaveUp first)
    (within : ∀ event ∈ first, event ∈ second) :
    GaveUp second := by
  rcases gaveUp with member | ⟨err, member⟩
  · exact Or.inl (within _ member)
  · exact Or.inr ⟨err, within _ member⟩

theorem not_readsCandidates_of_serving {α : Type} {conn served : Conn} {program rest : Goroutine α}
    {log : Log} (serves : Serves served program) (run : Runs program log rest) :
    ¬ ReadsCandidates conn log :=
  fun started => (serves.confined run).1 _ started

section

variable {deployment : Deployment}

theorem ClientPassed.not_readsCandidates {platform : Platform} {opts : ClientOptions}
    {early auth : Log} (passed : ClientPassed platform opts early auth) :
    ¬ ReadsCandidates Side.client.conn (early ++ auth) := by
  rw [readsCandidates_append, not_or]
  constructor
  · exact fun started => passed.quiet _ started
  · intro started
    have exchanged :=
      ((exchange_confined platform "" opts.totpPasscode .client).confined passed.run).1 _ started
    rcases exchanged with ⟨_, _, same⟩ | ⟨_, same⟩ | same
    · simp at same
    · simp at same
    · simp [StdinOp] at same

theorem ServerPassed.not_readsCandidates {platform : Platform} {opts : ServerOptions}
    {certs : List Bytes} {auth : Log} (passed : ServerPassed platform opts certs auth) :
    ¬ ReadsCandidates Side.server.conn (greeting certs auth) := by
  intro started
  rcases List.mem_cons.mp started with same | started
  · simp at same
  · have exchanged :=
      ((exchange_confined platform opts.totpSecret "" .server).confined passed.run).1 _ started
    rcases exchanged with ⟨_, _, same⟩ | ⟨_, same⟩ | same
    · simp at same
    · simp at same
    · simp [StdinOp] at same

theorem relay_gaveUp {side : Side} {state : End (Deployment.Result side)}
    (served : Served deployment side side.conn state)
    (started : ReadsCandidates side.conn state.log) :
    GaveUp state.log := by
  cases side with
  | client =>
      have serving := client_served (Or.inl rfl) served
      generalize relay : Side.client.conn = conn at serving
      cases serving with
      | relayOnly split passed off serving =>
          rw [split, readsCandidates_append] at started
          rcases started with started | started
          · exact absurd started passed.not_readsCandidates
          · exact absurd started (not_readsCandidates_of_serving (clientServes_serves _ _) serving)
      | relayed split passed direct negotiated told serving =>
          simp only [split, readsCandidates_append] at started
          rcases started with started | (started | started) | started
          · exact absurd (readsCandidates_append.mpr started) passed.not_readsCandidates
          · have returns := (negotiateWebRTCClient_meets _ _).finishes negotiated
            refine (returns.2.1 (by simp) started).mono ?_
            intro event member
            simp [split, member]
          · exact absurd started ((sendFramed_runs marshal_ne_nil told).1.not_readsCandidates _)
          · exact absurd started (not_readsCandidates_of_serving (clientServes_serves _ _) serving)
      | upgraded split passed direct negotiated serving => simp [Side.conn] at relay
  | server =>
      have serving := server_served (Or.inl rfl) served
      generalize relay : Side.server.conn = conn at serving
      cases serving with
      | @relayed certs auth upgrade tail result split passed negotiated stays serving =>
          have together : state.log = greeting certs auth ++ (upgrade ++ tail) := by
            rw [split]
            rfl
          rw [together, readsCandidates_append, readsCandidates_append] at started
          rcases started with started | started | started
          · exact absurd started passed.not_readsCandidates
          · rcases (negotiateWebRTCServer_meets _ _).finishes negotiated with ⟨reads, _⟩ |
              ⟨_, ⟨isDirect, _⟩ | ⟨_, gaveUp⟩⟩
            · exact absurd started (reads.not_readsCandidates _)
            · simp [isDirect] at stays
            · refine (gaveUp started).mono ?_
              intro event member
              simp [together, member]
          · exact absurd started (not_readsCandidates_of_serving (serverServes_serves _ _ _ _) serving)
      | upgraded split passed negotiated serving => simp [Side.conn] at relay

theorem direct_opened {side : Side} {state : End (Deployment.Result side)}
    (served : Served deployment side .p2p state) : ChannelOpened state.log := by
  cases side with
  | client =>
      have serving := client_served (Or.inr rfl) served
      cases serving with
      | upgraded split passed direct negotiated serving =>
          have opened := ((negotiateWebRTCClient_meets _ _).finishes negotiated).1 rfl
          rw [split]
          exact List.mem_append_right _ (List.mem_append_left _ opened)
  | server =>
      have serving := server_served (Or.inr rfl) served
      cases serving with
      | @upgraded certs auth upgrade tail split passed negotiated serving =>
          have opened : ChannelOpened upgrade := by
            rcases (negotiateWebRTCServer_meets _ _).finishes negotiated with
              ⟨_, ⟨told, _⟩ | ⟨_, failed, _⟩⟩ | ⟨_, ⟨_, opened⟩ | ⟨told | failed, _⟩⟩
            · simp at told
            · simp at failed
            · exact opened
            · simp at told
            · simp at failed
          rw [split]
          exact List.mem_cons_of_mem _ (List.mem_append_right _ (List.mem_append_left _ opened))

end

def GivesUp (side : Side) (label : Label) : Prop :=
  ∃ answer, label = .main side ⟨.awaitDataChannel, answer⟩ ∧ answer ≠ .opened

/-- No wait is given up once the data channel is open at either end, and it opens
at no end once one has given up. -/
def Timely {protocol : Protocol} (net : Net protocol) (label : Label) : Prop :=
  (∀ side, GivesUp side label → ∀ other, (net.ends other).opened = false) ∧
  ∀ side, label = .opens side → ∀ other, ¬ GaveUp (net.ends other).log

def Exclusive {protocol : Protocol} (net : Net protocol) : Prop :=
  ∀ side other, (net.ends side).opened = true → ¬ GaveUp (net.ends other).log

section Steps

variable {protocol : Protocol} {net after : Net protocol} {side : Side} {label : Label} {got put : Bytes}

theorem opened_before (flow : Flow net after side got put)
    (acts : Acts net after side label got put) {other : Side}
    (isOpen : (after.ends other).opened = true) :
    (net.ends other).opened = true ∨ label = .opens other := by
  rcases side.eq_or_peer other with rfl | rfl
  · cases acts with
    | program _ _ changed => exact Or.inl (by rw [changed] at isOpen; exact isOpen)
    | background changed _ _ _ _ => exact Or.inl (by rw [changed] at isOpen; exact isOpen)
    | opens _ _ => exact Or.inr rfl
    | application _ changed => exact Or.inl (by rw [changed] at isOpen; exact isOpen)
    | closes _ changed => exact Or.inl (by rw [changed] at isOpen; exact isOpen)
  · exact Or.inl (by rw [flow.untouched] at isOpen; exact isOpen)

theorem gaveUp_before (flow : Flow net after side got put)
    (acts : Acts net after side label got put) {other : Side}
    (gaveUp : GaveUp (after.ends other).log) :
    GaveUp (net.ends other).log ∨ GivesUp other label := by
  rcases log_step flow acts other with ⟨same, _⟩ | ⟨op, next, answer, labelEq, _, _, logEq, _⟩
  · exact Or.inl (same ▸ gaveUp)
  · simp only [GaveUp, logEq, List.mem_append, List.mem_singleton] at gaveUp
    rcases gaveUp with (member | now) | ⟨err, member | now⟩
    · exact Or.inl (Or.inl member)
    · exact Or.inr ⟨.timeout, by rw [labelEq, now], by simp⟩
    · exact Or.inl (Or.inr ⟨err, member⟩)
    · exact Or.inr ⟨.cancelled err, by rw [labelEq, now], by simp⟩

theorem exclusive_step (exclusive : Exclusive net) (timely : Timely net label)
    (step : Step net label after) : Exclusive after := by
  obtain ⟨side, got, put, flow, acts⟩ := step_acts step
  intro here there isOpen gaveUp
  rcases opened_before flow acts isOpen with already | opens
  · rcases gaveUp_before flow acts gaveUp with before | now
    · exact exclusive here there already before
    · have closed := timely.1 there now here
      rw [already] at closed
      cases closed
  · rcases gaveUp_before flow acts gaveUp with before | ⟨answer, now, _⟩
    · exact timely.2 here opens there before
    · rw [now] at opens
      cases opens

end Steps

theorem transports_agree_when_timely (deployment : Deployment) {net : Net deployment.protocol}
    (reached : Reach Step Timely deployment.protocol.start net) (side : Side) :
    ¬ (Served deployment side .p2p (net.ends side) ∧
      Served deployment side.peer side.peer.conn (net.ends side.peer)) := by
  rintro ⟨direct, relayed⟩
  have sound := sound_of_reach reached
  have exclusive : Exclusive net := by
    refine reached.invariant ?_ fun _ _ _ exclusive timely step => exclusive_step exclusive timely step
    intro here there isOpen
    simp [Protocol.start] at isOpen
  have isOpen := sound.awaited side (direct_opened direct)
  have answered := sound.opened side isOpen
  exact exclusive side side.peer isOpen (relay_gaveUp relayed (answered side.peer))

/-! The client's channel opens in time, the server's does not. -/

def clientAccepts : Log :=
  hearing Side.client.conn (answerSignal "") ++
    [⟨.setRemoteDescription "", none⟩, ⟨.goReadCandidates Side.client.conn, ()⟩]

def clientOpens : Log := [⟨.awaitDataChannel, .opened⟩, ⟨.close Side.client.conn, ()⟩]

def serverAnswers : Log :=
  answering Side.server.conn "" "" ++ [⟨.goReadCandidates Side.server.conn, ()⟩]

def serverExpires : Log := [⟨.awaitDataChannel, .timeout⟩, ⟨.closePeerConnection, ()⟩]

theorem client_upgrades {opts : ClientOptions} (direct : opts.tryDirect = true) :
    Runs (afterClientAuth referencePlatform opts none)
      (offering Side.client.conn "" ++ (clientAccepts ++ clientOpens)) (clientServes opts .p2p) := by
  have fits : (answerSignal "").marshal.length ≤ maxMessage := by decide
  have waits : Runs (negotiateWebRTCClient referencePlatform Side.client.conn)
      (offering Side.client.conn "" ++ clientAccepts) awaitConn :=
    negotiateWebRTCClient_answered referencePlatform "" fits
  have opened : Runs awaitConn [⟨.awaitDataChannel, .opened⟩] (.done none) := Runs.step _ (Runs.start _)
  have upgraded := useRelay_upgrades direct (waits.trans opened)
  rwa [List.append_assoc, List.append_assoc] at upgraded

theorem server_expires {opts : ServerOptions} {handler : ServerHandler}
    (relayed : opts.isRelay = true) :
    Runs (admitted referencePlatform opts (handler.proceed referencePlatform) [])
      (serverAnswers ++ serverExpires) (serverServes referencePlatform handler [] Side.server.conn) := by
  have fits : (offerSignal "").marshal.length ≤ maxMessage := by decide
  have waits : Runs (negotiateWebRTCServer referencePlatform Side.server.conn) serverAnswers
      (awaitConn >>= fun outcome => pure (false, outcome)) :=
    negotiateWebRTCServer_answers referencePlatform "" fits
  have expires : Runs awaitConn serverExpires
      (.done (some (.text "timeout waiting for WebRTC connection"))) :=
    Runs.step _ (Runs.step _ (Runs.start _))
  exact admitted_stays relayed (waits.trans (expires.bind _)) (Or.inr (by simp))

theorem sample_exchanges {allowed : Net (sample true).protocol → Label → Prop}
    (permitted : ∀ state side event, Routine event → allowed state (.main side event)) :
    ∃ net, Reach Step allowed (sample true).protocol.start net ∧ Sound net ∧ net.Answered ∧
      (∀ side, ∀ event ∈ (net.ends side).log, Routine event) ∧
      Runs (net.ends .client).main clientOpens (clientServes (sample true).client .p2p) ∧
      Runs (net.ends .server).main serverExpires
        (serverServes referencePlatform (sample true).handler [] Side.server.conn) := by
  obtain ⟨met, toMet, start⟩ := sample_meets true permitted
  have clientRun : Runs (met.ends .client).main
      (offering Side.client.conn "" ++ (clientAccepts ++ clientOpens))
      (clientServes (sample true).client .p2p) := by
    rw [start.client]
    exact client_upgrades rfl
  have serverRun : Runs (met.ends .server).main (serverAnswers ++ serverExpires)
      (serverServes referencePlatform (sample true).handler [] Side.server.conn) := by
    rw [start.server]
    exact server_expires rfl
  obtain ⟨_, offers, clientRun⟩ := clientRun.split
  obtain ⟨waiting, accepts, opens⟩ := clientRun.split
  obtain ⟨_, answers, expires⟩ := serverRun.split
  have accepted : ∀ event ∈ clientAccepts, Routine event :=
    List.forall_mem_append.mpr ⟨routine_hearing _ _, by simp [Routine, Smooth]⟩
  have replied : ∀ event ∈ serverAnswers, Routine event :=
    List.forall_mem_append.mpr ⟨routine_answering _ _ _, by simp [Routine, Smooth]⟩
  obtain ⟨offered, toOffered, offer⟩ := advance_routine permitted start.sound offers
    (routine_offering _ _) (by simp)
  have toServer : offered.inbox .server = met.inbox .server ++ sent Side.client.conn _ := offer.outbox
  rw [start.inbox, sent_offering, List.nil_append] at toServer
  have serverThen : offered.ends .server = met.ends .server := offer.peer
  rw [← serverThen] at answers
  obtain ⟨answered, toAnswered, answer⟩ := advance_routine permitted offer.sound answers replied
    (by simp [serverAnswers, toServer, receivedBy])
  have toClient : answered.inbox .client = offered.inbox .client ++ sent Side.server.conn _ :=
    answer.outbox
  have clientThen : answered.ends .client = offered.ends .client := answer.peer
  have accepting : Runs (answered.ends .client).main clientAccepts waiting := by
    rw [clientThen, offer.ends]
    exact accepts
  have drained := offer.inbox
  rw [start.inbox, received_offering, List.nil_append] at drained
  obtain ⟨net, toNet, accept⟩ := advance_routine permitted answer.sound accepting accepted
    (by rw [toClient, ← drained]; simp [clientAccepts, serverAnswers, receivedBy, sentBy])
  have serverWaits : net.ends .server = answered.ends .server := accept.peer
  have clientLog : (net.ends .client).log =
      clientMeets true ++ offering Side.client.conn "" ++ clientAccepts := by
    rw [accept.ends, clientThen, offer.ends, start.client]
  have serverLog : (net.ends .server).log = serverMeets ++ serverAnswers := by
    rw [serverWaits, answer.ends, serverThen, start.server]
  refine ⟨net, toMet.trans (toOffered.trans (toAnswered.trans toNet)), accept.sound, ?_, ?_, ?_, ?_⟩
  · intro side
    cases side with
    | client =>
        rw [clientLog]
        exact List.mem_append_right _ (by simp [clientAccepts])
    | server =>
        rw [serverLog]
        exact List.mem_append_right _ (by simp [serverAnswers])
  · intro side
    cases side with
    | client =>
        rw [clientLog]
        exact List.forall_mem_append.mpr ⟨List.forall_mem_append.mpr
          ⟨routine_clientMeets true, routine_offering _ _⟩, accepted⟩
    | server =>
        rw [serverLog]
        exact List.forall_mem_append.mpr ⟨routine_serverMeets, replied⟩
  · rw [accept.ends]
    exact opens
  · rw [serverWaits, answer.ends]
    exact expires

theorem sample_upgrades {allowed : Net (sample true).protocol → Label → Prop}
    (permitted : ∀ state side event, Routine event → allowed state (.main side event))
    (mayOpen : ∀ state, (∀ side, ∀ event ∈ (state.ends side).log, Routine event) →
      allowed state (.opens .client))
    (mayUse : ∀ state, ∀ event ∈ clientOpens, allowed state (.main .client event)) :
    ∃ net, Reach Step allowed (sample true).protocol.start net ∧ Sound net ∧
      Served (sample true) .client .p2p (net.ends .client) ∧
      Runs (net.ends .server).main serverExpires
        (serverServes referencePlatform (sample true).handler [] Side.server.conn) := by
  obtain ⟨exchanged, toExchanged, sound, answered, routine, opens, expires⟩ := sample_exchanges permitted
  have opening : Step exchanged (.opens .client) _ := Step.opens answered
  generalize nextNet : exchanged.put _ _ _ = channel at opening
  have toChannel : Reach Step allowed exchanged channel :=
    Reach.next Reach.here (mayOpen _ routine) opening
  have clientOpen : channel.ends .client = { exchanged.ends .client with opened := true } := by
    rw [← nextNet, Net.put_ends]
  have serverOpen : channel.ends .server = exchanged.ends .server := by
    rw [← nextNet]
    exact Net.put_ends_peer exchanged .client _ _
  have upgrading : Runs (channel.ends .client).main clientOpens
      (clientServes (sample true).client .p2p) := by
    rw [clientOpen]
    exact opens
  obtain ⟨net, toNet, upgrade⟩ := advance (sound_step sound opening) upgrading
    (by rw [clientOpen]; simp [clientOpens, Smooth]) mayUse (by simp [clientOpens, receivedBy])
  have serverStill : net.ends .server = channel.ends .server := upgrade.peer
  refine ⟨net, toExchanged.trans (toChannel.trans toNet), upgrade.sound, ?_, ?_⟩
  · refine ⟨_, [], _, (List.append_nil _).symm, upgrade.sound.runs .client, ?_, Runs.start _⟩
    rw [upgrade.ends]
    exact clientServes_uses _ _
  · rw [serverStill, serverOpen]
    exact expires

theorem transports_disagree :
    ∃ net : Net (sample true).protocol, Reach Step anyStep (sample true).protocol.start net ∧
      Served (sample true) .client .p2p (net.ends .client) ∧
      Served (sample true) .server Side.server.conn (net.ends .server) := by
  obtain ⟨upgraded, toUpgraded, sound, ⟨early, late, handed, split, before, uses, run⟩, expires⟩ :
      ∃ net : Net (sample true).protocol, Reach Step anyStep _ net ∧ Sound net ∧ _ :=
    sample_upgrades (fun _ _ _ _ => trivial) (fun _ _ => trivial) (fun _ _ _ => trivial)
  obtain ⟨net, toNet, expiry⟩ := advance_freely sound expires
    (by simp [serverExpires, Smooth]) (by simp [serverExpires, receivedBy])
  have clientStill : net.ends .client = upgraded.ends .client := expiry.peer
  refine ⟨net, toUpgraded.trans toNet, ?_, ?_⟩
  · rw [clientStill]
    exact ⟨early, late, handed, split, before, uses, run⟩
  · refine ⟨_, [], _, (List.append_nil _).symm, expiry.sound.runs .server, ?_, Runs.start _⟩
    rw [expiry.ends]
    exact serverServes_uses _ _ _ _

theorem timely_client_upgrades :
    ∃ net : Net (sample true).protocol, Reach Step Timely (sample true).protocol.start net ∧
      Served (sample true) .client .p2p (net.ends .client) ∧
      ¬ Served (sample true) .server Side.server.conn (net.ends .server) := by
  have routine : ∀ (state : Net (sample true).protocol) side event, Routine event →
      Timely state (.main side event) := by
    intro state side event routine
    refine ⟨?_, by simp⟩
    rintro other ⟨answer, same, _⟩
    injection same with _ same
    exact absurd (congrArg Sigma.fst same) routine.2.2.1
  have mayOpen : ∀ state : Net (sample true).protocol,
      (∀ side, ∀ event ∈ (state.ends side).log, Routine event) → Timely state (.opens .client) := by
    intro state routine
    refine ⟨by simp [GivesUp], ?_⟩
    rintro side _ other (waited | ⟨err, waited⟩)
    · exact (routine other _ waited).2.2.1 rfl
    · exact (routine other _ waited).2.2.1 rfl
  have mayUse : ∀ state : Net (sample true).protocol, ∀ event ∈ clientOpens,
      Timely state (.main .client event) := by
    intro state event member
    refine ⟨?_, by simp⟩
    rintro side ⟨answer, same, differs⟩
    injection same with _ same
    rw [same] at member
    simp only [clientOpens, List.mem_cons, Sigma.mk.injEq, heq_eq_eq, true_and, reduceCtorEq, false_and,
      List.not_mem_nil, or_false] at member
    exact absurd member differs
  obtain ⟨net, reached, _, served, _⟩ := sample_upgrades routine mayOpen mayUse
  have agreed := transports_agree_when_timely (sample true) reached .client
  exact ⟨net, reached, served, fun relayed => agreed ⟨served, relayed⟩⟩

end SyncthingSocket
