import SyncthingSocket.Upgrade
import SyncthingSocket.Effect.Transition

/-!
Two ends of one reliable TLS connection. Each runs its handler, the goroutines that read the
peer's candidates, the `OnICECandidate` callbacks and, after the hand-over, the application
against the shared byte streams, which arrive in any chunks.
-/

namespace SyncthingSocket

open Effect Effect.Program Framing

inductive Side
  | client
  | server
  deriving DecidableEq, Repr

def Side.peer : Side → Side
  | client => server
  | server => client

def Side.link : Side → Link
  | client => .relay
  | server => .incoming

def Side.conn (side : Side) : Conn := .tls side.link

def Side.raw (side : Side) : Conn := .raw side.link

@[simp] theorem Side.peer_peer (side : Side) : side.peer.peer = side := by cases side <;> rfl

@[simp] theorem Side.peer_ne (side : Side) : side.peer ≠ side := by cases side <;> simp [peer]

@[simp] theorem Side.ne_peer (side : Side) : side ≠ side.peer := by cases side <;> simp [peer]

theorem Side.eq_or_peer (side other : Side) : other = side ∨ other = side.peer := by
  cases side <;> cases other <;> simp [peer]

def Moves (conn : Conn) (op : Op) : Prop :=
  (∃ size, op = .read conn size) ∨ ∃ data, op = .write conn data

def Closes (side : Side) (op : Op) : Prop := op = .close side.conn ∨ op = .close side.raw

/-- What runs at the two ends. `running` says when the application has the
connection; from then on the program leaves it alone, and it never uses a
connection it has closed. -/
structure Protocol where
  platform : Platform
  Result : Side → Type
  program : (side : Side) → Goroutine (Result side)
  running : (side : Side) → Goroutine (Result side) → Prop
  orderly : ∀ side early handed later op next, Runs (program side) early handed → running side handed →
    Runs handed later (.ask op next) → ¬ Moves side.conn op
  unclosed : ∀ side log op next, Runs (program side) log (.ask op next) → Moves side.conn op →
    ∀ event ∈ log, ¬ Closes side event.1

structure End (α : Type) where
  main : Goroutine α
  log : Log := []
  readers : List (Goroutine Bool) := []
  senders : List (Goroutine (Option Err)) := []
  opened : Bool := false
  appRead : Bytes := []
  appWrote : Bytes := []
  appClosed : Bool := false

structure Net (protocol : Protocol) where
  ends : (side : Side) → End (protocol.Result side)
  inbox : Side → Bytes

def Protocol.start (protocol : Protocol) : Net protocol where
  ends side := { main := protocol.program side }
  inbox _ := []

variable {protocol : Protocol}

namespace Net

def Closed (net : Net protocol) (side : Side) : Prop :=
  (net.ends side).appClosed = true ∨ ∃ event ∈ (net.ends side).log, Closes side event.1

def permits (net : Net protocol) (side : Side) : (op : Op) → Answer op → Prop
  | .read conn _, .ok chunk => conn = side.conn → ¬ net.Closed side ∧ chunk.val <+: net.inbox side
  | .read conn _, .error _ =>
      conn = side.conn → net.Closed side ∨ (net.Closed side.peer ∧ net.inbox side = [])
  | .write conn _, none => conn = side.conn → ¬ net.Closed side
  | .write conn _, some _ => conn = side.conn → net.Closed side ∨ net.Closed side.peer
  | .awaitDataChannel, .opened => (net.ends side).opened = true
  | _, _ => True

/-- The streams after one operation of a goroutine at `side`. -/
def carry (net : Net protocol) (side : Side) (event : Sigma Answer) (other : Side) : Bytes :=
  if other = side then (net.inbox other).drop (receivedBy side.conn event.1 event.2).length
  else net.inbox other ++ sentBy side.conn event.1 event.2

def put (net : Net protocol) (side : Side) (changed : End (protocol.Result side))
    (inbox : Side → Bytes) : Net protocol where
  ends := Function.update net.ends side changed
  inbox := inbox

def started (platform : Platform) (side : Side) (op : Op) : List (Goroutine Bool) :=
  if op = .goReadCandidates side.conn then [readCandidate platform side.conn] else []

end Net

inductive Label
  | main (side : Side) (event : Sigma Answer)
  | reader (side : Side) (index : Nat) (event : Sigma Answer)
  | readerLoops (side : Side) (index : Nat)
  | candidate (side : Side) (init : ICECandidateInit)
  | sender (side : Side) (index : Nat) (event : Sigma Answer)
  | opens (side : Side)
  | appReads (side : Side) (data : Bytes)
  | appWrites (side : Side) (data : Bytes)
  | appCloses (side : Side)

/-- The data channel can open at an end once the answer has been exchanged, which
is when both ends have started to read candidates. -/
def Net.Answered (net : Net protocol) : Prop :=
  ∀ side, ReadsCandidates side.conn (net.ends side).log

open Net in
inductive Step : Net protocol → Label → Net protocol → Prop
  | main {net : Net protocol} {side : Side} {op : Op}
    {next : Answer op → Goroutine (protocol.Result side)}
      {answer : Answer op} :
      (net.ends side).main = .ask op next → net.permits side op answer →
      Step net (.main side ⟨op, answer⟩)
        (net.put side { net.ends side with
            main := next answer
            log := (net.ends side).log ++ [⟨op, answer⟩]
            readers := (net.ends side).readers ++ started protocol.platform side op }
          (net.carry side ⟨op, answer⟩))
  | reader {net : Net protocol} {side : Side} {index : Nat} {op : Op}
      {next : Answer op → Goroutine Bool} {answer : Answer op} :
      (net.ends side).readers[index]? = some (.ask op next) → net.permits side op answer →
      Step net (.reader side index ⟨op, answer⟩)
        (net.put side { net.ends side with readers := (net.ends side).readers.set index (next answer) }
          (net.carry side ⟨op, answer⟩))
  | readerLoops {net : Net protocol} {side : Side} {index : Nat} :
      (net.ends side).readers[index]? = some (.done true) →
      Step net (.readerLoops side index)
        (net.put side { net.ends side with
          readers := (net.ends side).readers.set index (readCandidate protocol.platform side.conn) }
          net.inbox)
  | candidate {net : Net protocol} {side : Side} {init : ICECandidateInit} :
      (⟨.onICECandidate side.conn, ()⟩ : Sigma Answer) ∈ (net.ends side).log →
      Step net (.candidate side init)
        (net.put side { net.ends side with
          senders := (net.ends side).senders ++ [sendCandidate side.conn init] } net.inbox)
  | sender {net : Net protocol} {side : Side} {index : Nat} {op : Op}
      {next : Answer op → Goroutine (Option Err)} {answer : Answer op} :
      (net.ends side).senders[index]? = some (.ask op next) → net.permits side op answer →
      Step net (.sender side index ⟨op, answer⟩)
        (net.put side { net.ends side with senders := (net.ends side).senders.set index (next answer) }
          (net.carry side ⟨op, answer⟩))
  | opens {net : Net protocol} {side : Side} :
      net.Answered →
      Step net (.opens side) (net.put side { net.ends side with opened := true } net.inbox)
  | appReads {net : Net protocol} {side : Side} {data : Bytes} :
      protocol.running side (net.ends side).main → ¬ net.Closed side → data <+: net.inbox side →
      Step net (.appReads side data)
        (net.put side { net.ends side with appRead := (net.ends side).appRead ++ data }
          (Function.update net.inbox side ((net.inbox side).drop data.length)))
  | appWrites {net : Net protocol} {side : Side} {data : Bytes} :
      protocol.running side (net.ends side).main → ¬ net.Closed side →
      Step net (.appWrites side data)
        (net.put side { net.ends side with appWrote := (net.ends side).appWrote ++ data }
          (Function.update net.inbox side.peer (net.inbox side.peer ++ data)))
  | appCloses {net : Net protocol} {side : Side} :
      protocol.running side (net.ends side).main →
      Step net (.appCloses side) (net.put side { net.ends side with appClosed := true } net.inbox)

/-! What one step does, said once: one end takes bytes from its own stream, adds
bytes to the other's, and changes in one of five ways. -/

structure Flow (net after : Net protocol) (side : Side) (got put : Bytes) : Prop where
  taken : net.inbox side = got ++ after.inbox side
  given : after.inbox side.peer = net.inbox side.peer ++ put
  untouched : after.ends side.peer = net.ends side.peer
  alive : got ≠ [] ∨ put ≠ [] → ¬ net.Closed side

inductive Acts (net after : Net protocol) (side : Side) : Label → Bytes → Bytes → Prop
  | program {op : Op} {next : Answer op → Goroutine (protocol.Result side)} {answer : Answer op}
      (asks : (net.ends side).main = .ask op next) (allowed : net.permits side op answer)
      (changed : after.ends side = { net.ends side with
        main := next answer
        log := (net.ends side).log ++ [⟨op, answer⟩]
        readers := (net.ends side).readers ++ Net.started protocol.platform side op }) :
      Acts net after side (.main side ⟨op, answer⟩) (receivedBy side.conn op answer)
        (sentBy side.conn op answer)
  | background {label : Label} {readers : List (Goroutine Bool)}
      {senders : List (Goroutine (Option Err))} {got put : Bytes}
      (changed : after.ends side = { net.ends side with readers := readers, senders := senders })
      (sameReaders : readers.length = (net.ends side).readers.length)
      (moreSenders : (net.ends side).senders.length ≤ senders.length)
      (registered : senders.length ≠ (net.ends side).senders.length →
        (∃ init, label = .candidate side init) ∧
        (⟨.onICECandidate side.conn, ()⟩ : Sigma Answer) ∈ (net.ends side).log)
      (silent : (net.ends side).readers = [] → (net.ends side).senders = [] → got = [] ∧ put = []) :
      Acts net after side label got put
  | opens (answered : net.Answered)
      (changed : after.ends side = { net.ends side with opened := true }) :
      Acts net after side (.opens side) [] []
  | application {label : Label} {got put : Bytes}
      (running : protocol.running side (net.ends side).main)
      (changed : after.ends side = { net.ends side with
        appRead := (net.ends side).appRead ++ got
        appWrote := (net.ends side).appWrote ++ put })
      (labelled : put = [] ∨ label = .appWrites side put) :
      Acts net after side label got put
  | closes (running : protocol.running side (net.ends side).main)
      (changed : after.ends side = { net.ends side with appClosed := true }) :
      Acts net after side (.appCloses side) [] []

section Put

variable (net : Net protocol) (side : Side) (changed : End (protocol.Result side)) (inbox : Side → Bytes)

@[simp] theorem Net.put_ends : (net.put side changed inbox).ends side = changed := by
  simp [Net.put]

@[simp] theorem Net.put_ends_peer :
    (net.put side changed inbox).ends side.peer = net.ends side.peer := by
  simp [Net.put]

@[simp] theorem Net.put_inbox : (net.put side changed inbox).inbox = inbox := rfl

end Put

variable {events : Log} {op : Op} {other side : Side} {net : Net protocol} {answer : Answer op}
  {next : Answer op → Goroutine (protocol.Result side)} {rest : Goroutine (protocol.Result side)}
  {allowed : Net protocol → Label → Prop}

theorem Net.permits_received
    (allowed : net.permits side op answer) : receivedBy side.conn op answer <+: net.inbox side := by
  cases op with
  | read conn size =>
      cases answer with
      | error err => simp [receivedBy]
      | ok chunk =>
          by_cases own : conn = side.conn
          · simpa [receivedBy, own] using (allowed own).2
          · simp [receivedBy, own]
  | _ => simp [receivedBy]

theorem Net.permits_alive (allowed : net.permits side op answer)
    (moved : receivedBy side.conn op answer ≠ [] ∨ sentBy side.conn op answer ≠ []) :
    ¬ net.Closed side := by
  cases op with
  | read conn size =>
      cases answer with
      | error err => simp [receivedBy, sentBy] at moved
      | ok chunk =>
          by_cases own : conn = side.conn
          · exact (allowed own).1
          · simp [receivedBy, sentBy, own] at moved
  | write conn data =>
      cases answer with
      | some err => simp [receivedBy, sentBy] at moved
      | none =>
          by_cases own : conn = side.conn
          · exact allowed own
          · simp [receivedBy, sentBy, own] at moved
  | _ => simp [receivedBy, sentBy] at moved

theorem Net.carry_flow {net after : Net protocol}
    (allowed : net.permits side op answer) (streams : after.inbox = net.carry side ⟨op, answer⟩)
    (untouched : after.ends side.peer = net.ends side.peer) :
    Flow net after side (receivedBy side.conn op answer) (sentBy side.conn op answer) := by
  refine ⟨?_, ?_, untouched, Net.permits_alive allowed⟩
  · obtain ⟨rest, split⟩ := Net.permits_received allowed
    simp [streams, Net.carry, ← split]
  · simp [streams, Net.carry]

theorem step_acts {net after : Net protocol} {label : Label} (step : Step net label after) :
    ∃ side got put, Flow net after side got put ∧ Acts net after side label got put := by
  cases step with
  | @main side op next answer asks allowed =>
      exact ⟨side, _, _, Net.carry_flow allowed rfl (by simp), .program asks allowed (by simp)⟩
  | @reader side index op next answer asks allowed =>
      refine ⟨side, _, _, Net.carry_flow allowed rfl (by simp), ?_⟩
      refine Acts.background (Net.put_ends _ _ _ _) (by simp) (by simp) (by simp) ?_
      intro empty
      simp [empty] at asks
  | @readerLoops side index finished =>
      refine ⟨side, [], [], ⟨by simp, by simp, by simp, by simp⟩, ?_⟩
      exact Acts.background (Net.put_ends _ _ _ _) (by simp) (by simp) (by simp) (by simp)
  | @candidate side init registered =>
      refine ⟨side, [], [], ⟨by simp, by simp, by simp, by simp⟩, ?_⟩
      refine Acts.background (Net.put_ends _ _ _ _) (by simp) (by simp) ?_ (by simp)
      exact fun _ => ⟨⟨init, rfl⟩, registered⟩
  | @sender side index op next answer asks allowed =>
      refine ⟨side, _, _, Net.carry_flow allowed rfl (by simp), ?_⟩
      refine Acts.background (Net.put_ends _ _ _ _) (by simp) (by simp) (by simp) ?_
      intro _ empty
      simp [empty] at asks
  | @opens side answered =>
      exact ⟨side, [], [], ⟨by simp, by simp, by simp, by simp⟩, .opens answered (by simp)⟩
  | @appReads side data running live arrived =>
      obtain ⟨rest, split⟩ := arrived
      refine ⟨side, data, [], ⟨?_, by simp, by simp, fun _ => live⟩,
        .application running (by simp) (Or.inl rfl)⟩
      simp [← split]
  | @appWrites side data running live =>
      exact ⟨side, [], data, ⟨by simp, by simp, by simp, fun _ => live⟩,
        .application running (by simp) (Or.inr rfl)⟩
  | @appCloses side running =>
      exact ⟨side, [], [], ⟨by simp, by simp, by simp, by simp⟩, .closes running (by simp)⟩

/-! The invariant of every session. -/

def End.Fresh {α : Type} (state : End α) : Prop :=
  state.appRead = [] ∧ state.appWrote = [] ∧ state.appClosed = false

def HandedOver (side : Side) (state : End (protocol.Result side)) : Prop :=
  ∃ early late handed, state.log = early ++ late ∧ Runs (protocol.program side) early handed ∧
    protocol.running side handed ∧ Runs handed late state.main

def Net.Plain (net : Net protocol) : Prop :=
  ∀ side, (net.ends side).readers = [] ∧ (net.ends side).senders = []

def Net.Conserved (net : Net protocol) (side : Side) : Prop :=
  received side.conn (net.ends side).log ++ (net.ends side).appRead ++ net.inbox side =
    sent side.peer.conn (net.ends side.peer).log ++ (net.ends side.peer).appWrote

/-- This end's write has failed after `before`: its peer had closed the connection,
having taken nothing that was not sent by then. -/
structure Net.Severed (net : Net protocol) (side : Side) (before : Log) : Prop where
  closed : net.Closed side.peer
  heard : ¬ ReadFailed side.peer.conn (net.ends side.peer).log
  taken : net.Plain → received side.peer.conn (net.ends side.peer).log ++ (net.ends side.peer).appRead <+:
    sent side.conn before

structure Sound (net : Net protocol) : Prop where
  runs : ∀ side, Runs (protocol.program side) (net.ends side).log (net.ends side).main
  handed : ∀ side, (net.ends side).Fresh ∨ HandedOver side (net.ends side)
  readFailed : ∀ side, ReadFailed side.conn (net.ends side).log →
    net.Closed side.peer ∧ net.inbox side = [] ∧ (net.ends side).appRead = []
  writeFailed : ∀ side before data err after,
    (net.ends side).log = before ++ ⟨.write side.conn data, some err⟩ :: after → net.Severed side before
  reading : ∀ side, (net.ends side).readers ≠ [] → ReadsCandidates side.conn (net.ends side).log
  sending : ∀ side, (net.ends side).senders ≠ [] →
    (⟨.onICECandidate side.conn, ()⟩ : Sigma Answer) ∈ (net.ends side).log
  opened : ∀ side, (net.ends side).opened = true → net.Answered
  awaited : ∀ side, ChannelOpened (net.ends side).log → (net.ends side).opened = true
  conserved : net.Plain → ∀ side, net.Conserved side

theorem sound_start : Sound protocol.start where
  runs _ := Runs.start _
  handed _ := Or.inl ⟨rfl, rfl, rfl⟩
  readFailed side := by simp [Protocol.start, ReadFailed]
  writeFailed side before data err after split := by simp [Protocol.start] at split
  reading side := by simp [Protocol.start]
  sending side := by simp [Protocol.start]
  opened side := by simp [Protocol.start]
  awaited side := by simp [Protocol.start, ChannelOpened]
  conserved _ side := by simp [Protocol.start, Net.Conserved]

section Preservation

variable {after : Net protocol} {label : Label} {got put : Bytes}

theorem moves_of_received {conn : Conn} (got : receivedBy conn op answer ≠ []) : Moves conn op := by
  cases op with
  | read source size =>
      cases answer with
      | error err => simp [receivedBy] at got
      | ok chunk =>
          by_cases own : source = conn
          · exact Or.inl ⟨size, by rw [own]⟩
          · simp [receivedBy, own] at got
  | _ => simp [receivedBy] at got

theorem moves_of_sent {conn : Conn} (put : sentBy conn op answer ≠ []) : Moves conn op := by
  cases op with
  | write destination data =>
      cases answer with
      | some err => simp [sentBy] at put
      | none =>
          by_cases own : destination = conn
          · exact Or.inr ⟨data, by rw [own]⟩
          · simp [sentBy, own] at put
  | _ => simp [sentBy] at put

theorem Sound.fresh (sound : Sound net)
    (asks : (net.ends side).main = .ask op next) (moves : Moves side.conn op) :
    (net.ends side).Fresh := by
  rcases sound.handed side with fresh | ⟨early, late, handed, _, before, running, run⟩
  · exact fresh
  · rw [asks] at run
    exact absurd moves (protocol.orderly side early handed late op next before running run)

theorem Sound.not_closed (sound : Sound net)
    (asks : (net.ends side).main = .ask op next) (moves : Moves side.conn op) :
    ¬ net.Closed side := by
  rintro (appClosed | ⟨event, member, closes⟩)
  · have fresh := (sound.fresh asks moves).2.2
    rw [appClosed] at fresh
    exact absurd fresh (by simp)
  · have run := sound.runs side
    rw [asks] at run
    exact protocol.unclosed side _ op next run moves event member closes

theorem closed_step (flow : Flow net after side got put)
    (acts : Acts net after side label got put) (closed : net.Closed other) :
    after.Closed other := by
  rcases side.eq_or_peer other with rfl | rfl
  · cases acts with
    | program _ _ changed =>
        rcases closed with appClosed | ⟨event, member, closes⟩
        · exact Or.inl (by rw [changed]; exact appClosed)
        · exact Or.inr ⟨event, by rw [changed]; exact List.mem_append_left _ member, closes⟩
    | background changed _ _ _ _ => simpa [Net.Closed, changed] using closed
    | opens _ changed => simpa [Net.Closed, changed] using closed
    | application _ changed => simpa [Net.Closed, changed] using closed
    | closes _ changed => exact Or.inl (by rw [changed])
  · simpa [Net.Closed, flow.untouched] using closed

theorem log_step (flow : Flow net after side got put) (acts : Acts net after side label got put)
    (other : Side) :
    ((after.ends other).log = (net.ends other).log ∧ (after.ends other).main = (net.ends other).main) ∨
    ∃ op next answer, label = .main other ⟨op, answer⟩ ∧ (net.ends other).main = .ask op next ∧
      net.permits other op answer ∧ (after.ends other).log = (net.ends other).log ++ [⟨op, answer⟩] ∧
      (after.ends other).main = next answer := by
  rcases side.eq_or_peer other with rfl | rfl
  · cases acts with
    | @program op next answer asks allowed changed =>
        exact Or.inr ⟨op, next, answer, rfl, asks, allowed, by rw [changed], by rw [changed]⟩
    | background changed _ _ _ _ => exact Or.inl ⟨by rw [changed], by rw [changed]⟩
    | opens _ changed => exact Or.inl ⟨by rw [changed], by rw [changed]⟩
    | application _ changed => exact Or.inl ⟨by rw [changed], by rw [changed]⟩
    | closes _ changed => exact Or.inl ⟨by rw [changed], by rw [changed]⟩
  · exact Or.inl ⟨by rw [flow.untouched], by rw [flow.untouched]⟩

theorem log_grows (flow : Flow net after side got put) (acts : Acts net after side label got put)
    (other : Side) : (net.ends other).log <+: (after.ends other).log := by
  rcases log_step flow acts other with ⟨same, _⟩ | ⟨op, next, answer, _, _, _, logEq, _⟩
  · rw [same]
  · rw [logEq]
    exact List.prefix_append _ _

theorem runs_step (sound : Sound net) (flow : Flow net after side got put)
    (acts : Acts net after side label got put) (other : Side) :
    Runs (protocol.program other) (after.ends other).log (after.ends other).main := by
  have run := sound.runs other
  rcases log_step flow acts other with ⟨logEq, mainEq⟩ | ⟨op, next, answer, _, asks, _, logEq, mainEq⟩
  · rwa [logEq, mainEq]
  · rw [asks] at run
    rw [logEq, mainEq]
    exact run.extend answer

theorem handed_step (sound : Sound net) (flow : Flow net after side got put)
    (acts : Acts net after side label got put) (other : Side) :
    (after.ends other).Fresh ∨ HandedOver other (after.ends other) := by
  rcases side.eq_or_peer other with rfl | rfl
  · have run := sound.runs other
    cases acts with
    | program asks _ changed =>
        rw [changed]
        rcases sound.handed other with fresh | ⟨early, late, handed, split, before, running, run⟩
        · exact Or.inl fresh
        · rw [asks] at run
          exact Or.inr ⟨early, late ++ [_], handed, by simp [split], before, running, run.extend _⟩
    | background changed _ _ _ _ =>
        rw [changed]
        exact sound.handed other
    | opens _ changed =>
        rw [changed]
        exact sound.handed other
    | application running changed =>
        rw [changed]
        exact Or.inr ⟨_, [], _, by simp, run, running, Runs.start _⟩
    | closes running changed =>
        rw [changed]
        exact Or.inr ⟨_, [], _, by simp, run, running, Runs.start _⟩
  · rw [flow.untouched]
    exact sound.handed _

theorem readFailed_step (sound : Sound net) (flow : Flow net after side got put)
    (acts : Acts net after side label got put)
    (failed : ReadFailed other.conn (after.ends other).log) :
    after.Closed other.peer ∧ after.inbox other = [] ∧ (after.ends other).appRead = [] := by
  have keeps : net.Closed other.peer → net.inbox other = [] → (net.ends other).appRead = [] →
      after.Closed other.peer ∧ after.inbox other = [] ∧ (after.ends other).appRead = [] := by
    intro closed empty unread
    refine ⟨closed_step flow acts closed, ?_⟩
    rcases side.eq_or_peer other with rfl | rfl
    · have taken := flow.taken
      rw [empty] at taken
      obtain ⟨nothing, drained⟩ := List.append_eq_nil_iff.mp taken.symm
      refine ⟨drained, ?_⟩
      cases acts with
      | program _ _ changed => rw [changed]; exact unread
      | background changed _ _ _ _ => rw [changed]; exact unread
      | opens _ changed => rw [changed]; exact unread
      | application _ changed => rw [changed, nothing, unread]; rfl
      | closes _ changed => rw [changed]; exact unread
    · rw [Side.peer_peer] at closed
      -- a closed end writes nothing, so the inbox stays empty
      have nothing : put = [] := by
        by_contra wrote
        exact flow.alive (Or.inr wrote) closed
      rw [flow.given, empty, nothing, List.append_nil, flow.untouched]
      exact ⟨rfl, unread⟩
  have before : ReadFailed other.conn (net.ends other).log →
      after.Closed other.peer ∧ after.inbox other = [] ∧ (after.ends other).appRead = [] := by
    intro already
    obtain ⟨closed, empty, unread⟩ := sound.readFailed other already
    exact keeps closed empty unread
  rcases log_step flow acts other with ⟨logEq, _⟩ | ⟨op, next, answer, _, asks, allowed, logEq, _⟩
  · rw [logEq] at failed
    exact before failed
  · obtain ⟨size, err, member⟩ := failed
    simp only [logEq, List.mem_append, List.mem_singleton] at member
    rcases member with member | now
    · exact before ⟨size, err, member⟩
    · obtain ⟨rfl, answered⟩ := Sigma.mk.inj now
      obtain rfl := eq_of_heq answered
      have moves : Moves other.conn (.read other.conn size) := Or.inl ⟨size, rfl⟩
      -- a read fails when either end has closed, and this one has not
      rcases allowed rfl with closed | ⟨closed, empty⟩
      · exact absurd closed (sound.not_closed asks moves)
      · exact keeps closed empty (sound.fresh asks moves).1

/-- In a session without background goroutines, what an end has taken and given is in its log or
with its application. -/
theorem ledger_step (sound : Sound net) (acts : Acts net after side label got put)
    (plain : net.Plain) :
    received side.conn (after.ends side).log ++ (after.ends side).appRead =
      received side.conn (net.ends side).log ++ (net.ends side).appRead ++ got ∧
    sent side.conn (after.ends side).log ++ (after.ends side).appWrote =
      sent side.conn (net.ends side).log ++ (net.ends side).appWrote ++ put := by
  cases acts with
  | @program op next answer asks _ changed =>
      rw [changed]
      simp only [received_append, sent_append, received_cons, received_nil, sent_cons, sent_nil,
        List.append_nil]
      constructor
      · by_cases nothing : receivedBy side.conn op answer = []
        · simp [nothing]
        · simp [(sound.fresh asks (moves_of_received nothing)).1]
      · by_cases nothing : sentBy side.conn op answer = []
        · simp [nothing]
        · simp [(sound.fresh asks (moves_of_sent nothing)).2.1]
  | background changed _ _ _ silent =>
      obtain ⟨rfl, rfl⟩ := silent (plain side).1 (plain side).2
      simp [changed]
  | opens _ changed => simp [changed]
  | application _ changed => simp [changed]
  | closes _ changed => simp [changed]

theorem severed_step (sound : Sound net) (flow : Flow net after side got put)
    (acts : Acts net after side label got put) {before : Log}
    (severed : net.Severed other before) (plainBefore : after.Plain → net.Plain) :
    after.Severed other before := by
  refine ⟨closed_step flow acts severed.closed, ?_, ?_⟩
  · rintro ⟨size, err, member⟩
    rcases log_step flow acts other.peer with ⟨same, _⟩ | ⟨op, next, answer, _, asks, _, logEq, _⟩
    · rw [same] at member
      exact severed.heard ⟨size, err, member⟩
    · simp only [logEq, List.mem_append, List.mem_singleton] at member
      rcases member with member | now
      · exact severed.heard ⟨size, err, member⟩
      · obtain ⟨rfl, _⟩ := Sigma.mk.inj now
        exact sound.not_closed asks (Or.inl ⟨size, rfl⟩) severed.closed
  · intro plain
    have taken := severed.taken (plainBefore plain)
    rcases side.eq_or_peer other.peer with same | same
    · obtain rfl : other = side.peer := by rw [← same, Side.peer_peer]
      rw [Side.peer_peer] at taken ⊢
      have closed := severed.closed
      rw [Side.peer_peer] at closed
      have nothing : got = [] := by
        by_contra moved
        exact flow.alive (Or.inl moved) closed
      rw [(ledger_step sound acts (plainBefore plain)).1, nothing, List.append_nil]
      exact taken
    · rw [same] at taken ⊢
      rw [flow.untouched]
      exact taken

theorem opened_grows (flow : Flow net after side got put)
    (acts : Acts net after side label got put) (isOpen : (net.ends other).opened = true) :
    (after.ends other).opened = true := by
  rcases side.eq_or_peer other with rfl | rfl
  · cases acts with
    | program _ _ changed => rw [changed]; exact isOpen
    | background changed _ _ _ _ => rw [changed]; exact isOpen
    | opens _ changed => rw [changed]
    | application _ changed => rw [changed]; exact isOpen
    | closes _ changed => rw [changed]; exact isOpen
  · rw [flow.untouched]
    exact isOpen

theorem appWrote_grows (flow : Flow net after side got put)
    (acts : Acts net after side label got put) (other : Side) :
    (net.ends other).appWrote <+: (after.ends other).appWrote := by
  rcases side.eq_or_peer other with rfl | rfl
  · cases acts with
    | program _ _ changed => rw [changed]
    | background changed _ _ _ _ => rw [changed]
    | opens _ changed => rw [changed]
    | application _ changed => rw [changed]; exact List.prefix_append _ _
    | closes _ changed => rw [changed]
  · rw [flow.untouched]

theorem answered_grows (flow : Flow net after side got put)
    (acts : Acts net after side label got put) (answered : net.Answered) : after.Answered :=
  fun other => (log_grows flow acts other).subset (answered other)

theorem opened_step (sound : Sound net) (flow : Flow net after side got put)
    (acts : Acts net after side label got put)
    (isOpen : (after.ends other).opened = true) : after.Answered := by
  have before : (net.ends other).opened = true → after.Answered :=
    fun already => answered_grows flow acts (sound.opened other already)
  rcases side.eq_or_peer other with rfl | rfl
  · cases acts with
    | program _ _ changed => exact before (by rw [changed] at isOpen; exact isOpen)
    | background changed _ _ _ _ => exact before (by rw [changed] at isOpen; exact isOpen)
    | opens answered changed => exact answered_grows flow (.opens answered changed) answered
    | application _ changed => exact before (by rw [changed] at isOpen; exact isOpen)
    | closes _ changed => exact before (by rw [changed] at isOpen; exact isOpen)
  · exact before (by rw [flow.untouched] at isOpen; exact isOpen)

theorem awaited_step (sound : Sound net) (flow : Flow net after side got put)
    (acts : Acts net after side label got put)
    (awaited : ChannelOpened (after.ends other).log) : (after.ends other).opened = true := by
  apply opened_grows flow acts
  rcases log_step flow acts other with ⟨logEq, _⟩ | ⟨op, next, answer, _, asks, allowed, logEq, _⟩
  · rw [logEq] at awaited
    exact sound.awaited other awaited
  · simp only [ChannelOpened, logEq, List.mem_append, List.mem_singleton] at awaited
    rcases awaited with member | now
    · exact sound.awaited other member
    · obtain ⟨rfl, answered⟩ := Sigma.mk.inj now
      obtain rfl := eq_of_heq answered
      exact allowed

theorem reading_step (sound : Sound net) (flow : Flow net after side got put)
    (acts : Acts net after side label got put) (reading : (after.ends other).readers ≠ []) :
    ReadsCandidates other.conn (after.ends other).log := by
  have before : (net.ends other).readers ≠ [] → ReadsCandidates other.conn (after.ends other).log :=
    fun already => (log_grows flow acts other).subset (sound.reading other already)
  rcases side.eq_or_peer other with rfl | rfl
  · cases acts with
    | @program op next answer _ _ changed =>
        by_cases starts : op = .goReadCandidates other.conn
        · subst starts
          rw [changed]
          exact List.mem_append_right _ (List.mem_singleton_self _)
        · apply before
          simpa [changed, Net.started, starts] using reading
    | background changed sameReaders _ _ _ =>
        apply before
        intro empty
        rw [changed] at reading
        exact reading (List.eq_nil_of_length_eq_zero (by rw [sameReaders, empty]; rfl))
    | opens _ changed => exact before (by rw [changed] at reading; exact reading)
    | application _ changed => exact before (by rw [changed] at reading; exact reading)
    | closes _ changed => exact before (by rw [changed] at reading; exact reading)
  · exact before (by rw [flow.untouched] at reading; exact reading)

theorem sending_step (sound : Sound net) (flow : Flow net after side got put)
    (acts : Acts net after side label got put) (sending : (after.ends other).senders ≠ []) :
    (⟨.onICECandidate other.conn, ()⟩ : Sigma Answer) ∈ (after.ends other).log := by
  apply (log_grows flow acts other).subset
  rcases side.eq_or_peer other with rfl | rfl
  · cases acts with
    | program _ _ changed => exact sound.sending _ (by rw [changed] at sending; exact sending)
    | @background _ _ senders _ _ changed _ moreSenders registered _ =>
        by_cases same : senders.length = (net.ends other).senders.length
        · apply sound.sending
          intro empty
          rw [changed] at sending
          exact sending (List.eq_nil_of_length_eq_zero (by rw [same, empty]; rfl))
        · exact (registered same).2
    | opens _ changed => exact sound.sending _ (by rw [changed] at sending; exact sending)
    | application _ changed => exact sound.sending _ (by rw [changed] at sending; exact sending)
    | closes _ changed => exact sound.sending _ (by rw [changed] at sending; exact sending)
  · exact sound.sending _ (by rw [flow.untouched] at sending; exact sending)

theorem plain_before (flow : Flow net after side got put) (acts : Acts net after side label got put)
    (plain : after.Plain) : net.Plain := by
  intro other
  obtain ⟨noReaders, noSenders⟩ := plain other
  rcases side.eq_or_peer other with rfl | rfl
  · cases acts with
    | program _ _ changed =>
        rw [changed] at noReaders noSenders
        exact ⟨(List.append_eq_nil_iff.mp noReaders).1, noSenders⟩
    | background changed sameReaders moreSenders _ _ =>
        rw [changed] at noReaders noSenders
        subst noReaders noSenders
        exact ⟨List.eq_nil_of_length_eq_zero sameReaders.symm,
          List.eq_nil_of_length_eq_zero (Nat.le_zero.mp moreSenders)⟩
    | opens _ changed => rw [changed] at noReaders noSenders; exact ⟨noReaders, noSenders⟩
    | application _ changed => rw [changed] at noReaders noSenders; exact ⟨noReaders, noSenders⟩
    | closes _ changed => rw [changed] at noReaders noSenders; exact ⟨noReaders, noSenders⟩
  · rw [flow.untouched] at noReaders noSenders
    exact ⟨noReaders, noSenders⟩

theorem writeFailed_step (sound : Sound net) (flow : Flow net after side got put)
    (acts : Acts net after side label got put) {before later : Log} {data : Bytes} {err : Err}
    (split : (after.ends other).log = before ++ ⟨.write other.conn data, some err⟩ :: later) :
    after.Severed other before := by
  have earlier : ∀ {rest : Log}, (net.ends other).log =
      before ++ ⟨.write other.conn data, some err⟩ :: rest →
      after.Severed other before :=
    fun already => severed_step sound flow acts (sound.writeFailed other _ _ _ _ already)
      (plain_before flow acts)
  rcases log_step flow acts other with ⟨logEq, _⟩ | ⟨op, next, answer, _, asks, allowed, logEq, _⟩
  · exact earlier (logEq ▸ split)
  · rcases List.eq_nil_or_concat later with rfl | ⟨rest, last, rfl⟩
    · rw [logEq] at split
      obtain ⟨rfl, now⟩ := List.append_inj' split rfl
      obtain ⟨rfl, answered⟩ := Sigma.mk.inj (List.singleton_inj.mp now)
      obtain rfl := eq_of_heq answered
      have moves : Moves other.conn (.write other.conn data) := Or.inr ⟨data, rfl⟩
      have live := sound.not_closed asks moves
      refine severed_step sound flow acts ⟨(allowed rfl).resolve_left live, ?_, ?_⟩
        (plain_before flow acts)
      · intro failed
        have closed := (sound.readFailed other.peer failed).1
        rw [Side.peer_peer] at closed
        exact live closed
      · intro plain
        have conserved := sound.conserved plain other.peer
        rw [Net.Conserved, Side.peer_peer, (sound.fresh asks moves).2.1, List.append_nil] at conserved
        exact ⟨_, conserved⟩
    · rw [logEq, List.concat_eq_append, ← List.cons_append, ← List.append_assoc] at split
      exact earlier (List.append_inj' split rfl).1

theorem conserved_step (sound : Sound net) (flow : Flow net after side got put)
    (acts : Acts net after side label got put) (plain : after.Plain) (other : Side) :
    after.Conserved other := by
  have plainBefore := plain_before flow acts plain
  have before := sound.conserved plainBefore other
  have ledger := ledger_step sound acts plainBefore
  rcases side.eq_or_peer other with rfl | rfl
  · rw [Net.Conserved, flow.taken] at before
    rw [Net.Conserved, ledger.1, flow.untouched, List.append_assoc]
    exact before
  · rw [Net.Conserved, Side.peer_peer] at before ⊢
    rw [ledger.2, flow.untouched, flow.given, ← before]
    simp

end Preservation

theorem sound_step {net after : Net protocol} {label : Label} (sound : Sound net)
    (step : Step net label after) : Sound after := by
  obtain ⟨side, got, put, flow, acts⟩ := step_acts step
  exact {
    runs := runs_step sound flow acts
    handed := handed_step sound flow acts
    readFailed := fun _ => readFailed_step sound flow acts
    writeFailed := fun _ _ _ _ _ => writeFailed_step sound flow acts
    reading := fun _ => reading_step sound flow acts
    sending := fun _ => sending_step sound flow acts
    opened := fun _ => opened_step sound flow acts
    awaited := fun _ => awaited_step sound flow acts
    conserved := conserved_step sound flow acts }

theorem sound_of_reach (reached : Reach Step allowed protocol.start net) : Sound net :=
  reached.invariant sound_start fun _ _ _ sound _ step => sound_step sound step

/-! One end goes on by itself while the network behaves. -/

/-- An answer the network can always give, once the bytes that are read have
arrived and the data channel is open if it is said to be. -/
def Smooth (opened : Bool) : Sigma Answer → Prop
  | ⟨.read _ _, .error _⟩ => False
  | ⟨.write _ _, some _⟩ => False
  | ⟨.awaitDataChannel, .opened⟩ => opened = true
  | _ => True

def Routine (event : Sigma Answer) : Prop :=
  (∀ opened, Smooth opened event) ∧ event.1 ≠ .closePeerConnection ∧ event.1 ≠ .awaitDataChannel ∧
    ∀ conn, event.1 ≠ .close conn

theorem routine_writeFrame (conn : Conn) (body : Bytes) :
    ∀ event ∈ writeFrame conn body, Routine event := by
  simp [writeFrame, Routine, Smooth]

theorem routine_readFrame (conn : Conn) (body : Bytes) (nonempty : 0 < body.length) :
    ∀ event ∈ readFrame conn body nonempty, Routine event := by
  simp [readFrame, readWhole, Routine, Smooth]

theorem routine_hearing (conn : Conn) (msg : SignalMessage) :
    ∀ event ∈ hearing conn msg, Routine event :=
  routine_readFrame conn msg.marshal msg.marshal_pos

theorem routine_offering (conn : Conn) (offer : String) :
    ∀ event ∈ offering conn offer, Routine event := by
  refine List.forall_mem_append.mpr ⟨?_, routine_writeFrame _ _⟩
  simp [Routine, Smooth]

theorem routine_answering (conn : Conn) (offer answer : String) :
    ∀ event ∈ answering conn offer answer, Routine event := by
  refine List.forall_mem_append.mpr ⟨routine_hearing _ _,
    List.forall_mem_append.mpr ⟨?_, routine_writeFrame _ _⟩⟩
  simp [Routine, Smooth]

theorem Net.live (unclosed : (net.ends side).appClosed = false)
    (events : ∀ event ∈ (net.ends side).log, ∀ conn, event.1 ≠ .close conn) :
    ¬ net.Closed side := by
  rintro (appClosed | ⟨event, member, isClose | isClose⟩)
  · rw [unclosed] at appClosed
    cases appClosed
  · exact events event member _ isClose
  · exact events event member _ isClose

structure Advanced (net after : Net protocol) (side : Side) (events : Log)
    (rest : Goroutine (protocol.Result side)) : Prop where
  sound : Sound after
  ends : after.ends side = { net.ends side with
    main := rest
    log := (net.ends side).log ++ events
    readers := (net.ends side).readers ++
      events.flatMap fun event => Net.started protocol.platform side event.1 }
  peer : after.ends side.peer = net.ends side.peer
  inbox : net.inbox side = received side.conn events ++ after.inbox side
  outbox : after.inbox side.peer = net.inbox side.peer ++ sent side.conn events

theorem Smooth.permitted (sound : Sound net) (smooth : Smooth (net.ends side).opened ⟨op, answer⟩)
    (asks : (net.ends side).main = .ask op next)
    (arrived : receivedBy side.conn op answer <+: net.inbox side) : net.permits side op answer := by
  cases op with
  | read conn size =>
      cases answer with
      | error err => exact smooth.elim
      | ok chunk =>
          rintro rfl
          exact ⟨sound.not_closed asks (Or.inl ⟨size, rfl⟩), by simpa [receivedBy] using arrived⟩
  | write conn data =>
      cases answer with
      | some err => exact smooth.elim
      | none =>
          rintro rfl
          exact sound.not_closed asks (Or.inr ⟨data, rfl⟩)
  | awaitDataChannel =>
      cases answer with
      | opened => exact smooth
      | _ => trivial
  | _ => trivial

theorem Smooth.step (sound : Sound net) (smooth : Smooth (net.ends side).opened ⟨op, answer⟩)
    (asks : (net.ends side).main = .ask op next)
    (arrived : receivedBy side.conn op answer <+: net.inbox side) :
    ∃ after, Step net (.main side ⟨op, answer⟩) after ∧
      Advanced net after side [⟨op, answer⟩] (next answer) := by
  have taken := Step.main asks (smooth.permitted sound asks arrived)
  refine ⟨_, taken, sound_step sound taken, by simp, by simp, ?_, ?_⟩
  · obtain ⟨rest, split⟩ := arrived
    simp [Net.carry, ← split]
  · simp [Net.carry]

theorem Advanced.trans {net middle after : Net protocol} {first second : Log}
    {between rest : Goroutine (protocol.Result side)}
    (early : Advanced net middle side first between)
    (late : Advanced middle after side second rest) :
    Advanced net after side (first ++ second) rest := by
  refine ⟨late.sound, ?_, late.peer.trans early.peer, ?_, ?_⟩
  · rw [late.ends, early.ends, List.append_assoc, List.append_assoc, List.flatMap_append]
  · rw [early.inbox, late.inbox, received_append, List.append_assoc]
  · rw [late.outbox, early.outbox, sent_append, List.append_assoc]

theorem advance (sound : Sound net) (run : Runs (net.ends side).main events rest)
    (smooth : ∀ event ∈ events, Smooth (net.ends side).opened event)
    (permitted : ∀ state, ∀ event ∈ events, allowed state (.main side event))
    (arrived : received side.conn events <+: net.inbox side) :
    ∃ after, Reach Step allowed net after ∧ Advanced net after side events rest := by
  generalize current : (net.ends side).main = program at run
  induction run generalizing net with
  | start _ =>
      refine ⟨net, Reach.here, sound, ?_, rfl, rfl, by simp⟩
      rw [← current, List.flatMap_nil, List.append_nil, List.append_nil]
  | @step op next history rest answer later ih =>
      rw [received_cons] at arrived
      obtain ⟨middle, taken, moved⟩ := (smooth _ List.mem_cons_self).step sound current
        ((List.prefix_append _ _).trans arrived)
      have remaining : received side.conn history <+: middle.inbox side := by
        rw [moved.inbox] at arrived
        simpa using arrived
      have still : ∀ event ∈ history, Smooth (middle.ends side).opened event := by
        intro event member
        rw [moved.ends]
        exact smooth event (List.mem_cons_of_mem _ member)
      obtain ⟨after, reached, advanced⟩ := ih moved.sound still
        (fun state event member => permitted state event (List.mem_cons_of_mem _ member)) remaining
        (by rw [moved.ends])
      have first := Reach.next Reach.here (permitted net _ List.mem_cons_self) taken
      exact ⟨after, first.trans reached, moved.trans advanced⟩

theorem advance_routine
    (permitted : ∀ state side event, Routine event → allowed state (.main side event))
    (sound : Sound net) (run : Runs (net.ends side).main events rest)
    (routine : ∀ event ∈ events, Routine event)
    (arrived : received side.conn events <+: net.inbox side) :
    ∃ after, Reach Step allowed net after ∧ Advanced net after side events rest :=
  advance sound run (fun event member => (routine event member).1 _)
    (fun state event member => permitted state side event (routine event member)) arrived

theorem advance_freely (sound : Sound net) (run : Runs (net.ends side).main events rest)
    (smooth : ∀ event ∈ events, Smooth (net.ends side).opened event)
    (arrived : received side.conn events <+: net.inbox side) :
    ∃ after, Reach Step anyStep net after ∧ Advanced net after side events rest :=
  advance sound run smooth (fun _ _ _ => trivial) arrived

theorem application_reads {data : Bytes} (permitted : allowed net (.appReads side data))
    (running : protocol.running side (net.ends side).main) (live : ¬ net.Closed side)
    (arrived : data <+: net.inbox side) :
    ∃ after, Reach Step allowed net after ∧
      after.ends side = { net.ends side with appRead := (net.ends side).appRead ++ data } ∧
      after.ends side.peer = net.ends side.peer :=
  ⟨_, Reach.next Reach.here permitted (Step.appReads running live arrived), Net.put_ends _ _ _ _,
    Net.put_ends_peer _ _ _ _⟩

theorem application_writes (data : Bytes) (permitted : allowed net (.appWrites side data))
    (running : protocol.running side (net.ends side).main) (live : ¬ net.Closed side) :
    ∃ after, Reach Step allowed net after ∧
      after.ends side = { net.ends side with appWrote := (net.ends side).appWrote ++ data } ∧
      after.ends side.peer = net.ends side.peer ∧
      after.inbox side.peer = net.inbox side.peer ++ data := by
  refine ⟨_, Reach.next Reach.here permitted (Step.appWrites running live), Net.put_ends _ _ _ _,
    Net.put_ends_peer _ _ _ _, ?_⟩
  simp

end SyncthingSocket
