import SyncthingSocket.Platform
import SyncthingSocket.Effect.Transition

/-!
The goroutines of `runServer` once its relay client has connected: `Serve`, the accepting of
direct connections, the loop that joins sessions, and the caller's own, which in netcat mode gets
one connection through `connChan` and in forwarding mode is the loop.
-/

namespace SyncthingSocket

open Effect

inductive Acceptor
  | absent
  | accepting
  | holding (conn : Nat)
  | done
  deriving DecidableEq, Repr

inductive Joiner
  | absent
  | selecting
  | joining
  | holding (conn : Nat)
  | done
  deriving DecidableEq, Repr

inductive ServerMain
  | waiting
  | handling (conn : Nat)
  | returned (err : Option Err)
  deriving DecidableEq, Repr

structure Sources where
  relay : Bool
  direct : Bool
  deriving DecidableEq, Repr

/-- `relayStopped` and `connChan` are the buffered channels, `invitations` counts what
the relay client has queued. `obtained`, `handled` and `closed` keep account of the
connections. -/
structure ServerState where
  serving : Bool
  relayStopped : Option (Option Err) := none
  invitations : Nat := 0
  acceptor : Acceptor
  joiner : Joiner
  connChan : Option Nat := none
  main : ServerMain := .waiting
  cancelled : Bool := false
  next : Nat := 0
  obtained : List Nat := []
  handled : List Nat := []
  closed : List Nat := []
  deriving DecidableEq, Repr

def Sources.start (sources : Sources) : ServerState where
  serving := sources.relay
  acceptor := if sources.direct then .accepting else .absent
  joiner := if sources.relay then .selecting else .absent

def ServerState.Returned (state : ServerState) : Prop := ∃ err, state.main = .returned err

inductive ServerLabel
  | serveReturns (err : Option Err)
  | invites
  | cancel
  | accepts
  | acceptFails (err : Err)
  | takesInvitation
  | joins
  | joinFails (err : Err)
  | takesStop
  | joinerDone
  | offers
  | takes
  | handled
  | ctxDone
  deriving DecidableEq, Repr

/-- What happens the same way in both modes. The send on `relayStopped` never blocks,
so it is part of the return of `Serve`. -/
inductive SourceStep : ServerState → ServerLabel → ServerState → Prop
  | serveReturns {state : ServerState} {err : Option Err} :
      state.serving = true →
      SourceStep state (.serveReturns err) { state with serving := false, relayStopped := some err }
  | invites {state : ServerState} :
      state.serving = true →
      SourceStep state .invites { state with invitations := state.invitations + 1 }
  | cancel {state : ServerState} : SourceStep state .cancel { state with cancelled := true }
  | acceptFails {state : ServerState} {err : Err} :
      state.acceptor = .accepting → SourceStep state (.acceptFails err) { state with acceptor := .done }
  | takesInvitation {state : ServerState} {rest : Nat} :
      state.joiner = .selecting → state.invitations = rest + 1 →
      SourceStep state .takesInvitation { state with joiner := .joining, invitations := rest }
  | joinFails {state : ServerState} {err : Err} :
      state.joiner = .joining → SourceStep state (.joinFails err) { state with joiner := .selecting }

/-- Netcat mode. The listener is closed when the call returns; a session may still be
joined after that, but does not count as obtained. -/
inductive NetcatStep : ServerState → ServerLabel → ServerState → Prop
  | source {state after : ServerState} {label : ServerLabel} :
      SourceStep state label after → NetcatStep state label after
  | accepts {state : ServerState} :
      state.acceptor = .accepting → ¬ state.Returned →
      NetcatStep state .accepts { state with
        acceptor := .holding state.next
        next := state.next + 1
        obtained := state.obtained ++ [state.next] }
  | acceptorOffers {state : ServerState} {conn : Nat} :
      state.acceptor = .holding conn → state.connChan = none →
      NetcatStep state .offers { state with acceptor := .done, connChan := some conn }
  | acceptorCloses {state : ServerState} {conn parked : Nat} :
      state.acceptor = .holding conn → state.connChan = some parked →
      NetcatStep state .offers { state with acceptor := .done, closed := state.closed ++ [conn] }
  | joins {state : ServerState} :
      state.joiner = .joining → ¬ state.Returned →
      NetcatStep state .joins { state with
        joiner := .holding state.next
        next := state.next + 1
        obtained := state.obtained ++ [state.next] }
  | joinsLate {state : ServerState} :
      state.joiner = .joining → state.Returned →
      NetcatStep state .joins { state with joiner := .holding state.next, next := state.next + 1 }
  | joinerOffers {state : ServerState} {conn : Nat} :
      state.joiner = .holding conn → state.connChan = none →
      NetcatStep state .offers { state with joiner := .done, connChan := some conn }
  | joinerCloses {state : ServerState} {conn parked : Nat} :
      state.joiner = .holding conn → state.connChan = some parked →
      NetcatStep state .offers { state with joiner := .selecting, closed := state.closed ++ [conn] }
  | takesStop {state : ServerState} {err : Option Err} :
      state.joiner = .selecting → state.relayStopped = some err →
      NetcatStep state .takesStop { state with joiner := .done, relayStopped := none }
  | joinerDone {state : ServerState} :
      state.joiner = .selecting → state.cancelled = true →
      NetcatStep state .joinerDone { state with joiner := .done }
  | takes {state : ServerState} {conn : Nat} :
      state.main = .waiting → state.connChan = some conn →
      NetcatStep state .takes { state with
        connChan := none, main := .handling conn, handled := state.handled ++ [conn] }
  | handled {state : ServerState} {conn : Nat} :
      state.main = .handling conn → NetcatStep state .handled { state with main := .returned none }
  | ctxDone {state : ServerState} :
      state.main = .waiting → state.cancelled = true →
      NetcatStep state .ctxDone { state with main := .returned (some (.text "context canceled")) }

def relayStoppedError : Option Err → Err
  | some err => err.wrap "relay client stopped: "
  | none => .text "relay client stopped"

/-- Forwarding mode: every connection gets a handler of its own. Without a relay the
caller's goroutine waits for its context only. -/
inductive ForwardStep : ServerState → ServerLabel → ServerState → Prop
  | source {state after : ServerState} {label : ServerLabel} :
      SourceStep state label after → ForwardStep state label after
  | accepts {state : ServerState} :
      state.acceptor = .accepting → ¬ state.Returned →
      ForwardStep state .accepts { state with
        next := state.next + 1, obtained := state.obtained ++ [state.next]
        handled := state.handled ++ [state.next] }
  | joins {state : ServerState} :
      state.joiner = .joining →
      ForwardStep state .joins { state with
        joiner := .selecting, next := state.next + 1, obtained := state.obtained ++ [state.next]
        handled := state.handled ++ [state.next] }
  | takesStop {state : ServerState} {err : Option Err} :
      state.main = .waiting → state.joiner = .selecting → state.relayStopped = some err →
      ForwardStep state .takesStop { state with
        joiner := .done, relayStopped := none, main := .returned (some (relayStoppedError err)) }
  | ctxDone {state : ServerState} :
      state.main = .waiting → state.joiner = .selecting ∨ state.joiner = .absent →
        state.cancelled = true →
      ForwardStep state .ctxDone { state with
        joiner := .done, main := .returned (some (.text "context canceled")) }

/-! Netcat mode serves one connection. -/

/-- The connection was given to `handleServerConn`, was closed, is about to be offered
or closed by the goroutine that has it, or waits in `connChan` for the caller. -/
def ServerState.Accounted (state : ServerState) (conn : Nat) : Prop :=
  conn ∈ state.handled ∨ conn ∈ state.closed ∨ state.acceptor = .holding conn ∨
    state.joiner = .holding conn ∨ (state.connChan = some conn ∧ state.main = .waiting)

/-- Connections are offered only while the caller's `select` waits for one, and the
`select` takes `ctx.Done()` only while none is queued. -/
def Prompt (state : ServerState) (label : ServerLabel) : Prop :=
  (label = .offers → state.main = .waiting) ∧ (label = .ctxDone → state.connChan = none)

def ServesOnce (state : ServerState) : Prop :=
  state.handled.length ≤ 1 ∧ (state.main = .waiting → state.handled = [])

variable {label : ServerLabel} {after state : ServerState}

theorem servesOnce_step (once : ServesOnce state)
    (step : NetcatStep state label after) : ServesOnce after := by
  obtain ⟨few, none⟩ := once
  cases step with
  | source step => cases step <;> exact ⟨few, none⟩
  | takes waiting _ => exact ⟨by simp [none waiting], by simp⟩
  | handled _ => exact ⟨few, by simp⟩
  | ctxDone _ _ => exact ⟨few, by simp⟩
  | _ => exact ⟨few, none⟩

structure AllAccounted (state : ServerState) : Prop where
  parked : state.connChan ≠ none → state.main = .waiting
  accounted : ∀ conn ∈ state.obtained, state.Accounted conn

theorem allAccounted_source (kept : AllAccounted state)
    (step : SourceStep state label after) : AllAccounted after := by
  obtain ⟨parked, accounted⟩ := kept
  cases step with
  | serveReturns _ => exact ⟨parked, accounted⟩
  | invites _ => exact ⟨parked, accounted⟩
  | cancel => exact ⟨parked, accounted⟩
  | acceptFails accepting =>
      refine ⟨parked, fun conn member => ?_⟩
      have before := accounted conn member
      simp only [ServerState.Accounted, accepting, reduceCtorEq, false_or] at before ⊢
      exact before
  | takesInvitation selecting _ =>
      refine ⟨parked, fun conn member => ?_⟩
      have before := accounted conn member
      simp only [ServerState.Accounted, selecting, reduceCtorEq, false_or] at before ⊢
      exact before
  | joinFails joining =>
      refine ⟨parked, fun conn member => ?_⟩
      have before := accounted conn member
      simp only [ServerState.Accounted, joining, reduceCtorEq, false_or] at before ⊢
      exact before

theorem allAccounted_step (kept : AllAccounted state)
    (prompt : Prompt state label) (step : NetcatStep state label after) : AllAccounted after := by
  cases step with
  | source step => exact allAccounted_source kept step
  | accepts accepting _ =>
      refine ⟨kept.parked, fun conn member => ?_⟩
      rcases List.mem_append.mp member with member | member
      · have before := kept.accounted conn member
        simp only [ServerState.Accounted, accepting, reduceCtorEq, false_or] at before ⊢
        tauto
      · rw [List.mem_singleton.mp member]
        exact Or.inr (Or.inr (Or.inl rfl))
  | @acceptorOffers conn holding free =>
      -- an offer that comes in time finds the caller's `select` waiting
      have waiting := prompt.1 rfl
      refine ⟨fun _ => waiting, fun other member => ?_⟩
      have before := kept.accounted other member
      simp only [ServerState.Accounted, holding, free, Acceptor.holding.injEq, reduceCtorEq,
        or_false, false_or, Option.some.injEq, waiting, and_true] at before ⊢
      tauto
  | @acceptorCloses conn parked holding full =>
      refine ⟨kept.parked, fun other member => ?_⟩
      have before := kept.accounted other member
      simp only [ServerState.Accounted, holding, Acceptor.holding.injEq, reduceCtorEq, false_or,
        List.mem_append, List.mem_singleton] at before ⊢
      tauto
  | joins joining _ =>
      refine ⟨kept.parked, fun conn member => ?_⟩
      rcases List.mem_append.mp member with member | member
      · have before := kept.accounted conn member
        simp only [ServerState.Accounted, joining, reduceCtorEq, false_or] at before ⊢
        tauto
      · rw [List.mem_singleton.mp member]
        exact Or.inr (Or.inr (Or.inr (Or.inl rfl)))
  | joinsLate joining _ =>
      refine ⟨kept.parked, fun conn member => ?_⟩
      have before := kept.accounted conn member
      simp only [ServerState.Accounted, joining, reduceCtorEq, false_or] at before ⊢
      tauto
  | @joinerOffers conn holding free =>
      have waiting := prompt.1 rfl
      refine ⟨fun _ => waiting, fun other member => ?_⟩
      have before := kept.accounted other member
      simp only [ServerState.Accounted, holding, free, Joiner.holding.injEq, reduceCtorEq,
        or_false, false_or, Option.some.injEq, waiting, and_true] at before ⊢
      tauto
  | @joinerCloses conn parked holding full =>
      refine ⟨kept.parked, fun other member => ?_⟩
      have before := kept.accounted other member
      simp only [ServerState.Accounted, holding, Joiner.holding.injEq, reduceCtorEq, false_or,
        List.mem_append, List.mem_singleton] at before ⊢
      tauto
  | takesStop selecting _ =>
      refine ⟨kept.parked, fun conn member => ?_⟩
      have before := kept.accounted conn member
      simp only [ServerState.Accounted, selecting, reduceCtorEq, false_or] at before ⊢
      exact before
  | joinerDone selecting _ =>
      refine ⟨kept.parked, fun conn member => ?_⟩
      have before := kept.accounted conn member
      simp only [ServerState.Accounted, selecting, reduceCtorEq, false_or] at before ⊢
      exact before
  | @takes conn waiting queued =>
      refine ⟨by simp, fun other member => ?_⟩
      have before := kept.accounted other member
      simp only [ServerState.Accounted, queued, Option.some.injEq, waiting, and_true, List.mem_append,
        List.mem_singleton, reduceCtorEq, false_and, or_false] at before ⊢
      tauto
  | handled handling =>
      have free : state.connChan = none := by
        -- nothing can be queued for a caller that has its connection
        by_contra queued
        simp [kept.parked queued] at handling
      refine ⟨by simp [free], fun conn member => ?_⟩
      have before := kept.accounted conn member
      simp only [ServerState.Accounted, free, reduceCtorEq, false_and, or_false] at before ⊢
      exact before
  | ctxDone _ _ =>
      have free := prompt.2 rfl
      refine ⟨by simp [free], fun conn member => ?_⟩
      have before := kept.accounted conn member
      simp only [ServerState.Accounted, free, reduceCtorEq, false_and, or_false] at before ⊢
      exact before

/-- Netcat mode gives at most one connection to `handleServerConn`. Every other one
is closed by the goroutine that obtained it, in the runs whose offers come in time. -/
theorem netcat_accounts_when_prompt (sources : Sources) :
    (∀ state, Reach NetcatStep anyStep sources.start state → state.handled.length ≤ 1) ∧
    ∀ state, Reach NetcatStep Prompt sources.start state →
      ∀ conn ∈ state.obtained, state.Accounted conn := by
  constructor
  · intro state reached
    have once : ServesOnce state :=
      reached.invariant ⟨by simp [Sources.start], by simp [Sources.start]⟩
        fun _ _ _ before _ step => servesOnce_step before step
    exact once.1
  · intro state reached
    have kept : AllAccounted state :=
      reached.invariant ⟨by simp [Sources.start], by simp [Sources.start]⟩
        fun _ _ _ before prompt step => allAccounted_step before prompt step
    exact kept.accounted

theorem Sources.start_unreturned (sources : Sources) : ¬ sources.start.Returned := by
  simp [ServerState.Returned, Sources.start]

theorem joined_session_closed :
    ∃ state, Reach NetcatStep Prompt (Sources.start ⟨true, true⟩) state ∧
    state.main = .handling 0 ∧ 1 ∈ state.closed ∧ state.Accounted 1 := by
  have free : ∀ {state label}, label ≠ .offers → label ≠ .ctxDone → Prompt state label :=
    fun notOffer notDone => ⟨fun offers => absurd offers notOffer, fun done => absurd done notDone⟩
  have start : Reach NetcatStep Prompt (Sources.start ⟨true, true⟩) _ := Reach.here
  have invited := start.take .invites (free (by simp) (by simp)) (.source (.invites rfl))
  have accepted := invited.take .accepts (free (by simp) (by simp))
    (.accepts rfl (Sources.start_unreturned ⟨true, true⟩))
  have joining := accepted.take .takesInvitation (free (by simp) (by simp))
    (.source (.takesInvitation rfl rfl))
  have joined := joining.take .joins (free (by simp) (by simp))
    (.joins rfl (Sources.start_unreturned ⟨true, true⟩))
  have offered := joined.take .offers ⟨fun _ => rfl, by simp⟩ (.acceptorOffers rfl rfl)
  have closed := offered.take .offers ⟨fun _ => rfl, by simp⟩ (.joinerCloses rfl rfl)
  have taken := closed.take .takes (free (by simp) (by simp)) (.takes rfl rfl)
  exact ⟨_, taken, rfl, by decide, (netcat_accounts_when_prompt ⟨true, true⟩).2 _ taken 1 (by decide)⟩

theorem joined_session_parked :
    ∃ state, Reach NetcatStep anyStep (Sources.start ⟨true, true⟩) state ∧
    state.main = .handling 0 ∧ state.connChan = some 1 ∧ 1 ∈ state.obtained ∧ ¬ state.Accounted 1 := by
  have start : Reach NetcatStep anyStep (Sources.start ⟨true, true⟩) _ := Reach.here
  have invited := start.take .invites trivial (.source (.invites rfl))
  have accepted := invited.take .accepts trivial (.accepts rfl (Sources.start_unreturned ⟨true, true⟩))
  have offered := accepted.take .offers trivial (.acceptorOffers rfl rfl)
  have taken := offered.take .takes trivial (.takes rfl rfl)
  have joining := taken.take .takesInvitation trivial (.source (.takesInvitation rfl rfl))
  have joined := joining.take .joins trivial (.joins rfl (by simp [ServerState.Returned]))
  have parked := joined.take .offers trivial (.joinerOffers rfl rfl)
  exact ⟨_, parked, rfl, rfl, by decide, by simp [ServerState.Accounted, Sources.start]⟩

/-! Who can still supply a connection. -/

def Acceptor.Running : Acceptor → Prop
  | accepting | holding _ => True
  | _ => False

def Joiner.Engaged : Joiner → Prop
  | joining | holding _ => True
  | _ => False

def ServerState.Live (state : ServerState) : Prop :=
  state.serving = true ∨ state.acceptor.Running ∨ state.joiner.Engaged

def ServerState.Queued (state : ServerState) : Prop :=
  state.connChan ≠ none ∨ (state.joiner = .selecting ∧ state.invitations ≠ 0)

/-- The caller's goroutine waits, and nothing tells it to stop. In netcat mode only its
context could; in forwarding mode the loop also watches `relayStopped`. -/
def ServerState.Waits (forwarding : Bool) (state : ServerState) : Prop :=
  state.main = .waiting ∧ state.cancelled = false ∧ (forwarding = true → state.relayStopped = none)

/-- While the caller waits with nothing queued, `Serve` returns and `Accept` fails only
when the other source is there to go on; the loop of forwarding mode hears of the
relay client's end by itself. -/
def Backed (forwarding : Bool) (state : ServerState) : ServerLabel → Prop
  | .serveReturns _ =>
      forwarding = false → state.Waits forwarding → state.connChan = none → state.acceptor.Running
  | .acceptFails _ => state.Waits forwarding → state.connChan = none → state.serving = true
  | _ => True

def ServerStep (forwarding : Bool) (state : ServerState) (label : ServerLabel)
    (after : ServerState) : Prop :=
  if forwarding then ForwardStep state label after else NetcatStep state label after

def Sustained (forwarding : Bool) (state : ServerState) : Prop :=
  state.Waits forwarding → state.connChan = none → state.serving = true ∨ state.acceptor.Running

theorem sustained_start (forwarding : Bool) {sources : Sources}
    (some : sources.relay = true ∨ sources.direct = true) : Sustained forwarding sources.start := by
  intro _ _
  rcases some with relay | direct
  · exact Or.inl relay
  · simp [Sources.start, direct, Acceptor.Running]

theorem sustained_source {forwarding : Bool}
    (sustained : Sustained forwarding state) (backed : Backed forwarding state label)
    (step : SourceStep state label after) : Sustained forwarding after := by
  rintro ⟨waiting, uncancelled, unstopped⟩ unqueued
  cases step with
  | serveReturns _ =>
      cases forwarding with
      | true => simp at unstopped
      | false => exact Or.inr (backed rfl ⟨waiting, uncancelled, by simp⟩ unqueued)
  | acceptFails _ => exact Or.inl (backed ⟨waiting, uncancelled, unstopped⟩ unqueued)
  | cancel => simp at uncancelled
  | invites _ => exact sustained ⟨waiting, uncancelled, unstopped⟩ unqueued
  | takesInvitation _ _ => exact sustained ⟨waiting, uncancelled, unstopped⟩ unqueued
  | joinFails _ => exact sustained ⟨waiting, uncancelled, unstopped⟩ unqueued

theorem sustained_step {forwarding : Bool}
    (sustained : Sustained forwarding state) (backed : Backed forwarding state label)
    (step : ServerStep forwarding state label after) : Sustained forwarding after := by
  cases forwarding with
  | false =>
      simp only [ServerStep, Bool.false_eq_true, ↓reduceIte] at step
      cases step with
      | source step => exact sustained_source sustained backed step
      | accepts _ _ => exact fun _ _ => Or.inr trivial
      | acceptorOffers _ _ => exact fun _ unqueued => absurd unqueued (by simp)
      | acceptorCloses _ full => exact fun _ unqueued => absurd unqueued (by simp [full])
      | joinerOffers _ _ => exact fun _ unqueued => absurd unqueued (by simp)
      | takes _ _ => exact fun waits => absurd waits.1 (by simp)
      | handled _ => exact fun waits => absurd waits.1 (by simp)
      | ctxDone _ _ => exact fun waits => absurd waits.1 (by simp)
      | joins _ _ => exact sustained
      | joinsLate _ _ => exact sustained
      | joinerCloses _ _ => exact sustained
      | takesStop _ _ => exact fun waits => sustained ⟨waits.1, waits.2.1, by simp⟩
      | joinerDone _ _ => exact sustained
  | true =>
      simp only [ServerStep, ↓reduceIte] at step
      cases step with
      | source step => exact sustained_source sustained backed step
      | accepts _ _ => exact sustained
      | joins _ => exact sustained
      | takesStop _ _ _ => exact fun waits => absurd waits.1 (by simp)
      | ctxDone _ _ _ => exact fun waits => absurd waits.1 (by simp)

/-- Whenever the caller's goroutine waits, somebody can still supply a connection, in
the runs where no source ends without the other to back it. -/
theorem server_never_waits_on_nothing_when_backed (forwarding : Bool) (sources : Sources)
    (some : sources.relay = true ∨ sources.direct = true) {state : ServerState}
    (reached : Reach (ServerStep forwarding) (Backed forwarding) sources.start state)
    (waits : state.Waits forwarding) : state.Live ∨ state.Queued := by
  have sustained : Sustained forwarding state :=
    reached.invariant (sustained_start forwarding some) fun _ _ _ before backed step =>
      sustained_step before backed step
  by_cases unqueued : state.connChan = none
  · rcases sustained waits unqueued with serving | running
    · exact Or.inl (Or.inl serving)
    · exact Or.inl (Or.inr (Or.inl running))
  · exact Or.inr (Or.inl unqueued)

theorem stopped_relay_backed : ∃ state,
    Reach (ServerStep false) (Backed false) (Sources.start ⟨true, true⟩) state ∧
      state.serving = false ∧ state.Waits false ∧ (state.Live ∨ state.Queued) := by
  have start : Reach (ServerStep false) (Backed false) (Sources.start ⟨true, true⟩) _ := Reach.here
  have stopped := start.take (.serveReturns none) (fun _ _ _ => trivial)
    (NetcatStep.source (.serveReturns rfl))
  have waits : ServerState.Waits false
      { Sources.start ⟨true, true⟩ with serving := false, relayStopped := some none } :=
    ⟨rfl, rfl, by simp⟩
  exact ⟨_, stopped, rfl, waits,
    server_never_waits_on_nothing_when_backed false ⟨true, true⟩ (Or.inl rfl) stopped waits⟩

theorem abandoned_servers_wait :
    (∃ state, Reach (ServerStep false) anyStep (Sources.start ⟨true, false⟩) state ∧
      state.joiner = .done ∧ state.Waits false ∧ ¬ (state.Live ∨ state.Queued)) ∧
    ∃ state, Reach (ServerStep true) anyStep (Sources.start ⟨false, true⟩) state ∧
      state.acceptor = .done ∧ state.Waits true ∧ ¬ (state.Live ∨ state.Queued) := by
  constructor
  · have start : Reach (ServerStep false) anyStep (Sources.start ⟨true, false⟩) _ := Reach.here
    have stopped := start.take (.serveReturns none) trivial (NetcatStep.source (.serveReturns rfl))
    have gone := stopped.take .takesStop trivial (NetcatStep.takesStop rfl rfl)
    refine ⟨_, gone, rfl, ⟨rfl, rfl, by simp⟩, ?_⟩
    simp [ServerState.Live, ServerState.Queued, Sources.start, Acceptor.Running, Joiner.Engaged]
  · have start : Reach (ServerStep true) anyStep (Sources.start ⟨false, true⟩) _ := Reach.here
    have failed := start.take (.acceptFails (.text "accept: too many open files")) trivial
      (ForwardStep.source (.acceptFails rfl))
    refine ⟨_, failed, rfl, ⟨rfl, rfl, by simp [Sources.start]⟩, ?_⟩
    simp [ServerState.Live, ServerState.Queued, Sources.start, Acceptor.Running, Joiner.Engaged]

end SyncthingSocket
