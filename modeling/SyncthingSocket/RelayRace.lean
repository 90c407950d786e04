import Mathlib.Data.List.Perm.Subperm
import Mathlib.Logic.Function.Basic
import SyncthingSocket.Reference
import SyncthingSocket.Effect.Transition

/-!
`dialFastestRelay` and `drainLateSessions` of `main.go`: one racer per usable relay address sends
its result on a channel with room for all of them; the caller takes results until one has a
connection, and a goroutine closes the sessions that come too late.
-/

namespace SyncthingSocket

open Effect

inductive RaceOutcome
  | noInvitation (err : Err)
  | noSession (err : Err)
  | session
  deriving DecidableEq, Repr

/-- `relayRaceResult`, with the racer that sent it; a connection is known by its racer. -/
structure RaceResult where
  racer : Nat
  conn : Option Nat
  relay : String
  err : Option Err
  deriving DecidableEq, Repr

inductive RacerPhase
  | inviting
  | joining
  | sending (result : RaceResult)
  | finished
  deriving DecidableEq, Repr

inductive RaceMain
  | collecting (i : Nat) (lastErr : Option Err)
  | won (conn : Nat)
  | failed (err : Err)
  | gaveUp
  deriving DecidableEq, Repr

/-- `drain` counts what is left for `drainLateSessions`, once it has been started.
`received`, `drained` and `opened` keep account of who took which racer's result and
which racers have joined a session. -/
structure Race where
  racers : Nat → RacerPhase := fun _ => .inviting
  results : List RaceResult := []
  main : RaceMain
  drain : Option Nat := none
  cancelled : Bool := false
  received : List Nat := []
  drained : List Nat := []
  opened : List Nat := []
  closed : List Nat := []

variable {i : Nat} {after race : Race}

section

variable (platform : Platform) (relayAddresses : List String) (outcome : Nat → RaceOutcome)

def raceHosts : List String :=
  relayAddresses.filterMap fun relayURI => (platform.urlHost relayURI).toOption

def racerCount : Nat := (raceHosts platform relayAddresses).length

def raceHost (i : Nat) : String := (raceHosts platform relayAddresses).getD i ""

def raceResult (i : Nat) : RaceResult :=
  let host := raceHost platform relayAddresses i
  match outcome i with
  | .noInvitation err =>
      ⟨i, none, host, some (err.wrap ("failed to get invitation from relay " ++ host ++ ": "))⟩
  | .noSession err =>
      ⟨i, none, host, some (err.wrap ("failed to join session on relay " ++ host ++ ": "))⟩
  | .session => ⟨i, some i, host, none⟩

def afterInvitation (i : Nat) : RacerPhase :=
  match outcome i with
  | .noInvitation _ => .sending (raceResult platform relayAddresses outcome i)
  | _ => .joining

def Race.start : Race where
  main := if racerCount platform relayAddresses =
    0 then .failed (.text "no usable relay addresses to try")
    else .collecting 0 none

inductive RaceLabel
  | invitation (i : Nat)
  | join (i : Nat)
  | send (i : Nat)
  | cancel
  | ctxDone
  | receive
  | conclude
  | drain
  deriving DecidableEq, Repr

inductive RaceStep : Race → RaceLabel → Race → Prop
  | invitation {race : Race} {i : Nat} :
      i < racerCount platform relayAddresses → race.racers i = .inviting →
      RaceStep race (.invitation i) { race with
        racers := Function.update race.racers i (afterInvitation platform relayAddresses outcome i) }
  | join {race : Race} {i : Nat} :
      i < racerCount platform relayAddresses → race.racers i = .joining →
      RaceStep race (.join i) { race with
        racers := Function.update race.racers i (.sending (raceResult platform relayAddresses outcome i))
        opened := race.opened ++ if outcome i = .session then [i] else [] }
  | send {race : Race} {i : Nat} {result : RaceResult} :
      i < racerCount platform relayAddresses → race.racers i = .sending result →
      race.results.length < relayAddresses.length →
      RaceStep race (.send i) { race with
        racers := Function.update race.racers i .finished
        results := race.results ++ [result] }
  | cancel {race : Race} : RaceStep race .cancel { race with cancelled := true }
  | ctxDone {race : Race} {i : Nat} {lastErr : Option Err} :
      race.main = .collecting i lastErr → i < racerCount platform relayAddresses → race.cancelled = true →
      RaceStep race .ctxDone { race with main := .gaveUp }
  | failure {race : Race} {i : Nat} {lastErr : Option Err} {result : RaceResult} {rest : List RaceResult}
      {err : Err} :
      race.main = .collecting i lastErr → i < racerCount platform relayAddresses →
      race.results = result :: rest → result.err = some err →
      RaceStep race .receive { race with
        results := rest
        main := .collecting (i + 1) (some err)
        received := race.received ++ [result.racer] }
  | success {race : Race} {i : Nat} {lastErr : Option Err} {result : RaceResult} {rest : List RaceResult}
      {conn : Nat} :
      race.main = .collecting i lastErr → i < racerCount platform relayAddresses →
      race.results = result :: rest → result.err = none → result.conn = some conn →
      RaceStep race .receive { race with
        results := rest
        main := .won conn
        received := race.received ++ [result.racer]
        drain := some (racerCount platform relayAddresses - i - 1) }
  | conclude {race : Race} {lastErr : Option Err} :
      race.main = .collecting (racerCount platform relayAddresses) lastErr →
      RaceStep race .conclude { race with
        main := .failed (lastErr.getD (.text "no relay offered a session")) }
  | drain {race : Race} {remaining : Nat} {result : RaceResult} {rest : List RaceResult} :
      race.drain = some (remaining + 1) → race.results = result :: rest →
      RaceStep race .drain { race with
        results := rest
        drain := some remaining
        drained := race.drained ++ [result.racer]
        closed := race.closed ++ result.conn.toList }

def Race.Returned (race : Race) : Prop := ∀ i lastErr, race.main ≠ .collecting i lastErr

def Race.Stuck (race : Race) : Prop :=
  ∀ label after, RaceStep platform relayAddresses outcome race label after → label = .cancel

def Race.Terminal (race : Race) : Prop := race.Returned ∧ race.Stuck platform relayAddresses outcome

def Race.Leaks (race : Race) : Prop :=
  ∃ conn ∈ race.opened, race.main ≠ .won conn ∧ conn ∉ race.closed

/-! Where the results are. -/

def Race.placed (race : Race) : List Nat :=
  race.results.map RaceResult.racer ++ (race.received ++ race.drained)

def Race.Account (race : Race) : Prop :=
  match race.main with
  | .collecting i _ => race.received.length = i ∧ i ≤ racerCount platform relayAddresses ∧
      race.drain = none ∧ race.drained = [] ∧ ∀ racer ∈ race.received, outcome racer ≠ .session
  | .won conn => (∃ remaining, race.drain = some remaining ∧
        remaining + race.received.length + race.drained.length = racerCount platform relayAddresses) ∧
      ∀ racer ∈ race.received, outcome racer = .session → racer = conn
  | .failed _ => race.received.length = racerCount platform relayAddresses ∧ race.drain = none ∧
      race.drained = [] ∧ ∀ racer ∈ race.received, outcome racer ≠ .session
  | .gaveUp => race.drain = none ∧ race.drained = [] ∧ ∀ racer ∈ race.received, outcome racer ≠ .session

structure Racing (race : Race) : Prop where
  results : ∀ result ∈ race.results, result = raceResult platform relayAddresses outcome result.racer
  sending : ∀ i result, race.racers i = .sending result →
    result = raceResult platform relayAddresses outcome i
  unique : race.placed.Nodup
  placed : ∀ i, i ∈ race.placed ↔ i < racerCount platform relayAddresses ∧ race.racers i = .finished
  opened : ∀ i, i ∈ race.opened ↔ i < racerCount platform relayAddresses ∧ outcome i = .session ∧
    (race.racers i = .finished ∨ ∃ result, race.racers i = .sending result)
  closed : ∀ i, i ∈ race.closed ↔ i ∈ race.drained ∧ outcome i = .session
  account : race.Account platform relayAddresses outcome

variable {platform relayAddresses outcome}

theorem raceResult_racer (i : Nat) : (raceResult platform relayAddresses outcome i).racer = i := by
  rw [raceResult]
  cases outcome i <;> rfl

theorem raceResult_conn (i : Nat) :
    (raceResult platform relayAddresses outcome i).conn = if outcome i =
      .session then some i else none := by
  rw [raceResult]
  cases outcome i <;> rfl

theorem raceResult_err (i : Nat) :
    (raceResult platform relayAddresses outcome i).err = none ↔ outcome i = .session := by
  rw [raceResult]
  cases outcome i <;> simp

theorem racing_start :
    Racing platform relayAddresses outcome (Race.start platform relayAddresses) where
  results := by simp [Race.start]
  sending := by simp [Race.start]
  unique := by simp [Race.start, Race.placed]
  placed := by simp [Race.start, Race.placed]
  opened := by simp [Race.start]
  closed := by simp [Race.start]
  account := by
    rw [Race.Account, Race.start]
    by_cases none : racerCount platform relayAddresses = 0
    · simp [none]
    · simp [none]

theorem Racing.racer_moves {phase : RacerPhase} {opened : List Nat}
    (racing : Racing platform relayAddresses outcome race)
    (unfinished : race.racers i ≠ .finished) (moves : phase ≠ .finished)
    (sends : ∀ result, phase = .sending result → result = raceResult platform relayAddresses outcome i)
    (joined : ∀ racer, racer ∈ opened ↔ racer < racerCount platform relayAddresses ∧
      outcome racer = .session ∧
      (Function.update race.racers i phase racer = .finished ∨
        ∃ result, Function.update race.racers i phase racer = .sending result)) :
    Racing platform relayAddresses outcome
      { race with racers := Function.update race.racers i phase, opened := opened } := by
  obtain ⟨results, sending, unique, placed, _, closed, account⟩ := racing
  refine ⟨results, ?_, unique, ?_, joined, closed, account⟩
  · intro racer result sends'
    by_cases same : racer = i
    · subst same
      exact sends result (by simpa using sends')
    · exact sending racer result (by simpa [same] using sends')
  · intro racer
    rw [show Race.placed { race with racers := Function.update race.racers i phase, opened := opened } =
      race.placed from rfl, placed racer]
    by_cases same : racer = i
    · subst same
      simp [unfinished, moves]
    · simp [same]

theorem Racing.invitation (racing : Racing platform relayAddresses outcome race)
    (inviting : race.racers i = .inviting) :
    Racing platform relayAddresses outcome { race with
      racers := Function.update race.racers i (afterInvitation platform relayAddresses outcome i) } := by
  refine racing.racer_moves (by simp [inviting]) ?_ ?_ ?_
  · rw [afterInvitation]
    split <;> simp
  · intro result sends
    rw [afterInvitation] at sends
    split at sends
    · injection sends with sends
      exact sends.symm
    · simp at sends
  · intro racer
    rw [racing.opened racer]
    by_cases same : racer = i
    · subst same
      simp only [Function.update_self, inviting, reduceCtorEq, exists_false, or_self,
        and_false, false_iff, afterInvitation]
      rintro ⟨_, session, moved⟩
      simp [session] at moved
    · simp [same]

theorem Racing.join (racing : Racing platform relayAddresses outcome race)
    (bound : i < racerCount platform relayAddresses) (joining : race.racers i = .joining) :
    Racing platform relayAddresses outcome { race with
      racers := Function.update race.racers i (.sending (raceResult platform relayAddresses outcome i))
      opened := race.opened ++ if outcome i = .session then [i] else [] } := by
  refine racing.racer_moves (by simp [joining]) (by simp) ?_ ?_
  · intro result sends
    injection sends with sends
    exact sends.symm
  · intro racer
    rw [List.mem_append, racing.opened racer]
    by_cases same : racer = i
    · subst same
      by_cases session : outcome racer = .session
      · simp [session, bound]
      · simp [session]
    · have other : racer ∉ (if outcome i = .session then [i] else []) := by
        split <;> simp [same]
      simp [same, other]

theorem Racing.send {result : RaceResult} (racing : Racing platform relayAddresses outcome race)
    (bound : i < racerCount platform relayAddresses) (sends : race.racers i = .sending result) :
    Racing platform relayAddresses outcome { race with
      racers := Function.update race.racers i .finished
      results := race.results ++ [result] } := by
  obtain ⟨results, sending, unique, placed, opened, closed, account⟩ := racing
  have final := sending i result sends
  have fresh : i ∉ race.placed := by
    rw [placed i]
    simp [sends]
  have perm : (Race.placed { race with
      racers := Function.update race.racers i .finished
      results := race.results ++ [result] }).Perm (i :: race.placed) := by
    simp only [Race.placed, List.map_append, List.map_cons, List.map_nil, List.append_assoc,
      List.singleton_append, final, raceResult_racer]
    exact List.perm_middle
  refine ⟨?_, ?_, perm.nodup_iff.mpr (List.nodup_cons.mpr ⟨fresh, unique⟩), ?_, ?_, closed, account⟩
  · intro found member
    rcases List.mem_append.mp member with member | member
    · exact results found member
    · rw [List.mem_singleton.mp member, final, raceResult_racer]
  · intro racer other sends'
    by_cases same : racer = i
    · subst same
      simp at sends'
    · exact sending racer other (by simpa [same] using sends')
  · intro racer
    rw [perm.mem_iff, List.mem_cons, placed racer]
    by_cases same : racer = i
    · subst same
      simp [bound]
    · simp [same]
  · intro racer
    rw [opened racer]
    by_cases same : racer = i
    · subst same
      simp [sends]
    · simp [same]

theorem received_perm (rest received drained : List Nat) (racer : Nat) :
    (rest ++ (received ++ [racer] ++ drained)).Perm (racer :: rest ++ (received ++ drained)) := by
  have middle : (rest ++ received ++ racer :: drained).Perm (racer :: (rest ++ received ++ drained)) :=
    List.perm_middle
  simpa using middle

theorem drained_perm (rest received drained : List Nat) (racer : Nat) :
    (rest ++ (received ++ (drained ++ [racer]))).Perm (racer :: rest ++ (received ++ drained)) := by
  have last : (rest ++ received ++ drained ++ [racer]).Perm (racer :: (rest ++ received ++ drained)) :=
    List.perm_append_singleton _ _
  simpa using last

theorem Racing.take (racing : Racing platform relayAddresses outcome race)
    (racers : after.racers = race.racers) (opened : after.opened = race.opened)
    (fewer : ∀ result ∈ after.results, result ∈ race.results) (perm : after.placed.Perm race.placed)
    (closed : ∀ i, i ∈ after.closed ↔ i ∈ after.drained ∧ outcome i = .session)
    (account : after.Account platform relayAddresses outcome) :
    Racing platform relayAddresses outcome after where
  results result member := racing.results result (fewer result member)
  sending := by
    rw [racers]
    exact racing.sending
  unique := perm.nodup_iff.mpr racing.unique
  placed i := by
    rw [perm.mem_iff, racing.placed i, racers]
  opened i := by
    rw [opened, racing.opened i, racers]
  closed := closed
  account := account

theorem racing_step {label : RaceLabel} (racing : Racing platform relayAddresses outcome race)
    (step : RaceStep platform relayAddresses outcome race label after) :
    Racing platform relayAddresses outcome after := by
  have account := racing.account
  cases step with
  | invitation _ inviting => exact racing.invitation inviting
  | join bound joining => exact racing.join bound joining
  | send bound sends _ => exact racing.send bound sends
  | cancel => exact { racing with }
  | ctxDone collecting _ _ =>
      simp only [Race.Account, collecting] at account
      exact { racing with account := account.2.2 }
  | @failure i lastErr result rest err collecting bound first failed =>
      simp only [Race.Account, collecting] at account
      obtain ⟨count, _, undrained, none, failures⟩ := account
      have final := racing.results result (by simp [first])
      refine racing.take rfl rfl (by simp +contextual [first]) ?_ racing.closed ?_
      · simp only [Race.placed, first, List.map_cons]
        exact received_perm _ _ _ _
      · refine ⟨by simp [count], bound, undrained, none, ?_⟩
        intro racer member
        rcases List.mem_append.mp member with member | member
        · exact failures racer member
        · rw [List.mem_singleton.mp member]
          intro session
          rw [final, (raceResult_err _).mpr session] at failed
          simp at failed
  | @success i lastErr result rest conn collecting bound first _ joined =>
      simp only [Race.Account, collecting] at account
      obtain ⟨count, _, _, none, failures⟩ := account
      have final := racing.results result (by simp [first])
      refine racing.take rfl rfl (by simp +contextual [first]) ?_ racing.closed ?_
      · simp only [Race.placed, first, List.map_cons]
        exact received_perm _ _ _ _
      · refine ⟨⟨_, rfl, ?_⟩, ?_⟩
        · simp only [List.length_append, List.length_singleton, none, List.length_nil]
          omega
        · intro racer member session
          rcases List.mem_append.mp member with member | member
          · exact absurd session (failures racer member)
          · rw [List.mem_singleton.mp member] at session ⊢
            rw [final, raceResult_conn, if_pos session] at joined
            exact Option.some.inj joined
  | conclude collecting =>
      simp only [Race.Account, collecting] at account
      exact { racing with account := ⟨account.1, account.2.2⟩ }
  | @drain remaining result rest draining first =>
      have final := racing.results result (by simp [first])
      refine racing.take rfl rfl (by simp +contextual [first]) ?_ ?_ ?_
      · simp only [Race.placed, first, List.map_cons]
        exact drained_perm _ _ _ _
      · intro i
        have conn : i ∈ result.conn.toList ↔ i = result.racer ∧ outcome i = .session := by
          rw [final, raceResult_conn, raceResult_racer]
          split
          · next session =>
              simp only [Option.toList_some, List.mem_singleton]
              constructor
              · rintro rfl
                exact ⟨rfl, session⟩
              · exact fun both => both.1
          · next other =>
              simp only [Option.toList_none, List.not_mem_nil, false_iff]
              rintro ⟨rfl, session⟩
              exact other session
        rw [List.mem_append, List.mem_append, racing.closed i, conn, List.mem_singleton]
        constructor
        · rintro (⟨member, session⟩ | ⟨same, session⟩)
          · exact ⟨Or.inl member, session⟩
          · exact ⟨Or.inr same, session⟩
        · rintro ⟨member | same, session⟩
          · exact Or.inl ⟨member, session⟩
          · exact Or.inr ⟨same, session⟩
      · cases main : race.main with
        | won conn =>
            simp only [Race.Account, main] at account ⊢
            obtain ⟨⟨left, leftEq, total⟩, only⟩ := account
            rw [draining, Option.some.injEq] at leftEq
            refine ⟨⟨remaining, rfl, ?_⟩, only⟩
            simp only [List.length_append, List.length_singleton]
            omega
        -- only a winner starts the drain goroutine
        | _ => simp [Race.Account, main, draining] at account

theorem racing_of_reach
    (reached : Reach (RaceStep platform relayAddresses outcome) anyStep
      (Race.start platform relayAddresses) race) :
    Racing platform relayAddresses outcome race :=
  reached.invariant racing_start fun _ _ _ racing _ step => racing_step racing step

/-! What is left when nothing moves any more. -/

theorem racerCount_le : racerCount platform relayAddresses ≤ relayAddresses.length :=
  List.length_filterMap_le _ _

theorem Racing.room (racing : Racing platform relayAddresses outcome race) {result : RaceResult}
    (bound : i < racerCount platform relayAddresses) (phase : race.racers i = .sending result) :
    race.results.length < relayAddresses.length := by
  have fresh : i ∉ race.results.map RaceResult.racer := by
    intro member
    have placed := (racing.placed i).mp (List.mem_append_left _ member)
    simp [phase] at placed
  have unique : (i :: race.results.map RaceResult.racer).Nodup :=
    List.nodup_cons.mpr ⟨fresh, (List.nodup_append.mp racing.unique).1⟩
  have within :
      i :: race.results.map RaceResult.racer ⊆ List.range (racerCount platform relayAddresses) := by
    intro racer member
    rw [List.mem_range]
    rcases List.mem_cons.mp member with rfl | member
    · exact bound
    · exact ((racing.placed racer).mp (List.mem_append_left _ member)).1
  have room := (unique.subperm within).length_le
  simp only [List.length_cons, List.length_map, List.length_range] at room
  have capacity : racerCount platform relayAddresses ≤ relayAddresses.length := racerCount_le
  omega

theorem Racing.finished (racing : Racing platform relayAddresses outcome race)
    (stuck : race.Stuck platform relayAddresses outcome)
    (bound : i < racerCount platform relayAddresses) : race.racers i = .finished := by
  cases phase : race.racers i with
  | finished => rfl
  | inviting => exact absurd (stuck _ _ (RaceStep.invitation bound phase)) (by simp)
  | joining => exact absurd (stuck _ _ (RaceStep.join bound phase)) (by simp)
  | sending result =>
      exact absurd (stuck _ _ (RaceStep.send bound phase (racing.room bound phase))) (by simp)

theorem Racing.placed_length (racing : Racing platform relayAddresses outcome race)
    (stuck : race.Stuck platform relayAddresses outcome) :
    race.results.length + race.received.length + race.drained.length =
      racerCount platform relayAddresses := by
  have perm : race.placed.Perm (List.range (racerCount platform relayAddresses)) := by
    rw [List.perm_ext_iff_of_nodup racing.unique List.nodup_range]
    intro i
    rw [racing.placed i, List.mem_range]
    exact ⟨fun placed => placed.1, fun bound => ⟨bound, racing.finished stuck bound⟩⟩
  have lengths := perm.length_eq
  simp only [Race.placed, List.length_append, List.length_map, List.length_range] at lengths
  omega

theorem Racing.mem_opened (racing : Racing platform relayAddresses outcome race)
    (stuck : race.Stuck platform relayAddresses outcome) (i : Nat) :
    i ∈ race.opened ↔ i < racerCount platform relayAddresses ∧ outcome i = .session := by
  rw [racing.opened i]
  constructor
  · exact fun opened => ⟨opened.1, opened.2.1⟩
  · rintro ⟨bound, session⟩
    exact ⟨bound, session, Or.inl (racing.finished stuck bound)⟩

theorem Racing.taken (racing : Racing platform relayAddresses outcome race)
    (stuck : race.Stuck platform relayAddresses outcome) (empty : race.results = [])
    (bound : i < racerCount platform relayAddresses) : i ∈ race.received ∨ i ∈ race.drained := by
  have placed := (racing.placed i).mpr ⟨bound, racing.finished stuck bound⟩
  simpa [Race.placed, empty] using placed

theorem Racing.drain_done (racing : Racing platform relayAddresses outcome race)
    (stuck : race.Stuck platform relayAddresses outcome) {conn : Nat}
    (won : race.main = .won conn) :
    race.drain = some 0 ∧ race.results = [] := by
  have account := racing.account
  have count := racing.placed_length stuck
  simp only [Race.Account, won] at account
  obtain ⟨⟨remaining, draining, total⟩, _⟩ := account
  cases results : race.results with
  | nil =>
      rw [results, List.length_nil] at count
      obtain rfl : remaining = 0 := by omega
      exact ⟨draining, rfl⟩
  | cons result rest =>
      cases remaining with
      | zero =>
          rw [results, List.length_cons] at count
          omega
      | succ remaining => exact absurd (stuck _ _ (RaceStep.drain draining results)) (by simp)

theorem leaks_iff_late
    (reached : Reach (RaceStep platform relayAddresses outcome) anyStep
      (Race.start platform relayAddresses) race)
    (terminal : race.Terminal platform relayAddresses outcome) :
    ¬ race.Leaks ↔ (race.main = .gaveUp →
      ∀ i < racerCount platform relayAddresses, i ∉ race.received → outcome i ≠ .session) := by
  have racing := racing_of_reach reached
  have account := racing.account
  have count := racing.placed_length terminal.2
  cases main : race.main with
  | collecting i lastErr => exact absurd main (terminal.1 i lastErr)
  | won conn =>
      simp only [Race.Account, main] at account
      obtain ⟨_, only⟩ := account
      -- whoever lost was taken by the drain goroutine, and closed
      have empty := (racing.drain_done terminal.2 main).2
      simp only [reduceCtorEq, false_implies, iff_true]
      rintro ⟨i, opened, lost, unclosed⟩
      obtain ⟨bound, session⟩ := (racing.mem_opened terminal.2 i).mp opened
      rcases racing.taken terminal.2 empty bound with member | member
      · exact lost (by rw [main, only i member session])
      · exact unclosed ((racing.closed i).mpr ⟨member, session⟩)
  | failed err =>
      simp only [Race.Account, main] at account
      obtain ⟨total, _, none, failures⟩ := account
      have empty : race.results = [] := List.length_eq_zero_iff.mp (by omega)
      simp only [reduceCtorEq, false_implies, iff_true]
      rintro ⟨i, opened, _⟩
      obtain ⟨bound, session⟩ := (racing.mem_opened terminal.2 i).mp opened
      rcases racing.taken terminal.2 empty bound with member | member
      · exact failures i member session
      · simp [none] at member
  | gaveUp =>
      simp only [Race.Account, main] at account
      -- nobody drains after `ctx.Done()`: what was not received by then is never closed
      obtain ⟨_, none, failures⟩ := account
      simp only [forall_const]
      constructor
      · intro tight i bound _ session
        refine tight ⟨i, (racing.mem_opened terminal.2 i).mpr ⟨bound, session⟩, by simp [main], ?_⟩
        rw [racing.closed i, none]
        simp
      · rintro late ⟨i, opened, _⟩
        obtain ⟨bound, session⟩ := (racing.mem_opened terminal.2 i).mp opened
        exact late i bound (fun member => failures i member session) session

variable (platform relayAddresses outcome) in
/-- The `ctx.Done()` case is taken only when no racer whose result has not been
received gets a session. -/
def TimelyCancel (race : Race) (label : RaceLabel) : Prop :=
  label = .ctxDone → ∀ i < racerCount platform relayAddresses, i ∉ race.received → outcome i ≠ .session

theorem RaceStep.gives_up {label : RaceLabel}
    (step : RaceStep platform relayAddresses outcome race label after) :
    (label = .ctxDone ∧ after.main = .gaveUp ∧ race.main ≠ .gaveUp ∧ after.received = race.received) ∨
    (label ≠ .ctxDone ∧ (after.main = .gaveUp ↔ race.main = .gaveUp) ∧
      (race.main = .gaveUp → after.received = race.received)) := by
  cases step with
  | ctxDone collecting _ _ => exact Or.inl ⟨rfl, rfl, by simp [collecting], rfl⟩
  | failure collecting _ _ _ => exact Or.inr ⟨by simp, by simp [collecting], by simp [collecting]⟩
  | success collecting _ _ _ _ => exact Or.inr ⟨by simp, by simp [collecting], by simp [collecting]⟩
  | conclude collecting => exact Or.inr ⟨by simp, by simp [collecting], by simp [collecting]⟩
  | invitation _ _ => exact Or.inr ⟨by simp, Iff.rfl, fun _ => rfl⟩
  | join _ _ => exact Or.inr ⟨by simp, Iff.rfl, fun _ => rfl⟩
  | send _ _ _ => exact Or.inr ⟨by simp, Iff.rfl, fun _ => rfl⟩
  | cancel => exact Or.inr ⟨by simp, Iff.rfl, fun _ => rfl⟩
  | drain _ _ => exact Or.inr ⟨by simp, Iff.rfl, fun _ => rfl⟩

/-- The race leaks no session exactly in the runs where every `ctx.Done()` is timely. -/
theorem relayRace_leaks_nothing_iff_timely (platform : Platform) (relayAddresses : List String)
    (outcome : Nat → RaceOutcome) {race : Race}
    (reached : Reach (RaceStep platform relayAddresses outcome) anyStep
      (Race.start platform relayAddresses) race)
    (terminal : race.Terminal platform relayAddresses outcome) :
    ¬ race.Leaks ↔ Reach (RaceStep platform relayAddresses outcome)
      (TimelyCancel platform relayAddresses outcome)
      (Race.start platform relayAddresses) race := by
  rw [leaks_iff_late reached terminal]
  clear terminal
  constructor
  · induction reached with
    | here => exact fun _ => Reach.here
    | @next before after label _ _ step ih =>
        intro timely
        rcases step.gives_up with ⟨_, gaveUp, other, same⟩ | ⟨other, gone, same⟩
        · refine Reach.next (ih fun already => absurd already other) (fun _ => ?_) step
          rw [← same]
          exact timely gaveUp
        · refine Reach.next (ih fun already => ?_) (fun done => absurd done other) step
          rw [← same already]
          exact timely (gone.mpr already)
  · intro allTimely
    clear reached
    induction allTimely with
    | here =>
        intro gaveUp
        rw [Race.start] at gaveUp
        split at gaveUp <;> simp at gaveUp
    | @next before after label _ timely step ih =>
        intro gaveUp
        rcases step.gives_up with ⟨done, _, _, same⟩ | ⟨_, gone, same⟩
        · rw [same]
          exact timely done
        · have already := gone.mp gaveUp
          rw [same already]
          exact ih already

theorem Race.terminal_of_finished (returned : race.Returned)
    (finished : ∀ i < racerCount platform relayAddresses, race.racers i = .finished)
    (drained : race.results = [] ∨ race.drain = none) :
    race.Terminal platform relayAddresses outcome := by
  refine ⟨returned, ?_⟩
  intro label after step
  cases step with
  | cancel => rfl
  | invitation bound phase => simp [finished _ bound] at phase
  | join bound phase => simp [finished _ bound] at phase
  | send bound phase _ => simp [finished _ bound] at phase
  | ctxDone collecting _ _ => exact absurd collecting (returned _ _)
  | failure collecting _ _ _ => exact absurd collecting (returned _ _)
  | success collecting _ _ _ _ => exact absurd collecting (returned _ _)
  | conclude collecting => exact absurd collecting (returned _ _)
  | drain draining first => rcases drained with empty | none <;> simp_all

end

/-! Two relays that offer a session: the second session arrives when the first has won. -/

def twoRelays : List String := ["relay://near", "relay://far"]

abbrev TwoRaceStep : Race → RaceLabel → Race → Prop :=
  RaceStep referencePlatform twoRelays fun _ => .session

theorem late_session_drained : ∃ race,
    Reach TwoRaceStep anyStep (Race.start referencePlatform twoRelays) race ∧
    race.Terminal referencePlatform twoRelays (fun _ => .session) ∧
    race.main = .won 0 ∧ race.opened = [0, 1] ∧ race.closed = [1] ∧ ¬ race.Leaks := by
  have timely : ∀ race label, label ≠ .ctxDone →
      TimelyCancel referencePlatform twoRelays (fun _ => .session) race label :=
    fun _ _ other done => absurd done other
  have first : 0 < racerCount referencePlatform twoRelays := by decide
  have second : 1 < racerCount referencePlatform twoRelays := by decide
  have invited : Reach TwoRaceStep (TimelyCancel referencePlatform twoRelays fun _ => .session)
      (Race.start referencePlatform twoRelays) _ :=
    Reach.next Reach.here (timely _ (.invitation 0) (by simp)) (RaceStep.invitation first rfl)
  have joined := Reach.next invited (timely _ (.join 0) (by simp)) (RaceStep.join first rfl)
  have sent := Reach.next joined (timely _ (.send 0) (by simp)) (RaceStep.send first rfl (by decide))
  have won := Reach.next sent (timely _ .receive (by simp)) (RaceStep.success rfl first rfl rfl rfl)
  have lateInvited := Reach.next won (timely _ (.invitation 1) (by simp)) (RaceStep.invitation second rfl)
  have lateJoined := Reach.next lateInvited (timely _ (.join 1) (by simp)) (RaceStep.join second rfl)
  have lateSent := Reach.next lateJoined (timely _ (.send 1) (by simp))
    (RaceStep.send second rfl (by decide))
  have drained := Reach.next lateSent (timely _ .drain (by simp)) (RaceStep.drain rfl rfl)
  obtain ⟨race, reached, main, opened, closed, finished, alsoFinished, empty⟩ : ∃ race,
      Reach TwoRaceStep (TimelyCancel referencePlatform twoRelays fun _ => .session)
        (Race.start referencePlatform twoRelays) race ∧
      race.main = .won 0 ∧ race.opened = [0, 1] ∧ race.closed = [1] ∧
      race.racers 0 = .finished ∧ race.racers 1 = .finished ∧ race.results = [] :=
    ⟨_, drained, rfl, rfl, rfl, rfl, rfl, rfl⟩
  have terminal : race.Terminal referencePlatform twoRelays (fun _ => .session) := by
    refine Race.terminal_of_finished (by simp [Race.Returned, main]) ?_ (Or.inl empty)
    intro i bound
    have either : i = 0 ∨ i = 1 := by
      have count : racerCount referencePlatform twoRelays = 2 := rfl
      omega
    rcases either with rfl | rfl
    · exact finished
    · exact alsoFinished
  have anyhow : Reach TwoRaceStep anyStep (Race.start referencePlatform twoRelays) race :=
    reached.mono fun _ _ _ => trivial
  exact ⟨race, anyhow, terminal, main, opened, closed,
    (relayRace_leaks_nothing_iff_timely referencePlatform twoRelays _ anyhow terminal).mpr reached⟩

/-! One relay that offers a session, and a caller that has given up. -/

def oneRelay : List String := ["relay://host"]

abbrev oneRace : Race := Race.start referencePlatform oneRelay

abbrev OneRaceStep : Race → RaceLabel → Race → Prop :=
  RaceStep referencePlatform oneRelay fun _ => .session

theorem cancelled_race_leaks : ∃ race, Reach OneRaceStep anyStep oneRace race ∧
    race.Terminal referencePlatform oneRelay (fun _ => .session) ∧ race.Leaks := by
  have bound : 0 < racerCount referencePlatform oneRelay := by decide
  have invited : Reach OneRaceStep anyStep oneRace _ :=
    Reach.next Reach.here trivial (RaceStep.invitation bound rfl)
  have joined := Reach.next invited trivial (RaceStep.join bound rfl)
  have cancelled := Reach.next joined trivial RaceStep.cancel
  have gaveUp := Reach.next cancelled trivial (RaceStep.ctxDone rfl bound rfl)
  have sent := Reach.next gaveUp trivial (RaceStep.send bound rfl (by decide))
  refine ⟨_, sent, Race.terminal_of_finished (by simp [Race.Returned]) ?_ (Or.inr rfl), 0, ?_⟩
  · intro i inside
    obtain rfl : i = 0 := Nat.lt_one_iff.mp inside
    rfl
  · simp [Race.start]

end SyncthingSocket
