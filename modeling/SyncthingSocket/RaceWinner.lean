import SyncthingSocket.RelayRace

/-!
Who wins the relay race: as long as the caller's context is not cancelled, the first session in
the order of arrival is returned, and the drain goroutine takes what is left.
-/

namespace SyncthingSocket

open Effect

variable {after race : Race} {label : RaceLabel}

section

variable (platform : Platform) (relayAddresses : List String) (outcome : Nat → RaceOutcome)

def Uncancelled (_ : Race) (label : RaceLabel) : Prop := label ≠ .cancel

def Race.arrived (race : Race) : List Nat :=
  race.received ++ (race.drained ++ race.results.map RaceResult.racer)

def Race.Decided (race : Race) : Prop :=
  match race.main with
  | .collecting _ lastErr => 0 < racerCount platform relayAddresses ∧
      lastErr = race.received.getLast?.bind fun racer =>
        (raceResult platform relayAddresses outcome racer).err
  | .won conn => ∃ failures, race.received = failures ++ [conn] ∧ outcome conn = .session ∧
      ∀ racer ∈ failures, outcome racer ≠ .session
  | .failed err =>
      (racerCount platform relayAddresses = 0 ∧ err = .text "no usable relay addresses to try") ∨
      ∃ last, race.received.getLast? = some last ∧
        (raceResult platform relayAddresses outcome last).err = some err
  | .gaveUp => True

variable {platform relayAddresses outcome}

theorem arrived_step (racing : Racing platform relayAddresses outcome race)
    (step : RaceStep platform relayAddresses outcome race label after) :
    after.arrived = race.arrived ∨ ∃ i, label = .send i ∧ after.arrived = race.arrived ++ [i] := by
  -- A result arrives when its racer sends it, and keeps its place whoever takes it.
  have account := racing.account
  cases step with
  | invitation _ _ => exact Or.inl rfl
  | join _ _ => exact Or.inl rfl
  | cancel => exact Or.inl rfl
  | ctxDone _ _ _ => exact Or.inl rfl
  | conclude _ => exact Or.inl rfl
  | @send i result _ sends _ =>
      refine Or.inr ⟨i, rfl, ?_⟩
      rw [racing.sending i result sends]
      simp [Race.arrived, raceResult_racer]
  | failure collecting _ first _ =>
      simp only [Race.Account, collecting] at account
      simp [Race.arrived, account.2.2.2.1, first]
  | success collecting _ first _ _ =>
      simp only [Race.Account, collecting] at account
      simp [Race.arrived, account.2.2.2.1, first]
  | drain _ first => simp [Race.arrived, first]

theorem decided_start :
    (Race.start platform relayAddresses).Decided platform relayAddresses outcome := by
  rw [Race.Decided, Race.start]
  by_cases none : racerCount platform relayAddresses = 0
  · simp [none]
  · simp [none, Nat.pos_of_ne_zero none]

theorem decided_step (racing : Racing platform relayAddresses outcome race)
    (decided : race.Decided platform relayAddresses outcome)
    (step : RaceStep platform relayAddresses outcome race label after) :
    after.Decided platform relayAddresses outcome := by
  have account := racing.account
  cases step with
  | invitation _ _ => exact decided
  | join _ _ => exact decided
  | send _ _ _ => exact decided
  | cancel => exact decided
  | ctxDone _ _ _ => trivial
  | @failure i lastErr result rest err collecting _ first failed =>
      have final := racing.results result (by simp [first])
      rw [final] at failed
      simp only [Race.Decided, collecting] at decided
      simp [Race.Decided, decided.1, failed]
  | @success i lastErr result rest conn collecting _ first _ joined =>
      simp only [Race.Account, collecting] at account
      have final := racing.results result (by simp [first])
      rw [final, raceResult_conn] at joined
      split at joined
      · next session =>
          cases joined
          exact ⟨race.received, rfl, session, account.2.2.2.2⟩
      · simp at joined
  | @conclude lastErr collecting =>
      simp only [Race.Account, Race.Decided, collecting] at account decided
      obtain ⟨some, rfl⟩ := decided
      cases last : race.received.getLast? with
      | none =>
          -- the loop has gone through every racer, and there is one
          rw [List.getLast?_eq_none_iff.mp last, List.length_nil] at account
          omega
      | some racer =>
          refine Or.inr ⟨racer, last, ?_⟩
          have failed := account.2.2.2.2 racer (List.mem_of_getLast? last)
          cases err : (raceResult platform relayAddresses outcome racer).err with
          | none => exact absurd ((raceResult_err racer).mp err) failed
          | some err => simp [err]
  | drain draining _ =>
      cases main : race.main with
      | won conn => simpa [Race.Decided, main] using decided
      | _ => simp [Race.Account, main, draining] at account

theorem decided_of_reach
    (reached : Reach (RaceStep platform relayAddresses outcome) anyStep
      (Race.start platform relayAddresses) race) :
    race.Decided platform relayAddresses outcome := by
  induction reached with
  | here => exact decided_start
  | next earlier _ step ih => exact decided_step (racing_of_reach earlier) ih step

structure Uncontested (platform : Platform) (relayAddresses : List String) (outcome : Nat → RaceOutcome)
    (race : Race) : Prop where
  racing : Racing platform relayAddresses outcome race
  uncancelled : race.cancelled = false
  steady : race.main ≠ .gaveUp
  decided : race.Decided platform relayAddresses outcome

theorem RaceStep.cancelled_eq (step : RaceStep platform relayAddresses outcome race label after)
    (uncancelled : label ≠ .cancel) :
    after.cancelled = race.cancelled := by
  cases step with
  | cancel => exact absurd rfl uncancelled
  | _ => rfl

theorem RaceStep.steady (step : RaceStep platform relayAddresses outcome race label after)
    (uncancelled : race.cancelled = false) (steady : race.main ≠ .gaveUp) :
    after.main ≠ .gaveUp := by
  cases step with
  | ctxDone _ _ cancelled => simp [uncancelled] at cancelled
  | failure _ _ _ _ => simp
  | success _ _ _ _ _ => simp
  | conclude _ => simp
  | _ => exact steady

theorem steady_start : (Race.start platform relayAddresses).main ≠ .gaveUp := by
  rw [Race.start]
  split
  · simp
  · simp

theorem uncontested_of_reach
    (reached : Reach (RaceStep platform relayAddresses outcome) Uncancelled
      (Race.start platform relayAddresses) race) :
    Uncontested platform relayAddresses outcome race := by
  refine reached.invariant ⟨racing_start, rfl, steady_start, decided_start⟩ ?_
  rintro before label after ⟨racing, uncancelled, steady, decided⟩ permitted step
  exact ⟨racing_step racing step, (step.cancelled_eq permitted).trans uncancelled,
    step.steady uncancelled steady, decided_step racing decided step⟩

namespace Uncontested

variable {race : Race}

theorem winner (uncontested : Uncontested platform relayAddresses outcome race) {conn : Nat}
    (won : race.main = .won conn) :
    race.arrived.find? (fun i => outcome i = .session) = some conn := by
  have decided := uncontested.decided
  simp only [Race.Decided, won] at decided
  obtain ⟨failures, received, session, others⟩ := decided
  have none : failures.find? (fun i => decide (outcome i = .session)) = none := by
    rw [List.find?_eq_none]
    intro racer member
    simpa using others racer member
  rw [Race.arrived, received, List.append_assoc, List.find?_append, none]
  simp [session]

theorem placed_le (uncontested : Uncontested platform relayAddresses outcome race) :
    race.results.length + race.received.length + race.drained.length ≤
      racerCount platform relayAddresses := by
  have within : race.placed ⊆ List.range (racerCount platform relayAddresses) := by
    intro i member
    exact List.mem_range.mpr ((uncontested.racing.placed i).mp member).1
  have room := (uncontested.racing.unique.subperm within).length_le
  simp only [Race.placed, List.length_append, List.length_map, List.length_range] at room
  omega

theorem loser (uncontested : Uncontested platform relayAddresses outcome race) {err : Err}
    (failed : race.main = .failed err) :
    (∀ i < racerCount platform relayAddresses, outcome i ≠ .session) ∧
    ((racerCount platform relayAddresses = 0 ∧ err = .text "no usable relay addresses to try") ∨
      ∃ last, race.arrived.getLast? = some last ∧
        (raceResult platform relayAddresses outcome last).err = some err) := by
  have room := uncontested.placed_le
  have account := uncontested.racing.account
  have decided := uncontested.decided
  simp only [Race.Account, Race.Decided, failed] at account decided
  obtain ⟨count, _, undrained, failures⟩ := account
  have empty : race.results = [] := List.length_eq_zero_iff.mp (by omega)
  have arrived : race.arrived = race.received := by simp [Race.arrived, empty, undrained]
  have placed : race.placed = race.received := by simp [Race.placed, empty, undrained]
  refine ⟨?_, by rwa [arrived]⟩
  intro i bound
  -- As many results as racers, no two of them from one racer.
  have within : race.received ⊆ List.range (racerCount platform relayAddresses) := by
    intro racer member
    rw [← placed] at member
    exact List.mem_range.mpr ((uncontested.racing.placed racer).mp member).1
  have unique : race.received.Nodup := placed ▸ uncontested.racing.unique
  have perm := (unique.subperm within).perm_of_length_le (by simp [count])
  exact failures i (perm.mem_iff.mpr (List.mem_range.mpr bound))

theorem returned (uncontested : Uncontested platform relayAddresses outcome race)
    (stuck : race.Stuck platform relayAddresses outcome) : race.Returned := by
  intro i lastErr collecting
  have racing := uncontested.racing
  have account := racing.account
  have total := racing.placed_length stuck
  simp only [Race.Account, collecting] at account
  obtain ⟨count, bound, _, undrained, _⟩ := account
  rw [count, undrained, List.length_nil] at total
  by_cases all : i = racerCount platform relayAddresses
  · rw [all] at collecting
    exact absurd (stuck _ _ (RaceStep.conclude collecting)) (by simp)
  · have more : i < racerCount platform relayAddresses := by omega
    obtain ⟨result, rest, first⟩ := List.exists_cons_of_length_pos (show 0 < race.results.length by omega)
    have final := racing.results result (by simp [first])
    cases err : result.err with
    | some err' => exact absurd (stuck _ _ (RaceStep.failure collecting more first err)) (by simp)
    | none =>
        have session : outcome result.racer = .session := by
          rw [final] at err
          exact (raceResult_err _).mp err
        have joined : result.conn = some result.racer := by
          rw [final, raceResult_conn, raceResult_racer, if_pos session]
        exact absurd (stuck _ _ (RaceStep.success collecting more first err joined)) (by simp)

theorem won_iff (uncontested : Uncontested platform relayAddresses outcome race)
    (stuck : race.Stuck platform relayAddresses outcome) :
    (∃ conn, race.main = .won conn) ↔ ∃ i < racerCount platform relayAddresses, outcome i = .session := by
  constructor
  · rintro ⟨conn, won⟩
    have decided := uncontested.decided
    simp only [Race.Decided, won] at decided
    obtain ⟨failures, received, session, _⟩ := decided
    have placed : conn ∈ race.placed := by simp [Race.placed, received]
    exact ⟨conn, ((uncontested.racing.placed conn).mp placed).1, session⟩
  · rintro ⟨i, bound, session⟩
    cases main : race.main with
    | won conn => exact ⟨conn, rfl⟩
    | collecting i lastErr => exact absurd main (uncontested.returned stuck i lastErr)
    | failed err => exact absurd session ((uncontested.loser main).1 i bound)
    | gaveUp => exact absurd main uncontested.steady

theorem drained_rest (uncontested : Uncontested platform relayAddresses outcome race)
    (stuck : race.Stuck platform relayAddresses outcome) {remaining : Nat}
    (draining : race.drain = some remaining) :
    remaining = 0 ∧ race.drained.Nodup ∧
      ∀ i, i ∈ race.drained ↔ i < racerCount platform relayAddresses ∧ i ∉ race.received := by
  have racing := uncontested.racing
  have account := racing.account
  cases main : race.main with
  | won conn =>
      obtain ⟨done, empty⟩ := racing.drain_done stuck main
      rw [draining, Option.some.injEq] at done
      have unique := racing.unique
      simp only [Race.placed, empty, List.map_nil, List.nil_append] at unique
      obtain ⟨_, distinct, apart⟩ := List.nodup_append.mp unique
      refine ⟨done, distinct, fun i => ⟨fun member => ?_, ?_⟩⟩
      · have placed : i ∈ race.placed := by simp [Race.placed, member]
        exact ⟨((racing.placed i).mp placed).1, fun received => apart i received i member rfl⟩
      · rintro ⟨bound, unreceived⟩
        exact (racing.taken stuck empty bound).resolve_left unreceived
  | _ => simp [Race.Account, main, draining] at account

end Uncontested

/-! The race comes to an end. -/

def RacerPhase.work : RacerPhase → Nat
  | .inviting => 4
  | .joining => 3
  | .sending _ => 2
  | .finished => 0

def racersWork (racers : Nat → RacerPhase) : Nat → Nat
  | 0 => 0
  | n + 1 => racersWork racers n + (racers n).work

def Race.work (platform : Platform) (relayAddresses : List String) (race : Race) : Nat :=
  racersWork race.racers (racerCount platform relayAddresses) + race.results.length +
    match race.main with
    | .collecting _ _ => 1
    | _ => 0

theorem racersWork_update_of_le {racers : Nat → RacerPhase} {i n : Nat} (phase : RacerPhase)
    (above : n ≤ i) :
    racersWork (Function.update racers i phase) n = racersWork racers n := by
  induction n with
  | zero => rfl
  | succ n ih =>
      rw [racersWork, racersWork, ih (by omega), Function.update_of_ne (by omega)]

theorem racersWork_update (racers : Nat → RacerPhase) {i n : Nat} (phase : RacerPhase)
    (bound : i < n) :
    racersWork (Function.update racers i phase) n + (racers i).work =
      racersWork racers n + phase.work := by
  induction n with
  | zero => omega
  | succ n ih =>
      rw [racersWork, racersWork]
      by_cases last : i = n
      · subst last
        rw [racersWork_update_of_le phase (Nat.le_refl i), Function.update_self]
        omega
      · have before := ih (by omega)
        rw [Function.update_of_ne (Ne.symm last)]
        omega

theorem afterInvitation_work (i : Nat) :
    (afterInvitation platform relayAddresses outcome i).work ≤ 3 := by
  rw [afterInvitation]
  split
  · exact Nat.le_succ 2
  · exact Nat.le_refl 3

theorem work_decreases (uncancelled : label ≠ .cancel)
    (step : RaceStep platform relayAddresses outcome race label after) :
    after.work platform relayAddresses < race.work platform relayAddresses := by
  cases step with
  | cancel => exact absurd rfl uncancelled
  | @invitation i bound phase =>
      have moved :=
        racersWork_update race.racers (afterInvitation platform relayAddresses outcome i) bound
      have less : (afterInvitation platform relayAddresses outcome i).work ≤ 3 := afterInvitation_work i
      rw [phase] at moved
      simp only [RacerPhase.work] at moved less
      simp only [Race.work]
      omega
  | @join i bound phase =>
      have moved :=
        racersWork_update race.racers (.sending (raceResult platform relayAddresses outcome i)) bound
      rw [phase] at moved
      simp only [RacerPhase.work] at moved
      simp only [Race.work]
      omega
  | @send i result bound phase _ =>
      have moved := racersWork_update race.racers .finished bound
      rw [phase] at moved
      simp only [RacerPhase.work] at moved
      simp only [Race.work, List.length_append, List.length_singleton]
      omega
  | ctxDone collecting _ _ => simp [Race.work, collecting]
  | failure collecting _ first _ => simp [Race.work, collecting, first]
  | success collecting _ first _ _ =>
      simp only [Race.work, collecting, first, List.length_cons]
      omega
  | conclude collecting => simp [Race.work, collecting]
  | drain _ first => simp [Race.work, first]

variable (platform relayAddresses outcome)

theorem relay_race_won :
    Terminates (RaceStep platform relayAddresses outcome) Uncancelled
      (Race.start platform relayAddresses) ∧
    ∀ race, Reach (RaceStep platform relayAddresses outcome) Uncancelled
      (Race.start platform relayAddresses) race →
      (∀ label after, RaceStep platform relayAddresses outcome race label after →
        after.arrived = race.arrived ∨ ∃ i, label = .send i ∧ after.arrived = race.arrived ++ [i]) ∧
      (∀ i result, i < racerCount platform relayAddresses → race.racers i = .sending result →
        race.results.length < relayAddresses.length) ∧
      (∀ conn, race.main = .won conn → race.arrived.find? (fun i => outcome i = .session) = some conn) ∧
      (∀ err, race.main = .failed err →
        (∀ i < racerCount platform relayAddresses, outcome i ≠ .session) ∧
        ((racerCount platform relayAddresses = 0 ∧ err = .text "no usable relay addresses to try") ∨
          ∃ last, race.arrived.getLast? = some last ∧
            (raceResult platform relayAddresses outcome last).err = some err)) ∧
      (race.Stuck platform relayAddresses outcome →
        ((∃ conn, race.main = .won conn) ∨ ∃ err, race.main = .failed err) ∧
        ((∃ conn, race.main = .won conn) ↔
          ∃ i < racerCount platform relayAddresses, outcome i = .session) ∧
        ∀ remaining, race.drain = some remaining → remaining = 0 ∧ race.drained.Nodup ∧
          ∀ i, i ∈ race.drained ↔ i < racerCount platform relayAddresses ∧ i ∉ race.received) := by
  constructor
  · refine terminates_of_measure (Race.work platform relayAddresses)
      (fun before label after racing _ step => racing_step racing step) ?_ racing_start
    intro before label after _ uncancelled step
    exact work_decreases uncancelled step
  · intro race reached
    have uncontested := uncontested_of_reach reached
    refine ⟨fun label after step => arrived_step uncontested.racing step,
      fun i result bound sending => uncontested.racing.room bound sending,
      fun conn won => uncontested.winner won, fun err failed => uncontested.loser failed, fun stuck => ?_⟩
    refine ⟨?_, uncontested.won_iff stuck,
      fun remaining draining => uncontested.drained_rest stuck draining⟩
    cases main : race.main with
    | won conn => exact Or.inl ⟨conn, rfl⟩
    | failed err => exact Or.inr ⟨err, rfl⟩
    | collecting i lastErr => exact absurd main (uncontested.returned stuck i lastErr)
    | gaveUp => exact absurd main uncontested.steady

end

/-! Two relays and an address that is no URL; the relay that answers first refuses. -/

def pickyPlatform : Platform :=
  { referencePlatform with urlHost := fun s => if s = "%" then .error (.text "invalid URL") else .ok s }

def threeAddresses : List String := ["a", "%", "b"]

def secondSession (i : Nat) : RaceOutcome :=
  if i = 0 then .noInvitation (.text "not found") else .session

theorem second_relay_won : ∃ race,
    Reach (RaceStep pickyPlatform threeAddresses secondSession) Uncancelled
      (Race.start pickyPlatform threeAddresses) race ∧
    race.main = .won 1 ∧ race.arrived = [0, 1] ∧
    race.arrived.find? (fun i => secondSession i = .session) = some 1 := by
  have uncancelled : ∀ race label, label ≠ .cancel → Uncancelled race label := fun _ _ other => other
  have refused : Reach (RaceStep pickyPlatform threeAddresses secondSession) Uncancelled
      (Race.start pickyPlatform threeAddresses) _ :=
    Reach.next Reach.here (uncancelled _ (.invitation 0) (by simp)) (RaceStep.invitation (by decide) rfl)
  have sent :=
    Reach.next refused (uncancelled _ (.send 0) (by simp)) (RaceStep.send (by decide) rfl (by decide))
  have invited :=
    Reach.next sent (uncancelled _ (.invitation 1) (by simp)) (RaceStep.invitation (by decide) rfl)
  have joined := Reach.next invited (uncancelled _ (.join 1) (by simp)) (RaceStep.join (by decide) rfl)
  have arrived :=
    Reach.next joined (uncancelled _ (.send 1) (by simp)) (RaceStep.send (by decide) rfl (by decide))
  have failed :=
    Reach.next arrived (uncancelled _ .receive (by simp)) (RaceStep.failure rfl (by decide) rfl rfl)
  have won := Reach.next failed (uncancelled _ .receive (by simp))
    (RaceStep.success rfl (by decide) rfl rfl rfl)
  refine ⟨_, won, rfl, rfl, ?_⟩
  exact ((relay_race_won pickyPlatform threeAddresses secondSession).2 _ won).2.2.1 1 rfl

end SyncthingSocket
