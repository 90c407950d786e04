import SyncthingSocket.Platform
import SyncthingSocket.Effect.Transition

/-!
`announceAddresses` and the goroutine that `announce` of `main.go` starts for each discovery
server: it posts when the list has another key than that of its last acknowledged POST, and a tick
of the interval clears the key.
-/

namespace SyncthingSocket

open Effect

/-- `rc` is the relay client, if there is one, with what its `URI()` returns. -/
def announceAddresses (rc : Option (Option String)) (directPort actualPort : Int) : List String :=
  let addrs :=
    match rc with
    | some (some uri) => [uri]
    | some none => []
    | none => []
  if directPort > 0 then addrs ++ ["tcp://:" ++ toString actualPort] else addrs

inductive PostOutcome
  | requestError (err : Err)
  | transportError (err : Err)
  | status (code : Nat)
  deriving DecidableEq, Repr

/-- `http.StatusNoContent`. -/
def statusNoContent : Nat := 204

/-- The channels that the two `select` statements wait for. -/
inductive Wake
  | ctxDone
  | ticker
  | recheck
  deriving DecidableEq, Repr

inductive AnnounceEvent
  | addresses (current : List String)
  | post (current : List String) (outcome : PostOutcome)
  | wake (channel : Wake)
  deriving DecidableEq, Repr

inductive AnnouncePoint
  | top
  | posting (current : List String) (key : String)
  | waiting
  | returned
  deriving DecidableEq, Repr

/-- The goroutine of one discovery server; `log` keeps account of what has happened. -/
structure Announcer where
  lastAnnounced : String := ""
  point : AnnouncePoint := .top
  log : List AnnounceEvent := []
  deriving DecidableEq, Repr

def announceKey (current : List String) : String := ",".intercalate current

def announceStep (announcer : Announcer) (event : AnnounceEvent) : Option Announcer :=
  let log := announcer.log ++ [event]
  match announcer.point, event with
  | .top, .addresses current =>
      let key := announceKey current
      if current.length = 0 ∨
        key = announcer.lastAnnounced then some { announcer with point := .waiting, log }
      else some { announcer with point := .posting current key, log }
  | .posting current key, .post posted outcome =>
      if posted ≠ current then none
      else if outcome = .status statusNoContent then some { lastAnnounced := key, point := .waiting, log }
      else some { announcer with point := .waiting, log }
  | .waiting, .wake .ctxDone => some { announcer with point := .returned, log }
  | .waiting, .wake .ticker => some { lastAnnounced := "", point := .top, log }
  | .waiting, .wake .recheck => some { announcer with point := .top, log }
  | _, _ => none

def AnnounceStep (before : Announcer) (event : AnnounceEvent) (after : Announcer) : Prop :=
  announceStep before event = some after

/-! What the log records. -/

def AnnounceEvent.acknowledged : AnnounceEvent → Option (List String)
  | .post current outcome => if outcome = .status statusNoContent then some current else none
  | _ => none

def lastAcknowledged (log : List AnnounceEvent) : Option (List String) :=
  (log.filterMap AnnounceEvent.acknowledged).getLast?

def refreshed (log : List AnnounceEvent) : Bool :=
  (log.reverse.takeWhile fun event => event ≠ .wake .ticker).any fun event => event.acknowledged.isSome

def Due (log : List AnnounceEvent) (current : List String) : Prop :=
  current ≠ [] ∧ (lastAcknowledged log ≠ some current ∨ refreshed log = false)

theorem lastAcknowledged_concat (log : List AnnounceEvent) (event : AnnounceEvent) :
    lastAcknowledged (log ++ [event]) = event.acknowledged.or (lastAcknowledged log) := by
  rw [lastAcknowledged, List.filterMap_append, List.getLast?_append]
  cases acknowledged : event.acknowledged with
  | none => simp [acknowledged, lastAcknowledged]
  | some current => simp [acknowledged]

theorem refreshed_concat (log : List AnnounceEvent) (event : AnnounceEvent) :
    refreshed (log ++ [event]) =
      (event ≠ .wake .ticker && (event.acknowledged.isSome || refreshed log)) := by
  rw [refreshed, List.reverse_append, List.reverse_singleton, List.singleton_append, List.takeWhile_cons]
  by_cases tick : event = .wake .ticker
  · simp [tick]
  · simp [tick, refreshed]

theorem refreshed_nil : refreshed [] = false := rfl

def AnnounceEvent.Quiet (event : AnnounceEvent) : Prop :=
  event.acknowledged = none ∧ event ≠ .wake .ticker

variable {event : AnnounceEvent} {log : List AnnounceEvent} {current : List String}
  {rc : Option (Option String)}

theorem AnnounceEvent.Quiet.same (quiet : event.Quiet) (log : List AnnounceEvent) :
    lastAcknowledged (log ++ [event]) = lastAcknowledged log ∧
      refreshed (log ++ [event]) = refreshed log := by
  rw [lastAcknowledged_concat, refreshed_concat, quiet.1]
  simp [quiet.2]

theorem due_ticked (log : List AnnounceEvent) (some : current ≠ []) :
    Due (log ++ [.wake .ticker]) current := by
  refine ⟨some, Or.inr ?_⟩
  simp [refreshed_concat]

theorem due_concat (due : Due log current) (unacknowledged : event.acknowledged ≠ some current) :
    Due (log ++ [event]) current := by
  rw [Due, lastAcknowledged_concat, refreshed_concat]
  refine ⟨due.1, ?_⟩
  cases acknowledged : event.acknowledged with
  | some other =>
      rw [acknowledged] at unacknowledged
      exact Or.inl (by simpa using unacknowledged)
  | none =>
      rcases due.2 with other | stale
      · exact Or.inl (by simpa using other)
      · exact Or.inr (by simp [stale])

theorem due_append (due : Due log current) (later : List AnnounceEvent)
    (unacknowledged : ∀ event ∈ later, event.acknowledged ≠ some current) :
    Due (log ++ later) current := by
  induction later using List.reverseRecOn with
  | nil => simpa using due
  | append_singleton later event ih =>
      rw [← List.append_assoc]
      refine due_concat (ih fun earlier member => ?_) (unacknowledged event (by simp))
      exact unacknowledged earlier (by simp [member])

/-! The joined key. -/

def NamedRelay (rc : Option (Option String)) : Prop := rc.join ≠ some ""

instance (rc : Option (Option String)) : Decidable (NamedRelay rc) :=
  inferInstanceAs (Decidable (rc.join ≠ some ""))

theorem announceAddresses_eq (rc : Option (Option String)) (directPort actualPort : Int) :
    announceAddresses rc directPort actualPort =
      rc.join.toList ++ if directPort > 0 then ["tcp://:" ++ toString actualPort] else [] := by
  unfold announceAddresses
  by_cases direct : directPort > 0 <;> rcases rc with _ | _ | uri <;> simp [direct]

theorem announceKey_single (address : String) : announceKey [address] = address := rfl

theorem announceKey_pair (first second : String) :
    announceKey [first, second] = first ++ "," ++ second := rfl

theorem announceKey_pair_ne (first second : String) : announceKey [first, second] ≠ second := by
  intro equal
  have lengths := congrArg String.length equal
  simp [announceKey_pair, String.length_append] at lengths

theorem announceKey_injective {other : Option (Option String)} {directPort actualPort : Int}
    (named : NamedRelay rc) (otherNamed : NamedRelay other)
    (same : announceKey (announceAddresses rc directPort actualPort) =
      announceKey (announceAddresses other directPort actualPort)) :
    announceAddresses rc directPort actualPort = announceAddresses other directPort actualPort := by
  -- With the direct port every list ends in the same address, without it no list has a comma to
  -- join.
  rw [announceAddresses_eq, announceAddresses_eq] at same ⊢
  rw [NamedRelay] at named otherNamed
  generalize rc.join = relay at named same ⊢
  generalize other.join = otherRelay at otherNamed same ⊢
  by_cases direct : directPort > 0
  · rw [if_pos direct] at same ⊢
    cases relay with
    | none =>
        cases otherRelay with
        | none => rfl
        | some uri => exact absurd same.symm (announceKey_pair_ne uri _)
    | some uri =>
        cases otherRelay with
        | none => exact absurd same (announceKey_pair_ne uri _)
        | some uri' =>
            simp only [Option.toList_some, List.singleton_append, announceKey_pair] at same ⊢
            simpa using same
  · rw [if_neg direct, List.append_nil, List.append_nil] at same ⊢
    cases relay with
    | none =>
        cases otherRelay with
        | none => rfl
        | some uri => exact absurd (congrArg some same.symm) otherNamed
    | some uri =>
        cases otherRelay with
        | none => exact absurd (congrArg some same) named
        | some uri' => exact congrArg (fun address => [address]) same

theorem announceKey_ne_nil {directPort actualPort : Int} (named : NamedRelay rc)
    (some : announceAddresses rc directPort actualPort ≠ []) :
    announceKey (announceAddresses rc directPort actualPort) ≠ "" := by
  intro empty
  rw [NamedRelay] at named
  rw [announceAddresses_eq] at some empty
  generalize rc.join = relay at named some empty
  by_cases direct : directPort > 0
  · have lengths := congrArg String.length empty
    rw [if_pos direct] at lengths
    cases relay with
    | none => simp [announceKey_single, String.length_append] at lengths
    | some uri => simp [announceKey_pair, String.length_append] at lengths
  · rw [if_neg direct, List.append_nil] at some empty
    cases relay with
    | none => exact some rfl
    | some uri => exact named (congrArg _ empty)

/-! What the goroutine knows. -/

section

variable (directPort actualPort : Int)

/-- The lists handed to the goroutine come from `announceAddresses`. -/
def Produced (_ : Announcer) : AnnounceEvent → Prop
  | .addresses current => ∃ rc, NamedRelay rc ∧ current = announceAddresses rc directPort actualPort
  | _ => True

structure Announced (announcer : Announcer) : Prop where
  held : refreshed announcer.log = true → ∃ rc, NamedRelay rc ∧
    lastAcknowledged announcer.log = some (announceAddresses rc directPort actualPort) ∧
    announcer.lastAnnounced = announceKey (announceAddresses rc directPort actualPort)
  cleared : refreshed announcer.log = false → announcer.lastAnnounced = ""
  posting : ∀ current key, announcer.point = .posting current key → key = announceKey current ∧
    ∃ rc, NamedRelay rc ∧ current = announceAddresses rc directPort actualPort
  posts : ∀ before current outcome later, announcer.log = before ++ .post current outcome :: later →
    Due before current
  due : ∀ current key, announcer.point = .posting current key → Due announcer.log current

variable {directPort actualPort} {announcer after : Announcer}

theorem announced_start : Announced directPort actualPort {} where
  held := by simp [refreshed_nil]
  cleared := by simp
  posting := by simp
  posts := by simp
  due := by simp

theorem Announced.suppressed_iff (announced : Announced directPort actualPort announcer)
    (named : NamedRelay rc) :
    ¬ ((announceAddresses rc directPort actualPort).length = 0 ∨
        announceKey (announceAddresses rc directPort actualPort) = announcer.lastAnnounced) ↔
      Due announcer.log (announceAddresses rc directPort actualPort) := by
  rw [List.length_eq_zero_iff, not_or, Due]
  refine and_congr_right fun some => ?_
  cases fresh : refreshed announcer.log with
  | false => simp [announced.cleared fresh, announceKey_ne_nil named some]
  | true =>
      obtain ⟨last, lastNamed, acknowledged, key⟩ := announced.held fresh
      rw [key, acknowledged]
      simp only [Bool.true_eq_false, or_false, ne_eq, Option.some.injEq]
      refine not_congr ⟨fun same => (announceKey_injective named lastNamed same).symm,
        fun same => by rw [same]⟩

theorem post_of_concat {before later : List AnnounceEvent}
    {outcome : PostOutcome} (split : log ++ [event] = before ++ .post current outcome :: later) :
    (before = log ∧ event = .post current outcome) ∨
      ∃ earlier, log = before ++ .post current outcome :: earlier := by
  induction later using List.reverseRecOn with
  | nil =>
      obtain ⟨same, last⟩ := List.append_inj' split rfl
      exact Or.inl ⟨same.symm, by simpa using last⟩
  | append_singleton later last ih =>
      rw [← List.cons_append, ← List.append_assoc] at split
      exact Or.inr ⟨later, (List.append_inj' split rfl).1⟩

theorem Announced.posts_concat (announced : Announced directPort actualPort announcer)
    (sent : ∀ current outcome, event = .post current outcome → Due announcer.log current)
    (before : List AnnounceEvent) (current : List String) (outcome : PostOutcome)
    (later : List AnnounceEvent)
    (split : announcer.log ++ [event] = before ++ .post current outcome :: later) :
    Due before current := by
  rcases post_of_concat split with ⟨rfl, newest⟩ | ⟨earlier, old⟩
  · exact sent current outcome newest
  · exact announced.posts before current outcome earlier old

theorem Announced.quiet (announced : Announced directPort actualPort announcer)
    (quiet : event.Quiet) (kept : after.lastAnnounced = announcer.lastAnnounced)
    (logged : after.log = announcer.log ++ [event])
    (sent : ∀ current outcome, event = .post current outcome → Due announcer.log current)
    (posting : ∀ current key, after.point = .posting current key → (key = announceKey current ∧
      ∃ rc, NamedRelay rc ∧ current = announceAddresses rc directPort actualPort) ∧
        Due announcer.log current) :
    Announced directPort actualPort after := by
  obtain ⟨acknowledged, fresh⟩ := quiet.same announcer.log
  refine ⟨?_, ?_, fun current key point => (posting current key point).1, ?_, ?_⟩
  · rw [logged, acknowledged, fresh, kept]
    exact announced.held
  · rw [logged, fresh, kept]
    exact announced.cleared
  · rw [logged]
    exact announced.posts_concat sent
  · intro current key point
    rw [logged, Due, acknowledged, fresh]
    exact (posting current key point).2

theorem announced_step (announced : Announced directPort actualPort announcer)
    (produced : Produced directPort actualPort announcer event)
    (step : AnnounceStep announcer event after) :
    Announced directPort actualPort after := by
  unfold AnnounceStep announceStep at step
  split at step
  · next current _ =>
      obtain ⟨rc, named, rfl⟩ := produced
      have decided := announced.suppressed_iff named
      dsimp only at step
      split at step
      · cases step
        exact announced.quiet ⟨rfl, by simp⟩ rfl rfl (by simp) (by simp)
      · next sends =>
          cases step
          refine announced.quiet ⟨rfl, by simp⟩ rfl rfl (by simp) ?_
          rintro current key ⟨⟩
          exact ⟨⟨rfl, rc, named, rfl⟩, decided.mp sends⟩
  · next current key posted outcome point =>
      obtain ⟨joined, rc, named, produced⟩ := announced.posting current key point
      have due := announced.due current key point
      split at step
      · simp at step
      · next same =>
          -- only the list that the pass was given is posted
          obtain rfl : posted = current := by simpa using same
          have sent : ∀ other result, AnnounceEvent.post posted outcome = .post other result →
              Due announcer.log other := by
            rintro other result ⟨⟩
            exact due
          split at step
          · next ok =>
              cases step
              refine ⟨fun _ => ⟨rc, named, ?_, ?_⟩, ?_, by simp, announced.posts_concat sent, by simp⟩
              · simp [lastAcknowledged_concat, AnnounceEvent.acknowledged, ok, produced]
              · rw [joined, produced]
              · simp [refreshed_concat, AnnounceEvent.acknowledged, ok]
          · next failed =>
              cases step
              exact announced.quiet ⟨by simp [AnnounceEvent.acknowledged, failed], by simp⟩ rfl rfl
                sent (by simp)
  · cases step
    exact announced.quiet ⟨rfl, by simp⟩ rfl rfl (by simp) (by simp)
  · cases step
    refine ⟨?_, fun _ => rfl, by simp, announced.posts_concat (by simp), by simp⟩
    simp [refreshed_concat]
  · cases step
    exact announced.quiet ⟨rfl, by simp⟩ rfl rfl (by simp) (by simp)
  · simp at step

theorem announced_of_reach
    (reached : Reach AnnounceStep (Produced directPort actualPort) {} announcer) :
    Announced directPort actualPort announcer :=
  reached.invariant announced_start fun _ _ _ announced produced step =>
    announced_step announced produced step

/-- The pass that is given `current` goes on to a POST of it. -/
def Announcer.Sends (announcer : Announcer) (current : List String) : Prop :=
  ∃ after key, AnnounceStep announcer (.addresses current) after ∧ after.point = .posting current key

theorem Announced.sends_iff (announced : Announced directPort actualPort announcer)
    (top : announcer.point = .top) (named : NamedRelay rc) :
    announcer.Sends (announceAddresses rc directPort actualPort) ↔
      Due announcer.log (announceAddresses rc directPort actualPort) := by
  rw [← announced.suppressed_iff named, Announcer.Sends]
  simp only [AnnounceStep, announceStep, top]
  constructor
  · rintro ⟨after, key, step, point⟩ suppressed
    rw [if_pos suppressed] at step
    cases step
    simp at point
  · intro sends
    exact ⟨_, _, if_neg sends, rfl⟩

theorem post_step_iff (current : List String) (outcome : PostOutcome) :
    (∃ after, AnnounceStep announcer (.post current outcome) after) ↔
      ∃ key, announcer.point = .posting current key := by
  cases point : announcer.point with
  | posting sent key =>
      simp only [AnnounceStep, announceStep, point]
      by_cases same : current = sent
      · by_cases ok : outcome = .status statusNoContent
        · simp [same, ok]
        · simp [same, ok]
      · simp [same, Ne.symm same]
  | _ => simp [AnnounceStep, announceStep, point]

theorem posting_step {key : String}
    (point : announcer.point = .posting current key) (step : AnnounceStep announcer event after) :
    ∃ outcome, event = .post current outcome := by
  cases event with
  | post sent outcome =>
      obtain ⟨key', point'⟩ := (post_step_iff sent outcome).mp ⟨after, step⟩
      rw [point] at point'
      cases point'
      exact ⟨outcome, rfl⟩
  | addresses _ => simp [AnnounceStep, announceStep, point] at step
  | wake _ => simp [AnnounceStep, announceStep, point] at step

variable (directPort actualPort)

theorem announce_publishes_changes (announcer : Announcer)
    (reached : Reach AnnounceStep (Produced directPort actualPort) {} announcer) :
    (announcer.lastAnnounced = "" ∨ ∃ acknowledged, lastAcknowledged announcer.log = some acknowledged ∧
      announcer.lastAnnounced = announceKey acknowledged) ∧
    (announcer.point = .top → ∀ rc current, NamedRelay rc →
      current = announceAddresses rc directPort actualPort →
      (announcer.Sends current ↔
        current ≠ [] ∧
          (lastAcknowledged announcer.log ≠ some current ∨ refreshed announcer.log = false)) ∧
      (∀ before outcome later, outcome ≠ .status statusNoContent →
        announcer.log = before ++ .post current outcome :: later →
        (∀ event ∈ later, event.acknowledged ≠ some current) → announcer.Sends current) ∧
      (∀ before, announcer.log = before ++ [.wake .ticker] → current ≠ [] → announcer.Sends current)) ∧
    (∀ current key, announcer.point = .posting current key →
      ∀ event after, AnnounceStep announcer event after →
      ∃ outcome, event = .post current outcome) ∧
    (∀ current outcome, (∃ after, AnnounceStep announcer (.post current outcome) after) ↔
      ∃ key, announcer.point = .posting current key) ∧
    ∀ rc other, NamedRelay rc → NamedRelay other →
      announceKey (announceAddresses rc directPort actualPort) =
        announceKey (announceAddresses other directPort actualPort) →
      announceAddresses rc directPort actualPort = announceAddresses other directPort actualPort := by
  have announced := announced_of_reach reached
  refine ⟨?_, ?_, fun _ _ point _ _ step => posting_step point step,
    fun current outcome => post_step_iff current outcome,
    fun _ _ named otherNamed same => announceKey_injective named otherNamed same⟩
  · cases fresh : refreshed announcer.log with
    | false => exact Or.inl (announced.cleared fresh)
    | true =>
        obtain ⟨rc, _, acknowledged, key⟩ := announced.held fresh
        exact Or.inr ⟨_, acknowledged, key⟩
  · rintro top rc current named rfl
    have sends := announced.sends_iff top named
    refine ⟨sends, ?_, ?_⟩
    · intro before outcome later failed split unacknowledged
      have due := announced.posts before _ outcome later split
      rw [sends, split]
      refine due_append due _ ?_
      intro event member
      rcases List.mem_cons.mp member with rfl | later
      · simp [AnnounceEvent.acknowledged, failed]
      · exact unacknowledged event later
    · intro before ticked some
      rw [sends, ticked]
      exact due_ticked before some

end

def announceRun (announcer : Announcer) (events : List AnnounceEvent) : Option Announcer :=
  events.foldlM announceStep announcer

theorem reach_of_announceRun {allowed : Announcer → AnnounceEvent → Prop}
    {start announcer : Announcer} {events : List AnnounceEvent}
    (free : ∀ event ∈ events, ∀ before, allowed before event)
    (ran : announceRun start events = some announcer) :
    Reach AnnounceStep allowed start announcer := by
  induction events generalizing start with
  | nil =>
      cases ran
      exact Reach.here
  | cons event events ih =>
      rw [announceRun, List.foldlM_cons] at ran
      obtain ⟨next, step, rest⟩ := Option.bind_eq_some_iff.mp ran
      have first : Reach AnnounceStep allowed start next :=
        Reach.here.take event (free event (by simp) start) step
      exact first.trans (ih (fun later member => free later (by simp [member])) rest)

/-! The relay changes; the first POST of the new address is refused. -/

def movedEvents : List AnnounceEvent :=
  [.addresses ["relay://a"], .post ["relay://a"] (.status 204), .wake .recheck, .addresses ["relay://b"],
    .post ["relay://b"] (.status 429), .wake .recheck]

def movedAnnouncer : Announcer where
  lastAnnounced := "relay://a"
  log := movedEvents

theorem moved_relay_sent_again :
    Reach AnnounceStep (Produced 0 0) {} movedAnnouncer ∧ movedAnnouncer.Sends ["relay://b"] := by
  have produced : ∀ event ∈ movedEvents, ∀ before, Produced 0 0 before event := by
    intro event member before
    simp only [movedEvents, List.mem_cons, List.not_mem_nil, or_false] at member
    rcases member with rfl | rfl | rfl | rfl | rfl | rfl
    · exact ⟨some (some "relay://a"), by decide, rfl⟩
    · trivial
    · trivial
    · exact ⟨some (some "relay://b"), by decide, rfl⟩
    · trivial
    · trivial
  have reached : Reach AnnounceStep (Produced 0 0) {} movedAnnouncer :=
    reach_of_announceRun produced (by decide)
  have published := announce_publishes_changes 0 0 movedAnnouncer reached
  refine ⟨reached, ((published.2.1 rfl (some (some "relay://b")) _ (by decide) rfl).1).mpr ⟨?_, ?_⟩⟩
  · decide
  · exact Or.inl (by decide)

end SyncthingSocket
