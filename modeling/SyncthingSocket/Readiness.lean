import SyncthingSocket.Announce
import SyncthingSocket.Effect.Ticker

/-!
The goroutine of `announce` in time, with its tickers, and the record that discovery keeps of it;
the server may end and announce again later. A POST takes at most the timeout of its HTTP client,
code no time. Times are in nanoseconds.
-/

namespace SyncthingSocket

open Effect

def second : Nat := 1000000000

/-- `Timeout: 10 * time.Second` of the client. -/
def postTimeout : Nat := 10 * second

def recheckInterval : Nat := 15 * second

/-- `UnlockAnnounceInterval`. -/
def unlockInterval : Nat := 60 * second

def missTime : Nat := postTimeout + recheckInterval

/-- A machine that announces itself: the goroutine and its tickers, when it began what it
is at, when discovery took the POST under way, and the record. The rest keeps account:
when the last POST that was acknowledged had been taken, how often since then a POST
failed or there was no address to post, and how long no server was announcing. -/
structure Beacon where
  now : Nat
  announcer : Announcer
  ticker : Ticker
  recheck : Ticker
  since : Nat
  taken : Option Nat
  seen : Option Nat
  acknowledged : Option Nat
  misses : Nat
  down : Nat
  deriving DecidableEq

def Beacon.start (interval : Nat) : Beacon where
  now := 0
  announcer := {}
  ticker := .start interval 0
  recheck := .start recheckInterval 0
  since := 0
  taken := none
  seen := none
  acknowledged := none
  misses := 0
  down := 0

inductive BeaconEvent
  | pass
  | take
  | restart
  | act (event : AnnounceEvent)
  deriving DecidableEq, Repr

namespace Beacon

def passed (beacon : Beacon) : Beacon :=
  { beacon with
    now := beacon.now + 1
    ticker := beacon.ticker.pass (beacon.now + 1)
    recheck := beacon.recheck.pass (beacon.now + 1)
    down := match beacon.announcer.point with
      | .returned => beacon.down + 1
      | _ => beacon.down }

def acted (beacon : Beacon) (announcer : Announcer) : AnnounceEvent → Option Beacon
  | .addresses current => some { beacon with
      announcer
      since := beacon.now
      taken := none
      misses := if current.length = 0 then beacon.misses + 1 else beacon.misses }
  | .post _ outcome =>
      if outcome = .status statusNoContent then
        -- only a POST that discovery took is acknowledged
        if beacon.taken = none then none
        else some { beacon with announcer, acknowledged := beacon.taken, misses := 0, down := 0 }
      else some { beacon with announcer, misses := beacon.misses + 1 }
  | .wake .ticker =>
      if beacon.ticker.pending then some { beacon with announcer, ticker := beacon.ticker.receive }
      else none
  | .wake .recheck =>
      if beacon.recheck.pending then some { beacon with
        announcer, recheck := beacon.recheck.receive } else none
  | .wake .ctxDone => some { beacon with announcer, since := beacon.now }

def step (beacon : Beacon) : BeaconEvent → Option Beacon
  | .pass => some beacon.passed
  | .take =>
      match beacon.announcer.point with
      | .posting _ _ => some { beacon with taken := some beacon.now, seen := some beacon.now }
      | _ => none
  | .restart =>
      match beacon.announcer.point with
      | .returned => some { beacon with
          announcer := {}
          ticker := .start beacon.ticker.period beacon.now
          recheck := .start recheckInterval beacon.now }
      | _ => none
  | .act event => (announceStep beacon.announcer event).bind fun announcer => beacon.acted announcer event

def Step (before : Beacon) (event : BeaconEvent) (after : Beacon) : Prop :=
  before.step event = some after

/-- Time passes only where the goroutine has to wait or has ended. -/
def Prompt (beacon : Beacon) : BeaconEvent → Prop
  | .pass =>
      match beacon.announcer.point with
      | .top => False
      | .posting _ _ => beacon.now < beacon.since + postTimeout
      | .waiting => beacon.ticker.pending = false ∧ beacon.recheck.pending = false
      | .returned => True
  | .act (.addresses current) => current.length = 0 ∨ announceKey current ≠ ""
  | _ => True

/-! What a step can do. -/

def moved (announcer : Announcer) (event : AnnounceEvent) (point : AnnouncePoint) : Announcer :=
  { announcer with point, log := announcer.log ++ [event] }

inductive Stepped (beacon : Beacon) : BeaconEvent → Beacon → Prop
  | pass : Stepped beacon .pass beacon.passed
  | take {current : List String} {key : String} : beacon.announcer.point = .posting current key →
      Stepped beacon .take { beacon with taken := some beacon.now, seen := some beacon.now }
  | restart : beacon.announcer.point = .returned →
      Stepped beacon .restart { beacon with
        announcer := {}
        ticker := .start beacon.ticker.period beacon.now
        recheck := .start recheckInterval beacon.now }
  | nowhere {current : List String} : beacon.announcer.point = .top → current.length = 0 →
      Stepped beacon (.act (.addresses current)) { beacon with
        announcer := moved beacon.announcer (.addresses current) .waiting
        since := beacon.now
        taken := none
        misses := beacon.misses + 1 }
  | suppressed {current : List String} : beacon.announcer.point = .top → current.length ≠ 0 →
      announceKey current = beacon.announcer.lastAnnounced →
      Stepped beacon (.act (.addresses current)) { beacon with
        announcer := moved beacon.announcer (.addresses current) .waiting
        since := beacon.now
        taken := none }
  | posts {current : List String} : beacon.announcer.point = .top → current.length ≠ 0 →
      Stepped beacon (.act (.addresses current)) { beacon with
        announcer := moved beacon.announcer (.addresses current) (.posting current (announceKey current))
        since := beacon.now
        taken := none }
  | acknowledged {current : List String} {key : String} {time : Nat} : beacon.announcer.point =
    .posting current key →
      beacon.taken = some time →
      Stepped beacon (.act (.post current (.status statusNoContent))) { beacon with
        announcer := { moved beacon.announcer (.post current (.status statusNoContent)) .waiting with
          lastAnnounced := key }
        acknowledged := beacon.taken
        misses := 0
        down := 0 }
  | failed {current : List String} {key : String} {outcome : PostOutcome} :
      beacon.announcer.point = .posting current key →
      Stepped beacon (.act (.post current outcome)) { beacon with
        announcer := moved beacon.announcer (.post current outcome) .waiting
        misses := beacon.misses + 1 }
  | cancelled : beacon.announcer.point = .waiting →
      Stepped beacon (.act (.wake .ctxDone)) { beacon with
        announcer := moved beacon.announcer (.wake .ctxDone) .returned, since := beacon.now }
  | refreshed : beacon.announcer.point = .waiting → beacon.ticker.pending = true →
      Stepped beacon (.act (.wake .ticker)) { beacon with
        announcer := { moved beacon.announcer (.wake .ticker) .top with lastAnnounced := "" }
        ticker := beacon.ticker.receive }
  | rechecked : beacon.announcer.point = .waiting → beacon.recheck.pending = true →
      Stepped beacon (.act (.wake .recheck)) { beacon with
        announcer := moved beacon.announcer (.wake .recheck) .top, recheck := beacon.recheck.receive }

theorem step_stepped {beacon after : Beacon} {event : BeaconEvent}
    (taken : beacon.step event = some after) :
    Stepped beacon event after := by
  cases event with
  | pass =>
      cases taken
      exact .pass
  | take =>
      simp only [step] at taken
      split at taken
      · next current key point =>
          cases taken
          exact .take point
      · cases taken
  | restart =>
      simp only [step] at taken
      split at taken
      · next point =>
          cases taken
          exact .restart point
      · cases taken
  | act event =>
      obtain ⟨announcer, stepped, acted⟩ := Option.bind_eq_some_iff.mp taken
      rw [announceStep.eq_def] at stepped
      simp only at stepped
      split at stepped
      · next _ _ current point =>
          split at stepped
          · next same =>
              cases stepped
              cases acted
              by_cases empty : current.length = 0
              · rw [if_pos empty]
                exact .nowhere point empty
              · rw [if_neg empty]
                exact .suppressed point empty (same.resolve_left empty)
          · next due =>
              rw [not_or] at due
              cases stepped
              cases acted
              rw [if_neg due.1]
              exact .posts point due.1
      · next _ _ current key posted outcome point =>
          split at stepped
          · cases stepped
          · next same =>
              obtain rfl : posted = current := by simpa using same
              split at stepped
              · next created =>
                  subst created
                  cases stepped
                  simp only [Beacon.acted, ↓reduceIte] at acted
                  split at acted
                  · cases acted
                  · next took =>
                      obtain ⟨time, took⟩ := Option.ne_none_iff_exists'.mp took
                      cases acted
                      exact .acknowledged point took
              · next other =>
                  cases stepped
                  simp only [Beacon.acted, other, ↓reduceIte, Option.some.injEq] at acted
                  subst acted
                  exact .failed point
      · next _ _ point =>
          cases stepped
          cases acted
          exact .cancelled point
      · next _ _ point =>
          cases stepped
          simp only [Beacon.acted] at acted
          split at acted
          · next pending =>
              cases acted
              exact .refreshed point pending
          · cases acted
      · next _ _ point =>
          cases stepped
          simp only [Beacon.acted] at acted
          split at acted
          · next pending =>
              cases acted
              exact .rechecked point pending
          · cases acted
      · cases stepped

theorem step_now {beacon after : Beacon} {event : BeaconEvent} (step : Step beacon event after) :
    event = .pass ∧ after.now = beacon.now + 1 ∨ after.now = beacon.now := by
  cases step_stepped step with
  | pass => exact Or.inl ⟨rfl, rfl⟩
  | _ => exact Or.inr rfl

theorem step_acknowledged {beacon after : Beacon} {event : BeaconEvent}
    (step : Step beacon event after) (acknowledged : beacon.acknowledged ≠ none) :
    after.acknowledged ≠ none := by
  cases step_stepped step with
  | acknowledged _ took => simp [took]
  | _ => exact acknowledged

/-! The bound. -/

/-- What has been lost since the last POST that was acknowledged. -/
def lost (beacon : Beacon) : Nat := missTime * beacon.misses + beacon.down

/-- By when the goroutine posts again after the POST that was taken at `acknowledged`. -/
def due (beacon : Beacon) (interval acknowledged : Nat) : Nat :=
  acknowledged + interval + beacon.lost

theorem due_miss (beacon : Beacon) (interval time : Nat) :
    time + interval + (missTime * (beacon.misses + 1) + beacon.down) =
      beacon.due interval time + missTime := by
  rw [due, lost, Nat.mul_succ]
  omega

def TicksBy (ticker : Ticker) (now limit : Nat) : Prop :=
  (ticker.pending = true → now ≤ limit) ∧ (ticker.pending = false → ticker.next ≤ limit)

def Timely (beacon : Beacon) (limit : Nat) : Prop :=
  match beacon.announcer.point with
  | .top => beacon.now ≤ limit
  | .posting _ _ => beacon.since ≤ limit
  | .waiting => TicksBy beacon.ticker beacon.now limit ∧ beacon.announcer.lastAnnounced ≠ "" ∨
      TicksBy beacon.recheck beacon.now limit
  | .returned => beacon.now ≤ limit

def Recorded (beacon : Beacon) (time : Nat) : Prop := ∃ seen, beacon.seen = some seen ∧ time ≤ seen

structure Posting (interval : Nat) (beacon : Beacon) (key : String) : Prop where
  named : key ≠ ""
  begun : beacon.since ≤ beacon.now
  short : beacon.now ≤ beacon.since + postTimeout
  unticked : beacon.ticker.pending = false → beacon.ticker.next ≤ beacon.since + interval
  taken : ∀ time, beacon.taken = some time → beacon.since ≤ time ∧ beacon.Recorded time

structure Inv (interval : Nat) (beacon : Beacon) : Prop where
  period : beacon.ticker.period = interval
  recheck_period : beacon.recheck.period = recheckInterval
  ticking : beacon.ticker.Accurate beacon.now
  rechecking : beacon.recheck.Accurate beacon.now
  past : ∀ seen, beacon.seen = some seen → seen ≤ beacon.now
  posting : ∀ current key, beacon.announcer.point = .posting current key → Posting interval beacon key
  recorded : ∀ time, beacon.acknowledged = some time → beacon.Recorded time
  -- the key is cleared by the tick that follows the acknowledgement
  marked : ∀ time, beacon.acknowledged = some time → beacon.announcer.lastAnnounced ≠ "" →
    beacon.ticker.pending = false → beacon.ticker.next ≤ time + interval
  timely : ∀ time, beacon.acknowledged = some time → beacon.Timely (beacon.due interval time)

theorem inv_start {interval : Nat} (positive : 0 < interval) : Inv interval (start interval) where
  period := rfl
  recheck_period := rfl
  ticking := Ticker.start_accurate positive
  rechecking := Ticker.start_accurate (by decide)
  past seen record := by cases record
  posting current key posting := by cases posting
  recorded time acknowledged := by cases acknowledged
  marked time acknowledged := by cases acknowledged
  timely time acknowledged := by cases acknowledged

variable {interval : Nat} {beacon after : Beacon}

theorem TicksBy.pass {ticker : Ticker} {now limit : Nat} (ticks : TicksBy ticker now limit)
    (accurate : ticker.Accurate now) (empty : ticker.pending = false) :
    TicksBy (ticker.pass (now + 1)) (now + 1) limit := by
  have early := ticks.2 empty
  have ahead := accurate.ahead
  refine ⟨fun _ => by omega, ?_⟩
  intro unfired
  rw [(Ticker.pass_unfired unfired).2]
  exact early

theorem TicksBy.now_le {ticker : Ticker} {now limit : Nat} (ticks : TicksBy ticker now limit)
    (accurate : ticker.Accurate now) : now ≤ limit := by
  have ahead := accurate.ahead
  cases pending : ticker.pending with
  | true => exact ticks.1 pending
  | false =>
      have early := ticks.2 pending
      omega

theorem Inv.pass (inv : Inv interval beacon) (prompt : beacon.Prompt .pass) :
    Inv interval beacon.passed where
  period := by simpa [passed] using inv.period
  recheck_period := by simpa [passed] using inv.recheck_period
  ticking := inv.ticking.pass
  rechecking := inv.rechecking.pass
  past seen record := Nat.le_succ_of_le (inv.past seen record)
  posting current key point := by
    have point : beacon.announcer.point = .posting current key := point
    obtain ⟨named, begun, short, unticked, taken⟩ := inv.posting current key point
    simp only [Prompt, point] at prompt
    refine ⟨named, ?_, ?_, ?_, ?_⟩
    · change beacon.since ≤ beacon.now + 1
      omega
    · change beacon.now + 1 ≤ beacon.since + postTimeout
      omega
    · intro unfired
      obtain ⟨empty, next⟩ := Ticker.pass_unfired unfired
      change (beacon.ticker.pass (beacon.now + 1)).next ≤ _
      rw [next]
      exact unticked empty
    · exact taken
  recorded := inv.recorded
  marked time acknowledged keyed unfired := by
    obtain ⟨empty, next⟩ := Ticker.pass_unfired unfired
    change (beacon.ticker.pass (beacon.now + 1)).next ≤ _
    rw [next]
    exact inv.marked time acknowledged keyed empty
  timely time acknowledged := by
    have timely := inv.timely time acknowledged
    cases point : beacon.announcer.point with
    | top => simp [Prompt, point] at prompt
    | posting current key =>
        have same : beacon.passed.due interval time = beacon.due interval time := by
          simp [due, lost, passed, point]
        rw [same]
        simpa [Timely, passed, point] using timely
    | waiting =>
        have same : beacon.passed.due interval time = beacon.due interval time := by
          simp [due, lost, passed, point]
        rw [same]
        simp only [Timely, Prompt, passed, point] at prompt timely ⊢
        rcases timely with ⟨ticks, keyed⟩ | ticks
        · exact Or.inl ⟨ticks.pass inv.ticking prompt.1, keyed⟩
        · exact Or.inr (ticks.pass inv.rechecking prompt.2)
    | returned =>
        have later : beacon.passed.due interval time = beacon.due interval time + 1 := by
          simp [due, lost, passed, point, Nat.add_assoc]
        rw [later]
        simp only [Timely, passed, point] at timely ⊢
        omega

theorem Inv.take (inv : Inv interval beacon) :
    Inv interval { beacon with taken := some beacon.now, seen := some beacon.now } where
  __ := inv
  past seen record := by
    cases record
    exact Nat.le_refl _
  posting posted named posting := by
    obtain ⟨named, begun, short, unticked, -⟩ := inv.posting posted named posting
    refine ⟨named, begun, short, unticked, ?_⟩
    intro time took
    cases took
    exact ⟨begun, beacon.now, rfl, Nat.le_refl _⟩
  recorded time acknowledged := by
    obtain ⟨seen, record, since⟩ := inv.recorded time acknowledged
    exact ⟨beacon.now, rfl, Nat.le_trans since (inv.past seen record)⟩

theorem Timely.now_le_of_waiting (inv : Inv interval beacon) {limit : Nat}
    (timely : beacon.Timely limit) (point : beacon.announcer.point = .waiting) :
    beacon.now ≤ limit := by
  rw [Timely, point] at timely
  rcases timely with ⟨ticks, -⟩ | ticks
  · exact ticks.now_le inv.ticking
  · exact ticks.now_le inv.rechecking

theorem Timely.now_le_of_top {limit : Nat} (timely : beacon.Timely limit)
    (point : beacon.announcer.point = .top) : beacon.now ≤ limit := by
  rwa [Timely, point] at timely

theorem Inv.recheck_soon (inv : Inv interval beacon) {limit : Nat}
    (late : beacon.now ≤ limit + postTimeout) :
    TicksBy beacon.recheck beacon.now (limit + missTime) := by
  have near := inv.rechecking.near
  rw [inv.recheck_period] at near
  rw [TicksBy, missTime]
  exact ⟨fun _ => by omega, fun _ => by omega⟩

theorem Inv.restart (inv : Inv interval beacon) (positive : 0 < interval)
    (point : beacon.announcer.point = .returned) :
    Inv interval { beacon with
      announcer := {}
      ticker := .start beacon.ticker.period beacon.now
      recheck := .start recheckInterval beacon.now } where
  __ := inv
  recheck_period := rfl
  ticking := Ticker.start_accurate (inv.period ▸ positive)
  rechecking := Ticker.start_accurate (by decide)
  posting posted key posting := by cases posting
  marked _ _ keyed := absurd rfl keyed
  timely time acknowledged := by
    have timely := inv.timely time acknowledged
    rwa [Timely, point] at timely

theorem Inv.nowhere (inv : Inv interval beacon) {current : List String}
    (point : beacon.announcer.point = .top) :
    Inv interval { beacon with
      announcer := moved beacon.announcer (.addresses current) .waiting
      since := beacon.now
      taken := none
      misses := beacon.misses + 1 } where
  __ := inv
  posting posted key posting := by cases posting
  timely time acknowledged := by
    have early := (inv.timely time acknowledged).now_le_of_top point
    change Timely _ (time + interval + (missTime * (beacon.misses + 1) + beacon.down))
    rw [due_miss]
    exact Or.inr (inv.recheck_soon (Nat.le_add_right_of_le early))

theorem Inv.suppressed (inv : Inv interval beacon) {current : List String}
    (point : beacon.announcer.point = .top) (named : announceKey current ≠ "")
    (same : announceKey current = beacon.announcer.lastAnnounced) :
    Inv interval { beacon with
      announcer := moved beacon.announcer (.addresses current) .waiting
      since := beacon.now
      taken := none } where
  __ := inv
  posting posted key posting := by cases posting
  timely time acknowledged := by
    have keyed : beacon.announcer.lastAnnounced ≠ "" := same ▸ named
    have early := (inv.timely time acknowledged).now_le_of_top point
    refine Or.inl ⟨⟨fun _ => early, fun empty => ?_⟩, keyed⟩
    exact Nat.le_add_right_of_le (inv.marked time acknowledged keyed empty)

theorem Inv.posts (inv : Inv interval beacon) {current : List String}
    (point : beacon.announcer.point = .top) (named : announceKey current ≠ "") :
    Inv interval { beacon with
      announcer := moved beacon.announcer (.addresses current) (.posting current (announceKey current))
      since := beacon.now
      taken := none } where
  __ := inv
  posting posted key posting := by
    cases posting
    refine ⟨named, Nat.le_refl _, Nat.le_add_right _ _, fun _ => ?_, fun time took => by cases took⟩
    have near := inv.ticking.near
    rwa [inv.period] at near
  timely time acknowledged := (inv.timely time acknowledged).now_le_of_top point

theorem Inv.acknowledged (inv : Inv interval beacon) (roomy : postTimeout ≤ interval)
    {current : List String} {key : String} {time : Nat}
    (point : beacon.announcer.point = .posting current key) (took : beacon.taken = some time) :
    Inv interval { beacon with
      announcer := { moved beacon.announcer (.post current (.status statusNoContent)) .waiting with
        lastAnnounced := key }
      acknowledged := beacon.taken
      misses := 0
      down := 0 } := by
  obtain ⟨named, begun, short, unticked, taken⟩ := inv.posting current key point
  obtain ⟨lower, recorded⟩ := taken time took
  have next : beacon.ticker.pending = false → beacon.ticker.next ≤ time + interval := by
    intro empty
    have := unticked empty
    omega
  rw [took]
  refine ⟨inv.period, inv.recheck_period, inv.ticking, inv.rechecking, inv.past,
    fun _ _ posting => (by cases posting), ?_, ?_, ?_⟩
  · intro _ same
    cases same
    exact recorded
  · intro _ same _ empty
    cases same
    exact next empty
  · intro _ same
    cases same
    refine Or.inl ⟨⟨fun _ => ?_, fun empty => ?_⟩, named⟩
    · change beacon.now ≤ time + interval + _
      omega
    · exact Nat.le_add_right_of_le (next empty)

theorem Inv.failed (inv : Inv interval beacon) {current : List String} {key : String}
    (outcome : PostOutcome) (point : beacon.announcer.point = .posting current key) :
    Inv interval { beacon with
      announcer := moved beacon.announcer (.post current outcome) .waiting
      misses := beacon.misses + 1 } where
  __ := inv
  posting posted key posting := by cases posting
  timely time acknowledged := by
    have timely := inv.timely time acknowledged
    rw [Timely, point] at timely
    have short := (inv.posting current key point).short
    change Timely _ (time + interval + (missTime * (beacon.misses + 1) + beacon.down))
    rw [due_miss]
    exact Or.inr (inv.recheck_soon (Nat.le_trans short (Nat.add_le_add_right timely _)))

theorem Inv.cancelled (inv : Inv interval beacon) (point : beacon.announcer.point = .waiting) :
    Inv interval { beacon with
      announcer := moved beacon.announcer (.wake .ctxDone) .returned, since := beacon.now } where
  __ := inv
  posting posted key posting := by cases posting
  timely time acknowledged := (inv.timely time acknowledged).now_le_of_waiting inv point

theorem Inv.refreshed (inv : Inv interval beacon) (point : beacon.announcer.point = .waiting) :
    Inv interval { beacon with
      announcer := { moved beacon.announcer (.wake .ticker) .top with lastAnnounced := "" }
      ticker := beacon.ticker.receive } where
  __ := inv
  ticking := inv.ticking.receive
  posting posted key posting := by cases posting
  marked _ _ keyed := absurd rfl keyed
  timely time acknowledged := (inv.timely time acknowledged).now_le_of_waiting inv point

theorem Inv.rechecked (inv : Inv interval beacon) (point : beacon.announcer.point = .waiting) :
    Inv interval { beacon with
      announcer := moved beacon.announcer (.wake .recheck) .top, recheck := beacon.recheck.receive } where
  __ := inv
  rechecking := inv.rechecking.receive
  posting posted key posting := by cases posting
  timely time acknowledged := (inv.timely time acknowledged).now_le_of_waiting inv point

theorem inv_step {event : BeaconEvent} (roomy : postTimeout ≤ interval) (inv : Inv interval beacon)
    (prompt : beacon.Prompt event) (step : Step beacon event after) : Inv interval after := by
  cases step_stepped step with
  | pass => exact inv.pass prompt
  | take => exact inv.take
  | restart point => exact inv.restart (Nat.lt_of_lt_of_le (by decide) roomy) point
  | nowhere point => exact inv.nowhere point
  | suppressed point some same => exact inv.suppressed point (prompt.resolve_left some) same
  | posts point some => exact inv.posts point (prompt.resolve_left some)
  | acknowledged point took => exact inv.acknowledged roomy point took
  | failed point => exact inv.failed _ point
  | cancelled point => exact inv.cancelled point
  | refreshed point => exact inv.refreshed point
  | rechecked point => exact inv.rechecked point

theorem Inv.now_le (inv : Inv interval beacon) {time : Nat}
    (acknowledged : beacon.acknowledged = some time) :
    beacon.now ≤ beacon.due interval time + postTimeout := by
  have timely := inv.timely time acknowledged
  cases point : beacon.announcer.point with
  | top => exact Nat.le_add_right_of_le (timely.now_le_of_top point)
  | posting current key =>
      rw [Timely, point] at timely
      have short := (inv.posting current key point).short
      exact Nat.le_trans short (Nat.add_le_add_right timely _)
  | waiting => exact Nat.le_add_right_of_le (timely.now_le_of_waiting inv point)
  | returned =>
      rw [Timely, point] at timely
      exact Nat.le_add_right_of_le timely

theorem Inv.fresh (inv : Inv interval beacon) {time : Nat}
    (acknowledged : beacon.acknowledged = some time) :
    ∃ seen, beacon.seen = some seen ∧ seen ≤ beacon.now ∧
      beacon.now ≤ seen + interval + postTimeout + beacon.lost := by
  obtain ⟨seen, record, since⟩ := inv.recorded time acknowledged
  have bound := inv.now_le acknowledged
  rw [due] at bound
  exact ⟨seen, record, inv.past seen record, by omega⟩

theorem inv_of_reach (roomy : postTimeout ≤ interval)
    (reached : Reach Step Prompt (start interval) beacon) :
    Inv interval beacon :=
  reached.invariant (inv_start (Nat.lt_of_lt_of_le (by decide) roomy))
    fun _ _ _ inv prompt step => inv_step roomy inv prompt step

/-- A machine that was acknowledged once has a record that is never older than the
interval, the time a POST takes, and what has been lost since. -/
theorem record_stays_fresh {time : Nat} (roomy : postTimeout ≤ interval)
    (reached : Reach Step Prompt (start interval) beacon)
    (acknowledged : beacon.acknowledged = some time) :
    ∃ seen, beacon.seen = some seen ∧ seen ≤ beacon.now ∧
      beacon.now ≤ seen + interval + postTimeout + beacon.lost :=
  (inv_of_reach roomy reached).fresh acknowledged

def announced : Beacon :=
  { start unlockInterval with
    announcer :=
      { lastAnnounced := "relay://a"
        point := .waiting
        log := [.addresses ["relay://a"], .post ["relay://a"] (.status statusNoContent)] }
    taken := some 0
    seen := some 0
    acknowledged := some 0 }

theorem announced_reached : Reach Step Prompt (start unlockInterval) announced := by
  have named : announceKey ["relay://a"] ≠ "" := by decide
  have posting : Reach Step Prompt (start unlockInterval) _ :=
    Reach.here.take (.act (.addresses ["relay://a"])) (Or.inr named) rfl
  have took := posting.take .take trivial rfl
  exact took.take (.act (.post ["relay://a"] (.status statusNoContent))) trivial rfl

theorem reach_quiet (waiting : beacon.announcer.point = .waiting)
    (unticked : beacon.ticker.pending = false) (unchecked : beacon.recheck.pending = false)
    (count : Nat) (early : beacon.now + count < beacon.ticker.next)
    (sooner : beacon.now + count < beacon.recheck.next) :
    Reach Step Prompt beacon { beacon with now := beacon.now + count } := by
  induction count with
  | zero => exact .here
  | succ count ih =>
      refine (ih (by omega) (by omega)).take .pass ?_ ?_
      · simp only [Prompt, waiting]
        exact ⟨unticked, unchecked⟩
      · have still (ticker : Ticker) (ahead : beacon.now + (count + 1) < ticker.next) :
            ticker.pass (beacon.now + (count + 1)) = ticker := if_neg (by omega)
        simp only [Step, step, passed, waiting, still _ early, still _ sooner, Nat.add_assoc]

theorem missed_post_fresh : ∃ beacon, Reach Step Prompt (start unlockInterval) beacon ∧
    beacon.now = recheckInterval ∧ beacon.misses = 1 ∧ ∃ seen, beacon.seen = some seen ∧
      seen ≤ beacon.now ∧
      beacon.now ≤ seen + unlockInterval + postTimeout + beacon.lost := by
  have quiet := announced_reached.trans
    (reach_quiet rfl rfl rfl (recheckInterval - 1) (by decide) (by decide))
  have fired := quiet.take .pass ⟨rfl, rfl⟩ rfl
  have looks := fired.take (.act (.wake .recheck)) trivial rfl
  have posts := looks.take (.act (.addresses ["relay://b"])) (Or.inr (by decide)) rfl
  have failed := posts.take (.act (.post ["relay://b"] (.status 500))) trivial rfl
  exact ⟨_, failed, rfl, rfl, record_stays_fresh (by decide) failed rfl⟩

end Beacon

end SyncthingSocket
