import SyncthingSocket.ClientFailures
import SyncthingSocket.Readiness

/-!
How the phone finds out whether the machine is still at its prompt: `CheckServerStatus` over
`LookupRecord`, and the thread of `verifyUnlocked`, beside the machine that announces itself.
-/

namespace SyncthingSocket

open Effect

structure RecordBody where
  seen : String
  addresses : List String

/-- How the GET of `LookupRecord` ends. -/
inductive RecordOutcome
  | requestError (err : Err)
  | transportError (err : Err)
  | answered (status : Nat) (body : Except Err RecordBody)

/-- `discovery.Record`. A time counts from the zero time. -/
structure Record where
  seen : Int
  addresses : List String

/-- `parse` is `time.Parse` with the layout of RFC 3339. -/
def lookupRecord (parse : String → Option Int) : RecordOutcome → Except Err (Option Record)
  | .requestError err => .error err
  | .transportError err => .error err
  | .answered status body =>
      if status = statusNotFound then .ok none
      else if status ≠ statusOK then .error (.text ("discovery lookup returned HTTP " ++ toString status))
      else
        match body with
        | .error err => .error err
        | .ok body =>
            if body.seen ≠ "" then .ok (some ⟨(parse body.seen).getD 0, body.addresses⟩)
            else .ok (some ⟨0, body.addresses⟩)

inductive Status
  | waiting
  | stale
  | absent
  | noNetwork
  deriving DecidableEq, Repr

structure ServerStatus where
  state : Status
  ageSeconds : Int
  deriving DecidableEq, Repr

def freshRecordAge : Nat := 150 * second

/-- `Time.Sub`: a `Duration` is a signed number of 64 bits, and never wraps around. -/
def timeSub (t u : Int) : Int :=
  if t - u < -9223372036854775808 then -9223372036854775808
  else if t - u > 9223372036854775807 then 9223372036854775807 else t - u

/-- `now` is the clock of the phone. -/
def checkAgainst (parse : String → Option Int) (now : Int) (serverDeviceID : String)
    (outcome : RecordOutcome) :
    Except Err ServerStatus :=
  if trimSpace serverDeviceID = "" then .error (.text "no device ID to look up")
  else
    match lookupRecord parse outcome with
    | .error _ => .ok ⟨.noNetwork, -1⟩
    | .ok none => .ok ⟨.absent, -1⟩
    | .ok (some record) =>
        if record.seen = 0 then .ok ⟨.stale, -1⟩
        else
          let age := if timeSub now record.seen < 0 then 0 else timeSub now record.seen
          .ok ⟨if age ≤ freshRecordAge then .waiting else .stale, age / second⟩

inductive UnlockUi
  | idle
  | working
  | sent
  | success
  | notAccepted
  | unverified
  | failed (category detail : String)
  deriving DecidableEq, Repr

/-! The thread of `verifyUnlocked`. -/

def verifyPoll : Nat := 5 * second

def verifyWindow : Nat := 210 * second

/-- `lookupTimeout`, the timeout of the HTTP client. -/
def lookupTimeout : Nat := 10 * second

inductive VerifyPoint
  | testing
  | checking
  | sleeping
  | finished (ui : UnlockUi)
  deriving DecidableEq, Repr

structure Verifier where
  deadline : Nat
  reachedDiscovery : Bool := false
  point : VerifyPoint := .testing
  deriving DecidableEq, Repr

inductive VerifyEvent
  | clock (now : Nat)
  | checked (status : Option ServerStatus)
  | slept
  deriving DecidableEq, Repr

def verifyStep (verifier : Verifier) (event : VerifyEvent) : Option Verifier :=
  match verifier.point, event with
  | .testing, .clock now =>
      if now < verifier.deadline then some { verifier with point := .checking }
      else some { verifier with
        point := .finished (if verifier.reachedDiscovery then .notAccepted else .unverified) }
  | .checking, .checked status =>
      match status.map ServerStatus.state with
      | some .stale | some .absent => some { verifier with point := .finished .success }
      | some .waiting => some { verifier with reachedDiscovery := true, point := .sleeping }
      | _ => some { verifier with point := .sleeping }
  | .sleeping, .slept => some { verifier with point := .testing }
  | _, _ => none

/-- What the phone brings: the pairing, and clocks that are not far from the one of
discovery, which stands at `epoch` when the machine starts. -/
structure Phone where
  parse : String → Option Int
  deviceId : String
  epoch : Int
  skew : Nat
  paired : trimSpace deviceId ≠ ""
  dated : 0 < epoch

namespace Phone

def checkServerStatus (phone : Phone) (now : Int) (outcome : RecordOutcome) :
    Except Err ServerStatus :=
  checkAgainst phone.parse now phone.deviceId outcome

def Unreachable (phone : Phone) (outcome : RecordOutcome) : Prop :=
  ∃ err, lookupRecord phone.parse outcome = .error err

def Reports (phone : Phone) (outcome : RecordOutcome) : Option Nat → Prop
  | none => lookupRecord phone.parse outcome = .ok none
  | some seen =>
      ∃ addresses, lookupRecord phone.parse outcome = .ok (some ⟨phone.epoch + seen, addresses⟩)

variable {now : Int} {outcome : RecordOutcome} {event : SceneEvent}

theorem check_unreachable (phone : Phone) (failed : phone.Unreachable outcome) :
    phone.checkServerStatus now outcome = .ok ⟨.noNetwork, -1⟩ := by
  obtain ⟨err, failed⟩ := failed
  rw [checkServerStatus, checkAgainst, if_neg phone.paired, failed]

theorem check_absent (phone : Phone) (absent : phone.Reports outcome none) :
    phone.checkServerStatus now outcome = .ok ⟨.absent, -1⟩ := by
  rw [checkServerStatus, checkAgainst, if_neg phone.paired, absent]

theorem check_dated (phone : Phone) (now : Int) {seen : Nat}
    (reported : phone.Reports outcome (some seen)) :
    ∃ ageSeconds, phone.checkServerStatus now outcome =
      .ok ⟨if now ≤ phone.epoch + seen + freshRecordAge then .waiting else .stale, ageSeconds⟩ := by
  obtain ⟨addresses, reported⟩ := reported
  have dated : phone.epoch + (seen : Int) ≠ 0 := by
    have := phone.dated
    omega
  have fresh : (if timeSub now (phone.epoch + seen) < 0 then 0 else timeSub now (phone.epoch + seen)) ≤
      (freshRecordAge : Int) ↔ now ≤ phone.epoch + seen + freshRecordAge := by
    have size : freshRecordAge = 150000000000 := rfl
    rw [timeSub, size]
    split_ifs <;> omega
  rw [checkServerStatus, checkAgainst, if_neg phone.paired, reported]
  simp only [dated, ↓reduceIte, fresh]
  exact ⟨_, rfl⟩

end Phone

/-! The phone beside the machine. -/

/-- `began` is when the thread began what it is at; `report` is the record that discovery
found for the lookup under way. -/
structure Scene where
  beacon : Beacon
  verifier : Verifier
  began : Nat
  report : Option (Option Nat)

inductive SceneEvent
  | machine (event : BeaconEvent)
  | test
  | report
  | check (wall : Int) (outcome : RecordOutcome)
  | wake

namespace Scene

/-- `verifyUnlocked` has started its thread. -/
def start (beacon : Beacon) : Scene :=
  ⟨beacon, { deadline := beacon.now + verifyWindow }, beacon.now, none⟩

def verified (scene : Scene) (event : VerifyEvent) : Option Scene :=
  (verifyStep scene.verifier event).map fun verifier => ⟨scene.beacon, verifier, scene.beacon.now, none⟩

def step (phone : Phone) (scene : Scene) : SceneEvent → Option Scene
  | .machine event => (scene.beacon.step event).map fun beacon => { scene with beacon }
  | .test => scene.verified (.clock scene.beacon.now)
  | .report =>
      if scene.verifier.point = .checking then some { scene with report := some scene.beacon.seen }
      else none
  | .check wall outcome => scene.verified (.checked (phone.checkServerStatus wall outcome).toOption)
  | .wake => scene.verified .slept

def Step (phone : Phone) (before : Scene) (event : SceneEvent) (after : Scene) : Prop :=
  before.step phone event = some after

/-- The thread waits only for a lookup and in `Thread.sleep`; a lookup that does not fail
tells what discovery found. -/
def Timed (phone : Phone) (scene : Scene) : SceneEvent → Prop
  | .machine .pass =>
      match scene.verifier.point with
      | .testing => False
      | .checking => scene.beacon.now < scene.began + lookupTimeout
      | .sleeping => scene.beacon.now < scene.began + verifyPoll
      | .finished _ => True
  | .check wall outcome => (wall - (phone.epoch + scene.beacon.now)).natAbs ≤ phone.skew ∧
      (phone.Unreachable outcome ∨ ∃ record, scene.report = some record ∧ phone.Reports outcome record)
  | .wake => scene.began + verifyPoll ≤ scene.beacon.now
  | _ => True

/-- The machine stays at its prompt and never loses more than `lost` between two POSTs
that are acknowledged. -/
def Steady (phone : Phone) (lost : Nat) (scene : Scene) (event : SceneEvent) : Prop :=
  scene.Timed phone event ∧ scene.beacon.lost ≤ lost ∧
    match event with
    | .machine event => scene.beacon.Prompt event
    | _ => True

def Gone (phone : Phone) (scene : Scene) (event : SceneEvent) : Prop :=
  scene.Timed phone event ∧
    match event with
    | .machine event => event = .pass
    | .check _ outcome =>
        phone.Unreachable outcome → scene.beacon.now + verifyPoll < scene.verifier.deadline
    | _ => True

/-! What a step can do. -/

def goes (scene : Scene) (reachedDiscovery : Bool) (point : VerifyPoint) : Scene :=
  ⟨scene.beacon, { scene.verifier with reachedDiscovery, point }, scene.beacon.now, none⟩

inductive Stepped (phone : Phone) (scene : Scene) : SceneEvent → Scene → Prop
  | machine {event : BeaconEvent} {beacon : Beacon} : Beacon.Step scene.beacon event beacon →
      Stepped phone scene (.machine event) { scene with beacon }
  | looks : scene.verifier.point = .testing → scene.beacon.now < scene.verifier.deadline →
      Stepped phone scene .test (scene.goes scene.verifier.reachedDiscovery .checking)
  | expires {ui : UnlockUi} : scene.verifier.point = .testing →
    scene.verifier.deadline ≤ scene.beacon.now →
      ui ≠ .success →
        Stepped phone scene .test (scene.goes scene.verifier.reachedDiscovery (.finished ui))
  | reports : scene.verifier.point = .checking →
    Stepped phone scene .report { scene with report := some scene.beacon.seen }
  | confirmed {wall : Int} {outcome : RecordOutcome} {status : ServerStatus} :
    scene.verifier.point = .checking →
      phone.checkServerStatus wall outcome = .ok status → status.state = .stale ∨ status.state = .absent →
      Stepped phone scene (.check wall outcome)
        (scene.goes scene.verifier.reachedDiscovery (.finished .success))
  | repeats {wall : Int} {outcome : RecordOutcome} (reachedDiscovery : Bool) :
    scene.verifier.point = .checking →
      (∀ status, phone.checkServerStatus wall outcome = .ok status → status.state ≠ .stale ∧
        status.state ≠ .absent) →
      Stepped phone scene (.check wall outcome) (scene.goes reachedDiscovery .sleeping)
  | wakes : scene.verifier.point = .sleeping →
      Stepped phone scene .wake (scene.goes scene.verifier.reachedDiscovery .testing)

variable {phone : Phone} {scene after : Scene}

theorem toOption_eq_some {result : Except Err ServerStatus} {status : ServerStatus} :
    result.toOption = some status ↔ result = .ok status := by
  cases result <;> simp [Except.toOption]

theorem verifyStep_checked {verifier later : Verifier} {status : Option ServerStatus}
    (turned : verifyStep verifier (.checked status) = some later) :
    verifier.point = .checking ∧
      ((∃ found, status = some found ∧ (found.state = .stale ∨ found.state = .absent) ∧
          later = { verifier with point := .finished .success }) ∨
        (∀ found, status = some found → found.state ≠ .stale ∧ found.state ≠ .absent) ∧
          ∃ reachedDiscovery, later = { verifier with reachedDiscovery, point := .sleeping }) := by
  cases point : verifier.point with
  | checking =>
      refine ⟨rfl, ?_⟩
      simp only [verifyStep, point] at turned
      cases status with
      | none =>
          cases turned
          exact Or.inr ⟨by simp, _, rfl⟩
      | some found =>
          simp only [Option.map_some] at turned
          cases state : found.state <;> simp only [state] at turned <;> cases turned
          · exact Or.inr ⟨by simp [state], _, rfl⟩
          · exact Or.inl ⟨found, rfl, Or.inl state, rfl⟩
          · exact Or.inl ⟨found, rfl, Or.inr state, rfl⟩
          · exact Or.inr ⟨by simp [state], _, rfl⟩
  | _ => simp [verifyStep, point] at turned

theorem step_stepped (step : Step phone scene event after) : Stepped phone scene event after := by
  cases event with
  | machine event =>
      obtain ⟨beacon, moved, rfl⟩ := Option.map_eq_some_iff.mp step
      exact .machine moved
  | test =>
      obtain ⟨verifier, turned, rfl⟩ := Option.map_eq_some_iff.mp step
      cases point : scene.verifier.point with
      | testing =>
          simp only [verifyStep, point] at turned
          split at turned
          · next early =>
              cases turned
              exact .looks point early
          · next late =>
              cases turned
              exact .expires point (Nat.le_of_not_lt late) (by split <;> decide)
      | _ => simp [verifyStep, point] at turned
  | report =>
      simp only [Step, Scene.step] at step
      split at step
      · next point =>
          cases step
          exact .reports point
      · cases step
  | check wall outcome =>
      obtain ⟨verifier, turned, rfl⟩ := Option.map_eq_some_iff.mp step
      obtain ⟨point, ⟨status, answer, state, rfl⟩ | ⟨other, reachedDiscovery, rfl⟩⟩ :=
        verifyStep_checked turned
      · exact .confirmed point (toOption_eq_some.mp answer) state
      · exact .repeats reachedDiscovery point fun status answer =>
          other status (toOption_eq_some.mpr answer)
  | wake =>
      obtain ⟨verifier, turned, rfl⟩ := Option.map_eq_some_iff.mp step
      cases point : scene.verifier.point with
      | sleeping =>
          simp only [verifyStep, point] at turned
          cases turned
          exact .wakes point
      | _ => simp [verifyStep, point] at turned

/-! A machine that stays at its prompt. -/

def reportAge (interval lost : Nat) : Nat := interval + postTimeout + lost

structure Waits (interval lost : Nat) (scene : Scene) : Prop where
  machine : scene.beacon.Inv interval
  acknowledged : scene.beacon.acknowledged ≠ none
  begun : scene.began ≤ scene.beacon.now
  unconfirmed : scene.verifier.point ≠ .finished .success
  looking : scene.verifier.point = .checking → scene.beacon.now ≤ scene.began + lookupTimeout
  reported : ∀ record, scene.report = some record →
    ∃ seen, record = some seen ∧ scene.began ≤ seen + reportAge interval lost

variable {interval lost : Nat}

theorem Waits.goes (waits : Waits interval lost scene) (reachedDiscovery : Bool)
    {point : VerifyPoint} (unconfirmed : point ≠ .finished .success) :
    Waits interval lost (scene.goes reachedDiscovery point) where
  machine := waits.machine
  acknowledged := waits.acknowledged
  begun := Nat.le_refl _
  unconfirmed := unconfirmed
  looking _ := Nat.le_add_right _ _
  reported record reported := by cases reported

theorem Waits.machine_step (waits : Waits interval lost scene) {event : BeaconEvent}
    {beacon : Beacon} (roomy : postTimeout ≤ interval)
    (timed : scene.Timed phone (.machine event)) (prompt : scene.beacon.Prompt event)
    (step : Beacon.Step scene.beacon event beacon) :
    Waits interval lost { scene with beacon } := by
  have later : scene.beacon.now ≤ beacon.now := by
    rcases Beacon.step_now step with ⟨-, now⟩ | now <;> omega
  refine ⟨Beacon.inv_step roomy waits.machine prompt step,
    Beacon.step_acknowledged step waits.acknowledged, Nat.le_trans waits.begun later,
    waits.unconfirmed, ?_, waits.reported⟩
  intro point
  rcases Beacon.step_now step with ⟨rfl, now⟩ | now
  · change scene.verifier.point = .checking at point
    simp only [Timed, point] at timed
    change beacon.now ≤ scene.began + lookupTimeout
    omega
  · exact now ▸ waits.looking point

theorem Waits.report (waits : Waits interval lost scene) (few : scene.beacon.lost ≤ lost) :
    Waits interval lost { scene with report := some scene.beacon.seen } := by
  refine ⟨waits.machine, waits.acknowledged, waits.begun, waits.unconfirmed, waits.looking, ?_⟩
  intro record reported
  cases reported
  obtain ⟨time, acknowledged⟩ := Option.ne_none_iff_exists'.mp waits.acknowledged
  obtain ⟨seen, found, -, age⟩ := waits.machine.fresh acknowledged
  refine ⟨seen, found, ?_⟩
  have begun := waits.begun
  change scene.began ≤ seen + (interval + postTimeout + lost)
  omega

theorem Waits.check (waits : Waits interval lost scene)
    (fits : reportAge interval lost + lookupTimeout + phone.skew ≤ freshRecordAge) {wall : Int}
    (timed : scene.Timed phone (.check wall outcome)) (point : scene.verifier.point = .checking)
    {status : ServerStatus} (answer : phone.checkServerStatus wall outcome = .ok status) :
    status.state ≠ .stale ∧ status.state ≠ .absent := by
  obtain ⟨near, failed | ⟨record, reported, told⟩⟩ := timed
  · rw [phone.check_unreachable failed] at answer
    cases answer
    simp
  · obtain ⟨seen, rfl, age⟩ := waits.reported record reported
    obtain ⟨ageSeconds, found⟩ := phone.check_dated wall told
    have looking := waits.looking point
    have fresh : wall ≤ phone.epoch + seen + freshRecordAge := by omega
    rw [found, if_pos fresh] at answer
    cases answer
    simp

theorem waits_step (roomy : postTimeout ≤ interval)
    (fits : reportAge interval lost + lookupTimeout + phone.skew ≤ freshRecordAge)
    (waits : Waits interval lost scene) (steady : scene.Steady phone lost event)
    (step : Step phone scene event after) : Waits interval lost after := by
  obtain ⟨timed, few, prompt⟩ := steady
  cases step_stepped step with
  | machine moved => exact waits.machine_step roomy timed prompt moved
  | looks => exact waits.goes _ (by simp)
  | expires _ _ other => exact waits.goes _ (by simpa using other)
  | reports => exact waits.report few
  | confirmed point answer state =>
      have other := waits.check fits timed point answer
      exact absurd state (not_or.mpr other)
  | repeats reachedDiscovery => exact waits.goes reachedDiscovery (by simp)
  | wakes => exact waits.goes _ (by simp)

/-- While the machine stays at its prompt the phone never shows that it got past it. -/
theorem waiting_machine_never_confirmed {beacon : Beacon} {time : Nat}
    (roomy : postTimeout ≤ interval)
    (fits : reportAge interval lost + lookupTimeout + phone.skew ≤ freshRecordAge)
    (announcing : Reach Beacon.Step Beacon.Prompt (Beacon.start interval) beacon)
    (acknowledged : beacon.acknowledged = some time)
    (reached : Reach (Step phone) (Steady phone lost) (start beacon) scene) :
    scene.verifier.point ≠ .finished .success := by
  have initially : Waits interval lost (start beacon) := by
    refine ⟨Beacon.inv_of_reach roomy announcing, ?_, Nat.le_refl _, by simp [start], ?_, ?_⟩
    · exact Option.ne_none_iff_exists'.mpr ⟨time, acknowledged⟩
    · intro _
      exact Nat.le_add_right _ _
    · intro record reported
      cases reported
  have waits := reached.invariant initially fun _ _ _ waits steady step =>
    waits_step roomy fits waits steady step
  exact waits.unconfirmed

def sampleStart : String := "2026-01-01T00:00:00Z"

def samplePhone : Phone where
  parse text := if text = sampleStart then some (63902822400 * second) else none
  deviceId := "A"
  epoch := 63902822400 * second
  skew := 20 * second
  paired := by decide
  dated := by decide

def sampleAnswer : RecordOutcome := .answered statusOK (.ok ⟨sampleStart, []⟩)

theorem sampleAnswer_reports : samplePhone.Reports sampleAnswer (some 0) := ⟨[], rfl⟩

theorem waiting_machine_looked_up :
    ((start Beacon.announced).goes true .sleeping).verifier.point ≠ .finished .success := by
  have few : Beacon.announced.lost ≤ 2 * missTime := by decide
  have looks : Reach (Step samplePhone) (Steady samplePhone (2 * missTime)) (start Beacon.announced) _ :=
    Reach.here.take .test ⟨trivial, few, trivial⟩ rfl
  have reported := looks.take .report ⟨trivial, few, trivial⟩ rfl
  have checked := reported.take (.check samplePhone.epoch sampleAnswer)
    ⟨⟨by decide, Or.inr ⟨some 0, rfl, sampleAnswer_reports⟩⟩, few, trivial⟩ rfl
  exact waiting_machine_never_confirmed (by decide) (by decide) Beacon.announced_reached rfl checked

/-! A machine that is gone. -/

def OnTime (scene : Scene) : Prop :=
  match scene.verifier.point with
  | .testing => scene.beacon.now < scene.verifier.deadline
  | .checking => scene.began < scene.verifier.deadline ∧ scene.beacon.now ≤ scene.began + lookupTimeout
  | .sleeping =>
      scene.began + verifyPoll < scene.verifier.deadline ∧
        scene.beacon.now ≤ scene.began + verifyPoll
  | .finished ui => ui = .success

structure Ends (started : Nat) (scene : Scene) : Prop where
  deadline : scene.verifier.deadline = started + verifyWindow
  seen : ∀ seen, scene.beacon.seen = some seen → seen ≤ started
  reported : ∀ seen, scene.report = some (some seen) → seen ≤ started
  onTime : scene.OnTime

variable {started : Nat}

theorem Ends.goes (ends : Ends started scene) (reachedDiscovery : Bool) {point : VerifyPoint}
    (onTime : (scene.goes reachedDiscovery point).OnTime) :
    Ends started (scene.goes reachedDiscovery point) where
  deadline := ends.deadline
  seen := ends.seen
  reported seen reported := by cases reported
  onTime := onTime

theorem Ends.pass (ends : Ends started scene) (timed : scene.Timed phone (.machine .pass)) :
    Ends started { scene with beacon := scene.beacon.passed } where
  deadline := ends.deadline
  seen := ends.seen
  reported := ends.reported
  onTime := by
    have onTime := ends.onTime
    cases point : scene.verifier.point with
    | testing => simp [Timed, point] at timed
    | checking =>
        simp only [OnTime, Timed, point] at onTime timed ⊢
        exact ⟨onTime.1, timed⟩
    | sleeping =>
        simp only [OnTime, Timed, point] at onTime timed ⊢
        exact ⟨onTime.1, timed⟩
    | finished ui =>
        simp only [OnTime, point] at onTime ⊢
        exact onTime

theorem Ends.check (ends : Ends started scene)
    (narrow : freshRecordAge + phone.skew + verifyPoll < verifyWindow) {wall : Int}
    (gone : scene.Gone phone (.check wall outcome))
    (other : ∀ status, phone.checkServerStatus wall outcome = .ok status → status.state ≠ .stale ∧
      status.state ≠ .absent) :
    scene.beacon.now + verifyPoll < scene.verifier.deadline := by
  obtain ⟨⟨near, failed | ⟨record, reported, told⟩⟩, reachable⟩ := gone
  · exact reachable failed
  · cases record with
    | none => exact absurd rfl (other _ (phone.check_absent told)).2
    | some seen =>
        obtain ⟨ageSeconds, found⟩ := phone.check_dated wall told
        by_cases fresh : wall ≤ phone.epoch + seen + freshRecordAge
        · have early := ends.reported seen reported
          rw [ends.deadline]
          omega
        · rw [if_neg fresh] at found
          exact absurd rfl (other _ found).1

theorem ends_step (narrow : freshRecordAge + phone.skew + verifyPoll < verifyWindow)
    (ends : Ends started scene) (gone : scene.Gone phone event)
    (step : Step phone scene event after) :
    Ends started after := by
  have onTime := ends.onTime
  cases step_stepped step with
  | machine moved =>
      obtain ⟨timed, rfl⟩ := gone
      cases moved
      exact ends.pass timed
  | looks point early => exact ends.goes _ ⟨early, Nat.le_add_right _ _⟩
  | expires point late =>
      simp only [OnTime, point] at onTime
      omega
  | reports =>
      exact ⟨ends.deadline, ends.seen,
        fun seen reported => ends.seen seen (Option.some.inj reported), onTime⟩
  | confirmed => exact ends.goes _ rfl
  | repeats reachedDiscovery point other =>
      exact ends.goes reachedDiscovery ⟨ends.check narrow gone other, Nat.le_add_right _ _⟩
  | wakes point =>
      simp only [OnTime, point] at onTime
      exact ends.goes _ (Nat.lt_of_le_of_lt onTime.2 onTime.1)

/-- Once the machine is gone the phone confirms it, at the latest when a lookup that began
before the deadline is over. -/
theorem gone_machine_confirmed {beacon : Beacon}
    (narrow : freshRecordAge + phone.skew + verifyPoll < verifyWindow)
    (past : ∀ seen, beacon.seen = some seen → seen ≤ beacon.now)
    (reached : Reach (Step phone) (Gone phone) (start beacon) scene)
    (late : beacon.now + verifyWindow + lookupTimeout ≤ scene.beacon.now) :
    scene.verifier.point = .finished .success := by
  have initially : Ends beacon.now (start beacon) := by
    refine ⟨rfl, past, fun seen reported => (by cases reported), ?_⟩
    change beacon.now < beacon.now + verifyWindow
    exact Nat.lt_add_of_pos_right (by decide)
  have ends := reached.invariant initially fun _ _ _ ends gone step => ends_step narrow ends gone step
  have onTime := ends.onTime
  have deadline := ends.deadline
  cases point : scene.verifier.point with
  | testing =>
      simp only [OnTime, point] at onTime
      omega
  | checking =>
      simp only [OnTime, point] at onTime
      omega
  | sleeping =>
      simp only [OnTime, point] at onTime
      have shorter : verifyPoll ≤ lookupTimeout := by decide
      omega
  | finished ui =>
      simp only [OnTime, point] at onTime
      rw [onTime]

/-! A machine that was acknowledged and then ended: its record goes stale while the phone
looks it up again and again. -/

theorem reach_passes (phone : Phone) (scene : Scene) (count : Nat)
    (idle : ∀ k < count, match scene.verifier.point with
      | .sleeping => scene.beacon.now + k < scene.began + verifyPoll
      | .finished _ => True
      | _ => False) :
    ∃ beacon, Reach (Step phone) (Gone phone) scene { scene with beacon } ∧
      beacon.now = scene.beacon.now + count ∧ beacon.seen = scene.beacon.seen := by
  induction count with
  | zero => exact ⟨scene.beacon, .here, rfl, rfl⟩
  | succ count ih =>
      obtain ⟨beacon, reached, now, seen⟩ := ih fun k small => idle k (by omega)
      refine ⟨beacon.passed, reached.take (.machine .pass) ⟨?_, rfl⟩ rfl,
        by rw [Beacon.passed, now]; rfl, seen⟩
      have last := idle count (Nat.lt_succ_self _)
      cases point : scene.verifier.point <;> simp_all [Timed]

theorem reach_round (point : scene.verifier.point = .testing) (seen : scene.beacon.seen = some 0)
    (early : scene.beacon.now < scene.verifier.deadline) :
    ∃ later, Reach (Step samplePhone) (Gone samplePhone) scene later ∧
      later.verifier.deadline = scene.verifier.deadline ∧ later.beacon.seen = some 0 ∧
      if scene.beacon.now ≤ freshRecordAge then
        later.verifier.point = .testing ∧ later.beacon.now = scene.beacon.now + verifyPoll
      else later.verifier.point = .finished .success ∧ later.beacon.now = scene.beacon.now := by
  have looks : Reach (Step samplePhone) (Gone samplePhone) scene
      (scene.goes scene.verifier.reachedDiscovery .checking) :=
    Reach.here.take .test ⟨trivial, trivial⟩
      (by simp [Step, step, verified, verifyStep, point, early, goes])
  have reported := looks.take .report ⟨trivial, trivial⟩ rfl
  have reachable : ¬ samplePhone.Unreachable sampleAnswer := by
    rintro ⟨err, failed⟩
    obtain ⟨addresses, found⟩ := sampleAnswer_reports
    rw [found] at failed
    cases failed
  have gone : Gone samplePhone { scene.goes scene.verifier.reachedDiscovery .checking with
    report := some scene.beacon.seen }
      (.check (samplePhone.epoch + scene.beacon.now) sampleAnswer) :=
    ⟨⟨by simp [goes], Or.inr ⟨_, rfl, seen ▸ sampleAnswer_reports⟩⟩,
      fun failed => absurd failed reachable⟩
  obtain ⟨ageSeconds, found⟩ :=
    samplePhone.check_dated (samplePhone.epoch + scene.beacon.now) sampleAnswer_reports
  by_cases fresh : scene.beacon.now ≤ freshRecordAge
  · rw [if_pos (by omega)] at found
    have checked : Reach (Step samplePhone) (Gone samplePhone) scene (scene.goes true .sleeping) :=
      reported.take _ gone (by simp [Step, step, verified, verifyStep, goes, found, Except.toOption])
    obtain ⟨beacon, passes, now, kept⟩ := reach_passes samplePhone (scene.goes true .sleeping) verifyPoll
      fun k small => Nat.add_lt_add_left small _
    refine ⟨_, (checked.trans passes).take .wake ⟨?_, trivial⟩ rfl, rfl, kept.trans seen, ?_⟩
    · exact Nat.le_of_eq now.symm
    · rw [if_pos fresh]
      exact ⟨rfl, now⟩
  · rw [if_neg (by omega)] at found
    refine ⟨scene.goes scene.verifier.reachedDiscovery (.finished .success),
      reported.take _ gone ?_, rfl, seen, ?_⟩
    · simp [Step, step, verified, verifyStep, goes, found, Except.toOption]
    · rw [if_neg fresh]
      exact ⟨rfl, rfl⟩

theorem reach_rounds (count : Nat) (early : count ≤ 31) : ∃ scene,
    Reach (Step samplePhone) (Gone samplePhone) (start Beacon.announced) scene ∧
      scene.verifier.deadline = verifyWindow ∧ scene.beacon.seen = some 0 ∧
      scene.verifier.point = .testing ∧ scene.beacon.now = count * verifyPoll := by
  have poll : verifyPoll = 5000000000 := rfl
  rw [poll]
  induction count with
  | zero => exact ⟨_, .here, rfl, rfl, rfl, rfl⟩
  | succ count ih =>
      obtain ⟨scene, reached, deadline, seen, point, now⟩ := ih (by omega)
      have sizes : verifyWindow = 210000000000 ∧ freshRecordAge = 150000000000 := by decide
      obtain ⟨later, round, same, kept, turned⟩ := reach_round point seen (by omega)
      rw [if_pos (by omega)] at turned
      exact ⟨later, reached.trans round, same.trans deadline, kept, turned.1, by omega⟩

theorem stale_machine_confirmed : ∃ scene,
    Reach (Step samplePhone) (Gone samplePhone) (start Beacon.announced) scene ∧
      scene.beacon.seen = some 0 ∧ scene.verifier.point = .finished .success := by
  obtain ⟨last, rounds, deadline, seen, point, now⟩ := reach_rounds 31 (Nat.le_refl _)
  have sizes : verifyPoll = 5000000000 ∧ verifyWindow = 210000000000 ∧
      freshRecordAge = 150000000000 := by decide
  obtain ⟨found, round, _, kept, ended⟩ := reach_round point seen (by omega)
  rw [if_neg (by omega)] at ended
  obtain ⟨beacon, passes, later, same⟩ := reach_passes samplePhone found (verifyWindow + lookupTimeout)
    fun _ _ => by simp [ended.1]
  have reached := (rounds.trans round).trans passes
  refine ⟨_, reached, same.trans kept, gone_machine_confirmed (by decide) (fun _ held => ?_) reached ?_⟩
  · cases held
    exact Nat.le_refl _
  · change 0 + verifyWindow + lookupTimeout ≤ beacon.now
    omega

end Scene

end SyncthingSocket
