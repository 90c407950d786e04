import SyncthingSocket.Luks.Pairing
import SyncthingSocket.UnlockAdvice
import SyncthingSocket.UnlockCheck

/-!
The activity of the Android app. What the user does, authentication prompts, camera frames and the
posts of its threads change its state on the UI thread, in any order.
-/

namespace SyncthingSocket

open Effect

inductive Phase
  | enroll
  | manualEnroll
  | scanning
  | unlock
  | showPairing
  | keyLost
  | noScreenLock
  deriving DecidableEq, Repr

inductive ReadinessUi
  | checking
  | waiting
  | stale
  | absent
  | noNetwork
  deriving DecidableEq, Repr

inductive Notice
  | cameraDenied
  | enrollBadQr
  | enrollIncomplete
  | enrollBadDeviceId
  | enrollSaved
  | message (text : String)
  deriving DecidableEq, Repr

structure KotlinText where
  isWhitespace : UInt16 → Bool
  uppercase : List UInt16 → List UInt16

namespace KotlinText

variable (kotlin : KotlinText)

def isBlank (s : List UInt16) : Bool := s.all kotlin.isWhitespace

def trim (s : List UInt16) : List UInt16 :=
  ((s.dropWhile kotlin.isWhitespace).reverse.dropWhile kotlin.isWhitespace).reverse

end KotlinText

def codeUnit (c : Char) : UInt16 := UInt16.ofNat c.toNat

def asciiUpper (c : UInt16) : UInt16 := if codeUnit 'a' ≤ c ∧ c ≤ codeUnit 'z' then c - 32 else c

def asciiKotlin : KotlinText where
  isWhitespace c := (9 ≤ c && c ≤ 13) || (28 ≤ c && c ≤ 32)
  uppercase := List.map asciiUpper

def looksLikeDeviceId (value : List UInt16) : Bool :=
  let bare := value.filter (· ≠ codeUnit '-')
  bare.length == 56 && bare.all fun c =>
    (codeUnit 'A' ≤ c && c ≤ codeUnit 'Z') || (codeUnit '2' ≤ c && c ≤ codeUnit '7')

/-- The encrypted preferences, and beside them the flag and the Device ID that can be read
without authentication. -/
structure CredentialStore where
  enrolled : Bool
  secret : Option Pairing
  publicDeviceId : Option (List UInt16)
  deriving DecidableEq

namespace CredentialStore

/-- With whether the key can be used; if not, `load` throws. -/
def load (store : CredentialStore) (usable : Bool) :
    Except Unit (Option Pairing) × CredentialStore :=
  if usable then
    match store.secret with
    | some pairing => (.ok (some pairing), { store with publicDeviceId := some pairing.deviceId })
    | none => (.ok none, store)
  else (.error (), store)

def save (_ : CredentialStore) (pairing : Pairing) : CredentialStore :=
  { enrolled := true, secret := some pairing, publicDeviceId := some pairing.deviceId }

def discardUnreadable (_ : CredentialStore) : CredentialStore :=
  { enrolled := false, secret := none, publicDeviceId := none }

end CredentialStore

inductive Purpose
  | enroll (pairing : Pairing)
  | showPairing
  | unlock
  deriving DecidableEq

/-- The threads: in `unlockLUKS`, in the loop of `verifyUnlocked`, in `checkServerStatus`. -/
inductive Worker
  | unlocking (pairing : Pairing)
  | verifying (deviceId : List UInt16) (verifier : Verifier)
  | polling (deviceId : List UInt16)
  deriving DecidableEq

/-- What a thread leaves to `runOnUiThread`. -/
inductive Posted
  | delivered
  | undelivered (message : String)
  | verified (ui : UnlockUi)
  | polled (readiness : ReadinessUi)
  deriving DecidableEq

/-- What the app has seen: the results of `unlockLUKS` and of the checks of `verifyUnlocked`,
and that a pairing was stored or discarded. -/
inductive Sighting
  | delivered (pairing : Pairing)
  | undelivered (message : String)
  | observed (deviceId : List UInt16) (status : Status)
  | stored
  deriving DecidableEq

/-- `prompts` are the authentications that were asked for and are not answered, and `camera`
tells that the analysis of frames is bound to the activity, as it stays. The last fields
record what happened: `log` since the activity was created, and since ever the pairings that
were saved, the authentications for unlocking and the calls of `unlockLUKS`. -/
structure Activity where
  store : CredentialStore
  phase : Phase
  unlockUi : UnlockUi := .idle
  readiness : ReadinessUi := .checking
  notice : Option Notice := none
  shownPairing : Option Pairing := none
  pendingAutoUnlock : Bool := false
  prompts : List Purpose := []
  camera : Bool := false
  workers : List Worker := []
  posts : List Posted := []
  log : List Sighting := []
  saves : List Pairing := []
  authentications : Nat := 0
  calls : List Pairing := []

namespace Activity

def startingPhase (canAuthenticate : Bool) (store : CredentialStore) : Phase :=
  if !canAuthenticate then .noScreenLock else if store.enrolled then .unlock else .enroll

/-- Another activity in the same app, as after a rotation. The threads and prompts of the one
before it are lost to it. -/
def onCreate (activity : Activity) (canAuthenticate saved actionUnlock : Bool) : Activity :=
  { store := activity.store
    phase := startingPhase canAuthenticate activity.store
    pendingAutoUnlock := !saved && actionUnlock
    saves := activity.saves
    authentications := activity.authentications
    calls := activity.calls }

def authenticate (activity : Activity) (purpose : Purpose) : Activity :=
  { activity with prompts := activity.prompts ++ [purpose] }

def spawn (activity : Activity) (worker : Worker) : Activity :=
  { activity with workers := activity.workers ++ [worker] }

def startScan (activity : Activity) (granted : Bool) : Activity :=
  if granted then { activity with notice := none, phase := .scanning, camera := true }
  else { activity with notice := none }

def requestCamera (activity : Activity) (granted : Bool) : Activity :=
  if granted then { activity with phase := .scanning, camera := true }
  else { activity with notice := some .cameraDenied }

def storePairing (activity : Activity) (pairing : Pairing) : Activity :=
  activity.authenticate (.enroll pairing)

def onScanned (reader : JsonReader) (activity : Activity) (payload : List Char) : Activity :=
  match parsePairing reader payload with
  | none => { activity with phase := .enroll, notice := some .enrollBadQr }
  | some pairing => { activity with phase := .enroll }.storePairing pairing

def onManualEntry (kotlin : KotlinText) (activity : Activity)
    (passphrase seed deviceId : List UInt16) : Activity :=
  let cleanId := kotlin.uppercase (kotlin.trim deviceId)
  if kotlin.isBlank passphrase || kotlin.isBlank seed || kotlin.isBlank cleanId then
    { activity with notice := some .enrollIncomplete }
  else if !looksLikeDeviceId cleanId then { activity with notice := some .enrollBadDeviceId }
  else activity.storePairing ⟨passphrase, kotlin.trim seed, cleanId⟩

/-- After the authentication of `storePairing`; `saved` is false where `save` throws. -/
def pairingStored (activity : Activity) (pairing : Pairing) (saved : Bool) : Activity :=
  if saved then
    { activity with
      store := activity.store.save pairing
      saves := activity.saves ++ [pairing]
      log := activity.log ++ [.stored]
      notice := some .enrollSaved
      unlockUi := .idle
      phase := .unlock }
  else { activity with phase := .keyLost }

/-- After the authentication of `showPairing`. -/
def pairingLoaded (activity : Activity) (usable : Bool) : Activity :=
  match activity.store.load usable with
  | (.error (), store) => { activity with store := store, phase := .keyLost }
  | (.ok none, store) => { activity with store := store, phase := .enroll }
  | (.ok (some pairing), store) =>
      { activity with store := store, shownPairing := some pairing, phase := .showPairing }

def pollReadiness (activity : Activity) : Activity :=
  match activity.store.publicDeviceId with
  | none => { activity with readiness := .checking }
  | some deviceId => activity.spawn (.polling deviceId)

def verifyUnlocked (activity : Activity) (now : Nat) : Activity :=
  match activity.store.publicDeviceId with
  | none => { activity with unlockUi := .unverified }
  | some deviceId => activity.spawn (.verifying deviceId { deadline := now + verifyWindow })

def startUnlock (activity : Activity) : Activity :=
  { activity with unlockUi := .idle }.authenticate .unlock

/-- After the authentication of `startUnlock`. -/
def unlockLoaded (activity : Activity) (usable : Bool) : Activity :=
  match activity.store.load usable with
  | (.error (), store) => { activity with store := store, phase := .keyLost }
  | (.ok none, store) => { activity with store := store, phase := .enroll }
  | (.ok (some pairing), store) =>
      { activity with
        store := store, unlockUi := .working, calls := activity.calls ++ [pairing] }.spawn (.unlocking pairing)

/-- `onAuthenticationSucceeded`, with whether the key can be used. -/
def succeeded (activity : Activity) (purpose : Purpose) (usable : Bool) : Activity :=
  let activity := { activity with prompts := activity.prompts.erase purpose }
  match purpose with
  | .enroll pairing => activity.pairingStored pairing usable
  | .showPairing => activity.pairingLoaded usable
  | .unlock => { activity with authentications := activity.authentications + 1 }.unlockLoaded usable

/-- `onAuthenticationError`; for the codes of a cancelled prompt there is no message. -/
def failed (activity : Activity) (purpose : Purpose) (message : Option String) : Activity :=
  { activity with
    prompts := activity.prompts.erase purpose
    notice := match message with
      | some message => some (.message message)
      | none => activity.notice }

def onNewIntent (activity : Activity) (actionUnlock : Bool) : Activity :=
  if actionUnlock then { activity with pendingAutoUnlock := true } else activity

def onResume (activity : Activity) : Activity :=
  if !activity.pendingAutoUnlock then activity
  else
    let activity := { activity with pendingAutoUnlock := false }
    if activity.phase = .unlock ∧ activity.unlockUi = .idle then activity.startUnlock else activity

def receive (unicode : Unicode) (activity : Activity) (now : Nat) : Posted → Activity
  | .delivered => { activity with unlockUi := .sent }.verifyUnlocked now
  | .undelivered message =>
      { activity with unlockUi := .failed (classifyUnlockError unicode message) message }
  | .verified ui => { activity with unlockUi := ui }
  | .polled readiness => { activity with readiness := readiness }

def post (activity : Activity) (posted : Posted) : Activity :=
  { activity with posts := activity.posts ++ [posted] }

def saw (activity : Activity) (sighting : Sighting) : Activity :=
  { activity with log := activity.log ++ [sighting] }

def ended (activity : Activity) (worker : Worker) : Activity :=
  { activity with workers := activity.workers.erase worker }

/-- The result of `unlockLUKS`. -/
def unlocked (activity : Activity) (pairing : Pairing) (result : Except String Unit) : Activity :=
  let activity := activity.ended (.unlocking pairing)
  match result with
  | .ok () => (activity.saw (.delivered pairing)).post .delivered
  | .error message => (activity.saw (.undelivered message)).post (.undelivered message)

def readinessOf : Option Status → ReadinessUi
  | some .waiting => .waiting
  | some .stale => .stale
  | some .absent => .absent
  | _ => .noNetwork

/-- What a step of the thread of `verifyUnlocked` has seen. -/
def sightings (deviceId : List UInt16) : VerifyEvent → List Sighting
  | .checked (some status) => [.observed deviceId status.state]
  | _ => []

def verifies (activity : Activity) (deviceId : List UInt16) (verifier after : Verifier)
    (event : VerifyEvent) : Activity :=
  let activity :=
    { activity.ended (.verifying deviceId verifier) with log := activity.log ++ sightings deviceId event }
  match after.point with
  | .finished ui => activity.post (.verified ui)
  | _ => activity.spawn (.verifying deviceId after)

inductive Pressed (kotlin : KotlinText) (activity : Activity) : Activity → Prop
  | scan (granted : Bool) : activity.phase = .enroll →
    Pressed kotlin activity (activity.startScan granted)
  | manual : activity.phase = .enroll →
    Pressed kotlin activity { activity with notice := none, phase := .manualEnroll }
  | submit (passphrase seed deviceId : List UInt16) : activity.phase = .manualEnroll →
      Pressed kotlin activity (activity.onManualEntry kotlin passphrase seed deviceId)
  | leaveManual : activity.phase = .manualEnroll →
    Pressed kotlin activity { activity with notice := none, phase := .enroll }
  | cancelScan : activity.phase = .scanning → Pressed kotlin activity { activity with phase := .enroll }
  | unlock : activity.phase = .unlock → activity.unlockUi ∉ [.working, .sent, .success] →
      Pressed kotlin activity { activity with notice := none }.startUnlock
  | showPairing : activity.phase = .unlock → activity.unlockUi ∉ [.working, .sent, .success] →
      Pressed kotlin activity ({ activity with notice := none }.authenticate .showPairing)
  | leavePairing : activity.phase = .showPairing →
      Pressed kotlin activity { activity with shownPairing := none, phase := .unlock }
  | discard : activity.phase = .keyLost → Pressed kotlin activity
      { activity with
        store := activity.store.discardUnreadable
        log := activity.log ++ [.stored]
        notice := none
        phase := .enroll }

inductive Event
  | created
  | intent
  | resumed
  | pressed
  | permission
  | frame
  | authenticated
  | posted
  | thread
  deriving DecidableEq, Repr

inductive Step (kotlin : KotlinText) (reader : JsonReader) (unicode : Unicode) (activity : Activity) :
    Event → Activity → Prop
  | created (canAuthenticate saved actionUnlock : Bool) :
      Step kotlin reader unicode activity .created (activity.onCreate canAuthenticate saved actionUnlock)
  | intent (actionUnlock : Bool) : Step kotlin reader unicode activity .intent
    (activity.onNewIntent actionUnlock)
  | resumed : Step kotlin reader unicode activity .resumed activity.onResume
  | pressed {after : Activity} : Pressed kotlin activity after →
    Step kotlin reader unicode activity .pressed after
  | permission (granted : Bool) : Step kotlin reader unicode activity .permission
    (activity.requestCamera granted)
  | frame (payload : List Char) : activity.camera = true → "machine_device_id".toList <:+: payload →
      Step kotlin reader unicode activity .frame (activity.onScanned reader payload)
  | succeeded (purpose : Purpose) (usable : Bool) : purpose ∈ activity.prompts →
      Step kotlin reader unicode activity .authenticated (activity.succeeded purpose usable)
  | failed (purpose : Purpose) (message : Option String) : purpose ∈ activity.prompts →
      Step kotlin reader unicode activity .authenticated (activity.failed purpose message)
  | posted {first : Posted} {rest : List Posted} (now : Nat) : activity.posts = first :: rest →
      Step kotlin reader unicode activity .posted
        ({ activity with posts := rest }.receive unicode now first)
  | unlocked (pairing : Pairing) (result : Except String Unit) : .unlocking pairing ∈ activity.workers →
      Step kotlin reader unicode activity .thread (activity.unlocked pairing result)
  | verifies {deviceId : List UInt16} {verifier after : Verifier} (event : VerifyEvent) :
      .verifying deviceId verifier ∈ activity.workers → verifyStep verifier event = some after →
      Step kotlin reader unicode activity .thread (activity.verifies deviceId verifier after event)
  | poll : activity.phase = .unlock → activity.unlockUi ∉ [.working, .sent, .success] →
      Step kotlin reader unicode activity .thread activity.pollReadiness
  | polled (deviceId : List UInt16) (status : Option Status) : .polling deviceId ∈ activity.workers →
      Step kotlin reader unicode activity .thread
        ((activity.ended (.polling deviceId)).post (.polled (readinessOf status)))

/-! What the steps do to what the screen shows. -/

structure Screen where
  store : CredentialStore
  unlockUi : UnlockUi
  workers : List Worker
  posts : List Posted
  log : List Sighting

def screen (activity : Activity) : Screen :=
  ⟨activity.store, activity.unlockUi, activity.workers, activity.posts, activity.log⟩

inductive ScreenStep (unicode : Unicode) (screen : Screen) : Screen → Prop
  | quiet : ScreenStep unicode screen screen
  | created : ScreenStep unicode screen ⟨screen.store, .idle, [], [], []⟩
  | cleared : ScreenStep unicode screen { screen with unlockUi := .idle }
  | stored (store : CredentialStore) {ui : UnlockUi} : ui = screen.unlockUi ∨ ui = .idle →
      ScreenStep unicode screen { screen with
        store := store, unlockUi := ui, log := screen.log ++ [.stored] }
  | loaded {pairing : Pairing} : screen.store.secret = some pairing → ScreenStep unicode screen
      { screen with store := { screen.store with publicDeviceId := some pairing.deviceId } }
  | began {pairing : Pairing} : screen.store.secret = some pairing →
    ScreenStep unicode screen { screen with
      store := { screen.store with publicDeviceId := some pairing.deviceId }
      unlockUi := .working
      workers := screen.workers ++ [.unlocking pairing] }
  | delivered {pairing : Pairing} : .unlocking pairing ∈ screen.workers →
    ScreenStep unicode screen { screen with
      workers := screen.workers.erase (.unlocking pairing)
      log := screen.log ++ [.delivered pairing]
      posts := screen.posts ++ [.delivered] }
  | undelivered (pairing : Pairing) (message : String) : ScreenStep unicode screen { screen with
      workers := screen.workers.erase (.unlocking pairing)
      log := screen.log ++ [.undelivered message]
      posts := screen.posts ++ [.undelivered message] }
  | verifies {deviceId : List UInt16} {verifier after : Verifier} (event : VerifyEvent) :
      .verifying deviceId verifier ∈ screen.workers → verifyStep verifier event = some after →
      (∀ ui, after.point ≠ .finished ui) → ScreenStep unicode screen { screen with
        workers := screen.workers.erase (.verifying deviceId verifier) ++ [.verifying deviceId after]
        log := screen.log ++ sightings deviceId event }
  | verified {deviceId : List UInt16} {verifier after : Verifier} {ui : UnlockUi} (event : VerifyEvent) :
      .verifying deviceId verifier ∈ screen.workers → verifyStep verifier event = some after →
      after.point = .finished ui → ScreenStep unicode screen { screen with
        workers := screen.workers.erase (.verifying deviceId verifier)
        log := screen.log ++ sightings deviceId event
        posts := screen.posts ++ [.verified ui] }
  | polls (deviceId : List UInt16) :
      ScreenStep unicode screen { screen with workers := screen.workers ++ [.polling deviceId] }
  | polled (deviceId : List UInt16) (readiness : ReadinessUi) : ScreenStep unicode screen { screen with
      workers := screen.workers.erase (.polling deviceId), posts := screen.posts ++ [.polled readiness] }
  | sent {rest : List Posted} {later : Screen} : screen.posts = .delivered :: rest →
      (later = { screen with posts := rest, unlockUi := .unverified } ∨
        ∃ deviceId now, screen.store.publicDeviceId = some deviceId ∧ later = { screen with
          posts := rest, unlockUi := .sent
          workers := screen.workers ++ [.verifying deviceId { deadline := now + verifyWindow }] }) →
      ScreenStep unicode screen later
  | refused {rest : List Posted} {message : String} : screen.posts = .undelivered message :: rest →
      ScreenStep unicode screen
        { screen with posts := rest, unlockUi := .failed (classifyUnlockError unicode message) message }
  | told {rest : List Posted} {ui : UnlockUi} : screen.posts = .verified ui :: rest →
      ScreenStep unicode screen { screen with posts := rest, unlockUi := ui }
  | ready {rest : List Posted} {readiness : ReadinessUi} : screen.posts = .polled readiness :: rest →
      ScreenStep unicode screen { screen with posts := rest }

variable {kotlin : KotlinText} {reader : JsonReader} {unicode : Unicode} {activity after : Activity} {event : Event}

def Delivered (log : List Sighting) : Prop := ∃ pairing, .delivered pairing ∈ log

/-- The machine that is checked is one that the passphrase was delivered to, unless a
pairing was stored or discarded before. -/
def Checked (log : List Sighting) (deviceId : List UInt16) : Prop :=
  ∃ pairing, .delivered pairing ∈ log ∧ (.stored ∉ log → deviceId = pairing.deviceId)

def Confirmed (log : List Sighting) : Prop :=
  ∃ before later deviceId status, log = before ++ later ∧ Checked before deviceId ∧
    .observed deviceId status ∈ later ∧ (status = .stale ∨ status = .absent)

def Shows (unicode : Unicode) (log : List Sighting) : UnlockUi → Prop
  | .idle => True
  | .working => True
  | .sent => Delivered log
  | .notAccepted => Delivered log
  | .unverified => Delivered log
  | .success => Confirmed log
  | .failed category detail => .undelivered detail ∈ log ∧ category = classifyUnlockError unicode detail

def Carried (log : List Sighting) : Worker → Prop
  | .verifying deviceId _ => Checked log deviceId
  | _ => True

def Founded (unicode : Unicode) (log : List Sighting) : Posted → Prop
  | .delivered => Delivered log
  | .undelivered message => .undelivered message ∈ log
  | .verified ui => Shows unicode log ui ∧ ui ≠ .working ∧ ui ≠ .sent
  | .polled _ => True

def CredentialStore.Of (store : CredentialStore) (pairing : Pairing) : Prop :=
  (∀ deviceId, store.publicDeviceId = some deviceId → deviceId = pairing.deviceId) ∧
    ∀ held, store.secret = some held → held = pairing

def Screen.Attempted (screen : Screen) (pairing : Pairing) : Prop :=
  .unlocking pairing ∈ screen.workers ∨ .delivered pairing ∈ screen.log

def Screen.Same (screen : Screen) : Prop :=
  .stored ∉ screen.log → ∀ pairing, screen.Attempted pairing → CredentialStore.Of screen.store pairing

structure Screen.Truthful (unicode : Unicode) (screen : Screen) : Prop where
  shows : Shows unicode screen.log screen.unlockUi
  threads : ∀ worker ∈ screen.workers, Carried screen.log worker
  pending : ∀ posted ∈ screen.posts, Founded unicode screen.log posted
  working : screen.unlockUi = .working → (∃ pairing, .unlocking pairing ∈ screen.workers) ∨
    .delivered ∈ screen.posts ∨ ∃ message, .undelivered message ∈ screen.posts
  sent : screen.unlockUi = .sent → (∃ deviceId verifier, .verifying deviceId verifier ∈ screen.workers) ∨
    ∃ ui, .verified ui ∈ screen.posts
  same : screen.Same

section

variable {log more : List Sighting} {screen later : Screen}

theorem Delivered.append (delivered : Delivered log) : Delivered (log ++ more) := by
  obtain ⟨pairing, member⟩ := delivered
  exact ⟨pairing, List.mem_append_left _ member⟩

theorem Checked.append {deviceId : List UInt16} (checked : Checked log deviceId) :
    Checked (log ++ more) deviceId := by
  obtain ⟨pairing, member, same⟩ := checked
  exact ⟨pairing, List.mem_append_left _ member,
    fun none => same fun stored => none (List.mem_append_left _ stored)⟩

theorem Shows.append {ui : UnlockUi} (shows : Shows unicode log ui) :
    Shows unicode (log ++ more) ui := by
  cases ui with
  | idle => trivial
  | working => trivial
  | sent => exact Delivered.append shows
  | notAccepted => exact Delivered.append shows
  | unverified => exact Delivered.append shows
  | success =>
      obtain ⟨before, later, deviceId, status, rfl, checked, observed, gone⟩ := shows
      exact ⟨before, later ++ more, deviceId, status, List.append_assoc _ _ _, checked,
        List.mem_append_left _ observed, gone⟩
  | failed category detail => exact ⟨List.mem_append_left _ shows.1, shows.2⟩

theorem Carried.append {worker : Worker} (carried : Carried log worker) :
    Carried (log ++ more) worker := by
  cases worker with
  | verifying => exact Checked.append carried
  | unlocking => trivial
  | polling => trivial

theorem Founded.append {posted : Posted} (founded : Founded unicode log posted) :
    Founded unicode (log ++ more) posted := by
  cases posted with
  | delivered => exact Delivered.append founded
  | undelivered message => exact List.mem_append_left _ founded
  | verified ui => exact ⟨Shows.append founded.1, founded.2⟩
  | polled => trivial

theorem verifyStep_finished {verifier after : Verifier} {event : VerifyEvent} {ui : UnlockUi}
    (stepped : verifyStep verifier event = some after) (finished : after.point = .finished ui)
    (deviceId : List UInt16) :
    (ui = .success ∧ ∃ status, .observed deviceId status ∈ sightings deviceId event ∧
        (status = .stale ∨ status = .absent)) ∨
      ui = .notAccepted ∨ ui = .unverified := by
  unfold verifyStep at stepped
  split at stepped
  · next now _ =>
      split at stepped
      · obtain rfl := Option.some.inj stepped
        cases finished
      · obtain rfl := Option.some.inj stepped
        obtain rfl := VerifyPoint.finished.inj finished
        cases verifier.reachedDiscovery
        · exact .inr (.inr rfl)
        · exact .inr (.inl rfl)
  · next status _ =>
      cases status with
      | none =>
          obtain rfl := Option.some.inj stepped
          cases finished
      | some status =>
          obtain ⟨state, age⟩ := status
          cases state with
          | stale =>
              obtain rfl := Option.some.inj stepped
              exact .inl ⟨(VerifyPoint.finished.inj finished).symm, .stale,
                List.mem_singleton_self _, .inl rfl⟩
          | absent =>
              obtain rfl := Option.some.inj stepped
              exact .inl ⟨(VerifyPoint.finished.inj finished).symm, .absent,
                List.mem_singleton_self _, .inr rfl⟩
          | waiting =>
              obtain rfl := Option.some.inj stepped
              cases finished
          | noNetwork =>
              obtain rfl := Option.some.inj stepped
              cases finished
  · obtain rfl := Option.some.inj stepped
    cases finished
  · cases stepped

theorem sightings_undelivered {deviceId : List UInt16} {event : VerifyEvent} {pairing : Pairing} :
    .delivered pairing ∉ sightings deviceId event := by
  cases event with
  | checked status => cases status <;> simp [sightings]
  | clock => exact List.not_mem_nil
  | slept => exact List.not_mem_nil

theorem Screen.Same.kept (same : screen.Same) (store : later.store = screen.store)
    (log : screen.log <+: later.log)
    (attempted : ∀ pairing, later.Attempted pairing → screen.Attempted pairing) : later.Same := by
  intro none pairing tried
  rw [store]
  exact same (fun stored => none (log.subset stored)) pairing (attempted pairing tried)

/-- The store that holds `pairing` is that of every attempt before it. -/
theorem Screen.Same.held (same : screen.Same) {pairing : Pairing}
    (held : screen.store.secret = some pairing) (unchanged : .stored ∉ screen.log)
    {other : Pairing} (tried : screen.Attempted other ∨ other = pairing) :
    CredentialStore.Of { screen.store with publicDeviceId := some pairing.deviceId } other := by
  have equal : other = pairing := tried.elim
    (fun earlier => ((same unchanged other earlier).2 pairing held).symm) id
  subst equal
  exact ⟨fun _ named => (Option.some.inj named).symm,
    fun _ found => Option.some.inj (found.symm.trans held)⟩

theorem forall_snoc {α : Type} {holds : α → Prop} {items : List α} {last : α}
    (all : ∀ item ∈ items, holds item) (also : holds last) :
    ∀ item ∈ items ++ [last], holds item := by
  intro item member
  rcases List.mem_append.mp member with earlier | new
  · exact all item earlier
  · exact List.mem_singleton.mp new ▸ also

theorem Screen.Truthful.ends {worker : Worker} {posted : Posted}
    (truthful : screen.Truthful unicode) (founded : Founded unicode (screen.log ++ more) posted)
    (attempts : ∀ pairing, worker = .unlocking pairing → posted = .delivered ∨
      ∃ message, posted = .undelivered message)
    (verifies : ∀ deviceId verifier, worker = .verifying deviceId verifier → ∃ ui, posted = .verified ui)
    (tried : ∀ pairing, .delivered pairing ∈ more → .unlocking pairing ∈ screen.workers) :
    Screen.Truthful unicode { screen with
      workers := screen.workers.erase worker
      log := screen.log ++ more
      posts := screen.posts ++ [posted] } := by
  refine ⟨truthful.shows.append, ?_, ?_, ?_, ?_, truthful.same.kept rfl (List.prefix_append _ _) ?_⟩
  · exact fun worker member => (truthful.threads worker (List.mem_of_mem_erase member)).append
  · exact forall_snoc (fun posted member => (truthful.pending posted member).append) founded
  · intro spins
    rcases truthful.working spins with ⟨pairing, running⟩ | delivered | ⟨message, undelivered⟩
    · by_cases same : worker = .unlocking pairing
      · rcases attempts pairing same with rfl | ⟨message, rfl⟩
        · exact .inr (.inl (List.mem_append_right _ (List.mem_singleton_self _)))
        · exact .inr (.inr ⟨message, List.mem_append_right _ (List.mem_singleton_self _)⟩)
      · exact .inl ⟨pairing, (List.mem_erase_of_ne (Ne.symm same)).mpr running⟩
    · exact .inr (.inl (List.mem_append_left _ delivered))
    · exact .inr (.inr ⟨message, List.mem_append_left _ undelivered⟩)
  · intro waits
    rcases truthful.sent waits with ⟨deviceId, verifier, running⟩ | ⟨ui, verified⟩
    · by_cases same : worker = .verifying deviceId verifier
      · obtain ⟨ui, rfl⟩ := verifies deviceId verifier same
        exact .inr ⟨ui, List.mem_append_right _ (List.mem_singleton_self _)⟩
      · exact .inl ⟨deviceId, verifier, (List.mem_erase_of_ne (Ne.symm same)).mpr running⟩
    · exact .inr ⟨ui, List.mem_append_left _ verified⟩
  · rintro pairing (running | delivered)
    · exact .inl (List.mem_of_mem_erase running)
    · exact (List.mem_append.mp delivered).elim .inr fun new => .inl (tried pairing new)

theorem Screen.Truthful.polls (truthful : screen.Truthful unicode) (deviceId : List UInt16) :
    Screen.Truthful unicode { screen with workers := screen.workers ++ [.polling deviceId] } := by
  refine ⟨truthful.shows, forall_snoc truthful.threads trivial, truthful.pending, fun spins => ?_,
    fun waits => ?_,
    truthful.same.kept rfl (List.prefix_refl _) fun pairing tried => tried.imp_left fun running => ?_⟩
  · exact (truthful.working spins).imp_left fun ⟨pairing, running⟩ =>
      ⟨pairing, List.mem_append_left _ running⟩
  · exact (truthful.sent waits).imp_left fun ⟨deviceId, verifier, running⟩ =>
      ⟨deviceId, verifier, List.mem_append_left _ running⟩
  · simpa using running

theorem Screen.Truthful.takes {first : Posted} {rest : List Posted} {ui : UnlockUi}
    (truthful : screen.Truthful unicode) (posts : screen.posts = first :: rest)
    (shows : Shows unicode screen.log ui) (working : ui ≠ .working) (sent : ui ≠ .sent) :
    Screen.Truthful unicode { screen with posts := rest, unlockUi := ui } := by
  refine ⟨shows, truthful.threads, fun posted member => truthful.pending posted ?_,
    fun same => absurd same working, fun same => absurd same sent, truthful.same⟩
  rw [posts]
  exact List.mem_cons_of_mem _ member

theorem Screen.Truthful.step (truthful : screen.Truthful unicode)
    (step : ScreenStep unicode screen later) :
    later.Truthful unicode := by
  cases step with
  | quiet => exact truthful
  | created =>
      exact ⟨trivial, by simp, by simp, by simp, by simp,
        fun _ _ tried => by simp [Screen.Attempted] at tried⟩
  | cleared => exact ⟨trivial, truthful.threads, truthful.pending, by simp, by simp, truthful.same⟩
  | stored store shows =>
      refine ⟨?_, fun worker member => (truthful.threads worker member).append,
        fun posted member => (truthful.pending posted member).append, ?_, ?_, fun none =>
          absurd (by simp) none⟩
      · rcases shows with rfl | rfl
        · exact truthful.shows.append
        · trivial
      · rcases shows with rfl | rfl
        · exact truthful.working
        · simp
      · rcases shows with rfl | rfl
        · exact truthful.sent
        · simp
  | loaded held =>
      exact { truthful with
        same := fun unchanged _ tried => truthful.same.held held unchanged (.inl tried) }
  | @began pairing held =>
      refine ⟨trivial, forall_snoc truthful.threads trivial, truthful.pending,
        fun _ => .inl ⟨pairing, List.mem_append_right _ (List.mem_singleton_self _)⟩, by simp, ?_⟩
      intro unchanged other tried
      refine truthful.same.held held unchanged ?_
      rcases tried with running | delivered
      · exact (List.mem_append.mp running).imp .inl fun new =>
          Worker.unlocking.inj (List.mem_singleton.mp new)
      · exact .inl (.inr delivered)
  | @delivered pairing running =>
      refine truthful.ends ⟨pairing, List.mem_append_right _ (List.mem_singleton_self _)⟩
        (fun _ _ => .inl rfl)
        (by simp) fun other new => ?_
      rwa [Sighting.delivered.inj (List.mem_singleton.mp new)]
  | undelivered pairing message =>
      exact truthful.ends (List.mem_append_right _ (List.mem_singleton_self _))
        (fun _ _ => .inr ⟨message, rfl⟩) (by simp)
        (by simp)
  | verifies event running stepped going =>
      refine ⟨truthful.shows.append, ?_,
        fun posted member => (truthful.pending posted member).append, fun spins => ?_,
        fun _ => .inl ⟨_, _, List.mem_append_right _ (List.mem_singleton_self _)⟩,
        truthful.same.kept rfl (List.prefix_append _ _) ?_⟩
      · exact forall_snoc
          (fun worker member => (truthful.threads worker (List.mem_of_mem_erase member)).append)
          (Checked.append (truthful.threads _ running))
      · refine (truthful.working spins).imp_left fun ⟨pairing, attempt⟩ =>
          ⟨pairing, List.mem_append_left _ ?_⟩
        exact (List.mem_erase_of_ne (by simp)).mpr attempt
      · rintro pairing (attempt | delivered)
        · have earlier := (List.mem_append.mp attempt).resolve_right (by simp)
          exact .inl (List.mem_of_mem_erase earlier)
        · exact .inr ((List.mem_append.mp delivered).resolve_right sightings_undelivered)
  | verified event running stepped finished =>
      have checked : Checked screen.log _ := truthful.threads _ running
      obtain ⟨pairing, delivered, _⟩ := checked
      have sent : Delivered screen.log := ⟨pairing, delivered⟩
      refine truthful.ends ?_ (by simp) (fun _ _ _ => ⟨_, rfl⟩) fun _ new =>
        absurd new sightings_undelivered
      rcases verifyStep_finished stepped finished _ with ⟨rfl, status, observed, gone⟩ | rfl | rfl
      · exact ⟨⟨_, _, _, status, rfl, truthful.threads _ running, observed, gone⟩, by decide, by decide⟩
      · exact ⟨sent.append, by decide, by decide⟩
      · exact ⟨sent.append, by decide, by decide⟩
  | polls deviceId => exact truthful.polls deviceId
  | polled deviceId readiness =>
      have ended : Screen.Truthful unicode { screen with
          workers := screen.workers.erase (.polling deviceId)
          log := screen.log ++ []
          posts := screen.posts ++ [.polled readiness] } :=
            truthful.ends trivial (by simp) (by simp) (by simp)
      rw [List.append_nil] at ended
      exact ended
  | sent first after =>
      have delivered : Delivered screen.log :=
        truthful.pending .delivered (by rw [first]; exact List.mem_cons_self)
      rcases after with rfl | ⟨deviceId, now, named, rfl⟩
      · exact truthful.takes first delivered (by decide) (by decide)
      · obtain ⟨pairing, reported⟩ := delivered
        have checked : Checked screen.log deviceId :=
          ⟨pairing, reported,
            fun unchanged => (truthful.same unchanged pairing (.inr reported)).1 deviceId named⟩
        refine ⟨⟨pairing, reported⟩, forall_snoc truthful.threads checked,
          fun posted member => truthful.pending posted ?_,
          by simp, fun _ => .inl ⟨_, _, List.mem_append_right _ (List.mem_singleton_self _)⟩,
          truthful.same.kept rfl (List.prefix_refl _) fun _ tried => tried.imp_left fun running =>
            by simpa using running⟩
        rw [first]
        exact List.mem_cons_of_mem _ member
  | @refused rest message first =>
      have founded := truthful.pending (.undelivered message) (by rw [first]; exact List.mem_cons_self)
      exact truthful.takes first ⟨founded, rfl⟩ (by simp) (by simp)
  | @told rest ui first =>
      obtain ⟨shows, working, sent⟩ :=
        truthful.pending (.verified ui) (by rw [first]; exact List.mem_cons_self)
      exact truthful.takes first shows working sent
  | @ready rest readiness first =>
      have later : ∀ posted ∈ screen.posts, posted ≠ .polled readiness → posted ∈ rest := by
        intro posted member other
        rw [first] at member
        exact (List.mem_cons.mp member).resolve_left other
      refine ⟨truthful.shows, truthful.threads, fun posted member => truthful.pending posted ?_,
        fun spins => ?_, fun waits => ?_, truthful.same⟩
      · rw [first]
        exact List.mem_cons_of_mem _ member
      · rcases truthful.working spins with running | delivered | ⟨message, undelivered⟩
        · exact .inl running
        · exact .inr (.inl (later _ delivered (by simp)))
        · exact .inr (.inr ⟨message, later _ undelivered (by simp)⟩)
      · exact (truthful.sent waits).imp_right fun ⟨ui, verified⟩ => ⟨ui, later _ verified (by simp)⟩

end

def launched (store : CredentialStore) (canAuthenticate actionUnlock : Bool) : Activity :=
  { store := store, phase := startingPhase canAuthenticate store, pendingAutoUnlock := actionUnlock }

/-! A phone that is paired, and has begun to unlock. -/

def samplePairing : Pairing := ⟨[112], [115], [65]⟩

def pairedStore : CredentialStore :=
  { enrolled := true, secret := some samplePairing, publicDeviceId := some samplePairing.deviceId }

def unlockingPhone : Activity :=
  (launched pairedStore true false).startUnlock.succeeded .unlock true

structure Vault where
  phase : Phase
  store : CredentialStore
  shownPairing : Option Pairing
  saves : List Pairing
  authentications : Nat
  calls : List Pairing

def vault (activity : Activity) : Vault :=
  ⟨activity.phase, activity.store, activity.shownPairing, activity.saves, activity.authentications,
    activity.calls⟩

def needsPairing : Phase → Bool
  | .unlock => true
  | .showPairing => true
  | _ => false

inductive VaultStep (vault : Vault) : Vault → Prop
  | same : VaultStep vault vault
  | moved {phase : Phase} : needsPairing phase = false → VaultStep vault { vault with phase := phase }
  | created (canAuthenticate : Bool) : VaultStep vault
      { vault with phase := startingPhase canAuthenticate vault.store, shownPairing := none }
  | saved (pairing : Pairing) : VaultStep vault
      { vault with
        phase := .unlock, store := vault.store.save pairing, saves := vault.saves ++ [pairing] }
  | left : vault.phase = .showPairing →
    VaultStep vault { vault with phase := .unlock, shownPairing := none }
  | discarded : VaultStep vault { vault with phase := .enroll, store := vault.store.discardUnreadable }
  | shown {pairing : Pairing} : vault.store.secret = some pairing → VaultStep vault
      { vault with
        phase := .showPairing
        store := { vault.store with publicDeviceId := some pairing.deviceId }
        shownPairing := some pairing }
  | refused {phase : Phase} : needsPairing phase = false →
      VaultStep vault { vault with phase := phase, authentications := vault.authentications + 1 }
  | called {pairing : Pairing} : vault.store.secret = some pairing → VaultStep vault
      { vault with
        store := { vault.store with publicDeviceId := some pairing.deviceId }
        authentications := vault.authentications + 1
        calls := vault.calls ++ [pairing] }

/-- `before` is the pairing that was stored when the app was started. -/
structure Vault.Guarded (before : Option Pairing) (vault : Vault) : Prop where
  offered : needsPairing vault.phase = true → vault.store.enrolled = true
  consistent : vault.store.secret ≠ none → vault.store.enrolled = true
  shown : vault.phase = .showPairing → ∃ pairing, vault.shownPairing = some pairing
  shownKnown : ∀ pairing, vault.shownPairing = some pairing → before = some pairing ∨
    pairing ∈ vault.saves
  secretKnown : ∀ pairing, vault.store.secret = some pairing → before = some pairing ∨
    pairing ∈ vault.saves
  callsKnown : ∀ pairing ∈ vault.calls, before = some pairing ∨ pairing ∈ vault.saves
  counted : vault.calls.length ≤ vault.authentications

theorem needsPairing_shown {phase : Phase} (same : phase = .showPairing) :
    needsPairing phase = true := by
  rw [same]
  rfl

theorem startingPhase_offered (canAuthenticate : Bool) (store : CredentialStore) :
    (needsPairing (startingPhase canAuthenticate store) = true → store.enrolled = true) ∧
      startingPhase canAuthenticate store ≠ .showPairing := by
  rw [startingPhase]
  split
  · exact ⟨fun needs => (by cases needs), by decide⟩
  · split
    · next enrolled => exact ⟨fun _ => enrolled, by decide⟩
    · exact ⟨fun needs => (by cases needs), by decide⟩

theorem Vault.Guarded.step {before : Option Pairing} {vault later : Vault}
    (guarded : vault.Guarded before) (step : VaultStep vault later) : later.Guarded before := by
  cases step with
  | same => exact guarded
  | moved free =>
      exact { guarded with
        offered := fun needs => absurd (needs.symm.trans free) (by decide)
        shown := fun same => absurd ((needsPairing_shown same).symm.trans free) (by decide) }
  | created canAuthenticate =>
      exact { guarded with
        offered := (startingPhase_offered canAuthenticate _).1
        shown := fun same => absurd same (startingPhase_offered canAuthenticate _).2
        shownKnown := fun _ none => by cases none }
  | saved pairing =>
      have more : ∀ other, before = some other ∨ other ∈ vault.saves → before = some other ∨
          other ∈ vault.saves ++ [pairing] :=
        fun other known => known.imp_right (List.mem_append_left _)
      exact {
        offered := fun _ => rfl
        consistent := fun _ => rfl
        shown := fun same => by cases same
        shownKnown := fun other shown => more other (guarded.shownKnown other shown)
        secretKnown := fun other held =>
          .inr (List.mem_append_right _ (List.mem_singleton.mpr (Option.some.inj held).symm))
        callsKnown := fun other member => more other (guarded.callsKnown other member)
        counted := guarded.counted }
  | left here =>
      exact { guarded with
        offered := fun _ => guarded.offered (needsPairing_shown here)
        shown := fun same => by cases same
        shownKnown := fun _ none => by cases none }
  | discarded =>
      exact { guarded with
        offered := fun needs => by cases needs
        consistent := fun held => absurd rfl held
        shown := fun same => by cases same
        secretKnown := fun _ held => by cases held }
  | @shown pairing held =>
      have enrolled := guarded.consistent (by rw [held]; exact Option.some_ne_none _)
      exact { guarded with
        offered := fun _ => enrolled
        consistent := fun _ => enrolled
        shown := fun _ => ⟨pairing, rfl⟩
        shownKnown := fun other shown => guarded.secretKnown other (held.trans shown) }
  | refused free =>
      exact { guarded with
        offered := fun needs => absurd (needs.symm.trans free) (by decide)
        shown := fun same => absurd ((needsPairing_shown same).symm.trans free) (by decide)
        counted := Nat.le_succ_of_le guarded.counted }
  | @called pairing held =>
      exact { guarded with
        callsKnown := forall_snoc guarded.callsKnown (guarded.secretKnown pairing held)
        counted := by
          have before := guarded.counted
          simp only [List.length_append, List.length_singleton]
          omega }

end Activity

end SyncthingSocket
