import SyncthingSocket.Platform
import SyncthingSocket.Effect.Transition

/-!
`CopyWithTrace` of `logging.go`, one `Read` or `Write` at a time. The reader and
the writer may answer anything the `io` interfaces allow, and the writer even a
count it must not return.
-/

namespace SyncthingSocket

open Effect Framing

def copyBuffer : Nat := 32 * 1024

/-- Where the loop stands: before its `Read`, between its `Read` and its `Write`, or
after its return. -/
inductive CopyPhase
  | reading
  | writing (data : Bytes) (er : Option Err)
  | returned (err : Option Err)
  deriving DecidableEq, Repr

/-- A running copy, with all it has taken from its source and all its destination
has accepted. -/
structure Copier where
  phase : CopyPhase := .reading
  -- an `int64`, which overflows after 2 ^ 63 bytes: at 100 GB a second in three years
  written : Nat := 0
  taken : Bytes := []
  given : Bytes := []
  deriving DecidableEq, Repr

namespace Copier

/-- The error of the `Read` decides, after its bytes have been written, whether the
loop goes on. -/
def proceed (copier : Copier) (er : Option Err) : Copier :=
  match er with
  | none => { copier with phase := .reading }
  | some err => { copier with phase := .returned (if err ≠ .eof then some err else none) }

def afterRead (copier : Copier) (data : Bytes) (er : Option Err) : Copier :=
  if data.length > 0 then
    { copier with phase := .writing data er, taken := copier.taken ++ data }
  else copier.proceed er

def counted (data : Bytes) (nw : Int) : Nat :=
  if nw < 0 ∨ data.length < nw then 0 else nw.toNat

def writeError (data : Bytes) (nw : Int) (ew : Option Err) : Option Err :=
  if (nw < 0 ∨ data.length < nw) ∧ ew = none then some .shortWrite else ew

def afterWrite (copier : Copier) (data : Bytes) (er : Option Err) (nw : Int) (ew : Option Err) :
    Copier :=
  let copier := { copier with
    written := copier.written + counted data nw
    given := copier.given ++ data.take (counted data nw) }
  match writeError data nw ew with
  | some err => { copier with phase := .returned (some err) }
  | none =>
      if data.length ≠ counted data nw then { copier with phase := .returned (some .shortWrite) }
      else copier.proceed er

end Copier

inductive CopyEvent
  | read (data : Bytes) (er : Option Err)
  | write (nw : Int) (ew : Option Err)
  deriving DecidableEq, Repr

inductive CopyStep : Copier → CopyEvent → Copier → Prop
  | read {copier : Copier} {data : Bytes} {er : Option Err} :
      copier.phase = .reading → data.length ≤ copyBuffer →
      CopyStep copier (.read data er) (copier.afterRead data er)
  | write {copier : Copier} {data : Bytes} {er : Option Err} {nw : Int} {ew : Option Err} :
      copier.phase = .writing data er →
      CopyStep copier (.write nw ew) (copier.afterWrite data er nw ew)

/-! What every copy keeps, whatever its reader and writer do. -/

structure Faithful (copier : Copier) : Prop where
  counts : copier.written = copier.given.length
  balance : match copier.phase with
    | .reading => copier.given = copier.taken
    | .writing data _ => copier.given ++ data = copier.taken ∧ data ≠ []
    | .returned none => copier.given = copier.taken
    | .returned (some _) => copier.given <+: copier.taken

theorem faithful_start : Faithful {} := ⟨rfl, rfl⟩

variable {data source : Bytes} {after copier : Copier} {event : CopyEvent} {er : Option Err} {stop : Err}

theorem faithful_proceed (counts : copier.written = copier.given.length)
    (whole : copier.given = copier.taken) (er : Option Err) : Faithful (copier.proceed er) := by
  cases er with
  | none => exact ⟨counts, whole⟩
  | some err =>
      refine ⟨counts, ?_⟩
      by_cases isEOF : err = .eof
      · simpa [Copier.proceed, isEOF] using whole
      · simp [Copier.proceed, isEOF, whole]

theorem Copier.counted_le (data : Bytes) (nw : Int) : Copier.counted data nw ≤ data.length := by
  rw [Copier.counted]
  split
  · omega
  · omega

theorem faithful_step (faithful : Faithful copier)
    (step : CopyStep copier event after) : Faithful after := by
  obtain ⟨counts, balance⟩ := faithful
  cases step with
  | @read data er reading _ =>
      simp only [reading] at balance
      rw [Copier.afterRead]
      split
      · next nonempty =>
          refine ⟨counts, by rw [balance], ?_⟩
          intro empty
          simp [empty] at nonempty
      · exact faithful_proceed counts balance er
  | @write data er nw ew writing =>
      simp only [writing] at balance
      have fewer := Copier.counted_le data nw
      have taken : copier.given ++ data.take (Copier.counted data nw) <+: copier.taken := by
        rw [← balance.1]
        exact List.prefix_append_right_inj _ |>.mpr (List.take_prefix _ _)
      have counted : copier.written + Copier.counted data nw =
          (copier.given ++ data.take (Copier.counted data nw)).length := by
        simp only [List.length_append, List.length_take]
        omega
      simp only [Copier.afterWrite]
      cases Copier.writeError data nw ew with
      | some err => exact ⟨counted, taken⟩
      | none =>
          simp only
          split
          · exact ⟨counted, taken⟩
          · next whole =>
              apply faithful_proceed counted
              have all : Copier.counted data nw = data.length := (not_not.mp whole).symm
              rw [all, List.take_length]
              exact balance.1

theorem Faithful.given_le_taken (faithful : Faithful copier) :
    copier.given <+: copier.taken := by
  have balance := faithful.balance
  cases phase : copier.phase with
  | reading =>
      simp only [phase] at balance
      rw [balance]
  | writing data er =>
      simp only [phase] at balance
      exact ⟨data, balance.1⟩
  | returned err =>
      cases err with
      | none =>
          simp only [phase] at balance
          rw [balance]
      | some err =>
          simp only [phase] at balance
          exact balance

theorem Copier.proceed_given (copier : Copier) (er : Option Err) :
    (copier.proceed er).given = copier.given := by
  cases er <;> rfl

theorem CopyStep.given_le (step : CopyStep copier event after) :
    copier.given <+: after.given := by
  cases step with
  | read _ _ =>
      rw [Copier.afterRead]
      split
      · exact List.prefix_rfl
      · rw [Copier.proceed_given]
  | @write data er nw ew _ =>
      have grows : copier.given <+: copier.given ++ data.take (Copier.counted data nw) :=
        List.prefix_append _ _
      simp only [Copier.afterWrite]
      cases Copier.writeError data nw ew with
      | some err => exact grows
      | none =>
          simp only
          split
          · exact grows
          · rw [Copier.proceed_given]
            exact grows

/-! A copy whose writes succeed. -/

/-- The source of this copy has stopped, with `stop`, only if it had `ended`. -/
def Calm (stop : Err) (ended : Prop) (copier : Copier) : Prop :=
  match copier.phase with
  | .reading => copier.given = copier.taken
  | .writing data er => copier.given ++ data = copier.taken ∧ (er = none ∨ er = some stop ∧ ended)
  | .returned err =>
      copier.given = copier.taken ∧ err = (if stop ≠ .eof then some stop else none) ∧ ended

def SawEnd (copier : Copier) : Prop :=
  match copier.phase with
  | .reading => False
  | .writing _ er => er ≠ none
  | .returned _ => True

theorem calm_proceed {ended : Prop}
    (whole : copier.given = copier.taken) (fine : er = none ∨ er = some stop ∧ ended) :
    Calm stop ended (copier.proceed er) := by
  rcases fine with rfl | ⟨rfl, ended⟩
  · exact whole
  · exact ⟨whole, rfl, ended⟩

theorem Calm.read {before ended : Prop}
    (calm : Calm stop before copier) (reading : copier.phase = .reading)
    (fine : er = none ∨ er = some stop ∧ ended) : Calm stop ended (copier.afterRead data er) := by
  simp only [Calm, reading] at calm
  rw [Copier.afterRead]
  split
  · exact ⟨by rw [calm], fine⟩
  · exact calm_proceed calm fine

theorem Copier.counted_complete (data : Bytes) : Copier.counted data data.length = data.length := by
  rw [Copier.counted, if_neg (by omega), Int.toNat_natCast]

theorem Copier.afterWrite_whole (copier : Copier) (data : Bytes) (er : Option Err) :
    copier.afterWrite data er data.length none = Copier.proceed { copier with
      written := copier.written + data.length
      given := copier.given ++ data } er := by
  have unfailed : Copier.writeError data data.length none = none := by
    rw [Copier.writeError, if_neg]
    omega
  simp [Copier.afterWrite, Copier.counted_complete, unfailed]

theorem Calm.write {ended : Prop}
    (calm : Calm stop ended copier) (writing : copier.phase = .writing data er) :
    Calm stop ended (copier.afterWrite data er data.length none) := by
  simp only [Calm, writing] at calm
  rw [Copier.afterWrite_whole]
  exact calm_proceed calm.1 calm.2

theorem Calm.mono {before ended : Prop} (calm : Calm stop before copier)
    (implies : SawEnd copier → before → ended) : Calm stop ended copier := by
  cases phase : copier.phase with
  | reading =>
      simp only [Calm, phase] at calm ⊢
      exact calm
  | writing data er =>
      simp only [Calm, SawEnd, phase] at calm implies ⊢
      refine ⟨calm.1, calm.2.imp_right fun stopped => ⟨stopped.1, implies ?_ stopped.2⟩⟩
      simp [stopped.1]
  | returned err =>
      simp only [Calm, SawEnd, phase] at calm implies ⊢
      exact ⟨calm.1, calm.2.1, implies trivial calm.2.2⟩

theorem Calm.ended {ended : Prop} (calm : Calm stop ended copier)
    (saw : SawEnd copier) : ended := by
  cases phase : copier.phase with
  | reading => simp [SawEnd, phase] at saw
  | writing data er =>
      simp only [Calm, SawEnd, phase] at calm saw
      exact (calm.2.resolve_left saw).2
  | returned err =>
      simp only [Calm, phase] at calm
      exact calm.2.2

theorem sawEnd_write (writing : copier.phase = .writing data er)
    (saw : SawEnd (copier.afterWrite data er data.length none)) : SawEnd copier := by
  rw [Copier.afterWrite_whole] at saw
  cases er with
  | none => exact saw.elim
  | some err => simp [SawEnd, writing]

/-! A source that holds `source` and then stops, read by a copy whose writes
succeed. -/

/-- The source stops, with `stop`, only once it has `ended`; the destination takes
everything. -/
def Supplied (source : Bytes) (stop : Err) (ended : Prop) (copier : Copier) : CopyEvent → Prop
  | .read data er => copier.taken ++ data <+: source ∧
      (er = none ∨ er = some stop ∧ copier.taken ++ data = source ∧ ended)
  | .write nw ew => ew = none ∧ ∀ data er, copier.phase = .writing data er → nw = data.length

theorem supplied_write {ended : Prop} (writing : copier.phase = .writing data er) :
    Supplied source stop ended copier (.write data.length none) := by
  refine ⟨rfl, ?_⟩
  intro other er' same
  rw [writing] at same
  injection same with same _
  rw [same]

@[simp] theorem Copier.proceed_taken (copier : Copier) (er : Option Err) :
    (copier.proceed er).taken = copier.taken := by
  cases er <;> rfl

@[simp] theorem Copier.proceed_written (copier : Copier) (er : Option Err) :
    (copier.proceed er).written = copier.written := by
  cases er <;> rfl

theorem Copier.afterRead_taken (copier : Copier) (data : Bytes) (er : Option Err) :
    (copier.afterRead data er).taken = copier.taken ++ data := by
  rw [Copier.afterRead]
  split
  · rfl
  · next empty =>
      have none : data = [] := List.length_eq_zero_iff.mp (by omega)
      simp [none]

theorem Supplied.taken_le {ended : Prop} (below : copier.taken <+: source)
    (supplied : Supplied source stop ended copier event) (step : CopyStep copier event after) :
    after.taken <+: source := by
  cases step with
  | read _ _ =>
      rw [Copier.afterRead_taken]
      exact supplied.1
  | @write data er nw ew writing =>
      obtain ⟨rfl, whole⟩ := supplied
      rw [whole data er writing, Copier.afterWrite_whole]
      simpa using below

theorem Calm.step {before ended : Prop} (calm : Calm stop before copier)
    (supplied : Supplied source stop ended copier event) (step : CopyStep copier event after) :
    Calm stop (before ∧ SawEnd copier ∧ after.taken = copier.taken ∨
      copier.phase = .reading ∧ after.taken = source ∧ ended) after := by
  -- One step of a supplied copy. What was known of the end carries over, and an end that is read
  -- now comes with all of the source.
  cases step with
  | @read data er reading _ =>
      refine calm.read reading
        (supplied.2.imp_right fun stopped => ⟨stopped.1, Or.inr ⟨reading, ?_, stopped.2.2⟩⟩)
      rw [Copier.afterRead_taken]
      exact stopped.2.1
  | @write data er nw ew writing =>
      obtain ⟨rfl, whole⟩ := supplied
      rw [whole data er writing]
      refine (calm.write writing).mono fun saw known => Or.inl ⟨known, sawEnd_write writing saw, ?_⟩
      rw [Copier.afterWrite_whole, Copier.proceed_taken]

/-! A supplied copy ends. -/

def CopyPhase.weight : CopyPhase → Nat
  | reading => 2
  | writing _ none => 5
  | writing _ (some _) => 1
  | returned _ => 0

/-- How much a copy has left to do, of a source of `total` bytes. -/
def Copier.work (total : Nat) (copier : Copier) : Nat :=
  4 * (total - copier.taken.length) + copier.phase.weight

theorem Copier.proceed_weight (copier : Copier) (er : Option Err) :
    (copier.proceed er).phase.weight = if er = none then 2 else 0 := by
  cases er <;> rfl

theorem Copier.afterRead_weight (copier : Copier) (data : Bytes) (er : Option Err) :
    (copier.afterRead data er).phase.weight =
      if data.length > 0 then (if er = none then 5 else 1) else if er = none then 2 else 0 := by
  rw [Copier.afterRead]
  split
  · cases er <;> rfl
  · exact copier.proceed_weight er

theorem Copier.afterWrite_taken (copier : Copier) (data : Bytes) (er : Option Err) (nw : Int)
    (ew : Option Err) : (copier.afterWrite data er nw ew).taken = copier.taken := by
  simp only [Copier.afterWrite]
  cases Copier.writeError data nw ew with
  | some err => rfl
  | none =>
      simp only
      split
      · rfl
      · exact Copier.proceed_taken _ er

theorem Copier.afterWrite_weight (copier : Copier) (data : Bytes) (er : Option Err) (nw : Int)
    (ew : Option Err) :
    (copier.afterWrite data er nw ew).phase.weight < (CopyPhase.writing data er).weight := by
  have positive : 0 < (CopyPhase.writing data er).weight := by cases er <;> simp [CopyPhase.weight]
  simp only [Copier.afterWrite]
  cases Copier.writeError data nw ew with
  | some err => exact positive
  | none =>
      simp only
      split
      · exact positive
      · rw [Copier.proceed_weight]
        cases er <;> simp [CopyPhase.weight]

theorem CopyStep.work_lt {whole : Bytes} (step : CopyStep copier event after)
    (within : ∀ data er, event = .read data er → copier.taken ++ data <+: whole)
    (busy : event ≠ .read [] none) : after.work whole.length < copier.work whole.length := by
  -- A `Read` may answer no bytes and no error; every other step gets the copy closer to its end.
  cases step with
  | @read data er reading _ =>
      have fits : copier.taken.length + data.length ≤ whole.length := by
        have bound := (within data er rfl).length_le
        simpa using bound
      have before : copier.phase.weight = 2 := by rw [reading, CopyPhase.weight]
      simp only [Copier.work, Copier.afterRead_taken, List.length_append, before, Copier.afterRead_weight]
      split
      · split <;> omega
      · next empty =>
          have noData : data = [] := List.length_eq_zero_iff.mp (by omega)
          have stopped : er ≠ none := by
            rintro rfl
            exact busy (by rw [noData])
          rw [if_neg stopped]
          omega
  | @write data er nw ew writing =>
      have lighter := copier.afterWrite_weight data er nw ew
      simp only [Copier.work, Copier.afterWrite_taken, writing]
      omega

theorem Supplied.work_lt {whole : Bytes} {ended : Prop}
    (supplied : Supplied source stop ended copier event) (within : source <+: whole)
    (busy : event ≠ .read [] none) (step : CopyStep copier event after) :
    after.work whole.length < copier.work whole.length := by
  refine step.work_lt ?_ busy
  rintro data er rfl
  exact supplied.1.trans within

theorem Copier.can_step (stop : Err) {ended : Prop} (below : copier.taken <+: source)
    (stops : copier.phase = .reading → copier.taken = source → ended)
    (unreturned : ∀ err, copier.phase ≠ .returned err) :
    ∃ event after, Supplied source stop ended copier event ∧ event ≠ .read [] none ∧
      CopyStep copier event after := by
  cases phase : copier.phase with
  | reading =>
      obtain ⟨rest, split⟩ := below
      cases rest with
      | nil =>
          have all : copier.taken = source := by simpa using split
          refine ⟨.read [] (some stop), _, ⟨?_, ?_⟩, by simp, CopyStep.read phase (by simp)⟩
          · simp [all]
          · exact Or.inr ⟨rfl, by simp [all], stops phase all⟩
      | cons byte rest =>
          refine ⟨.read [byte] none, _, ⟨⟨rest, ?_⟩, Or.inl rfl⟩, by simp, CopyStep.read phase ?_⟩
          · simpa using split
          · simp [copyBuffer]
  | writing data er =>
      exact ⟨.write data.length none, _, supplied_write phase, by simp, CopyStep.write phase⟩
  | returned err => exact absurd phase (unreturned err)

end SyncthingSocket
