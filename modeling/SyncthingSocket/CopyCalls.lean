import SyncthingSocket.Copy

/-!
The calls one `CopyWithTrace` makes of its reader and its writer, from its first
`Read` to its return, and what their order tells about the result.
-/

namespace SyncthingSocket

open Framing

/-- A `Read` with what it returned, or a `Write` with the buffer it was given. -/
inductive CopyCall
  | read (data : Bytes) (er : Option Err)
  | write (buffer : Bytes) (nw : Int) (ew : Option Err)
  deriving DecidableEq, Repr

def CopyPhase.buffer : CopyPhase → Bytes
  | writing data _ => data
  | _ => []

def Copier.call (copier : Copier) : CopyEvent → CopyCall
  | .read data er => .read data er
  | .write nw ew => .write copier.phase.buffer nw ew

/-- The loop has made these calls, in this order, and stands at `copier`. -/
inductive CopyRun : List CopyCall → Copier → Prop
  | start : CopyRun [] {}
  | step {calls : List CopyCall} {copier after : Copier} {event : CopyEvent} :
      CopyRun calls copier → CopyStep copier event after → CopyRun (calls ++ [copier.call event]) after

def CopyCall.chunk : CopyCall → Option Bytes
  | read data _ => if data = [] then none else some data
  | write _ _ _ => none

def CopyCall.passed : CopyCall → Option Bytes
  | read _ _ => none
  | write buffer _ _ => some buffer

def CopyCall.readError : CopyCall → Option (Option Err)
  | read _ er => some er
  | write _ _ _ => none

def CopyCall.Complete : CopyCall → Prop
  | read _ _ => True
  | write buffer nw ew => nw = buffer.length ∧ ew = none

def validBytes : List CopyCall → Nat
  | [] => 0
  | .read _ _ :: rest => validBytes rest
  | .write buffer nw _ :: rest => Copier.counted buffer nw + validBytes rest

/-! The order of the calls. -/

/-- What a copy that is still going on has done: reads without an error, each one that
brought data followed by a complete write of it. -/
inductive Flowing : List CopyCall → Prop
  | nil : Flowing []
  | idle {rest : List CopyCall} : Flowing rest → Flowing (.read [] none :: rest)
  | chunk {data : Bytes} {rest : List CopyCall} : data ≠ [] → Flowing rest →
      Flowing (.read data none :: .write data data.length none :: rest)

def readerStop (err : Err) : Option Err := if err ≠ .eof then some err else none

inductive Copied : List CopyCall → Option Err → Prop
  | idle {rest : List CopyCall} {err : Option Err} : Copied rest err → Copied (.read [] none :: rest) err
  | chunk {data : Bytes} {rest : List CopyCall} {err : Option Err} : data ≠ [] → Copied rest err →
      Copied (.read data none :: .write data data.length none :: rest) err
  | drained (stop : Err) : Copied [.read [] (some stop)] (readerStop stop)
  | last {data : Bytes} (stop : Err) : data ≠ [] →
      Copied [.read data (some stop), .write data data.length none] (readerStop stop)
  | broken {data : Bytes} {er : Option Err} {nw : Int} {ew : Option Err} (err : Err) : data ≠ [] →
      ¬ (nw = data.length ∧ ew = none) → Copied [.read data er, .write data nw ew] (some err)

theorem Flowing.append {first second : List CopyCall} (early : Flowing first)
    (late : Flowing second) :
    Flowing (first ++ second) := by
  induction early with
  | nil => exact late
  | idle _ ih => exact .idle ih
  | chunk nonempty _ ih => exact .chunk nonempty ih

variable {data : Bytes} {copier : Copier} {before calls : List CopyCall} {err : Option Err}

theorem Flowing.copied {first second : List CopyCall} (early : Flowing first)
    (late : Copied second err) : Copied (first ++ second) err := by
  induction early with
  | nil => exact late
  | idle _ ih => exact .idle ih
  | chunk nonempty _ ih => exact .chunk nonempty ih

def Called (calls : List CopyCall) : CopyPhase → Prop
  | .reading => Flowing calls
  | .writing data er => data ≠ [] ∧ ∃ before, Flowing before ∧ calls = before ++ [.read data er]
  | .returned err => Copied calls err

theorem called_idle (flowing : Flowing calls) (er : Option Err) :
    Called (calls ++ [.read [] er]) (copier.proceed er).phase := by
  cases er with
  | none => exact flowing.append (.idle .nil)
  | some stop => exact flowing.copied (.drained stop)

theorem called_complete (nonempty : data ≠ []) (flowing : Flowing before) (er : Option Err) :
    Called (before ++ [.read data er, .write data data.length none]) (copier.proceed er).phase := by
  cases er with
  | none => exact flowing.append (.chunk nonempty .nil)
  | some stop => exact flowing.copied (.last stop nonempty)

theorem Copier.writeError_none {nw : Int} {ew : Option Err}
    (fine : Copier.writeError data nw ew = none) : ew = none ∧ 0 ≤ nw ∧ nw ≤ data.length := by
  rw [Copier.writeError] at fine
  by_cases invalid : (nw < 0 ∨ data.length < nw) ∧ ew = none
  · simp [invalid] at fine
  · simp only [invalid, ↓reduceIte] at fine
    refine ⟨fine, ?_⟩
    simp only [fine, and_true] at invalid
    omega

theorem Copier.afterWrite_cases (copier : Copier) (data : Bytes) (er : Option Err) (nw : Int)
    (ew : Option Err) :
    (nw = data.length ∧ ew = none ∧ (copier.afterWrite data er nw ew).phase = (copier.proceed er).phase) ∨
    (¬ (nw = data.length ∧ ew = none) ∧
      ∃ err, (copier.afterWrite data er nw ew).phase = .returned (some err)) := by
  by_cases complete : nw = data.length ∧ ew = none
  · obtain ⟨rfl, rfl⟩ := complete
    refine Or.inl ⟨rfl, rfl, ?_⟩
    rw [Copier.afterWrite_whole]
    cases er <;> rfl
  · refine Or.inr ⟨complete, ?_⟩
    simp only [Copier.afterWrite]
    cases failed : Copier.writeError data nw ew with
    | some err => exact ⟨err, rfl⟩
    | none =>
        obtain ⟨unfailed, lower, upper⟩ := Copier.writeError_none failed
        have short : data.length ≠ Copier.counted data nw := by
          rw [Copier.counted, if_neg (by omega)]
          intro whole
          exact complete ⟨by omega, unfailed⟩
        simp only [short, ne_eq, not_false_eq_true, ↓reduceIte]
        exact ⟨_, rfl⟩

theorem called_step {after : Copier} {event : CopyEvent}
    (called : Called calls copier.phase) (step : CopyStep copier event after) :
    Called (calls ++ [copier.call event]) after.phase := by
  cases step with
  | @read data er reading _ =>
      rw [reading] at called
      simp only [Copier.call, Copier.afterRead]
      split
      · next some =>
          exact ⟨List.ne_nil_of_length_pos some, calls, called, rfl⟩
      · next none =>
          have empty : data = [] := List.length_eq_zero_iff.mp (by omega)
          subst empty
          exact called_idle called er
  | @write data er nw ew writing =>
      rw [writing] at called
      obtain ⟨nonempty, before, flowing, rfl⟩ := called
      simp only [Copier.call, writing, CopyPhase.buffer, List.append_assoc, List.singleton_append]
      rcases copier.afterWrite_cases data er nw ew with ⟨rfl, rfl, phase⟩ | ⟨incomplete, err, phase⟩
      · rw [phase]
        exact called_complete nonempty flowing er
      · rw [phase]
        exact flowing.copied (.broken err nonempty incomplete)

theorem copyRun_called (run : CopyRun calls copier) :
    Called calls copier.phase := by
  induction run with
  | start => exact Flowing.nil
  | step _ step ih => exact called_step ih step

/-! What the order of the calls tells. -/

theorem Copied.passed_eq (copied : Copied calls err) :
    calls.filterMap CopyCall.passed = calls.filterMap CopyCall.chunk := by
  induction copied with
  | idle _ ih => simpa [List.filterMap_cons, CopyCall.passed, CopyCall.chunk] using ih
  | chunk nonempty _ ih => simpa [List.filterMap_cons, CopyCall.passed, CopyCall.chunk, nonempty] using ih
  | drained stop => rfl
  | last stop nonempty => simp [List.filterMap_cons, CopyCall.passed, CopyCall.chunk, nonempty]
  | broken err nonempty _ => simp [List.filterMap_cons, CopyCall.passed, CopyCall.chunk, nonempty]

theorem Copied.complete {after : List CopyCall} {call : CopyCall}
    (copied : Copied calls err) (split : calls = before ++ call :: after) (followed : after ≠ []) :
    call.Complete := by
  induction copied generalizing before with
  | idle _ ih =>
      rcases before with _ | ⟨first, before⟩
      · injection split with first _
        exact first ▸ trivial
      · injection split with _ rest
        exact ih rest
  | chunk nonempty _ ih =>
      rcases before with _ | ⟨first, _ | ⟨second, before⟩⟩
      · injection split with first _
        exact first ▸ trivial
      · injection split with _ rest
        injection rest with second _
        exact second ▸ ⟨rfl, rfl⟩
      · injection split with _ rest
        injection rest with _ rest
        exact ih rest
  | drained stop =>
      rcases before with _ | ⟨first, before⟩
      · injection split with first _
        exact first ▸ trivial
      · simp at split
  | last stop nonempty =>
      rcases before with _ | ⟨first, _ | ⟨second, before⟩⟩
      · injection split with first _
        exact first ▸ trivial
      · injection split with _ rest
        injection rest with _ rest
        exact absurd rest.symm followed
      · simp at split
  | broken err nonempty _ =>
      rcases before with _ | ⟨first, _ | ⟨second, before⟩⟩
      · injection split with first _
        exact first ▸ trivial
      · injection split with _ rest
        injection rest with _ rest
        exact absurd rest.symm followed
      · simp at split

theorem Copied.written_next {after : List CopyCall} {er : Option Err} (copied : Copied calls err)
    (split : calls = before ++ .read data er :: after) (nonempty : data ≠ []) :
    ∃ nw ew rest, after = .write data nw ew :: rest := by
  induction copied generalizing before with
  | idle _ ih =>
      rcases before with _ | ⟨first, before⟩
      · injection split with first _
        injection first with first _
        exact absurd first.symm nonempty
      · injection split with _ rest
        exact ih rest
  | chunk _ _ ih =>
      rcases before with _ | ⟨first, _ | ⟨second, before⟩⟩
      · injection split with first rest
        injection first with first _
        exact ⟨_, _, _, first ▸ rest.symm⟩
      · simp at split
      · injection split with _ rest
        injection rest with _ rest
        exact ih rest
  | drained stop =>
      rcases before with _ | ⟨first, before⟩
      · injection split with first _
        injection first with first _
        exact absurd first.symm nonempty
      · simp at split
  | last stop _ =>
      rcases before with _ | ⟨first, _ | ⟨second, before⟩⟩
      · injection split with first rest
        injection first with first _
        exact ⟨_, _, _, first ▸ rest.symm⟩
      · simp at split
      · simp at split
  | broken err _ _ =>
      rcases before with _ | ⟨first, _ | ⟨second, before⟩⟩
      · injection split with first rest
        injection first with first _
        exact ⟨_, _, _, first ▸ rest.symm⟩
      · simp at split
      · simp at split

theorem readerStop_eq_none {stop : Err} : readerStop stop = none ↔ stop = .eof := by
  rw [readerStop]
  split <;> simp_all

theorem Copied.reads (copied : Copied calls err) :
    calls.filterMap CopyCall.readError ≠ [] := by
  cases copied <;> simp [CopyCall.readError]

theorem Copied.succeeds_iff (copied : Copied calls err) :
    err = none ↔ (calls.filterMap CopyCall.readError).getLast? = some (some .eof) ∧
      ∀ call ∈ calls, call.Complete := by
  induction copied with
  | idle rest ih =>
      rw [ih, List.filterMap_cons_some (by rfl), List.getLast?_cons_of_ne_nil rest.reads,
        List.forall_mem_cons]
      simp [CopyCall.Complete]
  | chunk nonempty rest ih =>
      rw [ih, List.filterMap_cons_some (by rfl), List.filterMap_cons_none (by rfl),
        List.getLast?_cons_of_ne_nil rest.reads, List.forall_mem_cons, List.forall_mem_cons]
      simp [CopyCall.Complete]
  | drained stop => simp [readerStop_eq_none, CopyCall.readError, CopyCall.Complete]
  | last stop nonempty =>
      simp [List.filterMap_cons, readerStop_eq_none, CopyCall.readError, CopyCall.Complete]
  | broken err nonempty incomplete =>
      simp only [reduceCtorEq, List.forall_mem_cons, CopyCall.Complete, incomplete, false_and, and_false]

theorem Copied.all_counted (copied : Copied calls err) (complete : ∀ call ∈ calls, call.Complete) :
    validBytes calls = (calls.filterMap CopyCall.chunk).flatten.length := by
  induction copied with
  | idle _ ih =>
      rw [validBytes, ih (List.forall_mem_cons.mp complete).2]
      simp [CopyCall.chunk]
  | chunk nonempty _ ih =>
      obtain ⟨_, _, later⟩ := List.forall_mem_cons.mp complete |>.imp_right List.forall_mem_cons.mp
      rw [validBytes, validBytes, ih later, Copier.counted_complete]
      simp [List.filterMap_cons, CopyCall.chunk, nonempty]
  | drained stop => rfl
  | last stop nonempty =>
      simp [List.filterMap_cons, validBytes, Copier.counted_complete, CopyCall.chunk, nonempty]
  | broken err nonempty incomplete =>
      exact absurd (complete (.write _ _ _) (by simp)) incomplete

/-! The count. -/

theorem validBytes_append (first second : List CopyCall) :
    validBytes (first ++ second) = validBytes first + validBytes second := by
  induction first with
  | nil => simp [validBytes]
  | cons call first ih =>
      cases call with
      | read data er => simpa [validBytes] using ih
      | write buffer nw ew =>
          rw [List.cons_append, validBytes, validBytes, ih]
          omega

theorem Copier.afterWrite_written (copier : Copier) (data : Bytes) (er : Option Err) (nw : Int)
    (ew : Option Err) :
    (copier.afterWrite data er nw ew).written = copier.written + Copier.counted data nw := by
  simp only [Copier.afterWrite]
  cases Copier.writeError data nw ew with
  | some err => rfl
  | none =>
      simp only
      split
      · rfl
      · rw [Copier.proceed_written]

theorem copyRun_written (run : CopyRun calls copier) :
    copier.written = validBytes calls := by
  induction run with
  | start => rfl
  | step _ step ih =>
      rw [validBytes_append, ← ih]
      cases step with
      | @read data er _ _ =>
          simp only [Copier.call, validBytes, Nat.add_zero, Copier.afterRead]
          split
          · rfl
          · rw [Copier.proceed_written]
      | @write data er nw ew writing =>
          simp only [Copier.call, writing, CopyPhase.buffer, validBytes, Nat.add_zero,
            Copier.afterWrite_written]

/-- Whatever the reader and the writer do, a copy that returns has passed on exactly
what it read, counts what was accepted, and reports every incomplete write and every
error of the reader. -/
theorem copyWithTrace_faithful {calls : List CopyCall} {copier : Copier} {err : Option Err}
    (run : CopyRun calls copier) (returned : copier.phase = .returned err) :
    calls.filterMap CopyCall.passed = calls.filterMap CopyCall.chunk ∧
    copier.written = validBytes calls ∧
    (∀ before call after, calls = before ++ call :: after → after ≠ [] → call.Complete) ∧
    (err = none ↔ (calls.filterMap CopyCall.readError).getLast? = some (some .eof) ∧
      ∀ call ∈ calls, call.Complete) ∧
    (err = none → copier.written = (calls.filterMap CopyCall.chunk).flatten.length) ∧
    (∀ before data er after, calls = before ++ .read data er :: after → data ≠ [] →
      ∃ nw ew rest, after = .write data nw ew :: rest) := by
  have copied : Copied calls err := by
    have called := copyRun_called run
    rw [returned] at called
    exact called
  refine ⟨copied.passed_eq, copyRun_written run, ?_, copied.succeeds_iff, ?_, ?_⟩
  · intro before call after split followed
    exact copied.complete split followed
  · intro success
    rw [copyRun_written run]
    exact copied.all_counted (copied.succeeds_iff.mp success).2
  · intro before data er after split nonempty
    exact copied.written_next split nonempty

theorem short_copy_faithful :
    CopyRun [.read [1, 2] (some .eof), .write [1, 2] 1 none]
      ⟨.returned (some .shortWrite), 1, [1, 2], [1]⟩ ∧
    (some Err.shortWrite = none ↔
      ([CopyCall.read [1, 2] (some .eof), .write [1, 2] 1 none].filterMap CopyCall.readError).getLast? =
        some (some .eof) ∧
      ∀ call ∈ [CopyCall.read [1, 2] (some .eof), .write [1, 2] 1 none], call.Complete) := by
  have reads : CopyStep {} (.read [1, 2] (some .eof)) ⟨.writing [1, 2] (some .eof), 0, [1, 2], []⟩ :=
    .read rfl (by decide)
  have writes : CopyStep ⟨.writing [1, 2] (some .eof), 0, [1, 2], []⟩ (.write 1 none)
      ⟨.returned (some .shortWrite), 1, [1, 2], [1]⟩ :=
    CopyStep.write (show _ = CopyPhase.writing [1, 2] (some .eof) from rfl)
  have run := CopyRun.step (.step .start reads) writes
  exact ⟨run, (copyWithTrace_faithful run rfl).2.2.2.1⟩

end SyncthingSocket
