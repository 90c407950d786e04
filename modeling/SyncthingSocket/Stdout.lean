import SyncthingSocket.Effect.Descriptors
import SyncthingSocket.Platform

/-!
`reserveDataStdout`: in plain pipe mode the payload goes to a descriptor of its own, and
descriptor 1, which loggers have captured before anything else ran, is pointed at the
file of standard error.
-/

namespace SyncthingSocket

open Effect

variable {File : Type}

def stdoutFD : Nat := 1

def stderrFD : Nat := 2

/-- With what `unix.Dup` and `unix.Dup2` return; the result is the descriptor of the
payload. -/
def reserveDataStdout (kernel : Descriptors File) (dup : Except Err Nat) (dup2 : Option Err) :
    Nat × Descriptors File :=
  match dup with
  | .error _ => (stdoutFD, kernel)
  | .ok dataFD =>
      let kernel := (kernel.duplicate stdoutFD dataFD).setCloseOnExec dataFD
      match dup2 with
      | some _ => (stdoutFD, kernel.close dataFD)
      | none => (dataFD, kernel.duplicate stderrFD stdoutFD)

def payloadOf (dataFD : Nat) (writes : List Write) : List UInt8 :=
  writes.flatMap fun
    | .own fd bytes => if fd = dataFD then bytes else []
    | .child _ _ => []

structure Started (kernel : Descriptors File) (stdout stderr : File) : Prop where
  output : kernel.table stdoutFD = some stdout
  diagnostics : kernel.table stderrFD = some stderr
  apart : stdout ≠ stderr
  alone : ∀ fd, kernel.table fd = some stdout → fd = stdoutFD

variable {kernel : Descriptors File} {stdout stderr : File} {dataFD : Nat}

theorem Started.reserved (started : Started kernel stdout stderr)
    (unused : kernel.table dataFD = none) (event : Write) :
    (reserveDataStdout kernel (.ok dataFD) none).2.target event = some stdout ↔
      ∃ bytes, event = .own dataFD bytes := by
  have other : dataFD ≠ stdoutFD := by
    rintro rfl
    rw [started.output] at unused
    cases unused
  have errors : stderrFD ≠ dataFD := by
    rintro rfl
    rw [started.diagnostics] at unused
    cases unused
  have table : ∀ fd, (reserveDataStdout kernel (.ok dataFD) none).2.table fd = some stdout ↔
      fd = dataFD := by
    intro fd
    change Function.update (Function.update kernel.table dataFD (kernel.table stdoutFD)) stdoutFD
      (Function.update kernel.table dataFD (kernel.table stdoutFD) stderrFD) fd = _ ↔ _
    rw [Function.update_of_ne errors, started.diagnostics, started.output]
    by_cases first : fd = stdoutFD
    · subst first
      rw [Function.update_self]
      exact ⟨fun same => absurd (Option.some.inj same).symm started.apart,
        fun same => absurd same.symm other⟩
    · rw [Function.update_of_ne first]
      by_cases data : fd = dataFD
      · subst data
        rw [Function.update_self]
        exact ⟨fun _ => rfl, fun _ => rfl⟩
      · rw [Function.update_of_ne data]
        exact ⟨fun hit => absurd (started.alone fd hit) first, fun same => absurd same data⟩
  have marked : (reserveDataStdout kernel (.ok dataFD) none).2.closeOnExec dataFD = true := by
    exact (Function.update_of_ne other _ _).trans (Function.update_self _ _ _)
  cases event with
  | own fd bytes =>
      rw [Descriptors.target, table]
      exact ⟨fun same => ⟨bytes, by rw [same]⟩, fun ⟨_, same⟩ => (Write.own.inj same).1⟩
  | child fd bytes =>
      -- the only descriptor of the file is marked, and so a program does not inherit it
      constructor
      · intro hit
        rw [Descriptors.target] at hit
        split at hit
        · cases hit
        · next kept => exact absurd ((table fd).mp hit ▸ marked) kept
      · rintro ⟨_, same⟩
        cases same

/-- In pipe mode standard output carries the payload and nothing else: whatever the
process writes through its other descriptors, and whatever the programs it executes
write through any, in whatever order. If the reservation fails, the descriptors that
were open are as before and the payload shares standard output. -/
theorem stdout_carries_payload [DecidableEq File] (started : Started kernel stdout stderr)
    (unused : kernel.table dataFD = none) (failed : Err) (writes : List Write) :
    let reserved := reserveDataStdout kernel (.ok dataFD) none
    reserved.1 = dataFD ∧
      (reserved.2.run writes).written stdout = kernel.written stdout ++ payloadOf reserved.1 writes ∧
      ∀ outcome, outcome = reserveDataStdout kernel (.error failed) none ∨
          outcome = reserveDataStdout kernel (.ok dataFD) (some failed) →
        outcome.1 = stdoutFD ∧ outcome.2.table = kernel.table := by
  intro reserved
  refine ⟨rfl, ?_, ?_⟩
  · rw [Descriptors.run_written]
    change kernel.written stdout ++ _ = kernel.written stdout ++ _
    congr 1
    refine List.flatMap_congr fun event _ => ?_
    have reached := started.reserved unused event
    cases event with
    | own fd bytes =>
        refine if_congr (reached.trans ?_) rfl rfl
        exact ⟨fun ⟨_, same⟩ => (Write.own.inj same).1, fun same => ⟨bytes, by rw [same]; rfl⟩⟩
    | child fd bytes =>
        refine if_neg fun hit => ?_
        obtain ⟨_, same⟩ := reached.mp hit
        cases same
  · rintro outcome (rfl | rfl)
    · exact ⟨rfl, rfl⟩
    · refine ⟨rfl, ?_⟩
      change Function.update (Function.update kernel.table dataFD _) dataFD none = kernel.table
      rw [Function.update_idem, ← unused, Function.update_eq_self]

def shellKernel : Descriptors Bool :=
  { table := fun fd => if fd = 1 then some true else if fd = 2 then some false else none
    closeOnExec := fun _ => false
    written := fun _ => [] }

theorem shellKernel_started : Started shellKernel true false := by
  refine ⟨rfl, rfl, by decide, fun fd hit => ?_⟩
  by_cases first : fd = 1
  · exact first
  · by_cases second : fd = 2
    · subst second
      exact absurd hit (by decide)
    · simp [shellKernel, first, second] at hit

theorem captured_key_unspoiled :
    ((reserveDataStdout shellKernel (.ok 3) none).2.run
      [.own 1 [74], .own 3 [107, 101], .child 1 [33], .child 3 [33], .own 2 [10],
        .own 3 [121]]).written true
        = [107, 101, 121] :=
  (stdout_carries_payload shellKernel_started rfl (.text "EBUSY") _).2.1

end SyncthingSocket
