import Mathlib.Logic.Function.Basic

/-!
File descriptors: a table from numbers to open files, the marks that close a descriptor
in a program that is executed, and what has been written to each file.
-/

namespace Effect

structure Descriptors (File : Type) where
  table : Nat → Option File
  closeOnExec : Nat → Bool
  written : File → List UInt8

inductive Write
  | own (fd : Nat) (bytes : List UInt8)
  | child (fd : Nat) (bytes : List UInt8)
  deriving DecidableEq, Repr

def Write.bytes : Write → List UInt8
  | own _ bytes => bytes
  | child _ bytes => bytes

namespace Descriptors

variable {File : Type}

/-- `new` becomes another descriptor of the file of `old`: `dup` if it was free, `dup2`
if it was not. -/
def duplicate (d : Descriptors File) (old new : Nat) : Descriptors File :=
  { d with
    table := Function.update d.table new (d.table old)
    closeOnExec := Function.update d.closeOnExec new false }

def setCloseOnExec (d : Descriptors File) (fd : Nat) : Descriptors File :=
  { d with closeOnExec := Function.update d.closeOnExec fd true }

def close (d : Descriptors File) (fd : Nat) : Descriptors File :=
  { d with table := Function.update d.table fd none }

def target (d : Descriptors File) : Write → Option File
  | .own fd _ => d.table fd
  | .child fd _ => if d.closeOnExec fd then none else d.table fd

variable [DecidableEq File]

def write (d : Descriptors File) (event : Write) : Descriptors File :=
  match d.target event with
  | none => d
  | some file => { d with written := Function.update d.written file (d.written file ++ event.bytes) }

def run (d : Descriptors File) (events : List Write) : Descriptors File := events.foldl write d

theorem write_target (d : Descriptors File) (event other : Write) :
    (d.write event).target other = d.target other := by
  rw [write]
  split <;> cases other <;> rfl

theorem write_written (d : Descriptors File) (event : Write) (file : File) :
    (d.write event).written file = d.written file ++ if d.target event =
      some file then event.bytes else [] := by
  rw [write]
  split
  · next missing => rw [missing, if_neg (by simp), List.append_nil]
  · next found hit =>
      rw [hit]
      by_cases same : found = file
      · subst same
        simp
      · have other : ¬ some found = some file := fun equal => same (Option.some.inj equal)
        rw [if_neg other, List.append_nil]
        exact Function.update_of_ne (Ne.symm same) _ _

theorem run_written (d : Descriptors File) (events : List Write) (file : File) :
    (d.run events).written file =
      d.written file ++ events.flatMap fun event =>
        if d.target event = some file then event.bytes else [] := by
  induction events generalizing d with
  | nil => simp [run]
  | cons event events ih =>
      have rest := ih (d.write event)
      rw [write_written] at rest
      simp only [write_target] at rest
      rw [run, List.foldl_cons, List.flatMap_cons, ← List.append_assoc]
      exact rest

end Descriptors

end Effect
