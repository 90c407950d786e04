import Mathlib.Data.List.Basic
import Mathlib.Order.Basic

/-!
Programs that obtain every effect by asking their environment: a finite tree that has finished
with a value or asks one operation and goes on with the answer. Its behaviour is the set of
histories of operations and answers.
-/

namespace Effect

inductive Program (Op : Type) (Answer : Op → Type) (α : Type) : Type
  | done (value : α)
  | ask (op : Op) (next : Answer op → Program Op Answer α)

abbrev History {Op : Type} (Answer : Op → Type) := List (Sigma Answer)

namespace Program

variable {Op : Type} {Answer : Op → Type} {α β : Type}

protected def bind : Program Op Answer α → (α → Program Op Answer β) → Program Op Answer β
  | done value, rest => rest value
  | ask op next, rest => ask op fun answer => (next answer).bind rest

instance : Monad (Program Op Answer) where
  pure := done
  bind := Program.bind

def perform (op : Op) : Program Op Answer (Answer op) :=
  ask op done

@[simp] theorem pure_eq_done (value : α) : (pure value : Program Op Answer α) = done value := rfl

@[simp] theorem done_bind (value : α) (rest : α → Program Op Answer β) :
    (done value >>= rest) = rest value := rfl

@[simp] theorem ask_bind (op : Op) (next : Answer op → Program Op Answer α)
    (rest : α → Program Op Answer β) :
    (ask op next >>= rest) = ask op fun answer => next answer >>= rest := rfl

@[simp] theorem perform_bind (op : Op) (rest : Answer op → Program Op Answer β) :
    (perform op >>= rest) = ask op rest := rfl

theorem bind_assoc {γ : Type} (program : Program Op Answer α)
    (middle : α → Program Op Answer β) (last : β → Program Op Answer γ) :
    (program >>= middle >>= last) = program >>= fun value => middle value >>= last := by
  induction program with
  | done value => rfl
  | ask op next ih =>
      simp only [ask_bind]
      congr 1
      funext answer
      exact ih answer

/-! The histories of a program. -/

/-- `Runs program history rest`: after `history` the program still has `rest` to do. -/
inductive Runs : Program Op Answer α → History Answer → Program Op Answer α → Prop
  | start (program) : Runs program [] program
  | step {op : Op} {next : Answer op → Program Op Answer α} {history rest} (answer : Answer op) :
      Runs (next answer) history rest → Runs (ask op next) (⟨op, answer⟩ :: history) rest

variable {program rest : Program Op Answer α} {history : History Answer}
  {event : Sigma Answer} {op : Op} {value : α} {post : α → History Answer → Prop}

theorem Runs.trans {program middle rest : Program Op Answer α} {first second : History Answer}
    (early : Runs program first middle) (late : Runs middle second rest) :
    Runs program (first ++ second) rest := by
  induction early with
  | start _ => exact late
  | step answer _ ih => exact Runs.step answer (ih late)

theorem Runs.extend
    {next : Answer op → Program Op Answer α} (run : Runs program history (ask op next))
    (answer : Answer op) : Runs program (history ++ [⟨op, answer⟩]) (next answer) :=
  run.trans (Runs.step answer (Runs.start _))

theorem Runs.asked {before after : History Answer}
    (run : Runs program (before ++ event :: after) rest) :
    ∃ next, Runs program before (ask event.1 next) := by
  induction before generalizing program with
  | nil =>
      cases run with
      | step answer later => exact ⟨_, Runs.start _⟩
  | cons first before ih =>
      cases run with
      | step answer later =>
          obtain ⟨next, early⟩ := ih later
          exact ⟨next, Runs.step answer early⟩

theorem Runs.split {first second : History Answer} (run : Runs program (first ++ second) rest) :
    ∃ middle, Runs program first middle ∧ Runs middle second rest := by
  induction first generalizing program with
  | nil => exact ⟨program, Runs.start _, run⟩
  | cons event first ih =>
      cases run with
      | step answer later =>
          obtain ⟨middle, early, late⟩ := ih later
          exact ⟨middle, Runs.step answer early, late⟩

theorem runs_cons (run : Runs program (event :: history) rest) :
    ∃ next, program = ask event.1 next ∧ Runs (next event.2) history rest := by
  cases run with
  | step answer later => exact ⟨_, rfl, later⟩

theorem Runs.rest_unique {program rest other : Program Op Answer α}
    (one : Runs program history rest) (two : Runs program history other) : rest = other := by
  induction one with
  | start _ =>
      cases two
      rfl
  | step answer _ ih =>
      cases two with
      | step _ late => exact ih late

theorem runs_done :
    Runs (done value) history rest ↔ history = [] ∧ rest = done value := by
  constructor
  · intro run
    cases run
    exact ⟨rfl, rfl⟩
  · rintro ⟨rfl, rfl⟩
    exact Runs.start _

theorem Runs.finished_unique {first later : History Answer}
    (finished : Runs program first (done value)) (run : Runs program (first ++ later) rest) :
    later = [] ∧ rest = done value := by
  induction first generalizing program with
  | nil =>
      cases finished
      exact runs_done.mp run
  | cons event first ih =>
      cases finished with
      | step answer finished =>
          cases run with
          | step _ run => exact ih finished run

theorem Runs.finished_same {first second later last : History Answer} {value other : α}
    (one : Runs program first (done value)) (two : Runs program second (done other))
    (same : first ++ later = second ++ last) : first = second ∧ value = other := by
  have comparable : first <+: second ∨ second <+: first :=
    List.prefix_or_prefix_of_prefix (List.prefix_append first later)
      (same ▸ List.prefix_append second last)
  rcases comparable with ⟨rest, rfl⟩ | ⟨rest, rfl⟩
  · obtain ⟨rfl, equal⟩ := one.finished_unique two
    injection equal with equal
    exact ⟨by simp, equal.symm⟩
  · obtain ⟨rfl, equal⟩ := two.finished_unique one
    injection equal with equal
    exact ⟨by simp, equal⟩

theorem Runs.bind (run : Runs program history rest) (following : α → Program Op Answer β) :
    Runs (program >>= following) history (rest >>= following) := by
  induction run with
  | start _ => exact Runs.start _
  | step answer _ ih => exact Runs.step answer ih

/-- A run of a sequence is a run of its first part, or a finished run of the
first part followed by a run of the second. -/
theorem runs_bind {following : α → Program Op Answer β} {rest : Program Op Answer β}
    (run : Runs (program >>= following) history rest) :
    (∃ op next, Runs program history (ask op next) ∧ rest = (ask op next >>= following)) ∨
      ∃ first second value, history = first ++ second ∧ Runs program first (done value) ∧
        Runs (following value) second rest := by
  induction program generalizing history with
  | done value => exact Or.inr ⟨[], history, value, rfl, Runs.start _, run⟩
  | ask op next ih =>
      cases run with
      | start _ => exact Or.inl ⟨op, next, Runs.start _, rfl⟩
      | step answer later =>
          rcases ih answer later with ⟨op', next', early, restEq⟩ |
            ⟨first, second, value, split, early, late⟩
          · exact Or.inl ⟨op', next', Runs.step answer early, restEq⟩
          · exact Or.inr ⟨⟨op, answer⟩ :: first, second, value, by simp [split],
              Runs.step answer early, late⟩

theorem runs_bind_done {following : α → Program Op Answer β} {result : β}
    (run : Runs (program >>= following) history (done result)) :
    ∃ first second value, history = first ++ second ∧ Runs program first (done value) ∧
      Runs (following value) second (done result) := by
  rcases runs_bind run with ⟨op, next, _, restEq⟩ | finished
  · simp at restEq
  · exact finished

/-! Contracts: what a program promises whenever it asks, and what it may assume
about the answers. -/

/-- `guard` must hold of the history whenever an operation is asked, and only
answers that satisfy `rely` are considered. -/
structure Contract {Op : Type} (Answer : Op → Type) where
  guard : History Answer → Op → Prop
  rely : History Answer → (op : Op) → Answer op → Prop

/-- From `history` on, the program keeps the contract and ends in `post`. -/
def Meets (contract : Contract Answer) (post : α → History Answer → Prop) :
    Program Op Answer α → History Answer → Prop
  | done value, history => post value history
  | ask op next, history => contract.guard history op ∧
      ∀ answer, contract.rely history op answer →
        Meets contract post (next answer) (history ++ [⟨op, answer⟩])

section Rules

variable {contract : Contract Answer}

theorem Meets.mono {post weaker : α → History Answer → Prop}
    (meets : Meets contract post program history)
    (implies : ∀ value later, post value later → weaker value later) :
    Meets contract weaker program history := by
  induction program generalizing history with
  | done value => exact implies value history meets
  | ask op next ih => exact ⟨meets.1, fun answer allowed => ih answer (meets.2 answer allowed)⟩

theorem Meets.bind {post : β → History Answer → Prop} {following : α → Program Op Answer β}
    (meets : Meets contract (fun value later => Meets contract post (following value) later)
      program history) :
    Meets contract post (program >>= following) history := by
  induction program generalizing history with
  | done value => exact meets
  | ask op next ih => exact ⟨meets.1, fun answer allowed => ih answer (meets.2 answer allowed)⟩

/-- A called program is described by its own runs: the caller's contract has to cover every
operation it asks and every history it finishes with. -/
theorem meets_of_runs (guards : ∀ inner op next, Runs program inner (ask op next) →
      contract.guard (history ++ inner) op)
    (finishes : ∀ inner value, Runs program inner (done value) → post value (history ++ inner)) :
    Meets contract post program history := by
  induction program generalizing history with
  | done value => simpa [Meets] using finishes [] value (Runs.start _)
  | ask op next ih =>
      refine ⟨by simpa using guards [] op next (Runs.start _), fun answer _ => ?_⟩
      apply ih answer
      · intro inner op' next' run
        simpa using guards (⟨op, answer⟩ :: inner) op' next' (Runs.step answer run)
      · intro inner value run
        simpa using finishes (⟨op, answer⟩ :: inner) value (Runs.step answer run)

def Relied (contract : Contract Answer) : History Answer → History Answer → Prop
  | _, [] => True
  | before, ⟨op, answer⟩ :: later =>
      contract.rely before op answer ∧ Relied contract (before ++ [⟨op, answer⟩]) later

theorem relied_append {contract : Contract Answer} {before first second : History Answer} :
    Relied contract before (first ++ second) ↔
      Relied contract before first ∧ Relied contract (before ++ first) second := by
  induction first generalizing before with
  | nil => simp [Relied]
  | cons event first ih => simp [Relied, ih, and_assoc]

theorem Meets.runs {history inner : History Answer} (meets : Meets contract post program history)
    (run : Runs program inner rest) (relied : Relied contract history inner) :
    Meets contract post rest (history ++ inner) := by
  induction run generalizing history with
  | start _ => simpa using meets
  | step answer _ ih =>
      have later := ih (meets.2 answer relied.1) relied.2
      simpa using later

theorem Meets.kept {history before after : History Answer}
    (meets : Meets contract post program history)
    (run : Runs program (before ++ event :: after) rest)
    (relied : Relied contract history (before ++ event :: after)) :
    contract.guard (history ++ before) event.1 := by
  obtain ⟨next, early⟩ := run.asked
  exact (meets.runs early (relied_append.mp relied).1).1

end Rules

def Contract.always (guard : History Answer → Op → Prop) : Contract Answer where
  guard := guard
  rely := fun _ _ _ => True

theorem relied_always (guard : History Answer → Op → Prop) (before later : History Answer) :
    Relied (Contract.always guard) before later := by
  induction later generalizing before with
  | nil => trivial
  | cons event later ih => exact ⟨trivial, ih _⟩

theorem Meets.asks {guard : History Answer → Op → Prop} {next : Answer op → Program Op Answer α}
    (meets : Meets (Contract.always guard) post program [])
    (run : Runs program history (ask op next)) : guard history op := by
  have kept := meets.runs run (relied_always guard _ _)
  simpa [Contract.always] using kept.1

theorem Meets.guarded {guard : History Answer → Op → Prop} {before after : History Answer}
    (meets : Meets (Contract.always guard) post program [])
    (run : Runs program (before ++ event :: after) rest) : guard before event.1 := by
  obtain ⟨next, early⟩ := run.asked
  exact meets.asks early

/-- A program whose operations all satisfy `allowed` has only such operations in
its history, and asks for nothing else. -/
theorem Meets.confined {allowed : Op → Prop}
    (meets : Meets (Contract.always fun _ op => allowed op) post program [])
    (run : Runs program history rest) :
    (∀ event ∈ history, allowed event.1) ∧ ∀ op next, rest = ask op next → allowed op := by
  constructor
  · intro event member
    obtain ⟨before, after, rfl⟩ := List.append_of_mem member
    exact meets.guarded run
  · rintro op next rfl
    exact meets.asks run

theorem Meets.finishes {guard : History Answer → Op → Prop}
    (meets : Meets (Contract.always guard) post program [])
    (run : Runs program history (done value)) : post value history := by
  simpa [Meets] using meets.runs run (relied_always guard _ _)

end Program

end Effect
