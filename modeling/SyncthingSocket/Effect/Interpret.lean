import SyncthingSocket.Effect.Program

/-!
Programs whose operations are carried out by other programs, over another set of
operations. A complete run below is a complete run above with every operation replaced by
a complete run of the program that carries it out.
-/

namespace Effect

namespace Program

variable {Op : Type} {Answer : Op → Type} {Below : Type} {AnswerBelow : Below → Type} {α : Type}

def interpret (carryOut : (op : Op) → Program Below AnswerBelow (Answer op)) :
    Program Op Answer α → Program Below AnswerBelow α
  | done value => done value
  | ask op next => carryOut op >>= fun answer => interpret carryOut (next answer)

variable {carryOut : (op : Op) → Program Below AnswerBelow (Answer op)}

theorem interpret_bind {β : Type} (program : Program Op Answer α)
    (following : α → Program Op Answer β) :
    interpret carryOut (program >>= following) =
      interpret carryOut program >>= fun value => interpret carryOut (following value) := by
  induction program with
  | done value => rfl
  | ask op next ih =>
      simp only [ask_bind, interpret, bind_assoc]
      congr 1
      funext answer
      exact ih answer

inductive Implements (carryOut : (op : Op) → Program Below AnswerBelow (Answer op)) :
    History Answer → History AnswerBelow → Prop
  | nil : Implements carryOut [] []
  | cons {op : Op} {answer : Answer op} {piece lower : History AnswerBelow} {history : History Answer}
      (run : Runs (carryOut op) piece (done answer)) (rest : Implements carryOut history lower) :
      Implements carryOut (⟨op, answer⟩ :: history) (piece ++ lower)

theorem interpret_done {program : Program Op Answer α} {lower : History AnswerBelow} {value : α} :
    Runs (interpret carryOut program) lower (done value) ↔
      ∃ history, Runs program history (done value) ∧ Implements carryOut history lower := by
  induction program generalizing lower with
  | done result =>
      constructor
      · intro run
        obtain ⟨rfl, same⟩ := runs_done.mp run
        injection same with same
        subst same
        exact ⟨[], Runs.start _, .nil⟩
      · rintro ⟨history, run, implements⟩
        obtain ⟨rfl, same⟩ := runs_done.mp run
        cases implements
        injection same with same
        subst same
        exact Runs.start _
  | ask op next ih =>
      constructor
      · intro run
        obtain ⟨piece, rest, answer, rfl, carried, later⟩ := runs_bind_done run
        obtain ⟨history, above, implements⟩ := (ih answer).mp later
        exact ⟨⟨op, answer⟩ :: history, Runs.step answer above, .cons carried implements⟩
      · rintro ⟨history, run, implements⟩
        cases run with
        | step answer later =>
            cases implements with
            | cons carried rest => exact (carried.bind _).trans ((ih answer).mpr ⟨_, later, rest⟩)

theorem Implements.found_above {history : History Answer} {lower : History AnswerBelow}
    {event : Sigma AnswerBelow} (implements : Implements carryOut history lower)
    (member : event ∈ lower) :
    ∃ op answer piece, (⟨op, answer⟩ : Sigma Answer) ∈ history ∧ Runs (carryOut op) piece (done answer) ∧
      event ∈ piece := by
  induction implements with
  | nil => cases member
  | cons run rest ih =>
      rcases List.mem_append.mp member with here | later
      · exact ⟨_, _, _, List.mem_cons_self, run, here⟩
      · obtain ⟨op, answer, piece, above, carried, found⟩ := ih later
        exact ⟨op, answer, piece, List.mem_cons_of_mem _ above, carried, found⟩

theorem Implements.carried_out {history : History Answer} {lower : History AnswerBelow} {op : Op}
    {answer : Answer op} (implements : Implements carryOut history lower)
    (member : (⟨op, answer⟩ : Sigma Answer) ∈ history) :
    ∃ piece, Runs (carryOut op) piece (done answer) ∧ ∀ event ∈ piece, event ∈ lower := by
  induction implements with
  | nil => cases member
  | cons run rest ih =>
      rcases List.mem_cons.mp member with here | later
      · cases here
        exact ⟨_, run, fun event found => List.mem_append_left _ found⟩
      · obtain ⟨piece, carried, inside⟩ := ih later
        exact ⟨piece, carried, fun event found => List.mem_append_right _ (inside event found)⟩

theorem Implements.append {first second : History Answer} {lower later : History AnswerBelow}
    (one : Implements carryOut first lower) (two : Implements carryOut second later) :
    Implements carryOut (first ++ second) (lower ++ later) := by
  induction one with
  | nil => exact two
  | cons run rest ih =>
      rw [List.cons_append, List.append_assoc]
      exact .cons run ih

end Program

end Effect
