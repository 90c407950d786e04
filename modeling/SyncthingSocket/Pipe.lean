import SyncthingSocket.Copy

/-!
`pipeBiDirectional` of `main.go`: one goroutine copies stdin to the connection and
ends the transmission, the caller's copies the connection to the data output and
then gives the other a moment to flush.
-/

namespace SyncthingSocket

open Effect Framing

structure Pipe where
  send : Copier := {}
  receive : Copier := {}
  halfClosed : Bool := false
  stdinDone : Bool := false
  returned : Bool := false
  deriving DecidableEq, Repr

/-- What let the call return: stdin is a terminal, the `stdinDone` channel, or the
timer over `pipeFlushGrace`. -/
inductive PipeExit
  | terminal
  | stdinDone
  | flushGrace
  deriving DecidableEq, Repr

inductive PipeEvent
  | send (event : CopyEvent)
  | closeWrite (err : Option Err)
  | stdinDone
  | receive (event : CopyEvent)
  | returns (exit : PipeExit)
  deriving DecidableEq, Repr

/-- `err != nil && err != io.EOF`. -/
def isFailure (err : Option Err) : Bool := decide (err ≠ none ∧ err ≠ some .eof)

def Pipe.mayReturn (terminal : Bool) (pipe : Pipe) : PipeExit → Prop
  | .terminal => terminal = true
  | .stdinDone => terminal = false ∧ pipe.stdinDone = true
  | .flushGrace => terminal = false

inductive PipeStep (terminal : Bool) : Pipe → PipeEvent → Pipe → Prop
  | send {pipe : Pipe} {event : CopyEvent} {send : Copier} :
      CopyStep pipe.send event send →
      PipeStep terminal pipe (.send event) { pipe with send := send }
  | closeWrite {pipe : Pipe} {result err : Option Err} :
      pipe.send.phase = .returned result → isFailure result = false → pipe.send.written ≠ 0 →
      pipe.halfClosed = false →
      PipeStep terminal pipe (.closeWrite err) { pipe with halfClosed := true }
  | stdinDone {pipe : Pipe} {result : Option Err} :
      pipe.send.phase = .returned result →
      isFailure result = true ∨ pipe.send.written = 0 ∨ pipe.halfClosed = true →
      pipe.stdinDone = false →
      PipeStep terminal pipe .stdinDone { pipe with stdinDone := true }
  | receive {pipe : Pipe} {event : CopyEvent} {receive : Copier} :
      CopyStep pipe.receive event receive →
      PipeStep terminal pipe (.receive event) { pipe with receive := receive }
  | returns {pipe : Pipe} {result : Option Err} {exit : PipeExit} :
      pipe.receive.phase = .returned result → pipe.mayReturn terminal exit → pipe.returned = false →
      PipeStep terminal pipe (.returns exit) { pipe with returned := true }

/-- What the call has written where, and the error it logged for `remote->stdout`. -/
def Pipe.report (pipe : Pipe) : PipeReport where
  output := pipe.receive.given
  sent := pipe.send.given
  receiveErr := match pipe.receive.phase with
    | .returned err => if isFailure err then err else none
    | _ => none

structure Pipe.Orderly (pipe : Pipe) : Prop where
  sends : Faithful pipe.send
  receives : Faithful pipe.receive
  transmitted : pipe.halfClosed = true →
    pipe.send.written ≠ 0 ∧ ∃ result, pipe.send.phase = .returned result ∧ isFailure result = false
  received : pipe.returned = true → ∃ result, pipe.receive.phase = .returned result

theorem CopyStep.unreturned {copier after : Copier} {event : CopyEvent}
    (step : CopyStep copier event after) (err : Option Err) : copier.phase ≠ .returned err := by
  intro returned
  cases step with
  | read reading _ => simp [reading] at returned
  | write writing => simp [writing] at returned

theorem Pipe.orderly_start : Pipe.Orderly {} :=
  ⟨faithful_start, faithful_start, by simp, by simp⟩

theorem Pipe.Orderly.step {terminal : Bool} {pipe after : Pipe} {event : PipeEvent}
    (orderly : pipe.Orderly) (step : PipeStep terminal pipe event after) : after.Orderly := by
  obtain ⟨sends, receives, transmitted, received⟩ := orderly
  cases step with
  | send copy =>
      refine ⟨faithful_step sends copy, receives, ?_, received⟩
      intro halfClosed
      obtain ⟨_, result, returned, _⟩ := transmitted halfClosed
      exact absurd returned (copy.unreturned result)
  | @closeWrite result err returned fine sent _ =>
      exact ⟨sends, receives, fun _ => ⟨sent, result, returned, fine⟩, received⟩
  | stdinDone _ _ _ => exact ⟨sends, receives, transmitted, received⟩
  | receive copy =>
      refine ⟨sends, faithful_step receives copy, transmitted, ?_⟩
      intro returned
      obtain ⟨result, phase⟩ := received returned
      exact absurd phase (copy.unreturned result)
  | @returns result exit phase _ _ => exact ⟨sends, receives, transmitted, fun _ => ⟨result, phase⟩⟩

end SyncthingSocket
