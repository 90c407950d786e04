import SyncthingSocket.Pipe

/-!
The pipe that `UnlockLUKS` puts in the place of stdin. One goroutine writes the passphrase
to it and closes it, `pipeBiDirectional` reads it and writes to the connection.
-/

namespace SyncthingSocket

open Effect Framing

/-! What a copy has read and what its writes were answered. -/

def CopyEvent.block : CopyEvent → Option Bytes
  | read data _ => if data = [] then none else some data
  | write _ _ => none

def CopyEvent.answer : CopyEvent → Option Int
  | read _ _ => none
  | write nw _ => some nw

def blocksRead (events : List CopyEvent) : List Bytes := events.filterMap CopyEvent.block

def writeAnswers (events : List CopyEvent) : List Int := events.filterMap CopyEvent.answer

def blockLengths (blocks : List Bytes) : List Int := blocks.map fun block => (block.length : Int)

/-- How far the answers have come with the blocks. Only the last one can have fallen short,
since the copy ends with it. -/
def Tallied (copier : Copier) (blocks : List Bytes) (answers : List Int) : Prop :=
  match copier.phase with
  | .reading => answers = blockLengths blocks ∧ copier.given = copier.taken
  | .writing data _ => ∃ earlier, blocks = earlier ++ [data] ∧ answers = blockLengths earlier ∧
      copier.given ++ data = copier.taken ∧ data ≠ []
  | .returned _ => (answers = blockLengths blocks ∧ copier.given = copier.taken) ∨
      ∃ earlier data, ∃ nw : Int, blocks = earlier ++ [data] ∧ answers = blockLengths earlier ++ [nw] ∧
        nw ≠ data.length ∧ copier.given ≠ copier.taken

structure Tally (copier : Copier) (events : List CopyEvent) : Prop where
  read : copier.taken = (blocksRead events).flatten
  answered : Tallied copier (blocksRead events) (writeAnswers events)

section

variable (events : List CopyEvent)

@[simp] theorem blocksRead_read (data : Bytes) (er : Option Err) :
    blocksRead (events ++ [.read data er]) = blocksRead events ++ if data = [] then [] else [data] := by
  rw [blocksRead, List.filterMap_append, ← blocksRead]
  congr 1
  by_cases empty : data = [] <;> simp [CopyEvent.block, empty]

@[simp] theorem blocksRead_write (nw : Int) (ew : Option Err) :
    blocksRead (events ++ [.write nw ew]) = blocksRead events := by
  rw [blocksRead, List.filterMap_append, List.filterMap_cons_none rfl, List.filterMap_nil,
    List.append_nil, blocksRead]

@[simp] theorem writeAnswers_read (data : Bytes) (er : Option Err) :
    writeAnswers (events ++ [.read data er]) = writeAnswers events := by
  rw [writeAnswers, List.filterMap_append, List.filterMap_cons_none rfl, List.filterMap_nil,
    List.append_nil, writeAnswers]

@[simp] theorem writeAnswers_write (nw : Int) (ew : Option Err) :
    writeAnswers (events ++ [.write nw ew]) = writeAnswers events ++ [nw] := by
  rw [writeAnswers, List.filterMap_append, ← writeAnswers]
  rfl

end

theorem blockLengths_concat (blocks : List Bytes) (data : Bytes) :
    blockLengths (blocks ++ [data]) = blockLengths blocks ++ [(data.length : Int)] := by
  simp [blockLengths]

theorem tally_start : Tally {} [] := ⟨rfl, rfl, rfl⟩

variable {passphrase : Bytes} {copier : Copier} {feeding : Feeding} {events : List FeedEvent}

theorem tallied_proceed {blocks : List Bytes} {answers : List Int}
    (all : answers = blockLengths blocks) (whole : copier.given = copier.taken) (er : Option Err) :
    Tallied (copier.proceed er) blocks answers := by
  cases er with
  | none => exact ⟨all, whole⟩
  | some err => exact Or.inl ⟨all, whole⟩

theorem Tally.step {after : Copier} {event : CopyEvent} {events : List CopyEvent}
    (tally : Tally copier events) (step : CopyStep copier event after) :
    Tally after (events ++ [event]) := by
  obtain ⟨read, answered⟩ := tally
  cases step with
  | @read data er reading _ =>
      simp only [Tallied, reading] at answered
      by_cases empty : data = []
      · subst empty
        exact ⟨by simpa [Copier.afterRead_taken] using read,
          by simpa [Copier.afterRead] using tallied_proceed answered.1 answered.2 er⟩
      · have some : 0 < data.length := List.length_pos_iff.mpr empty
        refine ⟨?_, ?_⟩
        · rw [Copier.afterRead_taken, read]
          simp [empty]
        · rw [Copier.afterRead, if_pos some]
          exact ⟨blocksRead events, by simp [empty], by simpa using answered.1, by rw [answered.2], empty⟩
  | @write data er nw ew writing =>
      simp only [Tallied, writing] at answered
      obtain ⟨earlier, blocks, answers, balance, nonempty⟩ := answered
      refine ⟨by rw [Copier.afterWrite_taken, read, blocksRead_write], ?_⟩
      rw [blocksRead_write, writeAnswers_write, blocks, answers]
      by_cases whole : nw = data.length
      · -- The connection has taken the block, whether or not it reports an error with it.
        subst whole
        have counted := Copier.counted_complete data
        simp only [Copier.afterWrite, counted, List.take_length, ne_eq, not_true_eq_false, if_false]
        cases Copier.writeError data data.length ew with
        | some err => exact Or.inl ⟨(blockLengths_concat _ _).symm, balance⟩
        | none => exact tallied_proceed (blockLengths_concat _ _).symm balance er
      · have short : Copier.counted data nw < data.length := by
          have positive : 0 < data.length := List.length_pos_iff.mpr nonempty
          rw [Copier.counted]
          split <;> omega
        have missing : copier.given ++ data.take (Copier.counted data nw) ≠ copier.taken := by
          rw [← balance]
          intro same
          have lengths := congrArg List.length (List.append_cancel_left same)
          simp only [List.length_take] at lengths
          omega
        simp only [Copier.afterWrite]
        cases Copier.writeError data nw ew with
        | some err => exact Or.inr ⟨earlier, data, nw, rfl, rfl, whole, missing⟩
        | none =>
            simp only
            rw [if_pos (by omega)]
            exact Or.inr ⟨earlier, data, nw, rfl, rfl, whole, missing⟩

theorem Tally.given_eq_taken_iff {events : List CopyEvent} (tally : Tally copier events) :
    copier.given = copier.taken ↔ writeAnswers events = blockLengths (blocksRead events) := by
  have answered := tally.answered
  cases phase : copier.phase with
  | reading =>
      simp only [Tallied, phase] at answered
      exact iff_of_true answered.2 answered.1
  | writing data er =>
      simp only [Tallied, phase] at answered
      obtain ⟨earlier, blocks, answers, balance, nonempty⟩ := answered
      refine iff_of_false ?_ ?_
      · rw [← balance]
        simpa using nonempty.symm
      · rw [blocks, answers, blockLengths_concat]
        simp
  | returned err =>
      simp only [Tallied, phase] at answered
      rcases answered with ⟨all, whole⟩ | ⟨earlier, data, nw, blocks, answers, short, missing⟩
      · exact iff_of_true whole all
      · refine iff_of_false missing ?_
        rw [blocks, answers, blockLengths_concat]
        simpa using short

/-! The pipe in the place of stdin. -/

/-- What the goroutine has still to write, what lies in the pipe, and whether the write end
is closed. -/
structure StdinPipe where
  unwritten : Bytes
  buffered : Bytes := []
  closed : Bool := false
  deriving DecidableEq, Repr

/-- What a `Read` of the read end answers; every other event leaves the pipe alone. -/
inductive StdinPipe.Reads (stdin : StdinPipe) : PipeEvent → StdinPipe → Prop
  | bytes {data rest : Bytes} : stdin.buffered = data ++ rest → data ≠ [] →
      Reads stdin (.send (.read data none)) { stdin with buffered := rest }
  | ended : stdin.buffered = [] → stdin.closed = true →
      Reads stdin (.send (.read [] (some .eof))) stdin
  | other {event : PipeEvent} : (∀ data er, event ≠ .send (.read data er)) → Reads stdin event stdin

structure Feeding where
  stdin : StdinPipe
  pipe : Pipe := {}
  deriving DecidableEq, Repr

def Feeding.start (passphrase : Bytes) : Feeding where
  stdin := { unwritten := passphrase }

inductive FeedEvent
  | write (count : Nat)
  | close
  | pipe (event : PipeEvent)
  deriving DecidableEq, Repr

/-- The writing goroutine and `pipeBiDirectional`, to which a pipe is no terminal. -/
inductive FeedStep : Feeding → FeedEvent → Feeding → Prop
  | write {feeding : Feeding} {count : Nat} : 0 < count → count ≤ feeding.stdin.unwritten.length →
      FeedStep feeding (.write count) { feeding with stdin := { feeding.stdin with
        unwritten := feeding.stdin.unwritten.drop count
        buffered := feeding.stdin.buffered ++ feeding.stdin.unwritten.take count } }
  | close {feeding : Feeding} : feeding.stdin.unwritten = [] → feeding.stdin.closed = false →
      FeedStep feeding .close { feeding with stdin := { feeding.stdin with closed := true } }
  | pipe {feeding : Feeding} {event : PipeEvent} {stdin : StdinPipe} {pipe : Pipe} :
      PipeStep false feeding.pipe event pipe → feeding.stdin.Reads event stdin →
      FeedStep feeding (.pipe event) ⟨stdin, pipe⟩

def FeedEvent.sent : FeedEvent → Option CopyEvent
  | pipe (.send event) => some event
  | _ => none

def sendEvents (events : List FeedEvent) : List CopyEvent := events.filterMap FeedEvent.sent

structure Fed (passphrase : Bytes) (events : List FeedEvent) (feeding : Feeding) : Prop where
  orderly : feeding.pipe.Orderly
  supply : feeding.pipe.send.taken ++ feeding.stdin.buffered ++ feeding.stdin.unwritten = passphrase
  tally : Tally feeding.pipe.send (sendEvents events)

theorem sendEvents_other {event : FeedEvent} (other : event.sent = none) :
    sendEvents (events ++ [event]) = sendEvents events := by
  simp [sendEvents, other]

theorem sendEvents_send (events : List FeedEvent) (event : CopyEvent) :
    sendEvents (events ++ [.pipe (.send event)]) = sendEvents events ++ [event] := by
  simp [sendEvents, FeedEvent.sent]

theorem StdinPipe.Reads.unread {stdin after : StdinPipe} {event : PipeEvent}
    (reads : stdin.Reads event after) (other : ∀ data er, event ≠ .send (.read data er)) :
    after = stdin := by
  cases reads with
  | bytes _ _ => exact absurd rfl (other _ _)
  | ended _ _ => exact absurd rfl (other _ _)
  | other _ => rfl

theorem Fed.send {event : CopyEvent} {send : Copier} {stdin : StdinPipe}
    (fed : Fed passphrase events feeding) (copies : CopyStep feeding.pipe.send event send)
    (reads : feeding.stdin.Reads (.send event) stdin) :
    send.taken ++ stdin.buffered ++ stdin.unwritten = passphrase := by
  have supply := fed.supply
  cases copies with
  | @read data er reading _ =>
      rw [Copier.afterRead_taken]
      cases reads with
      | bytes held _ => simpa [held] using supply
      | ended _ _ => simpa using supply
      | other other => exact absurd rfl (other data er)
  | @write data er nw ew writing =>
      rw [Copier.afterWrite_taken, reads.unread (by simp)]
      exact supply

theorem Fed.step {after : Feeding} {event : FeedEvent} (fed : Fed passphrase events feeding)
    (step : FeedStep feeding event after) :
    Fed passphrase (events ++ [event]) after := by
  have supply := fed.supply
  have kept (other : event.sent = none) : Tally feeding.pipe.send (sendEvents (events ++ [event])) := by
    rw [sendEvents_other other]
    exact fed.tally
  cases step with
  | @write count _ _ =>
      refine ⟨fed.orderly, ?_, kept rfl⟩
      rw [← supply]
      simp only [List.append_assoc, List.take_append_drop]
  | close _ _ => exact ⟨fed.orderly, supply, kept rfl⟩
  | @pipe event stdin pipe taken reads =>
      have orderly := fed.orderly.step taken
      cases taken with
      | send copies =>
          refine ⟨orderly, fed.send copies reads, ?_⟩
          rw [sendEvents_send]
          exact fed.tally.step copies
      | closeWrite _ _ _ _ =>
          rw [reads.unread (by simp)]
          exact ⟨orderly, supply, kept rfl⟩
      | stdinDone _ _ _ =>
          rw [reads.unread (by simp)]
          exact ⟨orderly, supply, kept rfl⟩
      | receive _ =>
          rw [reads.unread (by simp)]
          exact ⟨orderly, supply, kept rfl⟩
      | returns _ _ _ =>
          rw [reads.unread (by simp)]
          exact ⟨orderly, supply, kept rfl⟩

theorem fed_of_trace (trace : Trace FeedStep (Feeding.start passphrase) events feeding) :
    Fed passphrase events feeding :=
  trace.invariant ⟨Pipe.orderly_start, rfl, tally_start⟩ fun _ _ _ _ fed step => fed.step step

/-- The blocks that were read make up the passphrase, and the connection answered each of
them with its length. -/
def SentWhole (passphrase : Bytes) (events : List FeedEvent) : Prop :=
  (blocksRead (sendEvents events)).flatten = passphrase ∧
    writeAnswers (sendEvents events) = blockLengths (blocksRead (sendEvents events))

theorem sent_eq_passphrase_iff (trace : Trace FeedStep (Feeding.start passphrase) events feeding) :
    feeding.pipe.report.sent = passphrase ↔ SentWhole passphrase events := by
  obtain ⟨orderly, supply, tally⟩ := fed_of_trace trace
  have given := orderly.sends.given_le_taken
  have taken : feeding.pipe.send.taken <+: passphrase := by
    rw [← supply, List.append_assoc]
    exact List.prefix_append _ _
  change feeding.pipe.send.given = passphrase ↔ _
  rw [SentWhole, ← tally.given_eq_taken_iff, ← tally.read]
  constructor
  · intro sent
    have all : feeding.pipe.send.taken = passphrase :=
      taken.eq_of_length_le (sent ▸ given.length_le)
    exact ⟨all, sent.trans all.symm⟩
  · rintro ⟨all, whole⟩
    exact whole.trans all

end SyncthingSocket
