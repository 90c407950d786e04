import SyncthingSocket.Bufio.Scanner
import SyncthingSocket.Effect.Transition
import SyncthingSocket.Text

/-!
The standard error of a `--command` process: a pipe of bounded capacity, which a goroutine of
`runCommandServer` scans line by line into the log. When its scanner stops nobody reads the pipe
any more, and the read end stays open.
-/

namespace SyncthingSocket

open Effect Bufio

structure StderrState where
  toWrite : List UInt8
  closed : Bool
  pipe : List UInt8
  scanner : Scanner maxScanTokenSize
  received : List UInt8
  logged : List (List UInt8)
  signalled : Bool

def StderrState.start (stream : List UInt8) : StderrState where
  toWrite := stream
  closed := false
  pipe := []
  scanner := Scanner.new maxScanTokenSize
  received := []
  logged := []
  signalled := false

inductive StderrLabel
  | write (chunk : List UInt8)
  | close
  | read (chunk : List UInt8)
  | eof
  | warn (line : List UInt8)
  | done
  deriving DecidableEq, Repr

/-- The process writes and closes, the goroutine reads, logs and signals. A write waits
for space in the pipe, a read for data or for the end of the stream. -/
inductive StderrStep (capacity : Nat) : StderrState → StderrLabel → StderrState → Prop
  | write {state : StderrState} {chunk rest : List UInt8} (isOpen : state.closed = false)
      (pending : state.toWrite = chunk ++ rest) (nonempty : chunk ≠ [])
      (fits : state.pipe.length + chunk.length ≤ capacity) :
      StderrStep capacity state (.write chunk) { state with toWrite := rest, pipe := state.pipe ++ chunk }
  | close {state : StderrState} (isOpen : state.closed = false) (written : state.toWrite = []) :
      StderrStep capacity state .close { state with closed := true }
  | read {state : StderrState} {later : Scanner maxScanTokenSize} {chunk rest : List UInt8}
      (running : state.signalled = false) (wants : state.scanner.scan = .read later)
      (available : state.pipe = chunk ++ rest) (nonempty : chunk ≠ [])
        (fits : chunk.length ≤ later.free) :
      StderrStep capacity state (.read chunk)
        { state with
          pipe := rest, scanner := later.receive chunk fits, received := state.received ++ chunk }
  | eof {state : StderrState} {later : Scanner maxScanTokenSize} (running : state.signalled = false)
      (wants : state.scanner.scan = .read later) (empty : state.pipe = [])
        (isClosed : state.closed = true) :
      StderrStep capacity state .eof { state with scanner := later.ended }
  | warn {state : StderrState} {line : List UInt8} {later : Scanner maxScanTokenSize}
      (running : state.signalled = false) (yields : state.scanner.scan = .token line later) :
      StderrStep capacity state (.warn line) { state with
        scanner := later, logged := state.logged ++ [line] }
  | done {state : StderrState} (running : state.signalled = false)
      (stops : state.scanner.scan = .finished ∨ state.scanner.scan = .tooLong) :
      StderrStep capacity state .done { state with signalled := true }

abbrev StderrReach (capacity : Nat) (stream : List UInt8) : StderrState → Prop :=
  Reach (StderrStep capacity) anyStep (.start stream)

/-- Everything the process writes is read before the goroutine signals, and the only
state in which nothing can happen any more is the one where the process has closed its
end and the goroutine has signalled; every run gets there. -/
structure Drained (capacity : Nat) (stream : List UInt8) : Prop where
  read : ∀ state, StderrReach capacity stream state → state.signalled = true → state.received = stream
  unblocked : ∀ state, StderrReach capacity stream state →
    (∀ label later, ¬ StderrStep capacity state label later) → state.closed = true ∧
      state.signalled = true
  terminates : Terminates (StderrStep capacity) anyStep (.start stream)

/-! What holds throughout. -/

structure StderrSound (capacity : Nat) (stream : List UInt8) (state : StderrState) : Prop where
  split : stream = state.received ++ state.pipe ++ state.toWrite
  capacity : state.pipe.length ≤ capacity
  written : state.closed = true → state.toWrite = []
  ended : state.scanner.atEOF = true → state.closed = true ∧ state.pipe = []
  short : ShortLines maxScanTokenSize state.received
  lines : ∃ lines, state.received = lines ++ state.scanner.data ∧
    (state.scanner.atEOF = true ∨ lines = [] ∨ lines.getLast? = some newline)
  signed : state.signalled = true → ShortLines maxScanTokenSize stream → state.received = stream

section

variable {capacity : Nat} {stream : List UInt8}

theorem stderr_start : StderrSound capacity stream (.start stream) where
  split := by simp [StderrState.start]
  capacity := Nat.zero_le _
  written := by simp [StderrState.start]
  ended := by simp [StderrState.start, Scanner.new]
  short := shortLines_of_length (Nat.zero_le _)
  lines := ⟨[], rfl, Or.inr (Or.inl rfl)⟩
  signed := by simp [StderrState.start]

theorem StderrSound.stops {state : StderrState} (sound : StderrSound capacity stream state)
    (stops : state.scanner.scan = .finished ∨ state.scanner.scan = .tooLong)
    (short : ShortLines maxScanTokenSize stream) : state.received = stream := by
  have rest : state.pipe ++ state.toWrite = [] := by
    have round := state.scanner.scan_round
    rcases stops with stops | stops
    · rw [stops] at round
      cases round with
      | finished atEOF empty =>
          obtain ⟨closed, noPipe⟩ := sound.ended atEOF
          rw [noPipe, sound.written closed]
          rfl
    · rw [stops] at round
      cases round with
      | tooLong notEOF full unbroken =>
          obtain ⟨lines, received, -⟩ := sound.lines
          refine short lines state.scanner.data _ ?_ full unbroken
          rw [← received, ← List.append_assoc]
          exact sound.split
  have split := sound.split
  rw [List.append_assoc, rest, List.append_nil] at split
  exact split.symm

theorem stderr_step {before after : StderrState} {label : StderrLabel}
    (sound : StderrSound capacity stream before) (step : StderrStep capacity before label after) :
    StderrSound capacity stream after := by
  cases step with
  | @write chunk rest isOpen pending nonempty fits =>
      have notEnded : before.scanner.atEOF ≠ true := by
        intro atEOF
        rw [(sound.ended atEOF).1] at isOpen
        cases isOpen
      refine ⟨?_, ?_, ?_, fun atEOF => absurd atEOF notEnded, sound.short, sound.lines, sound.signed⟩
      · rw [sound.split, pending]
        simp
      · simpa using fits
      · intro closed
        rw [isOpen] at closed
        cases closed
  | close isOpen written =>
      exact ⟨sound.split, sound.capacity, fun _ => written,
        fun atEOF => ⟨rfl, (sound.ended atEOF).2⟩, sound.short, sound.lines, sound.signed⟩
  | @read later chunk rest running wants available nonempty fits =>
      have round := before.scanner.scan_round
      rw [wants] at round
      cases round with
      | read notEOF data same space =>
          obtain ⟨lines, received, ended | boundary⟩ := sound.lines
          · rw [notEOF] at ended
            cases ended
          have extended : before.received ++ chunk = lines ++ (later.receive chunk fits).data := by
            rw [received, List.append_assoc, ← data]
            rfl
          have few : (later.receive chunk fits).data.length ≤ maxScanTokenSize := by
            have room := (later.receive chunk fits).room
            have bounded := (later.receive chunk fits).bounded
            omega
          -- what was scanned ends in a newline, and the buffer does not hold more than the limit
          have shortLines : ShortLines maxScanTokenSize lines := by
            have short := sound.short
            rw [received] at short
            exact short.left
          refine ⟨?_, ?_, sound.written, ?_, ?_, ⟨lines, extended, Or.inr boundary⟩, ?_⟩
          · rw [sound.split, available]
            simp
          · have fitted := sound.capacity
            rw [available, List.length_append] at fitted
            exact Nat.le_of_add_left_le fitted
          · intro atEOF
            rw [show (later.receive chunk fits).atEOF = before.scanner.atEOF from same, notEOF] at atEOF
            cases atEOF
          · rw [extended]
            exact shortLines.append boundary few
          · intro signalled
            rw [running] at signalled
            cases signalled
  | @eof later running wants empty isClosed =>
      have round := before.scanner.scan_round
      rw [wants] at round
      cases round with
      | read notEOF data same space =>
          obtain ⟨lines, received, -⟩ := sound.lines
          refine ⟨sound.split, sound.capacity, sound.written, fun _ => ⟨isClosed, empty⟩, sound.short,
            ⟨lines, ?_, Or.inl rfl⟩, sound.signed⟩
          rw [received, ← data]
          rfl
  | @warn line later running yields =>
      have round := before.scanner.scan_round
      rw [yields] at round
      cases round with
      | @token _ piece _ split nonempty same ends =>
          obtain ⟨lines, received, -⟩ := sound.lines
          refine ⟨sound.split, sound.capacity, sound.written,
            fun atEOF => sound.ended (same ▸ atEOF), sound.short, ⟨lines ++ piece, ?_, ?_⟩,
            sound.signed⟩
          · rw [received, split, List.append_assoc]
          · rcases ends with last | atEOF
            · refine Or.inr (Or.inr ?_)
              rw [List.getLast?_append_of_ne_nil _ nonempty]
              exact last
            · exact Or.inl (same ▸ atEOF)
  | done running stops =>
      exact ⟨sound.split, sound.capacity, sound.written, sound.ended, sound.short, sound.lines,
        fun _ short => sound.stops stops short⟩

theorem stderr_sound {state : StderrState} (reached : StderrReach capacity stream state) :
    StderrSound capacity stream state :=
  reached.invariant stderr_start fun _ _ _ sound _ step => stderr_step sound step

/-! Every run ends. -/

def StderrState.todo (state : StderrState) : Nat :=
  4 * state.toWrite.length + 3 * state.pipe.length + 2 * state.scanner.data.length +
    (if state.closed then 0 else 1) + (if state.scanner.atEOF then 0 else 1) +
      (if state.signalled then 0 else 1)

theorem stderr_todo {before after : StderrState} {label : StderrLabel}
    (step : StderrStep capacity before label after) :
    after.todo < before.todo := by
  cases step with
  | @write chunk rest isOpen pending nonempty fits =>
      have positive := List.length_pos_iff.mpr nonempty
      simp only [StderrState.todo, pending, List.length_append]
      omega
  | close isOpen written =>
      simp only [StderrState.todo, isOpen, ↓reduceIte, Bool.false_eq_true]
      omega
  | @read later chunk rest running wants available nonempty fits =>
      have positive := List.length_pos_iff.mpr nonempty
      have round := before.scanner.scan_round
      rw [wants] at round
      cases round with
      | read notEOF data same space =>
          simp only [StderrState.todo, available, Scanner.receive, data, same, List.length_append]
          omega
  | @eof later running wants empty isClosed =>
      have round := before.scanner.scan_round
      rw [wants] at round
      cases round with
      | read notEOF data same space =>
          simp only [StderrState.todo, Scanner.ended, data, notEOF, ↓reduceIte, Bool.false_eq_true]
          omega
  | @warn line later running yields =>
      have round := before.scanner.scan_round
      rw [yields] at round
      cases round with
      | @token _ piece _ split nonempty same ends =>
          have positive := List.length_pos_iff.mpr nonempty
          simp only [StderrState.todo, split, same, List.length_append]
          omega
  | done running stops =>
      simp only [StderrState.todo, running, ↓reduceIte, Bool.false_eq_true]
      omega

theorem stderr_terminates (capacity : Nat) (start : StderrState) :
    Terminates (StderrStep capacity) anyStep start := by
  have always : (fun _ : StderrState => True) start := trivial
  exact terminates_of_measure StderrState.todo (fun _ _ _ _ _ _ => trivial)
    (fun _ _ _ _ _ step => stderr_todo step) always

theorem stuck_signalled {state : StderrState} (positive : 0 < capacity)
    (stuck : ∀ label later, ¬ StderrStep capacity state label later) : state.signalled = true := by
  by_contra notSignalled
  have running : state.signalled = false := by simpa using notSignalled
  have round := state.scanner.scan_round
  cases found : state.scanner.scan with
  | token line later => exact stuck _ _ (.warn running found)
  | finished => exact stuck _ _ (.done running (Or.inl found))
  | tooLong => exact stuck _ _ (.done running (Or.inr found))
  | read later =>
      rw [found] at round
      cases round with
      | read notEOF data same space =>
          cases content : state.pipe with
          | cons byte rest =>
              have fits : [byte].length ≤ later.free := space
              exact stuck _ _ (.read running found content (by simp) fits)
          | nil =>
              cases closed : state.closed with
              | true => exact stuck _ _ (.eof running found content closed)
              | false =>
                  cases pending : state.toWrite with
                  | nil => exact stuck _ _ (.close closed pending)
                  | cons byte rest =>
                      refine stuck (.write [byte]) _ (.write closed pending (by simp) ?_)
                      rw [content]
                      exact positive

theorem Drained.shortLines (positive : 0 < capacity) (drained : Drained capacity stream) :
    ShortLines maxScanTokenSize stream := by
  obtain ⟨state, reached, final⟩ := drained.terminates.stuck
  have signalled := stuck_signalled positive fun label later => final label later trivial
  rw [← drained.read state reached signalled]
  exact (stderr_sound reached).short

theorem shortLines_drained (positive : 0 < capacity) (short : ShortLines maxScanTokenSize stream) :
    Drained capacity stream := by
  refine ⟨fun state reached signalled => (stderr_sound reached).signed signalled short, ?_,
    stderr_terminates _ _⟩
  intro state reached stuck
  have sound := stderr_sound reached
  have signalled := stuck_signalled positive stuck
  refine ⟨?_, signalled⟩
  by_contra notClosed
  have isOpen : state.closed = false := by simpa using notClosed
  have split := sound.split
  rw [sound.signed signalled short, List.append_assoc, List.self_eq_append_right] at split
  exact stuck _ _ (.close isOpen (List.append_eq_nil_iff.mp split).2)

end

theorem stderr_drained_iff {capacity : Nat} (positive : 0 < capacity) (stream : List UInt8) :
    Drained capacity stream ↔ ShortLines maxScanTokenSize stream :=
  ⟨Drained.shortLines positive, shortLines_drained positive⟩

theorem ordinary_output_drained : Drained 4096 [119, 97, 114, 110, 10, 104, 105] :=
  (stderr_drained_iff (by decide) _).mpr (shortLines_of_length (by decide))

theorem unbroken_line_blocks {capacity : Nat} (positive : 0 < capacity) {stream : List UInt8}
    (unbroken : newline ∉ stream) (long : maxScanTokenSize + capacity < stream.length) :
    ∃ state, StderrReach capacity stream state ∧ state.signalled = true ∧ state.toWrite ≠ [] ∧
      ∀ label later, ¬ StderrStep capacity state label later := by
  -- A line that fills the scanner and then the pipe: the scanner gives up, the goroutine signals,
  -- and the process waits for space in the pipe.
  obtain ⟨state, reached, final⟩ := (stderr_terminates capacity (.start stream)).stuck
  have stuck : ∀ label later, ¬ StderrStep capacity state label later :=
    fun label later => final label later trivial
  have sound := stderr_sound reached
  refine ⟨state, reached, stuck_signalled positive stuck, ?_, stuck⟩
  have receivedUnbroken : newline ∉ state.received := by
    intro member
    rw [sound.split] at unbroken
    exact unbroken (by simp [member])
  have few := sound.short.length_le receivedUnbroken
  have total := congrArg List.length sound.split
  have fits := sound.capacity
  simp only [List.length_append] at total
  intro written
  rw [written, List.length_nil] at total
  omega

theorem long_line_undrained :
    ¬ Drained 65536 (List.replicate (maxScanTokenSize + 65537) 97) ∧
    ∃ state, StderrReach 65536 (List.replicate (maxScanTokenSize + 65537) 97) state ∧
      state.signalled = true ∧
      state.toWrite ≠ [] ∧ ∀ label later, ¬ StderrStep 65536 state label later := by
  have blocked := unbroken_line_blocks (show 0 < 65536 by decide)
    (show newline ∉ List.replicate (maxScanTokenSize + 65537) 97 from fun member => by
      cases List.eq_of_mem_replicate member)
    (by rw [List.length_replicate]; omega)
  refine ⟨?_, blocked⟩
  obtain ⟨state, reached, signalled, pending, stuck⟩ := blocked
  intro drained
  have closed := (drained.unblocked state reached stuck).1
  exact pending ((stderr_sound reached).written closed)

end SyncthingSocket
