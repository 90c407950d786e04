import SyncthingSocket.Pipe
import SyncthingSocket.PeerVerification
import SyncthingSocket.Admission
import SyncthingSocket.Luks.Fetch

/-!
What becomes of a payload whose connection breaks: the receiving process in either
role, in plain pipe mode, and the `fetchPassphrase` that waits for it.
-/

namespace SyncthingSocket

open Effect Effect.Program Framing

/-- The main goroutine of `runServer` in its netcat mode, from its `select` on. -/
def runServer (platform : Platform) (opts : ServerOptions) (mode : ServerMode) :
    Goroutine (Option Err) := do
  match ← perform .awaitConnection with
  | .error err => return some err
  | .ok isRelay =>
      handleServerConn platform { opts with isRelay := isRelay } mode
      return none

inductive Receiver
  | client (opts : ClientOptions)
  | server (opts : ServerOptions)

def Receiver.role : Receiver → Text
  | client _ => text "client"
  | server _ => text "server"

def Receiver.process (platform : Platform) : Receiver → Goroutine (Option Err)
  | client opts => runClient platform { opts with socks := "", shell := false, reverseForward := "" }
  | server opts => runServer platform opts ⟨false, false, "", ""⟩

def printed : Sigma Answer → Bytes
  | ⟨.handle .pipe _, report⟩ => report.output
  | _ => []

def stdout (log : Log) : Bytes := log.flatMap printed

/-- `Execute` exits with status 1 exactly when the command returned an error. -/
def childExit (log : Log) (result : Option Err) (errBuf : String) (deadlineExceeded : Bool) :
    ChildExit where
  out := stdout log
  errBuf := errBuf
  err := if result = none then none else some (.text "exit status 1")
  deadlineExceeded := deadlineExceeded

/-! One call of the pipe's handler, in either role. -/

theorem printed_other {event : Sigma Answer} (other : isHandle event.1 = false) :
    printed event = [] := by
  obtain ⟨op, answer⟩ := event
  cases op with
  | handle app conn => simp [isHandle] at other
  | _ => rfl

variable {data delivered : Bytes} {log : Log} {er : Option Err} {output : Output} {pipe : Pipe}
  {receiver : Receiver} {stop : Err}

theorem stdout_noHandle (unhandled : NoHandle log) : stdout log = [] := by
  rw [stdout, List.flatMap_eq_nil_iff]
  intro event member
  exact printed_other (unhandled event member)

theorem HandledOnce.stdout {conn : Conn} {report : PipeReport} (once : HandledOnce log)
    (handled : (⟨.handle .pipe conn, report⟩ : Sigma Answer) ∈ log) :
    stdout log = report.output := by
  obtain ⟨before, event, after, rfl, early, _, late⟩ := once
  have same : (⟨.handle .pipe conn, report⟩ : Sigma Answer) = event := by
    rcases List.mem_append.mp handled with member | member
    · exact absurd (early _ member) (by simp [isHandle])
    rcases List.mem_cons.mp member with same | member
    · exact same
    · exact absurd (late _ member) (by simp [isHandle])
  have first := stdout_noHandle early
  have last := stdout_noHandle late
  simp only [SyncthingSocket.stdout, List.flatMap_append, List.flatMap_cons] at first last ⊢
  rw [first, last, ← same]
  simp [printed]

theorem unhandled_meets {α : Type} {program : Goroutine α} (unhandled : NoHandle log)
    (quiet : Meets (Contract.always fun _ op => isHandle op = false) (fun _ _ => True) program []) :
    Meets Unrestricted (fun _ later => NoHandle later) program log := by
  apply meets_of_runs
  · intro inner op next _
    trivial
  · intro inner value run event member
    rcases List.mem_append.mp member with member | member
    · exact unhandled event member
    · exact (quiet.confined run).1 event member

theorem performServerAuth_unhandled (platform : Platform) (conn : Conn) (totpSecret : String) :
    Meets (Contract.always fun _ op => isHandle op = false) (fun _ _ => True)
      (performServerAuth platform conn totpSecret) [] := by
  apply meets_of_runs
  · intro log op next run
    rcases (performServerAuth_meets platform _ _).asks run with ⟨⟨size, _, rfl⟩, _⟩ | ⟨⟨data, rfl⟩, _⟩
    · rfl
    · rfl
  · simp

theorem negotiateWebRTCServer_unhandled (platform : Platform) (link : Link) :
    Meets (Contract.always fun _ op => isHandle op = false) (fun _ _ => True)
      (negotiateWebRTCServer platform (.tls link)) [] := by
  apply meets_of_runs
  · intro log op next run
    have asks := (negotiateWebRTCServer_meets platform (.tls link)).asks run
    exact asks.1.talk.1.1
  · simp

theorem NoHandle.snoc {event : Sigma Answer} (unhandled : NoHandle log)
    (other : isHandle event.1 = false) : NoHandle (log ++ [event]) := by
  intro found member
  rcases List.mem_append.mp member with member | member
  · exact unhandled found member
  · rw [List.mem_singleton.mp member]
    exact other

def HandledAtMostOnce (log : Log) : Prop := NoHandle log ∨ HandledOnce log

theorem admission_meets (platform : Platform) (opts : ServerOptions) (unhandled : NoHandle log) :
    Meets Unrestricted (fun _ later => NoHandle later) (admission platform opts) log := by
  simp only [admission, perform_bind]
  refine ⟨trivial, fun outcome _ => ?_⟩
  have greeted : NoHandle (log ++ [⟨.handshake .incoming, outcome⟩]) := unhandled.snoc rfl
  cases outcome with
  | error err => exact greeted
  | ok certs =>
      simp only
      split
      · exact ⟨trivial, fun _ _ => greeted.snoc rfl⟩
      · apply Meets.bind
        apply (unhandled_meets greeted (performServerAuth_unhandled platform _ _)).mono
        intro failure later still
        cases failure with
        | some err => exact ⟨trivial, fun _ _ => still.snoc rfl⟩
        | none => exact still

theorem serverDataConn_meets (platform : Platform) (isRelay : Bool) (unhandled : NoHandle log) :
    Meets Unrestricted (fun _ later => NoHandle later) (serverDataConn platform isRelay) log := by
  cases isRelay with
  | false => exact unhandled
  | true =>
      simp only [serverDataConn, ↓reduceIte]
      apply Meets.bind
      apply (unhandled_meets unhandled (negotiateWebRTCServer_unhandled platform .incoming)).mono
      rintro ⟨fallback, err⟩ later still
      simp only
      split
      · exact still
      · exact ⟨trivial, fun _ _ => still.snoc rfl⟩

theorem handleServerConn_handles (platform : Platform) (opts : ServerOptions)
    (unhandled : NoHandle log) :
    Meets Unrestricted (fun _ later => HandledAtMostOnce later)
      (handleServerConn platform opts ⟨false, false, "", ""⟩) log := by
  simp only [handleServerConn, admitConn, deferClose]
  apply Meets.bind
  apply Meets.bind
  apply (admission_meets platform opts unhandled).mono
  intro passed checked still
  cases passed with
  | none => exact ⟨trivial, fun _ _ => Or.inl (still.snoc rfl)⟩
  | some certs =>
      apply Meets.bind
      apply (serverDataConn_meets platform opts.isRelay still).mono
      intro finalConn joined unused
      refine ⟨trivial, fun report _ => ⟨trivial, fun _ _ => ⟨trivial, fun _ _ => Or.inr ?_⟩⟩⟩
      refine ⟨joined, ⟨.handle .pipe finalConn, report⟩,
        [⟨.close finalConn, ()⟩, ⟨.close (.raw .incoming), ()⟩], by simp, unused, rfl, ?_⟩
      simp [NoHandle, isHandle]

theorem Receiver.exits {platform : Platform} {result : Option Err}
    {conn : Conn} {report : PipeReport} (run : Runs (receiver.process platform) log (.done result))
    (handled : (⟨.handle .pipe conn, report⟩ : Sigma Answer) ∈ log) :
    result = none ∧ stdout log = report.output := by
  cases receiver with
  | client opts =>
      obtain ⟨before, after, rfl⟩ := List.append_of_mem handled
      obtain ⟨next, asked⟩ := run.asked
      obtain ⟨serverID, identity⟩ := runClient_identity asked
      obtain ⟨succeeds, fails⟩ := (runClient_meets identity).finishes run
      have none : result = none := by
        by_contra failed
        exact absurd (fails failed _ handled) (by simp [isHandle])
      exact ⟨none, (succeeds none).stdout handled⟩
  | server opts =>
      have meets : Meets Unrestricted
          (fun result log => NoHandle log ∨ result = none ∧ HandledOnce log)
          (runServer platform opts ⟨false, false, "", ""⟩) [] := by
        simp only [runServer, perform_bind]
        refine ⟨trivial, fun outcome _ => ?_⟩
        have waiting : NoHandle [⟨.awaitConnection, outcome⟩] := by simp [NoHandle, isHandle]
        cases outcome with
        | error err => exact Or.inl waiting
        | ok isRelay =>
            apply Meets.bind
            apply (handleServerConn_handles platform _ waiting).mono
            intro _ later once
            exact once.imp_right fun once => ⟨rfl, once⟩
      rcases meets.finishes run with unhandled | ⟨none, once⟩
      · exact absurd (unhandled _ handled) (by simp [isHandle])
      · exact ⟨none, once.stdout handled⟩

/-! A connection that ends after part of the payload, and an output that may fill up. -/

/-- The file behind stdout takes `room` bytes in all; the write that goes beyond them fails. -/
structure Output where
  room : Nat
  failure : Err
  broken : failure ≠ .eof

def Output.keeps (output : Output) (offered : Bytes) : Bytes := offered.take output.room

def Output.Answers (output : Output) (copier : Copier) (nw : Int) (ew : Option Err) : Prop :=
  ∀ data er, copier.phase = .writing data er →
    if copier.given.length + data.length ≤ output.room then nw = data.length ∧ ew = none
    else nw = (output.room - copier.given.length : Nat) ∧ ew = some output.failure

/-- The connection delivers `delivered` and then stops with `stop`; nothing is assumed
of stdin. -/
def Cut (delivered : Bytes) (stop : Err) (output : Output) (pipe : Pipe) : PipeEvent → Prop
  | .receive (.read data er) => Supplied delivered stop True pipe.receive (.read data er)
  | .receive (.write nw ew) => output.Answers pipe.receive nw ew
  | _ => True

/-- The error that the copy ends with: that of the output where it filled up, or else the
connection's unless this was its clean end. -/
def copyError (delivered : Bytes) (stop : Err) (output : Output) : Option Err :=
  if output.room < delivered.length then some output.failure
  else if stop ≠ .eof then some stop else none

structure Filling (delivered : Bytes) (stop : Err) (output : Output) (copier : Copier) : Prop where
  within : copier.taken <+: delivered
  filled : match copier.phase with
    | .reading => copier.given = copier.taken ∧ copier.taken.length ≤ output.room
    | .writing data er => copier.given ++ data = copier.taken ∧ copier.given.length ≤ output.room ∧
        (er = none ∨ er = some stop ∧ copier.taken = delivered)
    | .returned err => copier.given = output.keeps delivered ∧ err = copyError delivered stop output

section

variable {delivered : Bytes} {stop : Err} {output : Output} {copier : Copier}

theorem Filling.proceed (within : copier.taken <+: delivered)
    (whole : copier.given = copier.taken) (fits : copier.taken.length ≤ output.room)
    (fine : er = none ∨ er = some stop ∧ copier.taken = delivered) :
    Filling delivered stop output (copier.proceed er) := by
  rcases fine with rfl | ⟨rfl, all⟩
  · exact ⟨within, whole, fits⟩
  · have roomy : ¬ output.room < delivered.length := by
      rw [← all]
      omega
    refine ⟨within, ?_, ?_⟩
    · change copier.given = delivered.take output.room
      rw [whole, all, List.take_of_length_le (Nat.le_of_not_lt roomy)]
    · rw [copyError, if_neg roomy]

theorem Filling.read (filling : Filling delivered stop output copier)
    (reading : copier.phase = .reading)
    (supplied : Supplied delivered stop True copier (.read data er)) :
    Filling delivered stop output (copier.afterRead data er) := by
  obtain ⟨within, filled⟩ := filling
  simp only [reading] at filled
  obtain ⟨more, ends⟩ := supplied
  have fine : er = none ∨ er = some stop ∧ copier.taken ++ data = delivered :=
    ends.imp_right fun stopped => ⟨stopped.1, stopped.2.1⟩
  rw [Copier.afterRead]
  split
  · exact ⟨more, by rw [filled.1], by rw [filled.1]; exact filled.2, fine⟩
  · next empty =>
      have nothing : data = [] := List.length_eq_zero_iff.mp (by omega)
      rw [nothing, List.append_nil] at fine
      exact Filling.proceed within filled.1 filled.2 fine

theorem Filling.overflow
    (filling : Filling delivered stop output copier) (writing : copier.phase = .writing data er)
    (full : output.room < copier.given.length + data.length) :
    Filling delivered stop output (copier.afterWrite data er
      (output.room - copier.given.length : Nat) (some output.failure)) := by
  obtain ⟨within, filled⟩ := filling
  simp only [writing] at filled
  obtain ⟨balance, room, _⟩ := filled
  have counted : Copier.counted data (output.room - copier.given.length : Nat) =
      output.room - copier.given.length := by
    rw [Copier.counted, if_neg (by omega), Int.toNat_natCast]
  have longer : output.room < delivered.length := by
    have bound := within.length_le
    rw [← balance, List.length_append] at bound
    omega
  refine ⟨by simpa [Copier.afterWrite, Copier.writeError] using within, ?_⟩
  simp only [Copier.afterWrite, Copier.writeError, counted, reduceCtorEq, and_false, if_false]
  refine ⟨?_, by rw [copyError, if_pos longer]⟩
  obtain ⟨rest, rfl⟩ := within
  rw [Output.keeps, ← balance, List.append_assoc, List.take_append, List.take_of_length_le room,
    List.take_append_of_le_length (by omega)]

theorem Filling.write {ew : Option Err} {nw : Int}
    (filling : Filling delivered stop output copier) (writing : copier.phase = .writing data er)
    (answers : output.Answers copier nw ew) :
    Filling delivered stop output (copier.afterWrite data er nw ew) := by
  have answered := answers data er writing
  split at answered
  · next fits =>
      obtain ⟨rfl, rfl⟩ := answered
      obtain ⟨within, filled⟩ := filling
      simp only [writing] at filled
      obtain ⟨balance, _, fine⟩ := filled
      rw [Copier.afterWrite_whole]
      refine Filling.proceed within balance ?_ fine
      rw [← balance, List.length_append]
      exact fits
  · next full =>
      obtain ⟨rfl, rfl⟩ := answered
      exact filling.overflow writing (Nat.lt_of_not_le full)

end

structure Pipe.CutOff (delivered : Bytes) (stop : Err) (output : Output) (pipe : Pipe) : Prop where
  orderly : pipe.Orderly
  filling : Filling delivered stop output pipe.receive

theorem Pipe.CutOff.step {terminal : Bool}
    {after : Pipe} {event : PipeEvent} (cutOff : pipe.CutOff delivered stop output)
    (cut : Cut delivered stop output pipe event) (step : PipeStep terminal pipe event after) :
    after.CutOff delivered stop output := by
  have orderly := cutOff.orderly.step step
  have filling := cutOff.filling
  cases step with
  | send _ => exact ⟨orderly, filling⟩
  | closeWrite _ _ _ _ => exact ⟨orderly, filling⟩
  | stdinDone _ _ _ => exact ⟨orderly, filling⟩
  | receive copies =>
      cases copies with
      | read reading _ => exact ⟨orderly, filling.read reading cut⟩
      | write writing => exact ⟨orderly, filling.write writing cut⟩
  | returns _ _ _ => exact ⟨orderly, filling⟩

theorem cutOff_of_reach {terminal : Bool}
    (reached : Reach (PipeStep terminal) (Cut delivered stop output) {} pipe) :
    pipe.CutOff delivered stop output :=
  reached.invariant ⟨Pipe.orderly_start, List.nil_prefix, rfl, Nat.zero_le _⟩
    fun _ _ _ cutOff cut step => cutOff.step cut step

theorem isFailure_copyError (delivered : Bytes) (stop : Err) (output : Output) :
    (if isFailure (copyError delivered stop output) then copyError delivered stop output else none) =
      copyError delivered stop output := by
  rw [copyError]
  split
  · simp [isFailure, output.broken]
  · by_cases clean : stop = .eof
    · simp [clean, isFailure]
    · simp [clean, isFailure]

theorem Pipe.CutOff.report
    (cutOff : pipe.CutOff delivered stop output) (returned : pipe.returned = true) :
    pipe.report.output = output.keeps delivered ∧
      pipe.report.receiveErr = copyError delivered stop output := by
  obtain ⟨orderly, _, filled⟩ := cutOff
  obtain ⟨result, phase⟩ := orderly.received returned
  simp only [phase] at filled
  obtain ⟨kept, ended⟩ := filled
  refine ⟨kept, ?_⟩
  simp only [Pipe.report, phase, ended]
  exact isFailure_copyError delivered stop output

/-- A receiving process that has ended, and the pipe it ran from a connection that
delivered `delivered` and then stopped with `stop` to this output. -/
structure Received (platform : Platform) (receiver : Receiver) (delivered : Bytes) (stop : Err)
    (output : Output) where
  log : Log
  result : Option Err
  run : Runs (receiver.process platform) log (.done result)
  terminal : Bool
  conn : Conn
  pipe : Pipe
  handled : (⟨.handle .pipe conn, pipe.report⟩ : Sigma Answer) ∈ log
  piped : Reach (PipeStep terminal) (Cut delivered stop output) {} pipe
  returned : pipe.returned = true

/-- What `fetchPassphrase` makes of the process; it may be told anything on stderr. -/
def Received.fetched {platform : Platform} {receiver : Receiver} {delivered : Bytes} {stop : Err}
    {output : Output} (process : Received platform receiver delivered stop output)
    (quote : Text → String) (self errBuf : String) (deadlineExceeded : Bool) (cfg : LuksConfig) :
    Except Err Bytes :=
  fetchPassphrase quote (.ok self)
    (fun _ _ => childExit process.log process.result errBuf deadlineExceeded) cfg

theorem fetchArgs_known (quote : Text → String) {cfg : LuksConfig}
    (role : cfg.role = receiver.role) : ∃ args, fetchArgs quote cfg = .ok args := by
  rw [fetchArgs, role]
  cases receiver with
  | client opts => exact ⟨_, by simp [Receiver.role]; rfl⟩
  | server opts => exact ⟨_, by simp [Receiver.role]; rfl⟩

theorem Received.fetched_eq {platform : Platform}
    (process : Received platform receiver delivered stop output)
    (quote : Text → String) (self errBuf : String) (deadlineExceeded : Bool) {cfg : LuksConfig}
    (role : cfg.role = receiver.role) :
    process.result = none ∧
      process.fetched quote self errBuf deadlineExceeded cfg = .ok (output.keeps delivered) := by
  obtain ⟨succeeded, printed⟩ := Receiver.exits process.run process.handled
  obtain ⟨args, known⟩ := fetchArgs_known quote role
  have received := ((cutOff_of_reach process.piped).report process.returned).1
  refine ⟨succeeded, ?_⟩
  simp only [fetched, fetchPassphrase, known, childExit, succeeded, printed, received]
  rfl

theorem copyError_eq_none :
    copyError delivered stop output = none ↔ stop = .eof ∧ delivered.length ≤ output.room := by
  rw [copyError]
  by_cases full : output.room < delivered.length
  · simp [full]
  · by_cases clean : stop = .eof
    · simp [full, clean, Nat.le_of_not_lt full]
    · simp [full, clean]

/-- A payload whose connection stopped after `delivered`. The process exits successfully
in any case; so what `fetchPassphrase` returns is the payload only if the output kept all
of it or nothing, and the error of the copy is lost unless there was none. -/
theorem receiver_untruncated_iff_clean (platform : Platform) (receiver : Receiver) (payload : Bytes)
    {delivered : Bytes} {stop : Err} {output : Output}
    (process : Received platform receiver delivered stop output) (quote : Text → String)
    (self errBuf : String) (deadlineExceeded : Bool) {cfg : LuksConfig}
    (role : cfg.role = receiver.role) :
    ((∀ s, process.fetched quote self errBuf deadlineExceeded cfg = .ok s → s ≠ [] → s = payload) ↔
      output.keeps delivered = payload ∨ output.keeps delivered = []) ∧
    ((process.result = none → process.pipe.report.receiveErr = none) ↔
      stop = .eof ∧ delivered.length ≤ output.room) := by
  obtain ⟨succeeded, fetched⟩ := process.fetched_eq quote self errBuf deadlineExceeded role
  have reported := ((cutOff_of_reach process.piped).report process.returned).2
  constructor
  · rw [fetched]
    constructor
    · intro whole
      by_cases nothing : output.keeps delivered = []
      · exact Or.inr nothing
      · exact Or.inl (whole _ rfl nothing)
    · rintro outcome s same nonempty
      injection same with same
      rcases outcome with whole | nothing
      · exact same ▸ whole
      · exact absurd (same ▸ nothing) nonempty
  · rw [reported, copyError_eq_none]
    exact ⟨fun clean => clean succeeded, fun clean _ => clean⟩

/-! Every such delivery happens: a client that receives it over its relay, a byte at a time. -/

theorem piped_on {stop : Err} (rest : Bytes)
    (reached : Reach (PipeStep false) (Cut delivered stop output) {} pipe)
    (reading : pipe.receive.phase = .reading) (left : pipe.receive.taken ++ rest = delivered)
    (running : pipe.returned = false) :
    ∃ final : Pipe, Reach (PipeStep false) (Cut delivered stop output) {} final ∧
      final.returned = true := by
  induction rest generalizing pipe with
  | nil =>
      have all : pipe.receive.taken = delivered := by simpa using left
      have stopped := reached.take (.receive (.read [] (some stop)))
        ⟨by simp [all], Or.inr ⟨rfl, by simp [all], trivial⟩⟩ (.receive (.read reading (by simp)))
      exact ⟨_, stopped.take (.returns .flushGrace) trivial (.returns rfl rfl running), rfl⟩
  | cons byte rest ih =>
      have got := reached.take (.receive (.read [byte] none)) ⟨⟨rest, by simp [left]⟩, Or.inl rfl⟩
        (.receive (.read reading (by simp [copyBuffer])))
      by_cases fits : pipe.receive.given.length + 1 ≤ output.room
      · have answers :
            output.Answers (pipe.receive.afterRead [byte] none) ([byte] : Bytes).length none := by
          rintro data er ⟨⟩
          simp [Copier.afterRead, fits]
        have put := got.take (.receive (.write ([byte] : Bytes).length none)) answers
          (.receive (.write rfl))
        refine ih put ?_ ?_ running
        · rw [Copier.afterWrite_whole]
          rfl
        · rw [Copier.afterWrite_whole]
          simpa [Copier.proceed, Copier.afterRead] using left
      · have answers : output.Answers (pipe.receive.afterRead [byte] none)
            (output.room - pipe.receive.given.length : Nat) (some output.failure) := by
          rintro data er ⟨⟩
          simp [Copier.afterRead, fits]
        have failed := got.take (.receive (.write _ _)) answers (.receive (.write rfl))
        have ended : ((pipe.receive.afterRead [byte] none).afterWrite [byte] none
            (output.room - pipe.receive.given.length : Nat) (some output.failure)).phase =
            .returned (some output.failure) := by
          simp [Copier.afterWrite, Copier.writeError]
        exact ⟨_, failed.take (.returns .flushGrace) trivial (.returns ended rfl running), rfl⟩

theorem received_over_relay (delivered : Bytes) (stop : Err) (output : Output) :
    Nonempty (Received referencePlatform (.client relayOnly) delivered stop output) := by
  have start : Reach (PipeStep false) (Cut delivered stop output) {} {} := .here
  obtain ⟨pipe, piped, returned⟩ := piped_on delivered start rfl rfl rfl
  have identity : referencePlatform.deviceIDFromString relayOnly.serverID =
      .ok (referencePlatform.newDeviceID (Json.utf8 ['A'])) := rfl
  have reached := (runClient_meets_server identity (by decide)).trans
    ((performClientAuth_open referencePlatform (.tls .relay) "").bind _)
  have finished := reached.trans (Runs.step pipe.report (Runs.step () (Runs.step () (Runs.start _))))
  exact ⟨{
    log := _
    result := none
    run := finished
    terminal := false
    conn := .tls .relay
    pipe := pipe
    handled := by simp
    piped := piped
    returned := returned }⟩

def clientConfig : LuksConfig := ⟨[], text "seed", [], text "client"⟩

theorem full_ne_eof : Err.text "no space left on device" ≠ .eof := by decide

def device (room : Nat) : Output := ⟨room, .text "no space left on device", full_ne_eof⟩

theorem whole_payload_fetched :
    ∃ process : Received referencePlatform (.client relayOnly) [1, 2] .eof (device 2),
      (∀ s, process.fetched (fun _ => "") "self" "" false clientConfig = .ok s → s ≠ [] → s = [1, 2]) ∧
        process.pipe.report.receiveErr = none := by
  obtain ⟨process⟩ := received_over_relay [1, 2] .eof (device 2)
  have role : clientConfig.role = (Receiver.client relayOnly).role := rfl
  have settled := receiver_untruncated_iff_clean referencePlatform (.client relayOnly) [1, 2] process
    (fun _ => "") "self" "" false role
  have succeeded := (process.fetched_eq (fun _ => "") "self" "" false role).1
  exact ⟨process, settled.1.mpr (Or.inl rfl), settled.2.mpr ⟨rfl, Nat.le_refl 2⟩ succeeded⟩

theorem truncated_passphrase_fetched :
    (∃ process : Received referencePlatform (.client relayOnly) [1]
        (.text "connection reset by peer") (device 2),
      process.result = none ∧
      process.pipe.report.receiveErr = some (.text "connection reset by peer") ∧
      process.fetched (fun _ => "") "self" "" false clientConfig = .ok [1] ∧
      ¬ (∀ s, process.fetched (fun _ => "") "self" "" false clientConfig = .ok s → s ≠ [] →
        s = [1, 2])) ∧
    ∃ process : Received referencePlatform (.client relayOnly) [1, 2] .eof (device 1),
      process.result = none ∧
      process.pipe.report.receiveErr = some (.text "no space left on device") ∧
      process.fetched (fun _ => "") "self" "" false clientConfig = .ok [1] := by
  have role : clientConfig.role = (Receiver.client relayOnly).role := rfl
  constructor
  · obtain ⟨process⟩ := received_over_relay [1] (.text "connection reset by peer") (device 2)
    obtain ⟨succeeded, fetched⟩ := process.fetched_eq (fun _ => "") "self" "" false role
    have reported := ((cutOff_of_reach process.piped).report process.returned).2
    refine ⟨process, succeeded, reported, fetched, ?_⟩
    intro whole
    exact absurd (whole [1] fetched (by simp)) (by simp)
  · obtain ⟨process⟩ := received_over_relay [1, 2] .eof (device 1)
    obtain ⟨succeeded, fetched⟩ := process.fetched_eq (fun _ => "") "self" "" false role
    have reported := ((cutOff_of_reach process.piped).report process.returned).2
    exact ⟨process, succeeded, reported, fetched⟩

end SyncthingSocket
