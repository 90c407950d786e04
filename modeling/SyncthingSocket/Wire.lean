import SyncthingSocket.Platform

/-!
The length-prefixed messages of `auth.go` and `webrtc.go`, written with two calls of `Write` and
read with two of `io.ReadFull`; the files differ in the text of the size error and in the struct
that is decoded.
-/

namespace SyncthingSocket

open Effect Effect.Program Framing

def maxMessage : Nat := 10 * 1024 * 1024

/-- `io.ReadFull`: `need` more bytes after the ones already in the buffer. Every
read returns at least one byte, so the first argument bounds the iterations. -/
def readFullFrom (conn : Conn) : Nat → Nat → Bytes → Goroutine (Except Err Bytes)
  | 0, _, got => .done (.ok got)
  | fuel + 1, need, got =>
      if need = 0 then .done (.ok got)
      else .ask (.read conn need) fun
        | .error err => .done (.error (if err = .eof ∧ got ≠ [] then .unexpectedEOF else err))
        | .ok chunk => readFullFrom conn fuel (need - chunk.val.length) (got ++ chunk.val)

def readFull (conn : Conn) (size : Nat) : Goroutine (Except Err Bytes) :=
  readFullFrom conn size size []

def sendFramed (conn : Conn) (body : Bytes) : Goroutine (Option Err) := do
  match ← perform (.write conn (putUint32 body.length)) with
  | some err => return some err
  | none => perform (.write conn body)

def readFramed {α : Type} (conn : Conn) (tooLarge : Nat → Err)
    (unmarshal : Bytes → Except Err α) : Goroutine (Except Err α) := do
  match ← readFull conn 4 with
  | .error err => return .error err
  | .ok header =>
      let l := uint32 header
      if l > maxMessage then return .error (tooLarge l)
      else
        match ← readFull conn l with
        | .error err => return .error err
        | .ok body => return unmarshal body

def sendAuthMessage (conn : Conn) (body : Bytes) : Goroutine (Option Err) :=
  sendFramed conn body

def readAuthMessage {α : Type} {marshal : α → Bytes} (decoder : Decoder marshal) (conn : Conn) :
    Goroutine (Except Err α) :=
  readFramed conn (fun l => .text ("auth message too large: " ++ toString l ++ " bytes"))
    decoder.unmarshal

def sendSignal (conn : Conn) (msg : SignalMessage) : Goroutine (Option Err) :=
  sendFramed conn msg.marshal

def readSignal (platform : Platform) (conn : Conn) : Goroutine (Except Err SignalMessage) :=
  readFramed conn (fun _ => .text "message too large") platform.signal.unmarshal

/-! The bytes a log moved over one connection. -/

def receivedBy (conn : Conn) : (op : Op) → Answer op → Bytes
  | .read source _, .ok chunk => if source = conn then chunk.val else []
  | _, _ => []

def sentBy (conn : Conn) : (op : Op) → Answer op → Bytes
  | .write destination data, none => if destination = conn then data else []
  | _, _ => []

def received (conn : Conn) (log : Log) : Bytes :=
  log.flatMap fun event => receivedBy conn event.1 event.2

def sent (conn : Conn) (log : Log) : Bytes :=
  log.flatMap fun event => sentBy conn event.1 event.2

@[simp] theorem received_nil (conn : Conn) : received conn [] = [] := rfl

@[simp] theorem received_append (conn : Conn) (first second : Log) :
    received conn (first ++ second) = received conn first ++ received conn second := by
  simp [received]

@[simp] theorem received_cons (conn : Conn) (event : Sigma Answer) (log : Log) :
    received conn (event :: log) = receivedBy conn event.1 event.2 ++ received conn log := by
  simp [received]

@[simp] theorem sent_nil (conn : Conn) : sent conn [] = [] := rfl

@[simp] theorem sent_append (conn : Conn) (first second : Log) :
    sent conn (first ++ second) = sent conn first ++ sent conn second := by
  simp [sent]

@[simp] theorem sent_cons (conn : Conn) (event : Sigma Answer) (log : Log) :
    sent conn (event :: log) = sentBy conn event.1 event.2 ++ sent conn log := by
  simp [sent]

def OnlyReads (conn : Conn) (log : Log) : Prop :=
  ∀ event ∈ log, ∃ size, event.1 = .read conn size

def IsRead (conn : Conn) (op : Op) : Prop := ∃ size, 0 < size ∧ op = .read conn size

def ReadFailed (conn : Conn) (log : Log) : Prop :=
  ∃ size err, (⟨.read conn size, .error err⟩ : Sigma Answer) ∈ log

variable {body : Bytes} {conn : Conn} {log : Log}

theorem OnlyReads.append {first second : Log} (early : OnlyReads conn first)
    (late : OnlyReads conn second) : OnlyReads conn (first ++ second) := by
  intro event member
  rcases List.mem_append.mp member with member | member
  · exact early event member
  · exact late event member

theorem OnlyReads.sent_eq {other : Conn} (reads : OnlyReads conn log) :
    sent other log = [] := by
  rw [sent, List.flatMap_eq_nil_iff]
  rintro ⟨op, answer⟩ member
  obtain ⟨size, same⟩ := reads _ member
  simp only at same
  subst same
  cases answer <;> rfl

def FullRead (conn : Conn) (need : Nat) (got : Bytes) (log : Log) :
    Goroutine (Except Err Bytes) → Prop
  | .ask op _ => op = .read conn (need - (received conn log).length) ∧
      (received conn log).length < need
  | .done (.ok data) => data = got ++ received conn log ∧ (received conn log).length = need
  | .done (.error _) => (received conn log).length < need ∧ ReadFailed conn log

theorem readFullFrom_runs {fuel need : Nat} {got : Bytes} {rest : Goroutine (Except Err Bytes)}
    (enough : need ≤ fuel) (run : Runs (readFullFrom conn fuel need got) log rest) :
    OnlyReads conn log ∧ FullRead conn need got log rest := by
  induction fuel generalizing need got log with
  | zero =>
      have exhausted : need = 0 := by omega
      subst exhausted
      simp only [readFullFrom, runs_done] at run
      obtain ⟨rfl, rfl⟩ := run
      exact ⟨by simp [OnlyReads], by simp [FullRead]⟩
  | succ fuel ih =>
      simp only [readFullFrom] at run
      by_cases complete : need = 0
      · simp only [complete, ↓reduceIte, runs_done] at run
        obtain ⟨rfl, rfl⟩ := run
        exact ⟨by simp [OnlyReads], by simp [FullRead, complete]⟩
      · simp only [complete, ↓reduceIte] at run
        cases run with
        | start _ => exact ⟨by simp [OnlyReads], by simp [FullRead]; omega⟩
        | step answer later =>
            cases answer with
            | error err =>
                simp only [runs_done] at later
                obtain ⟨rfl, rfl⟩ := later
                refine ⟨by simp [OnlyReads], by simp [receivedBy]; omega, need, err, by simp⟩
            | ok chunk =>
                -- a `Read` returns at least one byte and no more than asked, so the fuel stays enough
                obtain ⟨nonempty, bounded⟩ := chunk.property
                have inner := ih (by omega) later
                refine ⟨?_, ?_⟩
                · intro event member
                  rcases List.mem_cons.mp member with same | member
                  · exact ⟨need, by rw [same]⟩
                  · exact inner.1 event member
                · have outcome := inner.2
                  cases rest with
                  | ask op next =>
                      simp only [FullRead, received_cons, receivedBy, ↓reduceIte, List.length_append]
                      obtain ⟨opEq, short⟩ := outcome
                      refine ⟨?_, by omega⟩
                      rw [opEq]
                      congr 1
                      omega
                  | done value =>
                      cases value with
                      | error err' =>
                          obtain ⟨short, size, cause, failed⟩ := outcome
                          simp only [FullRead, received_cons, receivedBy, ↓reduceIte, List.length_append]
                          exact ⟨by omega, size, cause, by simp [failed]⟩
                      | ok data =>
                          simp only [FullRead, received_cons, receivedBy, ↓reduceIte, List.length_append]
                          obtain ⟨dataEq, whole⟩ := outcome
                          exact ⟨by simp [dataEq], by omega⟩

theorem readFull_runs {size : Nat} {rest : Goroutine (Except Err Bytes)}
    (run : Runs (readFull conn size) log rest) :
    OnlyReads conn log ∧ FullRead conn size [] log rest :=
  readFullFrom_runs (Nat.le_refl size) run

/-- What a message reader has received: part of one frame while it still asks, and
exactly one frame when it decodes. -/
def FramedRead {α : Type} (conn : Conn) (unmarshal : Bytes → Except Err α) (log : Log) :
    Goroutine (Except Err α) → Prop
  | .ask op _ => IsRead conn op ∧ Unfinished maxMessage (received conn log)
  | .done (.ok value) => ∃ body, Finished maxMessage (received conn log) body ∧
      unmarshal body = .ok value
  | .done (.error err) =>
      (∃ body, Finished maxMessage (received conn log) body ∧ unmarshal body = .error err) ∨
      ((received conn log).length = 4 ∧ maxMessage < uint32 (received conn log)) ∨
      (Unfinished maxMessage (received conn log) ∧ ReadFailed conn log)

theorem readFramed_runs {α : Type} {tooLarge : Nat → Err} {unmarshal : Bytes → Except Err α}
    {rest : Goroutine (Except Err α)} (run : Runs (readFramed conn tooLarge unmarshal) log rest) :
    OnlyReads conn log ∧ FramedRead conn unmarshal log rest := by
  rw [readFramed] at run
  -- the run stands in the header, in the body, or behind one of them that has failed
  rcases runs_bind run with ⟨op, next, header, restEq⟩ |
    ⟨first, second, outcome, logEq, header, later⟩
  · obtain ⟨reads, opEq, short⟩ := readFull_runs header
    subst restEq
    exact ⟨reads, ⟨_, Nat.sub_pos_of_lt short, opEq⟩, Or.inl short⟩
  · cases outcome with
    | error err =>
        obtain ⟨reads, short, failed⟩ := readFull_runs header
        simp only [pure_eq_done, runs_done] at later
        obtain ⟨rfl, rfl⟩ := later
        simp only [logEq, List.append_nil]
        exact ⟨reads, Or.inr (Or.inr ⟨Or.inl short, failed⟩)⟩
    | ok data =>
        obtain ⟨reads, dataEq, four⟩ := readFull_runs header
        simp only [dataEq, List.nil_append] at later
        by_cases oversized : uint32 (received conn first) > maxMessage
        · simp only [oversized, ↓reduceIte, pure_eq_done, runs_done] at later
          obtain ⟨rfl, rfl⟩ := later
          simp only [logEq, List.append_nil]
          exact ⟨reads, Or.inr (Or.inl ⟨four, oversized⟩)⟩
        · simp only [oversized, ↓reduceIte] at later
          -- the length is in the first four bytes, whatever is read after them
          have announced : ∀ tail : Log,
              uint32 (received conn (first ++ tail)) = uint32 (received conn first) := by
            intro tail
            rw [received_append, uint32_append four]
          rcases runs_bind later with ⟨op, next, body, restEq⟩ |
            ⟨third, fourth, outcome, secondEq, body, last⟩
          · obtain ⟨readsBody, opEq, short⟩ := readFull_runs body
            subst restEq
            refine ⟨logEq ▸ reads.append readsBody, ⟨_, Nat.sub_pos_of_lt short, opEq⟩, Or.inr ?_⟩
            rw [logEq, announced]
            simp only [received_append, List.length_append]
            omega
          · cases outcome with
            | error err =>
                obtain ⟨readsBody, short, failed⟩ := readFull_runs body
                simp only [pure_eq_done, runs_done] at last
                obtain ⟨rfl, rfl⟩ := last
                simp only [List.append_nil] at secondEq
                subst secondEq
                subst logEq
                refine ⟨reads.append readsBody, Or.inr (Or.inr ⟨Or.inr ?_, ?_⟩)⟩
                · rw [announced]
                  simp only [received_append, List.length_append]
                  omega
                · obtain ⟨size, cause, member⟩ := failed
                  exact ⟨size, cause, List.mem_append_right _ member⟩
            | ok data =>
                obtain ⟨readsBody, dataEq, whole⟩ := readFull_runs body
                simp only [dataEq, List.nil_append, pure_eq_done, runs_done] at last
                obtain ⟨fourthEq, rfl⟩ := last
                simp only [fourthEq, List.append_nil] at secondEq
                subst logEq
                subst secondEq
                have finished : Finished maxMessage (received conn (first ++ second))
                    (received conn second) := by
                  refine ⟨?_, by omega, ?_⟩
                  · rw [received_append, whole, putUint32_uint32 four]
                  · rw [maxMessage] at oversized
                    omega
                refine ⟨reads.append readsBody, ?_⟩
                cases decoded : unmarshal (received conn second) with
                | error err => exact Or.inl ⟨_, finished, decoded⟩
                | ok value => exact ⟨_, finished, decoded⟩

def OnlyWrites (conn : Conn) (log : Log) : Prop :=
  ∀ event ∈ log, ∃ data, event.1 = .write conn data

def WriteFailed (conn : Conn) (log : Log) : Prop :=
  ∃ data err, (⟨.write conn data, some err⟩ : Sigma Answer) ∈ log

theorem OnlyWrites.received_eq {other : Conn} (writes : OnlyWrites conn log) :
    received other log = [] := by
  rw [received, List.flatMap_eq_nil_iff]
  rintro ⟨op, answer⟩ member
  obtain ⟨data, same⟩ := writes _ member
  simp only at same
  subst same
  rfl

def FramedSend (conn : Conn) (body : Bytes) (log : Log) : Goroutine (Option Err) → Prop
  | .ask op _ => ∃ data, op = .write conn data ∧ sent conn log ++ data <+: frame body ∧
      sent conn log ≠ frame body
  | .done none => sent conn log = frame body
  | .done (some _) => sent conn log <+: frame body ∧ sent conn log ≠ frame body ∧
      WriteFailed conn log

theorem sendFramed_runs {rest : Goroutine (Option Err)}
    (nonempty : body ≠ []) (run : Runs (sendFramed conn body) log rest) :
    OnlyWrites conn log ∧ FramedSend conn body log rest := by
  have header : putUint32 body.length ≠ frame body := by
    intro same
    exact nonempty (List.append_right_eq_self.mp same.symm)
  simp only [sendFramed, perform_bind] at run
  cases run with
  | start _ =>
      refine ⟨by simp [OnlyWrites], _, rfl, by simp [frame], ?_⟩
      exact (frame_ne_nil body).symm
  | step answer later =>
      cases answer with
      | some err =>
          simp only [pure_eq_done, runs_done] at later
          obtain ⟨rfl, rfl⟩ := later
          refine ⟨by simp [OnlyWrites], by simp [sentBy], ?_, _, err, List.mem_singleton_self _⟩
          simpa [sentBy] using (frame_ne_nil body).symm
      | none =>
          simp only [perform, Program.perform] at later
          cases later with
          | start _ =>
              refine ⟨by simp [OnlyWrites], body, rfl, ?_, ?_⟩
              · simp [sentBy, frame]
              · simpa [sentBy] using header
          | step answer last =>
              simp only [runs_done] at last
              obtain ⟨rfl, rfl⟩ := last
              cases answer with
              | some err =>
                  refine ⟨by simp [OnlyWrites], by simp [sentBy, frame], ?_, body, err, by simp⟩
                  simpa [sentBy] using header
              | none => exact ⟨by simp [OnlyWrites], by simp [FramedSend, sentBy, frame]⟩

theorem sendFramed_asks {op : Op} {next : Answer op → Goroutine (Option Err)}
    (run : Runs (sendFramed conn body) log (.ask op next)) :
    op = .write conn (putUint32 body.length) ∨ op = .write conn body := by
  simp only [sendFramed, perform_bind] at run
  cases run with
  | start _ => exact Or.inl rfl
  | step answer later =>
      cases answer with
      | some err =>
          simp only [pure_eq_done, runs_done] at later
          exact absurd later.2 (by simp)
      | none =>
          simp only [perform, Program.perform] at later
          cases later with
          | start _ => exact Or.inr rfl
          | step answer last => cases last

/-! A whole frame that goes out in two writes, or arrives in two reads. -/

def writeFrame (conn : Conn) (body : Bytes) : Log :=
  [⟨.write conn (putUint32 body.length), none⟩, ⟨.write conn body, none⟩]

def readWhole (conn : Conn) (data : Bytes) (nonempty : 0 < data.length) : Sigma Answer :=
  ⟨.read conn data.length, .ok ⟨data, nonempty, Nat.le_refl _⟩⟩

def readFrame (conn : Conn) (body : Bytes) (nonempty : 0 < body.length) : Log :=
  [readWhole conn (putUint32 body.length) (putUint32_pos _), readWhole conn body nonempty]

theorem readFullFrom_whole (conn : Conn) (fuel : Nat) (got data : Bytes)
    (nonempty : 0 < data.length) :
    Runs (readFullFrom conn (fuel + 1) data.length got) [readWhole conn data nonempty]
      (.done (.ok (got ++ data))) := by
  rw [readFullFrom, if_neg (Nat.ne_of_gt nonempty)]
  apply Runs.step
  simp only [Nat.sub_self]
  cases fuel with
  | zero => exact Runs.start _
  | succ fuel => exact Runs.start _

theorem readFull_whole (conn : Conn) (data : Bytes) (nonempty : 0 < data.length) :
    Runs (readFull conn data.length) [readWhole conn data nonempty] (.done (.ok data)) := by
  obtain ⟨size, sizeEq⟩ := Nat.exists_eq_succ_of_ne_zero (Nat.ne_of_gt nonempty)
  rw [readFull]
  nth_rewrite 1 [sizeEq]
  exact readFullFrom_whole conn size [] data nonempty

theorem readFramed_whole {α : Type} (conn : Conn) (tooLarge : Nat → Err)
    (unmarshal : Bytes → Except Err α) (nonempty : 0 < body.length)
    (fits : body.length ≤ maxMessage) :
    Runs (readFramed conn tooLarge unmarshal) (readFrame conn body nonempty)
      (.done (unmarshal body)) := by
  have announced : uint32 (putUint32 body.length) = body.length := by
    have wrapped := uint32_putUint32 body.length []
    rw [List.append_nil] at wrapped
    rw [wrapped]
    apply Nat.mod_eq_of_lt
    rw [maxMessage] at fits
    omega
  have header := readFull_whole conn (putUint32 body.length) (putUint32_pos _)
  rw [readFramed]
  refine (header.bind _).trans ?_
  rw [done_bind]
  dsimp only
  rw [announced, if_neg (Nat.not_lt.mpr fits)]
  exact (readFull_whole conn body nonempty).bind _

theorem sendFramed_whole (conn : Conn) (body : Bytes) :
    Runs (sendFramed conn body) (writeFrame conn body) (.done none) := by
  simp only [sendFramed, perform_bind]
  apply Runs.step
  apply Runs.step
  exact Runs.start _

@[simp] theorem sent_writeFrame (conn : Conn) (body : Bytes) :
    sent conn (writeFrame conn body) = frame body := by
  simp [writeFrame, sentBy, frame]

@[simp] theorem received_writeFrame (conn other : Conn) (body : Bytes) :
    received other (writeFrame conn body) = [] := by
  simp [writeFrame, receivedBy]

@[simp] theorem received_readFrame (conn : Conn) (body : Bytes) (nonempty : 0 < body.length) :
    received conn (readFrame conn body nonempty) = frame body := by
  simp [readFrame, readWhole, receivedBy, frame]

@[simp] theorem sent_readFrame (conn other : Conn) (body : Bytes) (nonempty : 0 < body.length) :
    sent other (readFrame conn body nonempty) = [] := by
  simp [readFrame, readWhole, sentBy]

end SyncthingSocket
