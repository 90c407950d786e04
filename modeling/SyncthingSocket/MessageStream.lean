import SyncthingSocket.Auth
import SyncthingSocket.Reference

/-!
Whole conversations on one connection: messages of `auth.go` and `webrtc.go` written
one after another, and the calls that read them back from a byte stream which the
network may cut anywhere.
-/

namespace SyncthingSocket

open Effect Effect.Program Framing

/-! Reading from a stream that has been fixed in advance. -/

/-- How a stream arrives: `cut` says how much one `Read` finds when so many bytes are
still to come, and `stop` is what `Read` returns after the last of them. -/
structure Arrival where
  cut : Nat → Nat
  stop : Err

def Arrival.available (arrival : Arrival) (size : Nat) (left : Bytes) : Nat :=
  min (arrival.cut left.length + 1) size

theorem Arrival.chunk_bounds (arrival : Arrival) {size : Nat} {left : Bytes} (asked : 0 < size)
    (more : 0 < left.length) : 0 < (left.take (arrival.available size left)).length ∧
      (left.take (arrival.available size left)).length ≤ size := by
  rw [List.length_take, Arrival.available]
  omega

def Arrival.answer (arrival : Arrival) (conn : Conn) :
    (op : Op) → Bytes → Option (Answer op × Bytes)
  | .read source size, left =>
      if asked : source = conn ∧ 0 < size then
        if more : 0 < left.length then
          some (.ok ⟨left.take (arrival.available size left), arrival.chunk_bounds asked.2 more⟩,
            left.drop (arrival.available size left))
        else some (.error arrival.stop, left)
      else none
  | _, _ => none

/-- Runs a goroutine that only reads `conn`; gives its result and the bytes left unread. -/
def deliver {α : Type} (arrival : Arrival) (conn : Conn) : Goroutine α → Bytes → Option (α × Bytes)
  | .done value, left => some (value, left)
  | .ask op next, left =>
      match arrival.answer conn op left with
      | some (answer, rest) => deliver arrival conn (next answer) rest
      | none => none

section Delivery

variable {α β : Type} {arrival : Arrival} {conn : Conn}

@[simp] theorem deliver_done (value : α) (left : Bytes) :
    deliver arrival conn (.done value) left = some (value, left) := rfl

theorem deliver_bind (program : Goroutine α) (following : α → Goroutine β) (left : Bytes) :
    deliver arrival conn (program >>= following) left =
      (deliver arrival conn program left).bind fun outcome =>
        deliver arrival conn (following outcome.1) outcome.2 := by
  induction program generalizing left with
  | done value => rfl
  | ask op next ih =>
      rw [ask_bind, deliver, deliver]
      cases arrival.answer conn op left with
      | none => rfl
      | some outcome => exact ih outcome.1 outcome.2

/-- A goroutine that only ever reads the connection comes to an end, and what it has received is the
beginning of the stream; a read fails only at the end of the stream. -/
theorem deliver_total (arrival : Arrival) (program : Goroutine α)
    (reads : ∀ log op next, Runs program log (.ask op next) → IsRead conn op) (left : Bytes) :
    ∃ value unread log, deliver arrival conn program left = some (value, unread) ∧
      Runs program log (.done value) ∧ received conn log ++ unread = left ∧
      (ReadFailed conn log → unread = []) := by
  induction program generalizing left with
  | done value =>
      refine ⟨value, left, [], rfl, Runs.start _, rfl, ?_⟩
      rintro ⟨size, err, member⟩
      simp at member
  | ask op next ih =>
      obtain ⟨size, asked, rfl⟩ := reads [] op next (Runs.start _)
      have later : ∀ answer log op next', Runs (next answer) log (.ask op next') → IsRead conn op :=
        fun answer log op next' run => reads _ op next' (Runs.step answer run)
      by_cases more : 0 < left.length
      · have answered : arrival.answer conn (.read conn size) left =
            some (.ok ⟨left.take (arrival.available size left), arrival.chunk_bounds asked more⟩,
              left.drop (arrival.available size left)) := by
          rw [Arrival.answer, dif_pos ⟨rfl, asked⟩, dif_pos more]
        obtain ⟨value, unread, log, delivered, run, split, failed⟩ :=
          ih (.ok ⟨_, arrival.chunk_bounds asked more⟩) (later _)
            (left.drop (arrival.available size left))
        refine ⟨value, unread, _, ?_, Runs.step _ run, ?_, ?_⟩
        · rw [deliver, answered]
          exact delivered
        · simp only [received_cons, receivedBy, ↓reduceIte, List.append_assoc, split,
            List.take_append_drop]
        · rintro ⟨size', err, member⟩
          apply failed
          refine ⟨size', err, ?_⟩
          rcases List.mem_cons.mp member with same | member
          · cases same
          · exact member
      · have ended : left = [] := List.length_eq_zero_iff.mp (by omega)
        have answered :
            arrival.answer conn (.read conn size) left = some (.error arrival.stop, left) := by
          rw [Arrival.answer, dif_pos ⟨rfl, asked⟩, dif_neg more]
        obtain ⟨value, unread, log, delivered, run, split, failed⟩ :=
          ih (.error arrival.stop) (later _) left
        refine ⟨value, unread, _, ?_, Runs.step _ run, ?_, ?_⟩
        · rw [deliver, answered]
          exact delivered
        · simpa only [received_cons, receivedBy, List.nil_append] using split
        · intro _
          rw [ended] at split
          exact (List.append_eq_nil_iff.mp split).2

/-! One message. -/

theorem readFramed_delivered (arrival : Arrival) (conn : Conn) (tooLarge : Nat → Err)
    (unmarshal : Bytes → Except Err α) (stream : Bytes) :
    ∃ value unread log, deliver arrival conn (readFramed conn tooLarge unmarshal) stream =
      some (value, unread) ∧
      FramedRead conn unmarshal log (.done value) ∧ received conn log ++ unread = stream ∧
      (ReadFailed conn log → unread = []) := by
  obtain ⟨value, unread, log, delivered, run, split, failed⟩ := deliver_total arrival
    (readFramed conn tooLarge unmarshal) (fun log op next run => (readFramed_runs run).2.1) stream
  exact ⟨value, unread, log, delivered, (readFramed_runs run).2, split, failed⟩

theorem readFramed_frame (arrival : Arrival) (conn : Conn) (tooLarge : Nat → Err)
    (unmarshal : Bytes → Except Err α) {body : Bytes}
    (fits : body.length ≤ maxMessage) (rest : Bytes) :
    deliver arrival conn (readFramed conn tooLarge unmarshal) (frame body ++ rest) =
      some (unmarshal body, rest) := by
  obtain ⟨value, unread, log, delivered, outcome, split, failed⟩ :=
    readFramed_delivered arrival conn tooLarge unmarshal (frame body ++ rest)
  have arriving : received conn log <+: frame body ++ rest := ⟨unread, split⟩
  have small : body.length < 4294967296 := by
    rw [maxMessage] at fits
    omega
  have decoded : ∀ found, Finished maxMessage (received conn log) found →
      unmarshal found = value → some (value, unread) = some (unmarshal body, rest) := by
    intro found finished result
    have same := finished.head arriving small
    subst same
    rw [finished.eq_frame] at split
    rw [List.append_cancel_left split, result]
  rw [delivered]
  cases value with
  | ok message =>
      obtain ⟨found, finished, result⟩ := outcome
      exact decoded found finished result
  | error err =>
      rcases outcome with ⟨found, finished, result⟩ | ⟨four, oversized⟩ | ⟨waiting, broken⟩
      · exact decoded found finished result
      · rw [uint32_of_arriving arriving (by omega), Nat.mod_eq_of_lt small] at oversized
        omega
      · rw [failed broken, List.append_nil] at split
        have shorter := waiting.lt_frame arriving
        rw [split, List.length_append] at shorter
        omega

theorem readFramed_truncated (arrival : Arrival) (conn : Conn) (tooLarge : Nat → Err)
    (unmarshal : Bytes → Except Err α) {stream : Bytes}
    (cut : Unfinished maxMessage stream) : ∃ err,
      deliver arrival conn (readFramed conn tooLarge unmarshal) stream = some (.error err, []) := by
  obtain ⟨value, unread, log, delivered, outcome, split, failed⟩ :=
    readFramed_delivered arrival conn tooLarge unmarshal stream
  have incomplete : ∀ found, ¬ Finished maxMessage (received conn log) found := by
    intro found finished
    rw [finished.eq_frame] at split
    have whole : stream <+: frame found ++ unread := split ▸ List.prefix_rfl
    have shorter := cut.lt_frame whole
    rw [← split, List.length_append] at shorter
    omega
  cases value with
  | ok message =>
      obtain ⟨found, finished, _⟩ := outcome
      exact absurd finished (incomplete found)
  | error err =>
      refine ⟨err, ?_⟩
      rcases outcome with ⟨found, finished, _⟩ | ⟨four, oversized⟩ | ⟨_, broken⟩
      · exact absurd finished (incomplete found)
      · have announced : uint32 stream = uint32 (received conn log) := by
          rw [← split, uint32_append four]
        have header : 4 ≤ stream.length := by
          rw [← split, List.length_append]
          omega
        rcases cut with short | ⟨acceptable, _⟩ <;> omega
      · rw [delivered, failed broken]

theorem readFramed_oversized (arrival : Arrival) (conn : Conn) (tooLarge : Nat → Err)
    (unmarshal : Bytes → Except Err α) {stream : Bytes}
    (header : 4 ≤ stream.length) (large : maxMessage < uint32 stream) : ∃ err,
      deliver arrival conn (readFramed conn tooLarge unmarshal) stream =
        some (.error err, stream.drop 4) := by
  obtain ⟨value, unread, log, delivered, outcome, split, failed⟩ :=
    readFramed_delivered arrival conn tooLarge unmarshal stream
  have refused : ∀ found, ¬ Finished maxMessage (received conn log) found := by
    intro found finished
    have announced : uint32 stream = found.length % 4294967296 := by
      rw [← split, finished.1, List.append_assoc, uint32_putUint32]
    have acceptable := finished.2.1
    omega
  cases value with
  | ok message =>
      obtain ⟨found, finished, _⟩ := outcome
      exact absurd finished (refused found)
  | error err =>
      refine ⟨err, ?_⟩
      rcases outcome with ⟨found, finished, _⟩ | ⟨four, _⟩ | ⟨waiting, broken⟩
      · exact absurd finished (refused found)
      · rw [delivered, ← split, ← four, List.drop_left]
      · rw [failed broken, List.append_nil] at split
        rw [split] at waiting
        rcases waiting with short | ⟨acceptable, _⟩ <;> omega

end Delivery

/-! Conversations. -/

inductive MessageKind
  | challenge
  | response
  | result
  | signal
  deriving DecidableEq, Repr

inductive Message
  | challenge (msg : AuthChallenge)
  | response (msg : AuthResponse)
  | result (msg : AuthResult)
  | signal (msg : SignalMessage)
  deriving DecidableEq, Repr

def Message.kind : Message → MessageKind
  | challenge _ => .challenge
  | response _ => .response
  | result _ => .result
  | signal _ => .signal

def Message.marshal : Message → Bytes
  | challenge msg => msg.marshal
  | response msg => msg.marshal
  | result msg => msg.marshal
  | signal msg => msg.marshal

theorem Message.marshal_ne_nil (msg : Message) : msg.marshal ≠ [] := by
  cases msg <;> exact SyncthingSocket.marshal_ne_nil

section

variable (platform : Platform) (conn : Conn)

def sendMessage : Message → Goroutine (Option Err)
  | .challenge msg => sendAuthMessage conn msg.marshal
  | .response msg => sendAuthMessage conn msg.marshal
  | .result msg => sendAuthMessage conn msg.marshal
  | .signal msg => sendSignal conn msg

def readMessage : MessageKind → Goroutine (Except Err Message)
  | .challenge => do return (← readAuthMessage platform.challenge conn).map .challenge
  | .response => do return (← readAuthMessage platform.response conn).map .response
  | .result => do return (← readAuthMessage platform.result conn).map .result
  | .signal => do return (← readSignal platform conn).map .signal

def sendAll : List Message → Goroutine (Option Err)
  | [] => .done none
  | msg :: rest => do
      match ← sendMessage conn msg with
      | some err => return some err
      | none => sendAll rest

def readAll : List MessageKind → Goroutine (Except Err (List Message))
  | [] => .done (.ok [])
  | kind :: rest => do
      match ← readMessage platform conn kind with
      | .error err => return .error err
      | .ok msg => return (← readAll rest).map (msg :: ·)

end

section

variable (platform : Platform) (conn : Conn) (arrival : Arrival)

theorem sendMessage_eq (msg : Message) : sendMessage conn msg = sendFramed conn msg.marshal := by
  cases msg <;> rfl

theorem readMessage_eq (kind : MessageKind) :
    ∃ (α : Type) (tooLarge : Nat → Err) (unmarshal : Bytes → Except Err α) (wrap : α → Message),
      readMessage platform conn kind =
        (readFramed conn tooLarge unmarshal >>= fun outcome => .done (outcome.map wrap)) ∧
      ∀ msg, msg.kind = kind → (unmarshal msg.marshal).map wrap = .ok msg := by
  cases kind with
  | challenge =>
      refine ⟨AuthChallenge, _, platform.challenge.unmarshal, .challenge, rfl, ?_⟩
      rintro (msg | msg | msg | msg) same <;> cases same
      simp [Message.marshal, platform.challenge.roundTrip, Except.map]
  | response =>
      refine ⟨AuthResponse, _, platform.response.unmarshal, .response, rfl, ?_⟩
      rintro (msg | msg | msg | msg) same <;> cases same
      simp [Message.marshal, platform.response.roundTrip, Except.map]
  | result =>
      refine ⟨AuthResult, _, platform.result.unmarshal, .result, rfl, ?_⟩
      rintro (msg | msg | msg | msg) same <;> cases same
      simp [Message.marshal, platform.result.roundTrip, Except.map]
  | signal =>
      refine ⟨SignalMessage, _, platform.signal.unmarshal, .signal, rfl, ?_⟩
      rintro (msg | msg | msg | msg) same <;> cases same
      simp [Message.marshal, platform.signal.roundTrip, Except.map]

theorem readMessage_frame {msg : Message} (fits : msg.marshal.length ≤ maxMessage) (rest : Bytes) :
    deliver arrival conn (readMessage platform conn msg.kind) (frame msg.marshal ++ rest) =
      some (.ok msg, rest) := by
  obtain ⟨α, tooLarge, unmarshal, wrap, readerEq, roundTrip⟩ := readMessage_eq platform conn msg.kind
  rw [readerEq, deliver_bind, readFramed_frame arrival conn tooLarge unmarshal fits rest]
  simp [roundTrip msg rfl]

theorem readMessage_truncated (kind : MessageKind) {stream : Bytes}
    (cut : Unfinished maxMessage stream) : ∃ err,
      deliver arrival conn (readMessage platform conn kind) stream = some (.error err, []) := by
  obtain ⟨α, tooLarge, unmarshal, wrap, readerEq, _⟩ := readMessage_eq platform conn kind
  obtain ⟨err, delivered⟩ := readFramed_truncated arrival conn tooLarge unmarshal cut
  refine ⟨err, ?_⟩
  rw [readerEq, deliver_bind, delivered]
  rfl

theorem readMessage_oversized (kind : MessageKind) {stream : Bytes}
    (header : 4 ≤ stream.length) (large : maxMessage < uint32 stream) : ∃ err,
      deliver arrival conn (readMessage platform conn kind) stream =
        some (.error err, stream.drop 4) := by
  obtain ⟨α, tooLarge, unmarshal, wrap, readerEq, _⟩ := readMessage_eq platform conn kind
  obtain ⟨err, delivered⟩ := readFramed_oversized arrival conn tooLarge unmarshal header large
  refine ⟨err, ?_⟩
  rw [readerEq, deliver_bind, delivered]
  rfl

theorem sendAll_sent {conn : Conn} {messages : List Message} {log : Log}
    (run : Runs (sendAll conn messages) log (.done none)) :
    sent conn log = messages.flatMap fun msg => frame msg.marshal := by
  induction messages generalizing log with
  | nil =>
      obtain ⟨rfl, _⟩ := runs_done.mp run
      rfl
  | cons msg messages ih =>
      rw [sendAll, sendMessage_eq] at run
      obtain ⟨first, second, outcome, rfl, early, late⟩ := runs_bind_done run
      cases outcome with
      | some err =>
          have wrong := (runs_done.mp late).2
          simp at wrong
      | none =>
          have written := (sendFramed_runs msg.marshal_ne_nil early).2
          rw [FramedSend] at written
          rw [sent_append, written, ih late, List.flatMap_cons]

theorem readAll_frames {messages : List Message}
    (fits : ∀ msg ∈ messages, msg.marshal.length ≤ maxMessage) (further : Bytes) :
    deliver arrival conn (readAll platform conn (messages.map Message.kind))
      ((messages.flatMap fun msg => frame msg.marshal) ++ further) = some (.ok messages, further) := by
  induction messages with
  | nil => rfl
  | cons msg messages ih =>
      have first := readMessage_frame platform conn arrival
        (fits msg List.mem_cons_self) ((messages.flatMap fun msg => frame msg.marshal) ++ further)
      have rest := ih fun other member => fits other (List.mem_cons_of_mem _ member)
      rw [List.map_cons, readAll, List.flatMap_cons, List.append_assoc, deliver_bind, first,
        Option.bind_some, deliver_bind, rest]
      rfl

end

/-- What was sent as a sequence of messages is read as that sequence, however the
stream is cut, and nothing after it is touched; a frame that ends early or announces
too much is an error. -/
theorem messages_framed (platform : Platform) (sender receiver : Conn) (arrival : Arrival) :
    (∀ (messages : List Message) (log : Log) (further : Bytes),
      (∀ msg ∈ messages, msg.marshal.length ≤ maxMessage) →
      Runs (sendAll sender messages) log (.done none) →
      deliver arrival receiver (readAll platform receiver (messages.map Message.kind))
        (sent sender log ++ further) = some (.ok messages, further)) ∧
    (∀ (kind : MessageKind) (stream : Bytes), Unfinished maxMessage stream →
      ∃ err, deliver arrival receiver (readMessage platform receiver kind) stream =
        some (.error err, [])) ∧
    (∀ (kind : MessageKind) (stream : Bytes), 4 ≤ stream.length → maxMessage < uint32 stream →
      ∃ err, deliver arrival receiver (readMessage platform receiver kind) stream =
        some (.error err, stream.drop 4)) := by
  refine ⟨?_, ?_, ?_⟩
  · intro messages log further fits run
    rw [sendAll_sent run]
    exact readAll_frames platform receiver arrival fits further
  · intro kind stream cut
    exact readMessage_truncated platform receiver arrival kind cut
  · intro kind stream header large
    exact readMessage_oversized platform receiver arrival kind header large

def bytewise : Arrival := ⟨fun _ => 0, .eof⟩

def sampleMessages : List Message := [.challenge ⟨"ok", []⟩, .signal ⟨"bye", "", none⟩]

theorem sampleMessages_sent : Runs (sendAll (.tls .relay) sampleMessages)
    (sampleMessages.flatMap fun msg => writeFrame (.tls .relay) msg.marshal) (.done none) := by
  have single : ∀ (msg : Message) (rest : List Message) (log : Log),
      Runs (sendAll (.tls .relay) rest) log (.done none) →
      Runs (sendAll (.tls .relay) (msg :: rest)) (writeFrame (.tls .relay) msg.marshal ++ log)
        (.done none) := by
    intro msg rest log later
    rw [sendAll, sendMessage_eq]
    exact ((sendFramed_whole _ _).bind _).trans later
  exact single _ _ _ (single _ _ _ (Runs.start _))

theorem sample_messages_framed :
    deliver bytewise (.tls .incoming) (readAll referencePlatform (.tls .incoming) [.challenge, .signal])
      (sent (.tls .relay)
        (sampleMessages.flatMap fun msg => writeFrame (.tls .relay) msg.marshal) ++ [7]) =
        some (.ok sampleMessages, [7]) ∧
    (∃ err, deliver bytewise (.tls .incoming) (readMessage referencePlatform (.tls .incoming) .signal)
      [0, 0, 0, 2, 123] = some (.error err, [])) ∧
    (∃ err, deliver bytewise (.tls .incoming) (readMessage referencePlatform (.tls .incoming) .result)
      [255, 0, 0, 0, 123] = some (.error err, [123])) := by
  obtain ⟨whole, cut, oversized⟩ :=
    messages_framed referencePlatform (.tls .relay) (.tls .incoming) bytewise
  refine ⟨whole sampleMessages _ [7] ?_ sampleMessages_sent, ?_, ?_⟩
  · decide
  · exact cut .signal _ (Or.inr (by decide))
  · exact oversized .result [255, 0, 0, 0, 123] (by decide) (by decide)

end SyncthingSocket
