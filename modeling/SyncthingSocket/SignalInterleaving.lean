import SyncthingSocket.Reference
import SyncthingSocket.Session

/-!
One end signals from two goroutines: the one that negotiates sends the
description, the `OnICECandidate` callback sends candidates. Every message takes
two `Write` calls, and nothing keeps the goroutines apart.
-/

namespace SyncthingSocket

open Effect Effect.Program Framing

inductive Sender
  | negotiator
  | callback
  deriving DecidableEq, Repr

def sendSignals (conn : Conn) : List SignalMessage → Goroutine (Option Err)
  | [] => return none
  | msg :: rest => do
      match ← sendSignal conn msg with
      | some err => return some err
      | none => sendSignals conn rest

def Describes : Side → SignalMessage → Prop
  | .client, msg => ∃ sdp, msg = offerSignal sdp
  | .server, msg => (∃ sdp, msg = answerSignal sdp) ∨ msg = fallbackSignal

structure Signals (side : Side) where
  description : SignalMessage
  describes : Describes side description
  later : List SignalMessage
  candidates : List ICECandidateInit

def Signals.messages {side : Side} (signals : Signals side) : Sender → List SignalMessage
  | .negotiator => signals.description :: signals.later
  | .callback => signals.candidates.map candidateSignal

structure Signalling where
  pending : Sender → Goroutine (Option Err)
  trace : List (Sender × Bytes)

def Signals.start {side : Side} (signals : Signals side) (conn : Conn) : Signalling where
  pending sender := sendSignals conn (signals.messages sender)
  trace := []

def Signalling.stream (state : Signalling) : Bytes := state.trace.flatMap Prod.snd

inductive SignalStep (conn : Conn) : Signalling → Sender × Bytes → Signalling → Prop
  | write {state : Signalling} {sender : Sender} {data : Bytes}
    {next : Option Err → Goroutine (Option Err)} :
      state.pending sender = .ask (.write conn data) next →
      SignalStep conn state (sender, data)
        ⟨Function.update state.pending sender (next none), state.trace ++ [(sender, data)]⟩

/-! What has been written belongs, goroutine by goroutine, to its messages. -/

def writesOf (sender : Sender) (trace : List (Sender × Bytes)) : List Bytes :=
  (trace.filter fun write => write.1 = sender).map Prod.snd

@[simp] theorem writesOf_nil (sender : Sender) : writesOf sender [] = [] := rfl

@[simp] theorem writesOf_own (sender : Sender) (data : Bytes) (trace : List (Sender × Bytes)) :
    writesOf sender ((sender, data) :: trace) = data :: writesOf sender trace := by
  simp [writesOf]

variable {conn : Conn} {trace : List (Sender × Bytes)} {sender : Sender} {msg : SignalMessage}

theorem writesOf_other {other : Sender} (differ : sender ≠ other) (data : Bytes)
    (trace : List (Sender × Bytes)) :
    writesOf other ((sender, data) :: trace) = writesOf other trace := by
  simp [writesOf, differ]

theorem writesOf_append (sender : Sender) (first second : List (Sender × Bytes)) :
    writesOf sender (first ++ second) = writesOf sender first ++ writesOf sender second := by
  simp [writesOf]

def wrote (conn : Conn) (data : Bytes) : Sigma Answer := ⟨.write conn data, none⟩

def pieces (msg : SignalMessage) : List Bytes := [putUint32 msg.marshal.length, msg.marshal]

def Written (messages : Sender → List SignalMessage) (trace : List (Sender × Bytes)) : Prop :=
  ∀ sender, writesOf sender trace = (messages sender).flatMap pieces

theorem sendSignal_writes {writes : List Bytes} {result : Option Err}
    (run : Runs (sendSignal conn msg) (writes.map (wrote conn)) (.done result)) :
    writes = pieces msg ∧ result = none := by
  simp only [sendSignal, sendFramed, perform_bind] at run
  rcases writes with _ | ⟨header, rest⟩
  · cases run
  obtain ⟨next, asks, run⟩ := runs_cons run
  injection asks with same following
  injection same with _ headerEq
  subst headerEq following
  rcases rest with _ | ⟨body, rest⟩
  · cases run
  obtain ⟨next, asks, run⟩ := runs_cons run
  injection asks with same following
  injection same with _ bodyEq
  subst bodyEq following
  obtain ⟨nothing, ended⟩ := runs_done.mp run
  injection ended with ended
  rw [List.map_eq_nil_iff.mp nothing]
  exact ⟨rfl, ended⟩

theorem sendSignals_writes {messages : List SignalMessage} {writes : List Bytes}
    {result : Option Err}
    (run : Runs (sendSignals conn messages) (writes.map (wrote conn)) (.done result)) :
    writes = messages.flatMap pieces := by
  induction messages generalizing writes with
  | nil => exact List.map_eq_nil_iff.mp (runs_done.mp run).1
  | cons msg rest ih =>
      obtain ⟨first, second, outcome, split, sent, later⟩ := runs_bind_done run
      obtain ⟨early, late, rfl, rfl, rfl⟩ := List.map_eq_append_iff.mp split
      obtain ⟨rfl, rfl⟩ := sendSignal_writes sent
      rw [ih later, List.flatMap_cons]

theorem sendSignals_whole (conn : Conn) (messages : List SignalMessage) :
    Runs (sendSignals conn messages) ((messages.flatMap pieces).map (wrote conn)) (.done none) := by
  induction messages with
  | nil => exact Runs.start _
  | cons msg rest ih =>
      rw [List.flatMap_cons, List.map_append]
      exact ((sendFramed_whole conn msg.marshal).bind _).trans ih

section Runs

variable {conn : Conn} {side : Side} {signals : Signals side} {state : Signalling}

def Signalling.Progress (conn : Conn) (signals : Signals side) (state : Signalling) : Prop :=
  ∀ sender, Runs (sendSignals conn (signals.messages sender))
    ((writesOf sender state.trace).map (wrote conn)) (state.pending sender)

theorem progress_step {label : Sender × Bytes} {after : Signalling}
    (progress : state.Progress conn signals) (step : SignalStep conn state label after) :
    after.Progress conn signals := by
  cases step with
  | @write sender data next asks =>
      intro other
      have run := progress other
      by_cases same : sender = other
      · subst same
        rw [asks] at run
        simpa [writesOf_append, wrote] using run.extend none
      · simp only [writesOf_append, writesOf_other same, writesOf_nil, List.append_nil,
          Function.update_of_ne (Ne.symm same)]
        exact run

theorem progress_of_reach {allowed : Signalling → Sender × Bytes → Prop}
    (reached : Reach (SignalStep conn) allowed (signals.start conn) state) :
    state.Progress conn signals :=
  reached.invariant (fun _ => Runs.start _) fun _ _ _ progress _ step => progress_step progress step

def Signalling.Finished (state : Signalling) : Prop :=
  ∀ sender, ∃ result, state.pending sender = .done result

theorem written_of_finished (progress : state.Progress conn signals) (finished : state.Finished) :
    Written signals.messages state.trace := by
  intro sender
  obtain ⟨result, ended⟩ := finished sender
  have run := progress sender
  rw [ended] at run
  exact sendSignals_writes run

theorem schedule_reached {pending : Sender → Goroutine (Option Err)}
    (before trace : List (Sender × Bytes))
    (runs : ∀ sender, Runs (pending sender) ((writesOf sender trace).map (wrote conn)) (.done none)) :
    ∃ state, Reach (SignalStep conn) anyStep ⟨pending, before⟩ state ∧ state.trace = before ++ trace ∧
      state.Finished := by
  induction trace generalizing pending before with
  | nil =>
      refine ⟨⟨pending, before⟩, Reach.here, by simp, fun sender => ⟨none, ?_⟩⟩
      exact ((Runs.start _).rest_unique (runs sender)).symm ▸ rfl
  | cons write trace ih =>
      obtain ⟨sender, data⟩ := write
      have own := runs sender
      rw [writesOf_own, List.map_cons] at own
      obtain ⟨next, asks, later⟩ := runs_cons own
      have step : SignalStep conn ⟨pending, before⟩ (sender, data) _ := SignalStep.write asks
      have advanced : ∀ other, Runs (Function.update pending sender (next none) other)
          ((writesOf other trace).map (wrote conn)) (.done none) := by
        intro other
        by_cases same : sender = other
        · subst same
          rw [Function.update_self]
          exact later
        · rw [Function.update_of_ne (Ne.symm same), ← writesOf_other same data]
          exact runs other
      obtain ⟨state, reached, traceEq, finished⟩ := ih (before ++ [(sender, data)]) advanced
      exact ⟨state, (Reach.next Reach.here trivial step).trans reached, by simp [traceEq], finished⟩

end Runs

/-! The stream that the writes make, and what its reader makes of it. -/

inductive Paired : List (Sender × Bytes) → Prop
  | none : Paired []
  | call {sender : Sender} {header body : Bytes} {later : List (Sender × Bytes)} :
      Paired later → Paired ((sender, header) :: (sender, body) :: later)

def Fits (msg : SignalMessage) : Prop := msg.marshal.length ≤ maxMessage

def frames (messages : List SignalMessage) : Bytes := messages.flatMap fun msg => frame msg.marshal

theorem frames_cons (msg : SignalMessage) (rest : List SignalMessage) :
    frames (msg :: rest) = frame msg.marshal ++ frames rest := by
  simp [frames]

theorem Fits.small (fits : Fits msg) : msg.marshal.length < 16777216 := by
  rw [Fits, maxMessage] at fits
  omega

variable {messages : Sender → List SignalMessage}

theorem Written.head {data : Bytes}
    (written : writesOf sender ((sender, data) :: trace) = (messages sender).flatMap pieces) :
    ∃ msg rest, messages sender = msg :: rest ∧
      data = putUint32 msg.marshal.length ∧
        writesOf sender trace = msg.marshal :: rest.flatMap pieces := by
  rw [writesOf_own] at written
  cases own : messages sender with
  | nil => simp [own] at written
  | cons msg rest =>
      rw [own, List.flatMap_cons] at written
      injection written with header later
      exact ⟨msg, rest, rfl, header, later⟩

theorem Written.tail {header body : Bytes} {rest : List SignalMessage}
    (written : Written messages ((sender, header) :: (sender, body) :: trace))
    (own : writesOf sender ((sender, body) :: trace) = msg.marshal :: rest.flatMap pieces) :
    body = msg.marshal ∧ Written (Function.update messages sender rest) trace := by
  rw [writesOf_own] at own
  injection own with bodyEq later
  refine ⟨bodyEq, ?_⟩
  intro other
  by_cases same : sender = other
  · subst same
    rw [Function.update_self]
    exact later
  · rw [Function.update_of_ne (Ne.symm same), ← written other, writesOf_other same, writesOf_other same]

theorem Fits.update {rest : List SignalMessage}
    (fits : ∀ other, ∀ msg ∈ messages other, Fits msg) (own : messages sender = msg :: rest) :
    ∀ other, ∀ msg ∈ Function.update messages sender rest other, Fits msg := by
  intro other msg member
  by_cases same : other = sender
  · subst same
    rw [Function.update_self] at member
    exact fits other msg (own ▸ List.mem_cons_of_mem _ member)
  · rw [Function.update_of_ne same] at member
    exact fits other msg member

theorem paired_of_frames {decoded : List SignalMessage} (written : Written messages trace)
    (fits : ∀ sender, ∀ msg ∈ messages sender, Fits msg) (intact : ∀ msg ∈ decoded, Fits msg)
    (stream : trace.flatMap Prod.snd = frames decoded) : Paired trace := by
  induction decoded generalizing messages trace with
  | nil =>
      rcases trace with _ | ⟨⟨sender, data⟩, trace⟩
      · exact .none
      · obtain ⟨msg, rest, own, rfl, later⟩ := Written.head (written sender)
        simp [frames, putUint32] at stream
  | cons first decoded ih =>
      have firstFits := intact first List.mem_cons_self
      rw [frames_cons] at stream
      rcases trace with _ | ⟨⟨sender, data⟩, trace⟩
      · simp [frame, putUint32] at stream
      obtain ⟨msg, rest, own, rfl, later⟩ := Written.head (written sender)
      have msgFits := fits sender msg (own ▸ List.mem_cons_self)
      rcases trace with _ | ⟨⟨second, body⟩, trace⟩
      · simp at later
      by_cases same : second = sender
      · subst same
        obtain ⟨rfl, remaining⟩ := written.tail later
        have joined : frame msg.marshal ++ trace.flatMap Prod.snd =
            frame first.marshal ++ frames decoded := by
          simpa [frame] using stream
        have small := msgFits.small
        have firstSmall := firstFits.small
        obtain ⟨_, streamLater⟩ := frame_append_inj (by omega) (by omega) joined
        exact .call (ih remaining (Fits.update fits own)
          (fun msg member => intact msg (List.mem_cons_of_mem _ member)) streamLater)
      · -- the reader takes the other goroutine's header for the beginning of a body
        have others := written second
        rw [writesOf_other (Ne.symm same)] at others
        obtain ⟨msg', rest', own', rfl, _⟩ := Written.head others
        obtain ⟨zero, headerEq⟩ := putUint32_small (fits second msg' (own' ▸ List.mem_cons_self)).small
        obtain ⟨object, bodyEq⟩ := first.marshal_object
        simp only [List.flatMap_cons, frame, List.append_assoc] at stream
        have bodies := (List.append_inj stream (by simp)).2
        rw [headerEq, bodyEq] at bodies
        simp at bodies

def messagesOf (sender : Sender) (order : List (Sender × SignalMessage)) : List SignalMessage :=
  (order.filter fun message => message.1 = sender).map Prod.snd

theorem messagesOf_cons (sender : Sender) (msg : SignalMessage)
    (order : List (Sender × SignalMessage)) (other : Sender) :
    messagesOf other ((sender, msg) :: order) =
      if sender = other then msg :: messagesOf other order else messagesOf other order := by
  by_cases same : sender = other <;> simp [messagesOf, same]

theorem mem_of_messagesOf {order : List (Sender × SignalMessage)}
    (member : msg ∈ messagesOf sender order) : msg ∈ order.map Prod.snd := by
  obtain ⟨message, kept, rfl⟩ := List.mem_map.mp member
  exact List.mem_map_of_mem (List.mem_of_mem_filter kept)

theorem Paired.frames (paired : Paired trace) (written : Written messages trace) :
    ∃ order, (∀ sender, messagesOf sender order = messages sender) ∧
      trace.flatMap Prod.snd = frames (order.map Prod.snd) ∧
      (order.head?.map Prod.fst = trace.head?.map Prod.fst) := by
  induction paired generalizing messages with
  | none =>
      refine ⟨[], fun sender => ?_, rfl, rfl⟩
      cases own : messages sender with
      | nil => rfl
      | cons msg rest =>
          have nothing := written sender
          simp [own, pieces] at nothing
  | @call sender header body later _ ih =>
      obtain ⟨msg, rest, own, rfl, followed⟩ := Written.head (written sender)
      obtain ⟨rfl, remaining⟩ := written.tail followed
      obtain ⟨order, merged, stream, _⟩ := ih remaining
      refine ⟨(sender, msg) :: order, ?_, ?_, rfl⟩
      · intro other
        rw [messagesOf_cons, merged other]
        by_cases same : sender = other
        · subst same
          rw [if_pos rfl, Function.update_self, own]
        · rw [if_neg same, Function.update_of_ne (Ne.symm same)]
      · rw [List.map_cons, frames_cons, ← stream]
        simp [frame]

section Reading

variable (platform : Platform) (conn : Conn)

/-- In whatever chunks the stream arrives, the next `readSignal` returns this
message and takes exactly its frame. -/
structure ReadsNext (stream : Bytes) (msg : SignalMessage) : Prop where
  returns : ∀ log result, Runs (readSignal platform conn) log (.done result) →
    received conn log <+: stream → ¬ ReadFailed conn log →
    result = .ok msg ∧ received conn log = frame msg.marshal
  possible : ∃ log, Runs (readSignal platform conn) log (.done (.ok msg)) ∧
    received conn log <+: stream ∧ ¬ ReadFailed conn log

def Decodes : Bytes → List SignalMessage → Prop
  | stream, [] => stream = []
  | stream, msg :: rest => ReadsNext platform conn stream msg ∧
      ∃ tail, stream = frame msg.marshal ++ tail ∧ Decodes tail rest

theorem readsNext_frame (fits : Fits msg) (rest : Bytes) :
    ReadsNext platform conn (frame msg.marshal ++ rest) msg := by
  constructor
  · intro log result run arriving smooth
    have outcome := (readFramed_runs run).2
    cases result with
    | ok value =>
        obtain ⟨body, finished, decoded⟩ := outcome
        obtain ⟨whole, same⟩ := platform.signal.arrived finished decoded arriving
        exact ⟨by rw [same], whole⟩
    | error err =>
        have bad := badMessage_of_framedRead [] outcome
        exact absurd (platform.signal.bad_arrived bad arriving fits).2 smooth
  · refine ⟨hearing conn msg, readSignal_whole platform fits, by simp, ?_⟩
    rintro ⟨size, err, member⟩
    exact (routine_hearing conn msg _ member).1 false

theorem decodes_frames {messages : List SignalMessage} (fits : ∀ msg ∈ messages, Fits msg) :
    Decodes platform conn (frames messages) messages := by
  induction messages with
  | nil => rfl
  | cons msg rest ih =>
      rw [frames_cons]
      exact ⟨readsNext_frame platform conn (fits msg List.mem_cons_self) _, _, rfl,
        ih fun msg member => fits msg (List.mem_cons_of_mem _ member)⟩

variable {platform conn} in
theorem Decodes.frames {stream : Bytes} {messages : List SignalMessage}
    (decodes : Decodes platform conn stream messages) :
    stream = frames messages ∧ ∀ msg ∈ messages, Fits msg := by
  induction messages generalizing stream with
  | nil => exact ⟨decodes, by simp⟩
  | cons msg rest ih =>
      obtain ⟨next, tail, rfl, later⟩ := decodes
      obtain ⟨rfl, fits⟩ := ih later
      refine ⟨(frames_cons msg rest).symm, ?_⟩
      obtain ⟨log, run, arriving, smooth⟩ := next.possible
      have whole := (next.returns log _ run arriving smooth).2
      obtain ⟨body, finished, _⟩ := (readFramed_runs run).2
      have lengths := congrArg List.length (finished.eq_frame.symm.trans whole)
      have limit := finished.2.1
      simp only [frame_length] at lengths
      exact List.forall_mem_cons.mpr ⟨by rw [Fits]; omega, fits⟩

end Reading

def Expected : Side → SignalMessage → Prop
  | .client, msg => msg.type = "offer"
  | .server, msg => msg.type = "answer" ∨ msg.type = "fallback"

def Delivered (platform : Platform) (conn : Conn) {side : Side} (signals : Signals side)
    (stream : Bytes) :
    Prop :=
  ∃ order, (∀ sender, messagesOf sender order = signals.messages sender) ∧
    Decodes platform conn stream (order.map Prod.snd) ∧
    ∃ first rest, order.map Prod.snd = first :: rest ∧ Expected side first

def DescriptionFirst (trace : List (Sender × Bytes)) : Prop :=
  ∃ data later, trace = (.negotiator, data) :: later

theorem Describes.expected {side : Side} (describes : Describes side msg) :
    Expected side msg := by
  cases side with
  | client =>
      obtain ⟨sdp, rfl⟩ := describes
      rfl
  | server =>
      rcases describes with ⟨sdp, rfl⟩ | rfl
      · exact Or.inl rfl
      · exact Or.inr rfl

theorem candidate_unexpected (side : Side) (init : ICECandidateInit) :
    ¬ Expected side (candidateSignal init) := by
  cases side <;> simp [Expected, candidateSignal]

section Delivery

variable {platform : Platform} {conn : Conn} {side : Side} {signals : Signals side}
  {trace : List (Sender × Bytes)}

theorem Delivered.ordered (written : Written signals.messages trace)
    (delivered : Delivered platform conn signals (trace.flatMap Prod.snd)) :
    Paired trace ∧ DescriptionFirst trace ∧ ∀ sender, ∀ msg ∈ signals.messages sender, Fits msg := by
  obtain ⟨order, merged, decodes, first, rest, firstEq, expected⟩ := delivered
  obtain ⟨stream, intact⟩ := decodes.frames
  have fits : ∀ sender, ∀ msg ∈ signals.messages sender, Fits msg := by
    intro sender msg member
    rw [← merged sender] at member
    exact intact msg (mem_of_messagesOf member)
  have paired := paired_of_frames written fits intact stream
  refine ⟨paired, ?_, fits⟩
  cases paired with
  | none =>
      rw [firstEq, frames_cons] at stream
      simp [frame, putUint32] at stream
  | @call sender header body later _ =>
      cases sender with
      | negotiator => exact ⟨_, _, rfl⟩
      | callback =>
          obtain ⟨msg, others, own, rfl, followed⟩ := Written.head (written .callback)
          obtain ⟨rfl, _⟩ := written.tail followed
          have joined :
              frame msg.marshal ++ later.flatMap Prod.snd = frame first.marshal ++ frames rest := by
            rw [firstEq, frames_cons] at stream
            simpa [frame] using stream
          have small := (fits .callback msg (own ▸ List.mem_cons_self)).small
          have firstSmall := (intact first (firstEq ▸ List.mem_cons_self)).small
          obtain ⟨same, _⟩ := frame_append_inj (by omega) (by omega) joined
          have equal : msg = first := by
            have decoded := platform.signal.roundTrip msg
            rw [same, platform.signal.roundTrip first, Except.ok.injEq] at decoded
            exact decoded.symm
          obtain ⟨init, _, isCandidate⟩ := List.mem_map.mp (own ▸ List.mem_cons_self :
            msg ∈ signals.messages .callback)
          rw [← equal, ← isCandidate] at expected
          exact absurd expected (candidate_unexpected side init)

theorem delivered_of_ordered (written : Written signals.messages trace) (paired : Paired trace)
    (descriptionFirst : DescriptionFirst trace)
    (fits : ∀ sender, ∀ msg ∈ signals.messages sender, Fits msg) :
    Delivered platform conn signals (trace.flatMap Prod.snd) := by
  obtain ⟨order, merged, stream, sameSender⟩ := paired.frames written
  obtain ⟨data, later, rfl⟩ := descriptionFirst
  rcases order with _ | ⟨⟨sender, msg⟩, order⟩
  · simp at sameSender
  obtain rfl : sender = .negotiator := by simpa using sameSender
  have fitsOrder : ∀ sent ∈ (((Sender.negotiator, msg) :: order).map Prod.snd), Fits sent := by
    intro sent member
    obtain ⟨⟨sender, _⟩, kept, rfl⟩ := List.mem_map.mp member
    apply fits sender
    rw [← merged sender]
    exact List.mem_map_of_mem (List.mem_filter.mpr ⟨kept, by simp⟩)
  have own := merged .negotiator
  rw [messagesOf_cons, if_pos rfl, Signals.messages] at own
  injection own with isDescription _
  refine ⟨_, merged, stream ▸ decodes_frames platform conn fitsOrder, msg, _, rfl, ?_⟩
  rw [isDescription]
  exact signals.describes.expected

end Delivery

theorem signals_delivered_iff_paired (platform : Platform) {side : Side} (signals : Signals side)
    {state : Signalling}
    (reached : Reach (SignalStep side.conn) anyStep (signals.start side.conn) state)
    (finished : state.Finished) :
    Delivered platform side.peer.conn signals state.stream ↔
      Paired state.trace ∧ DescriptionFirst state.trace ∧
        ∀ sender, ∀ msg ∈ signals.messages sender, Fits msg := by
  have written := written_of_finished (progress_of_reach reached) finished
  constructor
  · exact fun delivered => Delivered.ordered written delivered
  · rintro ⟨paired, descriptionFirst, fits⟩
    exact delivered_of_ordered written paired descriptionFirst fits

/-! An offer and one candidate. -/

def sampleCandidate : SignalMessage := candidateSignal ⟨"", none, none, none⟩

def sampleSignals : Signals .client := ⟨offerSignal "", ⟨"", rfl⟩, [], [⟨"", none, none, none⟩]⟩

theorem sample_fits : ∀ sender, ∀ msg ∈ sampleSignals.messages sender, Fits msg := by
  have offer : Fits (offerSignal "") := by rw [Fits]; decide
  have candidate : Fits sampleCandidate := by rw [Fits]; decide
  intro sender
  cases sender with
  | negotiator => exact List.forall_mem_singleton.mpr offer
  | callback => exact List.forall_mem_singleton.mpr candidate

theorem sample_schedule (written : Written sampleSignals.messages trace) :
    ∃ state, Reach (SignalStep Side.client.conn) anyStep (sampleSignals.start Side.client.conn) state ∧
      state.trace = trace ∧ state.Finished := by
  apply schedule_reached []
  intro sender
  rw [written sender]
  exact sendSignals_whole _ _

def offerThenCandidate : List (Sender × Bytes) :=
  (pieces (offerSignal "")).map (Sender.negotiator, ·) ++
    (pieces sampleCandidate).map (Sender.callback, ·)

theorem offer_then_candidate_delivered :
    ∃ state, Reach (SignalStep Side.client.conn) anyStep (sampleSignals.start Side.client.conn) state ∧
      state.Finished ∧ Delivered referencePlatform Side.server.conn sampleSignals state.stream := by
  have written : Written sampleSignals.messages offerThenCandidate := by
    intro sender
    cases sender <;> rfl
  obtain ⟨state, reached, traceEq, finished⟩ := sample_schedule written
  refine ⟨state, reached, finished, ?_⟩
  apply (signals_delivered_iff_paired referencePlatform sampleSignals reached finished).mpr
  rw [traceEq]
  exact ⟨.call (.call .none), ⟨_, _, rfl⟩, sample_fits⟩

theorem torn_header_fails {platform : Platform} {other : SignalMessage} {rest : Bytes}
    (fits : Fits msg) (otherFits : Fits other) {log : Log} {result : Except Err SignalMessage}
    (run : Runs (readSignal platform conn) log (.done result))
    (arriving : received conn log <+:
      putUint32 msg.marshal.length ++ (putUint32 other.marshal.length ++ rest)) :
    ∃ err, result = .error err := by
  cases result with
  | error err => exact ⟨err, rfl⟩
  | ok value =>
      obtain ⟨body, finished, decoded⟩ := (readFramed_runs run).2
      obtain ⟨tail, stream⟩ := arriving
      rw [finished.1, List.append_assoc] at stream
      obtain ⟨headers, bodies⟩ := List.append_inj stream (by simp)
      have small := fits.small
      have bodyLength := putUint32_inj finished.2.2 (by omega) headers
      obtain ⟨zero, headerEq⟩ := putUint32_small otherFits.small
      cases body with
      | nil =>
          have nonempty := msg.marshal_pos
          simp [← bodyLength] at nonempty
      | cons byte body =>
          rw [headerEq] at bodies
          injection bodies with isZero _
          obtain ⟨err, refused⟩ := platform.signal.nul body
          rw [isZero, refused] at decoded
          cases decoded

def tornWrites : List (Sender × Bytes) :=
  [(.negotiator, putUint32 (offerSignal "").marshal.length),
    (.callback, putUint32 sampleCandidate.marshal.length), (.negotiator, (offerSignal "").marshal),
    (.callback, sampleCandidate.marshal)]

def candidateThenOffer : List (Sender × Bytes) :=
  (pieces sampleCandidate).map (Sender.callback, ·) ++
    (pieces (offerSignal "")).map (Sender.negotiator, ·)

theorem torn_and_early_signals_undelivered :
    (∃ state, Reach (SignalStep Side.client.conn) anyStep (sampleSignals.start Side.client.conn) state ∧
      state.Finished ∧ ¬ Delivered referencePlatform Side.server.conn sampleSignals state.stream ∧
      ∀ log result, Runs (readSignal referencePlatform Side.server.conn) log (.done result) →
        received Side.server.conn log <+: state.stream → ∃ err, result = .error err) ∧
    ∃ state, Reach (SignalStep Side.client.conn) anyStep (sampleSignals.start Side.client.conn) state ∧
      state.Finished ∧ ¬ Delivered referencePlatform Side.server.conn sampleSignals state.stream ∧
      ReadsNext referencePlatform Side.server.conn state.stream sampleCandidate := by
  have candidateFits := sample_fits .callback sampleCandidate List.mem_cons_self
  constructor
  · have written : Written sampleSignals.messages tornWrites := by
      intro sender
      cases sender <;> rfl
    obtain ⟨state, reached, traceEq, finished⟩ := sample_schedule written
    refine ⟨state, reached, finished, ?_, ?_⟩
    · rw [Signalling.stream, traceEq]
      intro delivered
      have paired := (Delivered.ordered written delivered).1
      cases paired
    · intro log result run arriving
      rw [Signalling.stream, traceEq] at arriving
      exact torn_header_fails (sample_fits .negotiator _ List.mem_cons_self) candidateFits run arriving
  · have written : Written sampleSignals.messages candidateThenOffer := by
      intro sender
      cases sender <;> rfl
    obtain ⟨state, reached, traceEq, finished⟩ := sample_schedule written
    refine ⟨state, reached, finished, ?_, ?_⟩
    · rw [Signalling.stream, traceEq]
      intro delivered
      obtain ⟨data, later, first⟩ := (Delivered.ordered written delivered).2.1
      cases first
    · have stream : state.stream = frame sampleCandidate.marshal ++
          (putUint32 (offerSignal "").marshal.length ++ ((offerSignal "").marshal ++ [])) := by
        rw [Signalling.stream, traceEq]
        simp [candidateThenOffer, pieces, frame]
      rw [stream]
      exact readsNext_frame referencePlatform _ candidateFits _

end SyncthingSocket
