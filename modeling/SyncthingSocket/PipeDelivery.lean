import SyncthingSocket.Pipe
import SyncthingSocket.Session

/-!
Two pipes over one connection with true half-close: one end sends a payload from
its stdin, the other has nothing to say. No read or write fails.
-/

namespace SyncthingSocket

open Effect Framing

structure PipeNet where
  ends : Side → Pipe := fun _ => {}
  closed : Side → Bool := fun _ => false

inductive PipeLabel
  | pipe (side : Side) (event : PipeEvent)
  | close (side : Side)
  deriving DecidableEq, Repr

/-- The four copy loops in any order; a handler closes its connection after
`pipeBiDirectional` has returned. -/
inductive PipeNetStep (terminal : Side → Bool) : PipeNet → PipeLabel → PipeNet → Prop
  | pipe {net : PipeNet} {side : Side} {event : PipeEvent} {pipe : Pipe} :
      PipeStep (terminal side) (net.ends side) event pipe →
      PipeNetStep terminal net (.pipe side event) { net with ends := Function.update net.ends side pipe }
  | close {net : PipeNet} {side : Side} :
      (net.ends side).returned = true → net.closed side = false →
      PipeNetStep terminal net (.close side) { net with closed := Function.update net.closed side true }

def PipeNet.Ended (net : PipeNet) (side : Side) : Prop :=
  (net.ends side).halfClosed = true ∨ net.closed side = true

/-- The connection carries what was written, ends a direction only when its writer
has ended it, and nothing fails. -/
def Undisturbed (stdin : Side → Bytes) (net : PipeNet) : PipeLabel → Prop
  | .pipe side (.send (.read data er)) =>
      Supplied (stdin side) .eof True (net.ends side).send (.read data er)
  | .pipe side (.send (.write nw ew)) =>
      Supplied (stdin side) .eof True (net.ends side).send (.write nw ew) ∧ net.closed side = false
  | .pipe _ (.closeWrite err) => err = none
  | .pipe side (.receive event) =>
      Supplied (net.ends side.peer).send.given .eof (net.Ended side.peer) (net.ends side).receive event ∧
        net.closed side = false
  | _ => True

variable {payload : Bytes} {pipe : Pipe} {event : PipeEvent} {net : PipeNet} {sender side : Side}
  {terminal : Side → Bool} {stdin : Side → Bytes}

theorem Undisturbed.sends {event : CopyEvent}
    (undisturbed : Undisturbed stdin net (.pipe side (.send event))) :
    Supplied (stdin side) .eof True (net.ends side).send event := by
  cases event with
  | read data er => exact undisturbed
  | write nw ew => exact undisturbed.1

def oneWay (sender : Side) (payload : Bytes) (side : Side) : Bytes :=
  if side = sender then payload else []

/-! What every run keeps, of the sending and the receiving end. -/

structure Delivering (payload : Bytes) (sender receiver : Pipe) (senderClosed receiverClosed : Bool) :
    Prop where
  orderly : sender.Orderly ∧ receiver.Orderly
  shut : (senderClosed = true → sender.returned = true) ∧
    (receiverClosed = true → receiver.returned = true)
  sent : sender.send.taken <+: payload
  sending : Calm .eof (sender.send.taken = payload) sender.send
  silent : receiver.send.taken = []
  mute : receiver.halfClosed = false
  got : receiver.receive.taken <+: sender.send.given
  getting : Calm .eof (sender.halfClosed = true ∧ receiver.receive.taken = payload) receiver.receive
  heard : sender.receive.taken = []
  hearing : Calm .eof (receiverClosed = true) sender.receive

theorem Pipe.Orderly.sawEnd (orderly : pipe.Orderly) (returned : pipe.returned = true) :
    SawEnd pipe.receive := by
  obtain ⟨result, phase⟩ := orderly.received returned
  rw [SawEnd, phase]
  trivial

theorem PipeStep.returned_stays {terminal : Bool} {after : Pipe}
    (step : PipeStep terminal pipe event after) (returned : pipe.returned = true) :
    after.returned = true := by
  cases step with
  | send _ => exact returned
  | closeWrite _ _ _ _ => exact returned
  | stdinDone _ _ _ => exact returned
  | receive _ => exact returned
  | returns _ _ _ => rfl

namespace Delivering

variable {payload : Bytes} {sender receiver : Pipe} {senderClosed receiverClosed : Bool}

theorem given_of_halfClosed
    (delivering : Delivering payload sender receiver senderClosed receiverClosed)
    (halfClosed : sender.halfClosed = true) : sender.send.given = payload := by
  obtain ⟨_, result, phase, _⟩ := delivering.orderly.1.transmitted halfClosed
  have sending := delivering.sending
  simp only [Calm, phase] at sending
  rw [sending.1, sending.2.2]

theorem receiver_sent_nothing
    (delivering : Delivering payload sender receiver senderClosed receiverClosed) :
    receiver.send.given = [] := by
  have within := delivering.orderly.2.sends.given_le_taken
  rw [delivering.silent] at within
  exact List.prefix_nil.mp within

theorem receiver_returned
    (delivering : Delivering payload sender receiver senderClosed receiverClosed)
    (returned : sender.returned = true) : receiver.returned = true :=
  delivering.shut.2 (delivering.hearing.ended (delivering.orderly.1.sawEnd returned))

theorem halfClosed_of_ended
    (delivering : Delivering payload sender receiver senderClosed receiverClosed)
    (reading : receiver.receive.phase = .reading)
    (ended : sender.halfClosed = true ∨ senderClosed = true) : sender.halfClosed = true := by
  -- The sender closes only after the receiver has, so a receiver that still reads has only the
  -- sender's `CloseWrite` ahead of it.
  rcases ended with halfClosed | closed
  · exact halfClosed
  · have returned := delivering.receiver_returned (delivering.shut.1 closed)
    have saw := delivering.orderly.2.sawEnd returned
    simp [SawEnd, reading] at saw

theorem sender_steps {terminal : Bool}
    (delivering : Delivering payload sender receiver senderClosed receiverClosed)
    (sends : ∀ copy, event = .send copy → Supplied payload .eof True sender.send copy)
    (hears : ∀ copy, event = .receive copy → Supplied receiver.send.given .eof
      (receiver.halfClosed = true ∨ receiverClosed = true) sender.receive copy)
    (step : PipeStep terminal sender event pipe) :
    Delivering payload pipe receiver senderClosed receiverClosed := by
  have orderly : pipe.Orderly ∧ receiver.Orderly := ⟨delivering.orderly.1.step step, delivering.orderly.2⟩
  have shut := And.intro (fun closed => step.returned_stays (delivering.shut.1 closed)) delivering.shut.2
  cases step with
  | @send copy _ copies =>
      have supplied := sends copy rfl
      refine { delivering with orderly, shut, sent := ?_, sending := ?_, got := ?_ }
      · exact supplied.taken_le delivering.sent copies
      · refine (delivering.sending.step supplied copies).mono fun _ known => ?_
        rcases known with ⟨all, _, same⟩ | ⟨_, all, _⟩
        · rw [same, all]
        · exact all
      · exact delivering.got.trans copies.given_le
  | closeWrite _ _ _ _ =>
      exact { delivering with
        orderly, shut, getting := delivering.getting.mono fun _ known => ⟨rfl, known.2⟩ }
  | stdinDone _ _ _ => exact { delivering with orderly, shut }
  | @receive copy _ copies =>
      have supplied := hears copy rfl
      rw [delivering.receiver_sent_nothing] at supplied
      refine { delivering with orderly, shut, heard := ?_, hearing := ?_ }
      · exact List.prefix_nil.mp (supplied.taken_le (by simp [delivering.heard]) copies)
      · refine (delivering.hearing.step supplied copies).mono fun _ known => ?_
        rcases known with ⟨closed, _⟩ | ⟨_, _, halfClosed | closed⟩
        · exact closed
        · simp [delivering.mute] at halfClosed
        · exact closed
  | returns _ _ _ => exact { delivering with orderly, shut }

theorem receiver_steps {terminal : Bool}
    (delivering : Delivering payload sender receiver senderClosed receiverClosed)
    (sends : ∀ copy, event = .send copy → Supplied [] .eof True receiver.send copy)
    (gets : ∀ copy, event = .receive copy → Supplied sender.send.given .eof
      (sender.halfClosed = true ∨ senderClosed = true) receiver.receive copy)
    (step : PipeStep terminal receiver event pipe) :
    Delivering payload sender pipe senderClosed receiverClosed := by
  have orderly : sender.Orderly ∧ pipe.Orderly := ⟨delivering.orderly.1, delivering.orderly.2.step step⟩
  have shut := And.intro delivering.shut.1 (fun closed => step.returned_stays (delivering.shut.2 closed))
  cases step with
  | @send copy _ copies =>
      refine { delivering with orderly, shut, silent := ?_ }
      exact List.prefix_nil.mp ((sends copy rfl).taken_le (by simp [delivering.silent]) copies)
  | closeWrite _ _ written _ =>
      -- having read nothing from stdin, it has written nothing
      rw [delivering.orderly.2.sends.counts, delivering.receiver_sent_nothing] at written
      exact absurd rfl written
  | stdinDone _ _ _ => exact { delivering with orderly, shut }
  | @receive copy _ copies =>
      have supplied := gets copy rfl
      refine { delivering with orderly, shut, got := ?_, getting := ?_ }
      · exact supplied.taken_le delivering.got copies
      · refine (delivering.getting.step supplied copies).mono fun _ known => ?_
        rcases known with ⟨⟨halfClosed, all⟩, _, same⟩ | ⟨reading, all, ended⟩
        · exact ⟨halfClosed, same.trans all⟩
        · have halfClosed := delivering.halfClosed_of_ended reading ended
          exact ⟨halfClosed, all.trans (delivering.given_of_halfClosed halfClosed)⟩
  | returns _ _ _ => exact { delivering with orderly, shut }

end Delivering

def PipeNet.Delivers (sender : Side) (payload : Bytes) (net : PipeNet) : Prop :=
  Delivering payload (net.ends sender) (net.ends sender.peer) (net.closed sender) (net.closed sender.peer)

theorem delivers_start (sender : Side) (payload : Bytes) : PipeNet.Delivers sender payload {} where
  orderly := ⟨Pipe.orderly_start, Pipe.orderly_start⟩
  shut := by simp
  sent := List.nil_prefix
  sending := rfl
  silent := rfl
  mute := rfl
  got := List.nil_prefix
  getting := rfl
  heard := rfl
  hearing := rfl

theorem delivers_step {after : PipeNet}
    {label : PipeLabel} (delivers : net.Delivers sender payload)
    (undisturbed : Undisturbed (oneWay sender payload) net label)
    (step : PipeNetStep terminal net label after) : after.Delivers sender payload := by
  cases step with
  | @pipe side event pipe steps =>
      rcases Side.eq_or_peer sender side with rfl | rfl
      · simp only [PipeNet.Delivers, Function.update_self, Function.update_of_ne side.peer_ne]
        refine delivers.sender_steps ?_ ?_ steps
        · rintro copy rfl
          simpa [oneWay] using undisturbed.sends
        · rintro copy rfl
          exact undisturbed.1
      · simp only [PipeNet.Delivers, Function.update_self, Function.update_of_ne sender.ne_peer]
        refine delivers.receiver_steps ?_ ?_ steps
        · rintro copy rfl
          simpa [oneWay] using undisturbed.sends
        · rintro copy rfl
          have supplied := undisturbed.1
          rwa [Side.peer_peer] at supplied
  | @close side returned _ =>
      rcases Side.eq_or_peer sender side with rfl | rfl
      · simp only [PipeNet.Delivers, Function.update_self, Function.update_of_ne side.peer_ne]
        exact { delivers with shut := ⟨fun _ => returned, delivers.shut.2⟩ }
      · simp only [PipeNet.Delivers, Function.update_self, Function.update_of_ne sender.ne_peer]
        exact { delivers with
          shut := ⟨delivers.shut.1, fun _ => returned⟩
          hearing := delivers.hearing.mono fun _ _ => rfl }

theorem delivers_of_reach
    (reached : Reach (PipeNetStep terminal) (Undisturbed (oneWay sender payload)) {} net) :
    net.Delivers sender payload :=
  reached.invariant (delivers_start sender payload) fun _ _ _ delivers undisturbed step =>
    delivers_step delivers undisturbed step

/-! Every run ends: a pipe has only so much to do, and until both ends have closed
there is something to do. -/

/-- A step that is not a `Read` of nothing at all. -/
def Busy (stdin : Side → Bytes) (net : PipeNet) (label : PipeLabel) : Prop :=
  Undisturbed stdin net label ∧
    ∀ side, label ≠ .pipe side (.send (.read [] none)) ∧ label ≠ .pipe side (.receive (.read [] none))

def undone (flag : Bool) : Nat := if flag then 0 else 1

def Pipe.work (toSend toReceive : Nat) (pipe : Pipe) : Nat :=
  pipe.send.work toSend + pipe.receive.work toReceive + undone pipe.halfClosed + undone pipe.stdinDone +
    undone pipe.returned

def PipeNet.work (sender : Side) (payload : Bytes) (net : PipeNet) : Nat :=
  (net.ends sender).work payload.length 0 + (net.ends sender.peer).work 0 payload.length +
    undone (net.closed sender) + undone (net.closed sender.peer)

theorem Pipe.work_lt {terminal : Bool} {toSend toReceive : Nat} {after : Pipe}
    (sends : ∀ copy send, event = .send copy → CopyStep pipe.send copy send →
      send.work toSend < pipe.send.work toSend)
    (receives : ∀ copy receive, event = .receive copy → CopyStep pipe.receive copy receive →
      receive.work toReceive < pipe.receive.work toReceive)
    (step : PipeStep terminal pipe event after) :
    after.work toSend toReceive < pipe.work toSend toReceive := by
  cases step with
  | send copies =>
      have less := sends _ _ rfl copies
      simp only [Pipe.work]
      omega
  | closeWrite _ _ _ unclosed => simp [Pipe.work, undone, unclosed]
  | stdinDone _ _ undoneYet => simp [Pipe.work, undone, undoneYet]
  | receive copies =>
      have less := receives _ _ rfl copies
      simp only [Pipe.work]
      omega
  | returns _ _ unreturned => simp [Pipe.work, undone, unreturned]

theorem delivers_work_lt {after : PipeNet}
    {label : PipeLabel} (delivers : net.Delivers sender payload)
    (busy : Busy (oneWay sender payload) net label) (step : PipeNetStep terminal net label after) :
    after.work sender payload < net.work sender payload := by
  obtain ⟨undisturbed, moves⟩ := busy
  cases step with
  | @pipe side event pipe steps =>
      rcases Side.eq_or_peer sender side with rfl | rfl
      · have less : pipe.work payload.length 0 < (net.ends side).work payload.length 0 := by
          refine Pipe.work_lt ?_ ?_ steps
          · rintro copy send rfl copies
            refine undisturbed.sends.work_lt (by simp [oneWay]) (fun idle => ?_) copies
            exact (moves side).1 (by rw [idle])
          · rintro copy receive rfl copies
            have supplied := undisturbed.1
            -- nothing comes back the other way
            rw [delivers.receiver_sent_nothing] at supplied
            refine supplied.work_lt List.prefix_rfl (fun idle => ?_) copies
            exact (moves side).2 (by rw [idle])
        simp only [PipeNet.work, Function.update_self, Function.update_of_ne side.peer_ne]
        omega
      · have less : pipe.work 0 payload.length < (net.ends sender.peer).work 0 payload.length := by
          refine Pipe.work_lt ?_ ?_ steps
          · rintro copy send rfl copies
            have supplied := undisturbed.sends
            rw [oneWay, if_neg sender.peer_ne] at supplied
            refine supplied.work_lt List.prefix_rfl (fun idle => ?_) copies
            exact (moves sender.peer).1 (by rw [idle])
          · rintro copy receive rfl copies
            have supplied := undisturbed.1
            rw [Side.peer_peer] at supplied
            have within := delivers.orderly.1.sends.given_le_taken.trans delivers.sent
            refine supplied.work_lt within (fun idle => ?_) copies
            exact (moves sender.peer).2 (by rw [idle])
        simp only [PipeNet.work, Function.update_self, Function.update_of_ne sender.ne_peer]
        omega
  | @close side _ unclosed =>
      rcases Side.eq_or_peer sender side with rfl | rfl
      · simp [PipeNet.work, undone, unclosed]
      · simp [PipeNet.work, undone, unclosed]

theorem delivers_terminates (delivers : net.Delivers sender payload) :
    Terminates (PipeNetStep terminal) (Busy (oneWay sender payload)) net :=
  terminates_of_measure (PipeNet.work sender payload)
    (fun _ _ _ before busy step => delivers_step before busy.1 step)
    (fun _ _ _ before busy step => delivers_work_lt before busy step) delivers

theorem Delivering.halfClosed_of_returned {sender receiver : Pipe}
    {senderClosed receiverClosed : Bool}
    (delivering : Delivering payload sender receiver senderClosed receiverClosed)
    (returned : receiver.returned = true) :
    sender.halfClosed = true ∧ receiver.receive.taken = payload :=
  delivering.getting.ended (delivering.orderly.2.sawEnd returned)

def CanGo (terminal : Side → Bool) (stdin : Side → Bytes) (net : PipeNet) : Prop :=
  ∃ label after, Busy stdin net label ∧ PipeNetStep terminal net label after

theorem canGo_sends
    (below : (net.ends side).send.taken <+: stdin side) (unclosed : net.closed side = false)
    (unreturned : ∀ err, (net.ends side).send.phase ≠ .returned err) :
    CanGo terminal stdin net := by
  obtain ⟨copy, after, supplied, moves, copies⟩ :=
    Copier.can_step .eof below (fun _ _ => trivial) unreturned
  refine ⟨.pipe side (.send copy), _, ⟨?_, ?_⟩, PipeNetStep.pipe (PipeStep.send copies)⟩
  · cases copy with
    | read data er => exact supplied
    | write nw ew => exact ⟨supplied, unclosed⟩
  · intro other
    simp [moves]

theorem canGo_receives (below : (net.ends side).receive.taken <+: (net.ends side.peer).send.given)
    (ended : net.Ended side.peer) (unclosed : net.closed side = false)
    (unreturned : ∀ err, (net.ends side).receive.phase ≠ .returned err) :
    CanGo terminal stdin net := by
  obtain ⟨copy, after, supplied, moves, copies⟩ :=
    Copier.can_step .eof below (fun _ _ => ended) unreturned
  refine ⟨.pipe side (.receive copy), _, ⟨⟨supplied, unclosed⟩, ?_⟩,
    PipeNetStep.pipe (PipeStep.receive copies)⟩
  intro other
  simp [moves]

theorem canGo_closes
    {result : Option Err} (returned : (net.ends side).receive.phase = .returned result)
    (unclosed : net.closed side = false) : CanGo terminal stdin net := by
  cases called : (net.ends side).returned with
  | true => exact ⟨.close side, _, ⟨trivial, by simp⟩, PipeNetStep.close called unclosed⟩
  | false =>
      cases isTerminal : terminal side with
      | true =>
          exact ⟨.pipe side (.returns .terminal), _, ⟨trivial, by simp⟩,
            PipeNetStep.pipe (PipeStep.returns returned isTerminal called)⟩
      | false =>
          exact ⟨.pipe side (.returns .flushGrace), _, ⟨trivial, by simp⟩,
            PipeNetStep.pipe (PipeStep.returns returned isTerminal called)⟩

theorem CopyPhase.returned_or (phase : CopyPhase) :
    (∃ err, phase = .returned err) ∨ ∀ err, phase ≠ .returned err := by
  cases phase with
  | reading => simp
  | writing data er => simp
  | returned err => exact Or.inl ⟨err, rfl⟩

theorem delivers_can_go (nonempty : payload ≠ [])
    (delivers : net.Delivers sender payload) (unfinished : ¬ ∀ side, net.closed side = true) :
    CanGo terminal (oneWay sender payload) net := by
  -- The payload is sent, then ended, then received; the receiver closes and, after it, the sender.
  have below : (net.ends sender).send.taken <+: oneWay sender payload sender := by
    simpa [oneWay] using delivers.sent
  cases halfClosed : (net.ends sender).halfClosed with
  | false =>
      have unclosed : net.closed sender = false := by
        rw [Bool.eq_false_iff]
        intro closed
        have returned := delivers.receiver_returned (delivers.shut.1 closed)
        simp [(delivers.halfClosed_of_returned returned).1] at halfClosed
      rcases (net.ends sender).send.phase.returned_or with ⟨err, returned⟩ | unreturned
      · have sending := delivers.sending
        simp only [Calm, returned] at sending
        obtain ⟨whole, result, all⟩ := sending
        have written : (net.ends sender).send.written ≠ 0 := by
          rw [delivers.orderly.1.sends.counts, whole, all]
          simpa using nonempty
        refine ⟨.pipe sender (.closeWrite none), _, ⟨rfl, by simp⟩,
          PipeNetStep.pipe (PipeStep.closeWrite returned ?_ written halfClosed)⟩
        rw [result]
        rfl
      · exact canGo_sends below unclosed unreturned
  | true =>
      cases receiverClosed : net.closed sender.peer with
      | false =>
          rcases (net.ends sender.peer).receive.phase.returned_or with ⟨err, returned⟩ | unreturned
          · exact canGo_closes returned receiverClosed
          · have peer : sender.peer.peer = sender := Side.peer_peer sender
            refine canGo_receives ?_ (Or.inl ?_) receiverClosed unreturned
            · rw [peer]
              exact delivers.got
            · rw [peer]
              exact halfClosed
      | true =>
          have unclosed : net.closed sender = false := by
            rw [Bool.eq_false_iff]
            intro closed
            apply unfinished
            intro side
            rcases Side.eq_or_peer sender side with rfl | rfl
            · exact closed
            · exact receiverClosed
          rcases (net.ends sender).receive.phase.returned_or with ⟨err, returned⟩ | unreturned
          · exact canGo_closes returned unclosed
          · refine canGo_receives ?_ (Or.inr receiverClosed) unclosed unreturned
            rw [delivers.heard]
            exact List.nil_prefix

/-- A one-way transfer over a connection with half-close. The receiver's output
is a prefix of the payload, and all of it when the receiver returns, which it
does only after the sender's end of stream; it never half-closes; the sender
returns, and so closes, only after the receiver has read the whole payload. No
run goes on for ever, and one that can go no further has closed both ends. -/
theorem pipe_delivers_one_way (terminal : Side → Bool) (sender : Side) {payload : Bytes}
    (nonempty : payload ≠ []) {net : PipeNet}
    (reached : Reach (PipeNetStep terminal) (Undisturbed (oneWay sender payload)) {} net) :
    (net.ends sender.peer).report.output <+: payload ∧
    ((net.ends sender.peer).returned = true → (net.ends sender.peer).report.output = payload ∧
      SawEnd (net.ends sender.peer).receive ∧ (net.ends sender).halfClosed = true) ∧
    (net.ends sender.peer).halfClosed = false ∧
    ((net.ends sender).returned = true → (net.ends sender.peer).receive.taken = payload) ∧
    (∀ side, net.closed side = true → (net.ends side).returned = true) ∧
    Terminates (PipeNetStep terminal) (Busy (oneWay sender payload)) net ∧
    (CanGo terminal (oneWay sender payload) net ∨ ∀ side, net.closed side = true) := by
  have delivers := delivers_of_reach reached
  have within := delivers.orderly.2.receives.given_le_taken
  refine ⟨?_, ?_, delivers.mute, ?_, ?_, delivers_terminates delivers, ?_⟩
  · exact within.trans (delivers.got.trans (delivers.orderly.1.sends.given_le_taken.trans delivers.sent))
  · intro returned
    obtain ⟨halfClosed, all⟩ := delivers.halfClosed_of_returned returned
    refine ⟨?_, delivers.orderly.2.sawEnd returned, halfClosed⟩
    obtain ⟨result, phase⟩ := delivers.orderly.2.received returned
    have getting := delivers.getting
    simp only [Calm, phase] at getting
    exact getting.1.trans all
  · intro returned
    exact (delivers.halfClosed_of_returned (delivers.receiver_returned returned)).2
  · intro side closed
    rcases Side.eq_or_peer sender side with rfl | rfl
    · exact delivers.shut.1 closed
    · exact delivers.shut.2 closed
  · by_cases finished : ∀ side, net.closed side = true
    · exact Or.inr finished
    · exact Or.inl (delivers_can_go nonempty delivers finished)

theorem single_byte_delivered : ∃ net : PipeNet,
    Reach (PipeNetStep fun _ => false) (Undisturbed (oneWay .client [7])) {} net ∧
      (net.ends .server).returned = true ∧ (net.ends .server).report.output = [7] := by
  obtain ⟨net, reached, returned⟩ : ∃ net : PipeNet,
      Reach (PipeNetStep fun _ => false) (Undisturbed (oneWay .client [7])) {} net ∧
        (net.ends .server).returned = true := by
    have start : Reach (PipeNetStep fun _ => false) (Undisturbed (oneWay .client [7])) {} {} := .here
    have read := start.take (.pipe .client (.send (.read [7] none))) ⟨by decide, Or.inl rfl⟩
      (.pipe (.send (.read rfl (by decide))))
    have sent :=
      read.take (.pipe .client (.send (.write ([7] : Bytes).length none))) ⟨supplied_write rfl, rfl⟩
      (.pipe (.send (.write rfl)))
    have drained := sent.take (.pipe .client (.send (.read [] (some .eof))))
      ⟨by decide, Or.inr ⟨rfl, rfl, trivial⟩⟩ (.pipe (.send (.read rfl (by decide))))
    have ended := drained.take (.pipe .client (.closeWrite none)) rfl
      (.pipe (.closeWrite rfl rfl (by decide) rfl))
    have got := ended.take (.pipe .server (.receive (.read [7] none))) ⟨⟨by decide, Or.inl rfl⟩, rfl⟩
      (.pipe (.receive (.read rfl (by decide))))
    have put := got.take (.pipe .server (.receive (.write ([7] : Bytes).length none)))
      ⟨supplied_write rfl, rfl⟩
      (.pipe (.receive (.write rfl)))
    have saw := put.take (.pipe .server (.receive (.read [] (some .eof))))
      ⟨⟨by decide, Or.inr ⟨rfl, rfl, Or.inl rfl⟩⟩, rfl⟩ (.pipe (.receive (.read rfl (by decide))))
    exact ⟨_, saw.take (.pipe .server (.returns .flushGrace)) trivial (.pipe (.returns rfl rfl rfl)), rfl⟩
  exact ⟨net, reached, returned,
    ((pipe_delivers_one_way (fun _ => false) .client (by decide) reached).2.1 returned).1⟩

end SyncthingSocket
