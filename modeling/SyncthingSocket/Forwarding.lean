import SyncthingSocket.Pipe
import Mathlib.Logic.Function.Basic

/-!
The four places that join two connections by two copy loops: `handleForwardConn`, `pipeConns` in
`runSocksClient`, `runReverseForwardServer` and `runReverseForwardClient`. Each closes both
connections after one result on `errChan`.
-/

namespace SyncthingSocket

open Effect Framing

/-- The two ends that are joined: the remote peer, and the client or the service on
this machine. -/
inductive Party
  | remote
  | service
  deriving DecidableEq, Repr

def Party.other : Party → Party
  | remote => service
  | service => remote

theorem Party.other_ne (party : Party) : party.other ≠ party := by
  cases party <;> decide

@[simp] theorem Party.other_other (party : Party) : party.other.other = party := by
  cases party <;> rfl

theorem Party.eq_or_other (party chosen : Party) : party = chosen ∨ party = chosen.other := by
  cases party <;> cases chosen <;> decide

/-- What the four do differently: what they log about a failed copy, and the order in
which the connections are closed. -/
structure Teardown where
  message : Option String
  closing : List Party
  deriving DecidableEq, Repr

def handleForwardConnTeardown : Teardown :=
  ⟨some "Forward connection closed with error", [.remote, .service]⟩

def pipeConnsTeardown : Teardown := ⟨some "Multiplexed stream closed", [.remote, .service]⟩

def runReverseForwardServerTeardown : Teardown := ⟨none, [.remote, .service]⟩

def runReverseForwardClientTeardown : Teardown := ⟨none, [.service, .remote]⟩

def teardowns : List Teardown :=
  [handleForwardConnTeardown, pipeConnsTeardown, runReverseForwardServerTeardown,
    runReverseForwardClientTeardown]

def Teardown.log (teardown : Teardown) (err : Option Err) : List (String × Option Err) :=
  match teardown.message with
  | some message => if isFailure err then [(message, err)] else []
  | none => []

/-- `copy party` reads from that party and writes to the other. -/
structure Splice where
  copy : Party → Copier := fun _ => {}
  sent : Party → Bool := fun _ => false
  errChan : List (Option Err) := []
  received : Bool := false
  logged : List (String × Option Err) := []
  closed : List Party := []

def Splice.withCopy (splice : Splice) (party : Party) (copier : Copier) : Splice :=
  { splice with copy := Function.update splice.copy party copier }

@[simp] theorem Splice.withCopy_self (splice : Splice) (party : Party) (copier : Copier) :
    (splice.withCopy party copier).copy party = copier := by
  simp [Splice.withCopy]

@[simp] theorem Splice.withCopy_other (splice : Splice) (party : Party) (copier : Copier) :
    (splice.withCopy party copier).copy party.other = splice.copy party.other := by
  simp [Splice.withCopy, party.other_ne]

inductive SpliceLabel
  | copies (party : Party) (event : CopyEvent)
  | sends (party : Party)
  | receives
  | closes (party : Party)
  deriving DecidableEq, Repr

inductive SpliceStep (teardown : Teardown) : Splice → SpliceLabel → Splice → Prop
  | copies {splice : Splice} {party : Party} {event : CopyEvent} {copier : Copier} :
      CopyStep (splice.copy party) event copier →
      SpliceStep teardown splice (.copies party event) (splice.withCopy party copier)
  | sends {splice : Splice} {party : Party} {err : Option Err} :
      (splice.copy party).phase = .returned err → splice.sent party = false → splice.errChan.length < 2 →
      SpliceStep teardown splice (.sends party) { splice with
        sent := Function.update splice.sent party true, errChan := splice.errChan ++ [err] }
  | receives {splice : Splice} {err : Option Err} {rest : List (Option Err)} :
      splice.received = false → splice.errChan = err :: rest →
      SpliceStep teardown splice .receives { splice with
        errChan := rest, received := true, logged := splice.logged ++ teardown.log err }
  | closes {splice : Splice} {party : Party} {rest : List Party} :
      splice.received = true → teardown.closing = splice.closed ++ party :: rest →
      SpliceStep teardown splice (.closes party) { splice with closed := splice.closed ++ [party] }

/-! Each party sends its stream and then ends it, and no read or write fails before a
connection is closed. -/

def Peaceful (streams : Party → Bytes) (splice : Splice) : SpliceLabel → Prop
  | .copies party event =>
      if splice.closed = [] then Supplied (streams party) .eof True (splice.copy party) event
      else ∀ data er, event = .read data er → (splice.copy party).taken ++ data <+: streams party
  | _ => True

def Splice.Delivered (streams : Party → Bytes) (splice : Splice) : Prop :=
  splice.closed ≠ [] → ∀ party, (splice.copy party).given = streams party

def Staggered (streams : Party → Bytes) (splice : Splice) : SpliceLabel → Prop
  | .copies party (.read _ (some _)) =>
      splice.closed = [] → (splice.copy party.other).given = streams party.other
  | _ => True

/-- What the runs keep, and what they keep when they are `staggered`. -/
structure Splicing (teardown : Teardown) (streams : Party → Bytes) (staggered : Prop) (splice : Splice) :
    Prop where
  faithful : ∀ party, Faithful (splice.copy party)
  taken_le : ∀ party, (splice.copy party).taken <+: streams party
  calm : splice.closed = [] → ∀ party, Calm .eof ((splice.copy party).taken = streams party ∧
    (staggered → (splice.copy party.other).given = streams party.other)) (splice.copy party)
  returned : ∀ party, splice.sent party = true → ∃ err, (splice.copy party).phase = .returned err
  tally : ∀ party, splice.errChan.length + splice.received.toNat =
    (splice.sent party).toNat + (splice.sent party.other).toNat
  ordered : splice.closed <+: teardown.closing
  torn : splice.closed ≠ [] → splice.received = true
  delivered : staggered → splice.Delivered streams

variable {copier : Copier} {event : CopyEvent} {party : Party} {after splice : Splice}
  {label : SpliceLabel}

theorem given_whole {source : Bytes} {after : Copier} (faithful : Faithful after)
    (within : after.taken <+: source) (step : CopyStep copier event after)
    (whole : copier.given = source) :
    after.given = source := by
  have grown := whole ▸ step.given_le
  exact (faithful.given_le_taken.trans within).eq_of_length_le grown.length_le

theorem Peaceful.taken_le {streams : Party → Bytes}
    (peaceful : Peaceful streams splice (.copies party event))
    (below : (splice.copy party).taken <+: streams party)
    (step : CopyStep (splice.copy party) event copier) : copier.taken <+: streams party := by
  simp only [Peaceful] at peaceful
  split at peaceful
  · exact peaceful.taken_le below step
  · cases step with
    | read _ _ =>
        rw [Copier.afterRead_taken]
        exact peaceful _ _ rfl
    | write _ =>
        rw [Copier.afterWrite_taken]
        exact below

theorem Peaceful.supplied {streams : Party → Bytes} {staggered : Prop}
    (peaceful : Peaceful streams splice (.copies party event))
    (timed : staggered → Staggered streams splice (.copies party event))
    (unclosed : splice.closed = []) :
    Supplied (streams party) .eof
      (staggered → (splice.copy party.other).given = streams party.other) (splice.copy party) event := by
  simp only [Peaceful, if_pos unclosed] at peaceful
  cases event with
  | write nw ew => exact peaceful
  | read data er =>
      refine ⟨peaceful.1, peaceful.2.imp_right ?_⟩
      rintro ⟨rfl, all, _⟩
      exact ⟨rfl, all, fun holds => timed holds unclosed⟩

theorem splicing_start (teardown : Teardown) (streams : Party → Bytes) (staggered : Prop) :
    Splicing teardown streams staggered {} where
  faithful _ := faithful_start
  taken_le _ := List.nil_prefix
  calm _ _ := rfl
  returned _ sent := by simp at sent
  tally _ := rfl
  ordered := List.nil_prefix
  torn closed := absurd rfl closed
  delivered _ closed := absurd rfl closed

section Preservation

variable {teardown : Teardown} {streams : Party → Bytes} {staggered : Prop} {splice : Splice}

theorem Splicing.copies (splicing : Splicing teardown streams staggered splice)
    (peaceful : Peaceful streams splice (.copies party event))
    (timed : staggered → Staggered streams splice (.copies party event))
    (step : CopyStep (splice.copy party) event copier) :
    Splicing teardown streams staggered (splice.withCopy party copier) := by
  obtain ⟨faithful, taken_le, calm, returned, tally, ordered, torn, delivered⟩ := splicing
  have copied : Faithful copier := faithful_step (faithful party) step
  have within : copier.taken <+: streams party := peaceful.taken_le (taken_le party) step
  constructor
  · intro chosen
    rcases chosen.eq_or_other party with rfl | rfl
    · simpa using copied
    · simpa using faithful party.other
  · intro chosen
    rcases chosen.eq_or_other party with rfl | rfl
    · simpa using within
    · simpa using taken_le party.other
  · intro unclosed chosen
    -- the copy that moves may learn of its end now; the other one stands still, but what its end
    -- waits for may have come true
    have supplied := peaceful.supplied timed unclosed
    rcases chosen.eq_or_other party with rfl | rfl
    · have ended := (calm unclosed chosen).step supplied step
      simp only [Splice.withCopy_self, Splice.withCopy_other]
      refine ended.mono ?_
      rintro _ (⟨⟨all, opposite⟩, _, same⟩ | ⟨_, all, opposite⟩)
      · exact ⟨same ▸ all, opposite⟩
      · exact ⟨all, opposite⟩
    · simp only [Splice.withCopy_other, Party.other_other, Splice.withCopy_self]
      refine (calm unclosed party.other).mono ?_
      rintro _ ⟨all, opposite⟩
      rw [Party.other_other] at opposite
      exact ⟨all, fun holds => given_whole copied within step (opposite holds)⟩
  · intro chosen sent
    obtain ⟨err, phase⟩ := returned chosen sent
    refine ⟨err, ?_⟩
    rcases chosen.eq_or_other party with rfl | rfl
    · exact absurd phase (step.unreturned err)
    · simpa using phase
  · exact tally
  · exact ordered
  · exact torn
  · intro holds closed chosen
    rcases chosen.eq_or_other party with rfl | rfl
    · simpa using given_whole copied within step (delivered holds closed chosen)
    · simpa using delivered holds closed party.other

theorem Splicing.sends {err : Option Err} (splicing : Splicing teardown streams staggered splice)
    (phase : (splice.copy party).phase = .returned err) (unsent : splice.sent party = false) :
    Splicing teardown streams staggered { splice with
      sent := Function.update splice.sent party true, errChan := splice.errChan ++ [err] } := by
  obtain ⟨faithful, taken_le, calm, returned, tally, ordered, torn, delivered⟩ := splicing
  refine ⟨faithful, taken_le, calm, ?_, ?_, ordered, torn, delivered⟩
  · intro chosen sent
    rcases chosen.eq_or_other party with rfl | rfl
    · exact ⟨err, phase⟩
    · exact returned party.other (by simpa [party.other_ne] using sent)
  · intro chosen
    have before := tally party
    simp only [unsent, Bool.toNat_false] at before
    rcases chosen.eq_or_other party with rfl | rfl
    · simp only [List.length_append, List.length_singleton, Function.update_self,
        Function.update_of_ne chosen.other_ne, Bool.toNat_true]
      omega
    · simp only [List.length_append, List.length_singleton, Party.other_other, Function.update_self,
        Function.update_of_ne party.other_ne, Bool.toNat_true]
      omega

theorem Splicing.received_delivered (splicing : Splicing teardown streams staggered splice)
    (received : splice.received = true) (holds : staggered) (party : Party) :
    (splice.copy party).given = streams party := by
  by_cases unclosed : splice.closed = []
  · obtain ⟨sender, sent⟩ : ∃ sender, splice.sent sender = true := by
      have tally := splicing.tally .remote
      by_contra unsent
      simp only [not_exists, Bool.not_eq_true] at unsent
      simp [received, unsent] at tally
    obtain ⟨err, phase⟩ := splicing.returned sender sent
    have calm := splicing.calm unclosed sender
    simp only [Calm, phase] at calm
    obtain ⟨whole, _, all, opposite⟩ := calm
    rcases party.eq_or_other sender with rfl | rfl
    · rw [whole, all]
    · exact opposite holds
  · exact splicing.delivered holds unclosed party

theorem Splicing.step (splicing : Splicing teardown streams staggered splice)
    (peaceful : Peaceful streams splice label)
    (timed : staggered → Staggered streams splice label)
    (step : SpliceStep teardown splice label after) :
    Splicing teardown streams staggered after := by
  cases step with
  | copies copy => exact splicing.copies peaceful timed copy
  | sends phase unsent _ => exact splicing.sends phase unsent
  | @receives err rest waiting queued =>
      obtain ⟨faithful, taken_le, calm, returned, tally, ordered, torn, delivered⟩ := splicing
      refine ⟨faithful, taken_le, calm, returned, ?_, ordered, fun _ => rfl, delivered⟩
      intro party
      have before := tally party
      simp only [waiting, queued, List.length_cons, Bool.toNat_false, Bool.toNat_true] at before ⊢
      omega
  | @closes party rest received next =>
      have all := splicing.received_delivered received
      obtain ⟨faithful, taken_le, calm, returned, tally, ordered, torn, delivered⟩ := splicing
      refine ⟨faithful, taken_le, ?_, returned, tally, ⟨rest, ?_⟩, fun _ => received,
        fun holds _ => all holds⟩
      · intro unclosed
        simp at unclosed
      · rw [next, List.append_assoc, List.singleton_append]

/-! Every run ends, and none stops before it has closed both connections. -/

def SpliceLabel.Busy : SpliceLabel → Prop
  | .copies _ event => event ≠ .read [] none
  | _ => True

def Splice.left (streams : Party → Bytes) (splice : Splice) (party : Party) : Nat :=
  (splice.copy party).work (streams party).length + (!splice.sent party).toNat

def Splice.work (teardown : Teardown) (streams : Party → Bytes) (splice : Splice) : Nat :=
  splice.left streams .remote + splice.left streams .service + (!splice.received).toNat +
    (teardown.closing.length - splice.closed.length)

theorem Splice.work_eq (teardown : Teardown) (streams : Party → Bytes) (splice : Splice)
    (party : Party) :
    splice.work teardown streams = splice.left streams party + splice.left streams party.other +
      (!splice.received).toNat + (teardown.closing.length - splice.closed.length) := by
  cases party with
  | remote => rfl
  | service =>
      rw [Splice.work, Nat.add_comm (splice.left streams .remote)]
      rfl

theorem Peaceful.within
    (peaceful : Peaceful streams splice (.copies party event)) (data : Bytes) (er : Option Err)
    (read : event = .read data er) : (splice.copy party).taken ++ data <+: streams party := by
  simp only [Peaceful] at peaceful
  split at peaceful
  · subst read
    exact peaceful.1
  · exact peaceful data er read

theorem SpliceStep.work_lt (peaceful : Peaceful streams splice label)
    (busy : label.Busy) (step : SpliceStep teardown splice label after) :
    after.work teardown streams < splice.work teardown streams := by
  cases step with
  | @copies party event copier copy =>
      have less := copy.work_lt peaceful.within busy
      rw [Splice.work_eq _ _ splice party, Splice.work_eq _ _ _ party]
      simp only [Splice.left, Splice.withCopy_self, Splice.withCopy_other]
      simp only [Splice.withCopy]
      omega
  | @sends party err _ unsent _ =>
      rw [Splice.work_eq _ _ splice party, Splice.work_eq _ _ _ party]
      simp only [Splice.left, Function.update_self, Function.update_of_ne party.other_ne, unsent,
        Bool.not_false, Bool.not_true, Bool.toNat_true, Bool.toNat_false]
      omega
  | receives waiting _ =>
      simp only [Splice.work, Splice.left, waiting, Bool.not_false, Bool.not_true, Bool.toNat_true,
        Bool.toNat_false]
      omega
  | @closes party rest _ next =>
      have lengths : teardown.closing.length = splice.closed.length + (rest.length + 1) := by
        rw [next, List.length_append, List.length_cons]
      simp only [Splice.work, Splice.left, List.length_append, List.length_singleton]
      omega

theorem Splicing.unsent (splicing : Splicing teardown streams staggered splice)
    (queued : splice.errChan = []) (received : splice.received = false) (party : Party) :
    splice.sent party = false := by
  have tally := splicing.tally party
  simp only [queued, received, List.length_nil, Bool.toNat_false] at tally
  cases sent : splice.sent party with
  | false => rfl
  | true =>
      rw [sent, Bool.toNat_true] at tally
      omega

def Splice.CanGo (teardown : Teardown) (streams : Party → Bytes) (splice : Splice) : Prop :=
  ∃ label after, (Peaceful streams splice label ∧ Staggered streams splice label ∧ label.Busy) ∧
    SpliceStep teardown splice label after

theorem canGo_copies (unclosed : splice.closed = []) (party : Party)
    (below : (splice.copy party).taken <+: streams party)
    (stops : (splice.copy party).phase = .reading → (splice.copy party).taken = streams party →
      (splice.copy party.other).given = streams party.other)
    (unreturned : ∀ err, (splice.copy party).phase ≠ .returned err) :
    splice.CanGo teardown streams := by
  obtain ⟨event, after, supplied, moves, copies⟩ := Copier.can_step .eof below stops unreturned
  refine ⟨.copies party event, _, ⟨?_, ?_, moves⟩, SpliceStep.copies copies⟩
  · rw [Peaceful, if_pos unclosed]
    cases event with
    | write nw ew => exact supplied
    | read data er =>
        exact ⟨supplied.1, supplied.2.imp_right fun stopped => ⟨stopped.1, stopped.2.1, trivial⟩⟩
  · cases event with
    | write nw ew => trivial
    | read data er =>
        cases er with
        | none => trivial
        | some err =>
            intro _
            rcases supplied.2 with absent | stopped
            · simp at absent
            · exact stopped.2.2

theorem Splicing.canGo (splicing : Splicing teardown streams True splice)
    (unfinished : splice.closed ≠ teardown.closing) : splice.CanGo teardown streams := by
  cases received : splice.received with
  | true =>
      obtain ⟨rest, split⟩ := splicing.ordered
      cases rest with
      | nil => exact absurd (by simpa using split) unfinished
      | cons party rest =>
          exact ⟨.closes party, _, ⟨trivial, trivial, trivial⟩, SpliceStep.closes received split.symm⟩
  | false =>
      have unclosed : splice.closed = [] := by
        by_contra closed
        simp [splicing.torn closed] at received
      cases queued : splice.errChan with
      | cons err rest =>
          exact ⟨.receives, _, ⟨trivial, trivial, trivial⟩, SpliceStep.receives received queued⟩
      | nil =>
          by_cases finished : ∃ party err, (splice.copy party).phase = .returned err
          · obtain ⟨party, err, phase⟩ := finished
            have unsent := splicing.unsent queued received party
            exact ⟨.sends party, _, ⟨trivial, trivial, trivial⟩,
              SpliceStep.sends phase unsent (by simp [queued])⟩
          · have unreturned : ∀ party err, (splice.copy party).phase ≠ .returned err :=
              fun party err phase => finished ⟨party, err, phase⟩
            by_cases through : (splice.copy .service).given = streams .service
            · exact canGo_copies unclosed .remote (splicing.taken_le _) (fun _ _ => through)
                (unreturned _)
            · refine canGo_copies unclosed .service (splicing.taken_le _) ?_ (unreturned _)
              intro reading all
              have whole := (splicing.faithful .service).balance
              simp only [reading] at whole
              exact absurd (whole.trans all) through

/-! An end that is read too early can lose the rest of the opposite stream. -/

def Splice.Loses (teardown : Teardown) (streams : Party → Bytes) (splice : Splice) : Prop :=
  ∃ later, Reach (SpliceStep teardown) (Peaceful streams) splice later ∧ ¬ later.Delivered streams

theorem Splice.loses_after (label : SpliceLabel) (peaceful : Peaceful streams splice label)
    (step : SpliceStep teardown splice label after) (loses : after.Loses teardown streams) :
    splice.Loses teardown streams := by
  obtain ⟨later, reached, lost⟩ := loses
  exact ⟨later, (Reach.here.take label peaceful step).trans reached, lost⟩

theorem loses_received (closes : teardown.closing ≠ []) (unclosed : splice.closed = [])
    (received : splice.received = true) (missing : (splice.copy party).given ≠ streams party) :
    splice.Loses teardown streams := by
  obtain ⟨first, rest, order⟩ := List.exists_cons_of_ne_nil closes
  have next : teardown.closing = splice.closed ++ first :: rest := by
    rw [unclosed, order, List.nil_append]
  refine ⟨_, Reach.here.take (.closes first) trivial (SpliceStep.closes received next), ?_⟩
  intro delivered
  exact missing (delivered (by simp) party)

theorem loses_queued {err : Option Err} {rest : List (Option Err)}
    (closes : teardown.closing ≠ []) (unclosed : splice.closed = [])
    (queued : splice.errChan = err :: rest) (missing : (splice.copy party).given ≠ streams party) :
    splice.Loses teardown streams := by
  cases received : splice.received with
  | true => exact loses_received closes unclosed received missing
  | false =>
      exact Splice.loses_after .receives trivial (SpliceStep.receives received queued)
        (loses_received closes unclosed rfl missing)

theorem Splicing.loses_returned (party missed : Party)
    (splicing : Splicing teardown streams staggered splice) (closes : teardown.closing ≠ [])
    (unclosed : splice.closed = []) (returned : ∃ err, (splice.copy party).phase = .returned err)
    (missing : (splice.copy missed).given ≠ streams missed) : splice.Loses teardown streams := by
  obtain ⟨err, phase⟩ := returned
  cases queued : splice.errChan with
  | cons result rest => exact loses_queued closes unclosed queued missing
  | nil =>
      cases received : splice.received with
      | true => exact loses_received closes unclosed received missing
      | false =>
          have unsent := splicing.unsent queued received party
          refine Splice.loses_after (.sends party) trivial
            (SpliceStep.sends phase unsent (by simp [queued])) ?_
          exact loses_queued closes unclosed (by rw [queued, List.nil_append]) missing

theorem Copier.afterRead_phase (copier : Copier) (data : Bytes) (err : Err) :
    (copier.afterRead data (some err)).phase = .writing data (some err) ∨
      (copier.afterRead data (some err)).phase = .returned (if err ≠ .eof then some err else none) := by
  rw [Copier.afterRead]
  split
  · exact Or.inl rfl
  · exact Or.inr rfl

theorem Splicing.loses_writing {data : Bytes} {err : Err}
    (splicing : Splicing teardown streams False splice) (closes : teardown.closing ≠ [])
    (unclosed : splice.closed = []) (phase : (splice.copy party).phase = .writing data (some err))
    (missing : (splice.copy party.other).given ≠ streams party.other) :
    splice.Loses teardown streams := by
  have peaceful : Peaceful streams splice (.copies party (.write data.length none)) := by
    rw [Peaceful, if_pos unclosed]
    exact supplied_write phase
  have step : SpliceStep teardown splice (.copies party (.write data.length none)) _ :=
    SpliceStep.copies (CopyStep.write phase)
  refine Splice.loses_after _ peaceful step ?_
  have stepped := splicing.step peaceful False.elim step
  refine stepped.loses_returned party party.other closes unclosed ?_ ?_
  · rw [Splice.withCopy_self, Copier.afterWrite_whole]
    exact ⟨_, rfl⟩
  · simpa using missing

theorem Splicing.loses_early_end
    (splicing : Splicing teardown streams False splice) (closes : teardown.closing ≠ [])
    (peaceful : Peaceful streams splice label) (early : ¬ Staggered streams splice label)
    (step : SpliceStep teardown splice label after) : after.Loses teardown streams := by
  have stepped : Splicing teardown streams False after := splicing.step peaceful False.elim step
  cases step with
  | sends _ _ _ => exact absurd trivial early
  | receives _ _ => exact absurd trivial early
  | closes _ _ => exact absurd trivial early
  | @copies party event copier copy =>
      cases copy with
      | write _ => exact absurd trivial early
      | @read data er reading fits =>
          cases er with
          | none => exact absurd trivial early
          | some err =>
              obtain ⟨unclosed, missing⟩ := Classical.not_imp.mp early
              have still : ((splice.withCopy party ((splice.copy party).afterRead data (some err))).copy
                  party.other).given ≠ streams party.other := by simpa using missing
              rcases (splice.copy party).afterRead_phase data err with writing | returned
              · exact stepped.loses_writing closes unclosed (by rw [Splice.withCopy_self, writing]) still
              · exact stepped.loses_returned party party.other closes unclosed
                  ⟨_, by rw [Splice.withCopy_self, returned]⟩ still

end Preservation

theorem splicing_reached {teardown : Teardown} {streams : Party → Bytes} {staggered : Prop}
    (reached : Reach (SpliceStep teardown) (fun splice label =>
      Peaceful streams splice label ∧ (staggered → Staggered streams splice label)) {} splice) :
    Splicing teardown streams staggered splice :=
  reached.invariant (splicing_start teardown streams staggered)
    fun _ _ _ splicing permitted step => splicing.step permitted.1 permitted.2 step

theorem teardowns_close : ∀ teardown ∈ teardowns, teardown.closing ≠ [] := by decide

def request (query response : Bytes) : Party → Bytes
  | .remote => query
  | .service => response

/-- The closing of the connections waits for one result, not for two. When every end
of stream is read after the opposite stream is through, each of the four delivers
both streams before it closes anything, and gets there; and any other end of stream
can cost the rest of the opposite stream. -/
theorem forwarding_delivers_when_staggered (teardown : Teardown) (known : teardown ∈ teardowns)
    (streams : Party → Bytes) :
    (∀ splice, Reach (SpliceStep teardown)
        (fun splice label => Peaceful streams splice label ∧ Staggered streams splice label) {} splice →
      splice.Delivered streams ∧ (splice.closed ≠ teardown.closing → splice.CanGo teardown streams)) ∧
    Terminates (SpliceStep teardown) (fun splice label =>
      Peaceful streams splice label ∧ Staggered streams splice label ∧ label.Busy) {} ∧
    ∀ splice label after, Reach (SpliceStep teardown) (Peaceful streams) {} splice →
      Peaceful streams splice label → ¬ Staggered streams splice label →
      SpliceStep teardown splice label after → after.Loses teardown streams := by
  refine ⟨?_, ?_, ?_⟩
  · intro splice reached
    have splicing : Splicing teardown streams True splice :=
      splicing_reached (reached.mono fun _ _ permitted => ⟨permitted.1, fun _ => permitted.2⟩)
    exact ⟨splicing.delivered trivial, splicing.canGo⟩
  · exact terminates_of_measure (Splice.work teardown streams)
      (fun _ _ _ splicing permitted step => splicing.step permitted.1 (fun _ => permitted.2.1) step)
      (fun _ _ _ _ permitted step => step.work_lt permitted.1 permitted.2.2)
      (splicing_start teardown streams True)
  · intro splice label after reached peaceful early step
    have splicing : Splicing teardown streams False splice :=
      splicing_reached (reached.mono fun _ _ permitted => ⟨permitted, False.elim⟩)
    exact splicing.loses_early_end (teardowns_close teardown known) peaceful early step

theorem answered_request_delivered :
    ∃ splice, Reach (SpliceStep handleForwardConnTeardown) (fun splice label =>
        Peaceful (request [1] [7, 8]) splice label ∧
          Staggered (request [1] [7, 8]) splice label) {} splice ∧
      splice.closed = [.remote, .service] ∧
      ∀ party, (splice.copy party).given = request [1] [7, 8] party := by
  have known : handleForwardConnTeardown ∈ teardowns := by decide
  have start : Reach (SpliceStep handleForwardConnTeardown) (fun splice label =>
    Peaceful (request [1] [7, 8]) splice label ∧
      Staggered (request [1] [7, 8]) splice label) {} {} := Reach.here
  have asked := start.take (.copies .remote (.read [1] none)) ⟨⟨List.prefix_rfl, Or.inl rfl⟩, trivial⟩
    (SpliceStep.copies (CopyStep.read rfl (by decide)))
  have passed := asked.take (.copies .remote (.write ([1] : Bytes).length none))
    ⟨(show Supplied [1] .eof True _ _ from supplied_write rfl), trivial⟩
      (SpliceStep.copies (CopyStep.write rfl))
  have answered := passed.take (.copies .service (.read [7, 8] none))
    ⟨⟨List.prefix_rfl, Or.inl rfl⟩, trivial⟩ (SpliceStep.copies (CopyStep.read rfl (by decide)))
  have returned := answered.take (.copies .service (.write ([7, 8] : Bytes).length none))
    ⟨(show Supplied [7, 8] .eof True _ _ from supplied_write rfl), trivial⟩
    (SpliceStep.copies (CopyStep.write rfl))
  have ended := returned.take (.copies .remote (.read [] (some .eof)))
    ⟨⟨List.prefix_rfl, Or.inr ⟨rfl, rfl, trivial⟩⟩, fun _ => rfl⟩
    (SpliceStep.copies (CopyStep.read rfl (by decide)))
  have sent := ended.take (.sends .remote) ⟨trivial, trivial⟩ (SpliceStep.sends rfl rfl (by decide))
  have received := sent.take .receives ⟨trivial, trivial⟩ (SpliceStep.receives rfl rfl)
  have closing := received.take (.closes .remote) ⟨trivial, trivial⟩ (SpliceStep.closes rfl rfl)
  have closed := closing.take (.closes .service) ⟨trivial, trivial⟩ (SpliceStep.closes rfl rfl)
  exact ⟨_, closed, rfl,
    ((forwarding_delivers_when_staggered _ known (request [1] [7, 8])).1 _ closed).1 (by decide)⟩

theorem half_closed_request_unanswered :
    teardowns.Forall fun teardown => ∃ splice,
      Reach (SpliceStep teardown) (Peaceful (request [1] [7])) {} splice ∧
        splice.closed ≠ [] ∧ (splice.copy .remote).given = [1] ∧ (splice.copy .service).given = [] := by
  rw [List.forall_iff_forall_mem]
  intro teardown known
  obtain ⟨first, rest, order⟩ := List.exists_cons_of_ne_nil (teardowns_close teardown known)
  have start : Reach (SpliceStep teardown) (Peaceful (request [1] [7])) {} {} := Reach.here
  have asked := start.take (.copies .remote (.read [1] none)) ⟨List.prefix_rfl, Or.inl rfl⟩
    (SpliceStep.copies (CopyStep.read rfl (by decide)))
  have passed := asked.take (.copies .remote (.write ([1] : Bytes).length none))
    (show Supplied [1] .eof True _ _ from supplied_write rfl) (SpliceStep.copies (CopyStep.write rfl))
  have ended := passed.take (.copies .remote (.read [] (some .eof)))
    ⟨List.prefix_rfl, Or.inr ⟨rfl, rfl, trivial⟩⟩ (SpliceStep.copies (CopyStep.read rfl (by decide)))
  have sent := ended.take (.sends .remote) trivial (SpliceStep.sends rfl rfl (by decide))
  have received := sent.take .receives trivial (SpliceStep.receives rfl rfl)
  have closed := received.take (.closes first) trivial (SpliceStep.closes rfl order)
  exact ⟨_, closed, by simp, rfl, rfl⟩

end SyncthingSocket
