import SyncthingSocket.Auth

/-!
The WebRTC upgrade of `webrtc.go`: both ends signal over the relayed TLS
connection until a data channel opens, or give up and stay on the relay. pion is
an environment that answers its calls as it likes.
-/

namespace SyncthingSocket

open Effect Effect.Program Framing

def offerSignal (sdp : String) : SignalMessage := ⟨"offer", sdp, none⟩

def answerSignal (sdp : String) : SignalMessage := ⟨"answer", sdp, none⟩

def candidateSignal (init : ICECandidateInit) : SignalMessage := ⟨"candidate", "", some init⟩

def fallbackSignal : SignalMessage := ⟨"fallback", "", none⟩

/-- `pc.Close()` followed by a return with this error. -/
def abandon (err : Err) : Goroutine (Option Err) := do
  perform .closePeerConnection
  return some err

/-- The `select` that ends both negotiations. -/
def awaitConn : Goroutine (Option Err) := do
  match ← perform .awaitDataChannel with
  | .opened => return none
  | .cancelled err => abandon err
  | .timeout => abandon (.text "timeout waiting for WebRTC connection")

/-- One iteration of the goroutine that reads the peer's candidates; it goes on
until a read fails. -/
def readCandidate (platform : Platform) (relayConn : Conn) : Goroutine Bool := do
  match ← readSignal platform relayConn with
  | .error _ => return false
  | .ok msg =>
      match msg.candidate with
      | some init =>
          if msg.type = "candidate" then
            let _ ← perform (.addICECandidate init)
            return true
          else return true
      | none => return true

/-- The `OnICECandidate` callback. -/
def sendCandidate (relayConn : Conn) (init : ICECandidateInit) : Goroutine (Option Err) :=
  sendSignal relayConn (candidateSignal init)

def negotiateWebRTCClient (platform : Platform) (relayConn : Conn) : Goroutine (Option Err) := do
  match ← perform .newPeerConnection with
  | some err => return some err
  | none =>
  match ← perform .createDataChannel with
  | some err => abandon err
  | none =>
  perform .onOpen
  perform (.onICECandidate relayConn)
  match ← perform .createOffer with
  | .error err => abandon err
  | .ok offer =>
  match ← perform (.setLocalDescription offer) with
  | some err => abandon err
  | none =>
  match ← sendSignal relayConn (offerSignal offer) with
  | some err => abandon err
  | none =>
  match ← readSignal platform relayConn with
  | .error err => abandon err
  | .ok resp =>
  if resp.type = "fallback" then abandon (.text "server requested fallback")
  else if resp.type ≠ "answer" then abandon (.text ("expected answer, got " ++ resp.type))
  else
  match ← perform (.setRemoteDescription resp.sdp) with
  | some err => abandon err
  | none =>
  perform (.goReadCandidates relayConn)
  awaitConn

def refuseOffer (relayConn : Conn) (err : Err) : Goroutine (Bool × Option Err) := do
  perform .closePeerConnection
  let _ ← sendSignal relayConn fallbackSignal
  return (true, some err)

def negotiateWebRTCServer (platform : Platform) (relayConn : Conn) :
    Goroutine (Bool × Option Err) := do
  match ← readSignal platform relayConn with
  | .error err => return (false, some err)
  | .ok msg =>
  if msg.type = "fallback" then return (true, none)
  else if msg.type ≠ "offer" then return (false, some (.text ("expected offer, got " ++ msg.type)))
  else
  match ← perform .newPeerConnection with
  | some err =>
      let _ ← sendSignal relayConn fallbackSignal
      return (true, some err)
  | none =>
  perform .onOpen
  perform (.onICECandidate relayConn)
  match ← perform (.setRemoteDescription msg.sdp) with
  | some err => refuseOffer relayConn err
  | none =>
  match ← perform .createAnswer with
  | .error err => refuseOffer relayConn err
  | .ok answer =>
  match ← perform (.setLocalDescription answer) with
  | some err => refuseOffer relayConn err
  | none =>
  match ← sendSignal relayConn (answerSignal answer) with
  | some err =>
      perform .closePeerConnection
      return (false, some err)
  | none =>
  perform (.goReadCandidates relayConn)
  let outcome ← awaitConn
  return (false, outcome)

/-! What either negotiation may ask for. -/

def PionOp (relayConn : Conn) : Op → Prop
  | .newPeerConnection | .createDataChannel | .onOpen | .createOffer | .createAnswer
  | .setLocalDescription _ | .setRemoteDescription _ | .closePeerConnection
  | .awaitDataChannel => True
  | .onICECandidate conn | .goReadCandidates conn => conn = relayConn
  | _ => False

def SignalPiece (data : Bytes) : Prop :=
  ∃ msg : SignalMessage, data = putUint32 msg.marshal.length ∨ data = msg.marshal

def UpgradeOp (relayConn : Conn) (op : Op) : Prop :=
  IsRead relayConn op ∨
  (∃ data, op = .write relayConn data ∧ SignalPiece data) ∨ PionOp relayConn op

def Touches (relayConn : Conn) (op : Op) : Prop :=
  (∃ size, op = .read relayConn size) ∨ (∃ data, op = .write relayConn data) ∨
  op = .goReadCandidates relayConn

def LocalDescriptionSet (log : Log) : Prop :=
  ∃ sdp, (⟨.setLocalDescription sdp, none⟩ : Sigma Answer) ∈ log

def ChannelOpened (log : Log) : Prop := (⟨.awaitDataChannel, .opened⟩ : Sigma Answer) ∈ log

def GaveUp (log : Log) : Prop :=
  (⟨.awaitDataChannel, .timeout⟩ : Sigma Answer) ∈ log ∨
  ∃ err, (⟨.awaitDataChannel, .cancelled err⟩ : Sigma Answer) ∈ log

def Abandoned (log : Log) : Prop :=
  ∃ before after, log = before ++ ⟨.closePeerConnection, ()⟩ :: after ∧ LocalDescriptionSet before

def ReadsCandidates (relayConn : Conn) (log : Log) : Prop :=
  (⟨.goReadCandidates relayConn, ()⟩ : Sigma Answer) ∈ log

variable {conn : Conn} {err : Err} {log : Log} {op : Op} {msg : SignalMessage}

theorem sendSignal_asks {next : Answer op → Goroutine (Option Err)}
    (run : Runs (sendSignal conn msg) log (.ask op next)) :
    ∃ data, op = .write conn data ∧ SignalPiece data := by
  rcases sendFramed_asks run with asked | asked
  · exact ⟨_, asked, msg, Or.inl rfl⟩
  · exact ⟨_, asked, msg, Or.inr rfl⟩

theorem abandon_meets {guard : Log → Op → Prop} {post : Option Err → Log → Prop}
    (asks : guard log .closePeerConnection)
    (returns : post (some err) (log ++ [⟨.closePeerConnection, ()⟩])) :
    Meets (Contract.always guard) post (abandon err) log :=
  ⟨asks, fun _ _ => returns⟩

theorem awaitConn_meets {guard : Log → Op → Prop} {post : Option Err → Log → Prop}
    (awaits : guard log .awaitDataChannel)
    (closes : ∀ answer, guard (log ++ [⟨.awaitDataChannel, answer⟩]) .closePeerConnection)
    (opened : post none (log ++ [⟨.awaitDataChannel, .opened⟩])) (gaveUp : ∀ err answer,
      GaveUp (log ++ [⟨.awaitDataChannel, answer⟩] ++ [⟨.closePeerConnection, ()⟩]) →
      post (some err) (log ++ [⟨.awaitDataChannel, answer⟩] ++ [⟨.closePeerConnection, ()⟩])) :
    Meets (Contract.always guard) post awaitConn log := by
  refine ⟨awaits, fun answer _ => ?_⟩
  cases answer with
  | opened => exact opened
  | cancelled err => exact abandon_meets (closes _) (gaveUp _ _ (Or.inr ⟨err, by simp⟩))
  | timeout => exact abandon_meets (closes _) (gaveUp _ _ (Or.inl (by simp)))

theorem LocalDescriptionSet.append (described : LocalDescriptionSet log) (later : Log) :
    LocalDescriptionSet (log ++ later) := by
  obtain ⟨sdp, member⟩ := described
  exact ⟨sdp, List.mem_append_left _ member⟩

theorem readsCandidates_append {relayConn : Conn} {first second : Log} :
    ReadsCandidates relayConn (first ++ second) ↔
      ReadsCandidates relayConn first ∨ ReadsCandidates relayConn second := by
  simp only [ReadsCandidates, List.mem_append]

theorem OnlyWrites.not_readsCandidates (writes : OnlyWrites conn log)
    (relayConn : Conn) : ¬ ReadsCandidates relayConn log := by
  intro started
  obtain ⟨data, same⟩ := writes _ started
  simp at same

theorem OnlyReads.not_readsCandidates (reads : OnlyReads conn log)
    (relayConn : Conn) : ¬ ReadsCandidates relayConn log := by
  intro started
  obtain ⟨data, same⟩ := reads _ started
  simp at same

section Client

variable (relayConn : Conn)

def ClientUpgradeAsks (log : Log) (op : Op) : Prop :=
  UpgradeOp relayConn op ∧ (Touches relayConn op → LocalDescriptionSet log)

/-- The client is on its data channel, or back on the relay: after the candidate
reader was started only the timer or the context leads back. -/
def ClientUpgradeReturns (result : Option Err) (log : Log) : Prop :=
  (result = none → ChannelOpened log) ∧
  (result ≠ none → ReadsCandidates relayConn log → GaveUp log) ∧
  (LocalDescriptionSet log ∧ (result ≠ none → Abandoned log) ∨
    ¬ LocalDescriptionSet log ∧ ∀ event ∈ log, ¬ Touches relayConn event.1)

theorem clientAbandons_meets (described : LocalDescriptionSet log)
    (unread : ¬ ReadsCandidates relayConn log) :
    Meets (Contract.always (ClientUpgradeAsks relayConn)) (ClientUpgradeReturns relayConn)
      (abandon err) log := by
  apply abandon_meets
  · exact ⟨Or.inr (Or.inr trivial), by simp [Touches]⟩
  · refine ⟨by simp, fun _ started => absurd started ?_,
      Or.inl ⟨described.append _, fun _ => ⟨log, [], rfl, described⟩⟩⟩
    simpa [ReadsCandidates] using unread

theorem negotiateWebRTCClient_meets (platform : Platform) :
    Meets (Contract.always (ClientUpgradeAsks relayConn)) (ClientUpgradeReturns relayConn)
      (negotiateWebRTCClient platform relayConn) [] := by
  have pion : ∀ log op, PionOp relayConn op → ¬ Touches relayConn op →
      ClientUpgradeAsks relayConn log op :=
    fun log op isPion untouched => ⟨Or.inr (Or.inr isPion), fun touches => absurd touches untouched⟩
  simp only [negotiateWebRTCClient, perform_bind]
  refine ⟨pion _ _ trivial (by simp [Touches]), fun created _ => ?_⟩
  cases created with
  | some err => simp [Meets, ClientUpgradeReturns, ReadsCandidates, Touches, LocalDescriptionSet]
  | none =>
  refine ⟨pion _ _ trivial (by simp [Touches]), fun channel _ => ?_⟩
  cases channel with
  | some err =>
      apply abandon_meets (pion _ _ trivial (by simp [Touches]))
      simp [ClientUpgradeReturns, ReadsCandidates, Touches, LocalDescriptionSet]
  | none =>
  refine ⟨pion _ _ trivial (by simp [Touches]), fun _ _ => ?_⟩
  refine ⟨pion _ _ rfl (by simp [Touches]), fun _ _ => ?_⟩
  refine ⟨pion _ _ trivial (by simp [Touches]), fun offered _ => ?_⟩
  cases offered with
  | error err =>
      apply abandon_meets (pion _ _ trivial (by simp [Touches]))
      simp [ClientUpgradeReturns, ReadsCandidates, Touches, LocalDescriptionSet]
  | ok offer =>
  refine ⟨pion _ _ trivial (by simp [Touches]), fun described _ => ?_⟩
  cases described with
  | some err =>
      apply abandon_meets (pion _ _ trivial (by simp [Touches]))
      simp [ClientUpgradeReturns, ReadsCandidates, Touches, LocalDescriptionSet]
  | none =>
  -- after the local description only two facts about the past matter
  generalize history : ([] ++ [_] ++ [_] ++ [_] ++ [_] ++ [_] ++ [_] : Log) = before
  have described : LocalDescriptionSet before := by
    rw [← history]
    exact ⟨offer, by simp⟩
  have unread : ¬ ReadsCandidates relayConn before := by
    rw [← history]
    simp [ReadsCandidates]
  clear history
  apply Meets.bind
  apply meets_of_runs
  · intro sending op next run
    exact ⟨Or.inr (Or.inl (sendSignal_asks run)), fun _ => described.append _⟩
  intro sending failure run
  replace described := described.append sending
  have quiet : ¬ ReadsCandidates relayConn (before ++ sending) := by
    have writes := (sendFramed_runs marshal_ne_nil run).1
    rw [readsCandidates_append, not_or]
    exact ⟨unread, writes.not_readsCandidates relayConn⟩
  cases failure with
  | some err => exact clientAbandons_meets relayConn described quiet
  | none =>
  apply Meets.bind
  apply meets_of_runs
  · intro hearing op next run
    exact ⟨Or.inl (readFramed_runs run).2.1, fun _ => described.append _⟩
  intro hearing response run
  replace described := described.append hearing
  have silent : ¬ ReadsCandidates relayConn (before ++ sending ++ hearing) := by
    rw [readsCandidates_append, not_or]
    exact ⟨quiet, (readFramed_runs run).1.not_readsCandidates relayConn⟩
  cases response with
  | error err => exact clientAbandons_meets relayConn described silent
  | ok resp =>
  by_cases refused : resp.type = "fallback"
  · simp only [refused, ↓reduceIte]
    exact clientAbandons_meets relayConn described silent
  by_cases unexpected : resp.type ≠ "answer"
  · simp only [refused, unexpected, ne_eq, not_false_eq_true, ↓reduceIte]
    exact clientAbandons_meets relayConn described silent
  simp only [refused, unexpected, ↓reduceIte]
  refine ⟨pion _ _ trivial (by simp [Touches]), fun accepted _ => ?_⟩
  replace described := described.append [⟨.setRemoteDescription resp.sdp, accepted⟩]
  cases accepted with
  | some err =>
      apply clientAbandons_meets relayConn described
      simpa [ReadsCandidates] using silent
  | none =>
  refine ⟨⟨Or.inr (Or.inr rfl), fun _ => described⟩, fun started _ => ?_⟩
  replace described := described.append [⟨.goReadCandidates relayConn, started⟩]
  apply awaitConn_meets
  · exact pion _ _ trivial (by simp [Touches])
  · exact fun _ => pion _ _ trivial (by simp [Touches])
  · exact ⟨fun _ => by simp [ChannelOpened], by simp, Or.inl ⟨described.append _, by simp⟩⟩
  · intro err answer gaveUp
    exact ⟨by simp, fun _ _ => gaveUp, Or.inl ⟨(described.append _).append _,
      fun _ => ⟨_, [], rfl, described.append _⟩⟩⟩

end Client

section Server

variable (platform : Platform) (relayConn : Conn)

/-- The first message from the client has arrived and decodes to `msg`. -/
def Signalled (log : Log) (msg : SignalMessage) : Prop :=
  ∃ body, Finished maxMessage (received relayConn log) body ∧ platform.signal.unmarshal body = .ok msg

def Offered (log : Log) : Prop := ∃ msg, Signalled platform relayConn log msg ∧ msg.type = "offer"

def ServerUpgradeAsks (log : Log) (op : Op) : Prop :=
  UpgradeOp relayConn op ∧
  (IsRead relayConn op ∧ OnlyReads relayConn log ∧
    Unfinished maxMessage (received relayConn log) ∨ Offered platform relayConn log)

/-- The server is back on the relay without having negotiated: it was told to fall
back, or could not make sense of the first message. -/
def NotOffered (fallback : Bool) (err : Option Err) (log : Log) : Prop :=
  OnlyReads relayConn log ∧
  ((fallback = true ∧ err = none ∧ ∃ msg, Signalled platform relayConn log msg ∧ msg.type = "fallback") ∨
   (fallback = false ∧ err ≠ none ∧
    (BadMessage platform.signal.unmarshal (ReadFailed relayConn log) (received relayConn log) ∨
     ∃ msg, Signalled platform relayConn log msg ∧ msg.type ≠ "fallback" ∧ msg.type ≠ "offer")))

def ServerUpgradeReturns (result : Bool × Option Err) (log : Log) : Prop :=
  NotOffered platform relayConn result.1 result.2 log ∨
  Offered platform relayConn log ∧
    (result = (false, none) ∧ ChannelOpened log ∨
     (result.1 = true ∨ result.2 ≠ none) ∧ (ReadsCandidates relayConn log → GaveUp log))

variable {platform relayConn} in
theorem Offered.append {later : Log} (offered : Offered platform relayConn log)
    (silent : received relayConn later = []) : Offered platform relayConn (log ++ later) := by
  obtain ⟨msg, ⟨body, finished, decoded⟩, isOffer⟩ := offered
  refine ⟨msg, ⟨body, ?_, decoded⟩, isOffer⟩
  rw [received_append, silent, List.append_nil]
  exact finished

variable {platform relayConn} in
theorem Offered.pion (offered : Offered platform relayConn log) (event : Sigma Answer)
    (isPion : PionOp relayConn event.1) : Offered platform relayConn (log ++ [event]) := by
  apply offered.append
  obtain ⟨op, answer⟩ := event
  cases op <;> simp_all [PionOp, receivedBy]

variable {platform relayConn} in
theorem Offered.asks (offered : Offered platform relayConn log)
    (upgrade : UpgradeOp relayConn op) : ServerUpgradeAsks platform relayConn log op :=
  ⟨upgrade, Or.inr offered⟩

variable {platform relayConn} in
theorem Offered.returns {result : Bool × Option Err} (offered : Offered platform relayConn log)
    (unread : ¬ ReadsCandidates relayConn log) (relay : result.1 = true ∨ result.2 ≠ none) :
    ServerUpgradeReturns platform relayConn result log :=
  Or.inr ⟨offered, Or.inr ⟨relay, fun started => absurd started unread⟩⟩

theorem sendFallback_meets (offered : Offered platform relayConn log)
    (unread : ¬ ReadsCandidates relayConn log) :
    Meets (Contract.always (ServerUpgradeAsks platform relayConn))
      (ServerUpgradeReturns platform relayConn)
      (do let _ ← sendSignal relayConn fallbackSignal; return (true, some err)) log := by
  apply Meets.bind
  apply meets_of_runs
  · intro sending op next run
    have silent : received relayConn sending = [] :=
      (sendFramed_runs marshal_ne_nil run).1.received_eq
    exact (offered.append silent).asks (Or.inr (Or.inl (sendSignal_asks run)))
  · intro sending failure run
    have writes := (sendFramed_runs marshal_ne_nil run).1
    apply (offered.append writes.received_eq).returns
    · rw [readsCandidates_append, not_or]
      exact ⟨unread, writes.not_readsCandidates relayConn⟩
    · exact Or.inl rfl

theorem refuseOffer_meets (offered : Offered platform relayConn log)
    (unread : ¬ ReadsCandidates relayConn log) :
    Meets (Contract.always (ServerUpgradeAsks platform relayConn))
      (ServerUpgradeReturns platform relayConn) (refuseOffer relayConn err) log := by
  refine ⟨offered.asks (Or.inr (Or.inr trivial)), fun _ _ => ?_⟩
  apply sendFallback_meets
  · exact offered.append rfl
  · simpa [ReadsCandidates] using unread

theorem negotiateWebRTCServer_meets :
    Meets (Contract.always (ServerUpgradeAsks platform relayConn))
      (ServerUpgradeReturns platform relayConn) (negotiateWebRTCServer platform relayConn) [] := by
  simp only [negotiateWebRTCServer, perform_bind]
  apply Meets.bind
  apply meets_of_runs
  · intro hearing op next run
    obtain ⟨reads, isRead, unfinished⟩ := readFramed_runs run
    exact ⟨Or.inl isRead, Or.inl ⟨isRead, reads, unfinished⟩⟩
  intro hearing first run
  obtain ⟨reads, outcome⟩ := readFramed_runs run
  simp only [List.nil_append]
  cases first with
  | error err =>
      exact Or.inl ⟨reads, Or.inr ⟨rfl, by simp, Or.inl (badMessage_of_framedRead [] outcome)⟩⟩
  | ok msg =>
  have signalled : Signalled platform relayConn hearing msg := outcome
  by_cases told : msg.type = "fallback"
  · simp only [told, ↓reduceIte]
    exact Or.inl ⟨reads, Or.inl ⟨rfl, rfl, msg, signalled, told⟩⟩
  by_cases unexpected : msg.type ≠ "offer"
  · simp only [told, unexpected, ne_eq, not_false_eq_true, ↓reduceIte]
    exact Or.inl ⟨reads, Or.inr ⟨rfl, by simp, Or.inr ⟨msg, signalled, told, unexpected⟩⟩⟩
  simp only [told, unexpected, ↓reduceIte]
  have offered : Offered platform relayConn hearing := ⟨msg, signalled, not_not.mp unexpected⟩
  have unread : ¬ ReadsCandidates relayConn hearing := reads.not_readsCandidates relayConn
  refine ⟨offered.asks (Or.inr (Or.inr trivial)), fun created _ => ?_⟩
  replace offered := offered.pion ⟨.newPeerConnection, created⟩ trivial
  cases created with
  | some err =>
      apply sendFallback_meets platform relayConn offered
      simpa [ReadsCandidates] using unread
  | none =>
  refine ⟨offered.asks (Or.inr (Or.inr trivial)), fun registered _ => ?_⟩
  replace offered := offered.pion ⟨.onOpen, registered⟩ trivial
  refine ⟨offered.asks (Or.inr (Or.inr rfl)), fun registered _ => ?_⟩
  replace offered := offered.pion ⟨.onICECandidate relayConn, registered⟩ rfl
  refine ⟨offered.asks (Or.inr (Or.inr trivial)), fun remote _ => ?_⟩
  replace offered := offered.pion ⟨.setRemoteDescription msg.sdp, remote⟩ trivial
  cases remote with
  | some err =>
      apply refuseOffer_meets platform relayConn offered
      simpa [ReadsCandidates] using unread
  | none =>
  refine ⟨offered.asks (Or.inr (Or.inr trivial)), fun answered _ => ?_⟩
  replace offered := offered.pion ⟨.createAnswer, answered⟩ trivial
  cases answered with
  | error err =>
      apply refuseOffer_meets platform relayConn offered
      simpa [ReadsCandidates] using unread
  | ok answer =>
  refine ⟨offered.asks (Or.inr (Or.inr trivial)), fun described _ => ?_⟩
  replace offered := offered.pion ⟨.setLocalDescription answer, described⟩ trivial
  cases described with
  | some err =>
      apply refuseOffer_meets platform relayConn offered
      simpa [ReadsCandidates] using unread
  | none =>
  generalize history : (hearing ++ [_] ++ [_] ++ [_] ++ [_] ++ [_] ++ [_] : Log) = before at offered
  replace unread : ¬ ReadsCandidates relayConn before := by
    rw [← history]
    simpa [ReadsCandidates] using unread
  clear history
  apply Meets.bind
  apply meets_of_runs
  · intro sending op next run
    have silent : received relayConn sending = [] :=
      (sendFramed_runs marshal_ne_nil run).1.received_eq
    exact (offered.append silent).asks (Or.inr (Or.inl (sendSignal_asks run)))
  intro sending failure run
  have writes := (sendFramed_runs marshal_ne_nil run).1
  replace offered := offered.append writes.received_eq
  replace unread : ¬ ReadsCandidates relayConn (before ++ sending) := by
    rw [readsCandidates_append, not_or]
    exact ⟨unread, writes.not_readsCandidates relayConn⟩
  cases failure with
  | some err =>
      refine ⟨offered.asks (Or.inr (Or.inr trivial)), fun closed _ => ?_⟩
      apply (offered.pion ⟨.closePeerConnection, closed⟩ trivial).returns
      · simpa [ReadsCandidates] using unread
      · exact Or.inr (by simp)
  | none =>
  refine ⟨offered.asks (Or.inr (Or.inr rfl)), fun started _ => ?_⟩
  replace offered := offered.pion ⟨.goReadCandidates relayConn, started⟩ rfl
  apply Meets.bind
  apply awaitConn_meets
  · exact offered.asks (Or.inr (Or.inr trivial))
  · exact fun answer => (offered.pion ⟨.awaitDataChannel, answer⟩ trivial).asks (Or.inr (Or.inr trivial))
  · exact Or.inr ⟨offered.pion _ trivial, Or.inl ⟨rfl, by simp [ChannelOpened]⟩⟩
  · intro err answer gaveUp
    have still :=
      (offered.pion ⟨.awaitDataChannel, answer⟩ trivial).pion ⟨.closePeerConnection, ()⟩ trivial
    exact Or.inr ⟨still, Or.inr ⟨Or.inr (by simp), fun _ => gaveUp⟩⟩

end Server

/-! The ways a negotiation goes that the two ends' schedules are made of. -/

section Courses

variable (platform : Platform) (relayConn : Conn)

def offering (offer : String) : Log :=
  [⟨.newPeerConnection, none⟩, ⟨.createDataChannel, none⟩, ⟨.onOpen, ()⟩,
    ⟨.onICECandidate relayConn, ()⟩, ⟨.createOffer, .ok offer⟩, ⟨.setLocalDescription offer, none⟩] ++
  writeFrame relayConn (offerSignal offer).marshal

def hearing (msg : SignalMessage) : Log := readFrame relayConn msg.marshal msg.marshal_pos

def answering (offer answer : String) : Log :=
  hearing relayConn (offerSignal offer) ++
  ([⟨.newPeerConnection, none⟩, ⟨.onOpen, ()⟩, ⟨.onICECandidate relayConn, ()⟩,
    ⟨.setRemoteDescription offer, none⟩, ⟨.createAnswer, .ok answer⟩,
      ⟨.setLocalDescription answer, none⟩] ++
  writeFrame relayConn (answerSignal answer).marshal)

@[simp] theorem received_offering (offer : String) :
    received relayConn (offering relayConn offer) = [] := by
  simp [offering, receivedBy]

@[simp] theorem sent_offering (offer : String) :
    sent relayConn (offering relayConn offer) = frame (offerSignal offer).marshal := by
  simp [offering, sentBy]

@[simp] theorem received_hearing (msg : SignalMessage) :
    received relayConn (hearing relayConn msg) = frame msg.marshal := by
  simp [hearing]

@[simp] theorem sent_hearing (msg : SignalMessage) :
    sent relayConn (hearing relayConn msg) = [] := by
  simp [hearing]

@[simp] theorem received_answering (offer answer : String) :
    received relayConn (answering relayConn offer answer) = frame (offerSignal offer).marshal := by
  simp [answering, receivedBy]

@[simp] theorem sent_answering (offer answer : String) :
    sent relayConn (answering relayConn offer answer) = frame (answerSignal answer).marshal := by
  simp [answering, sentBy]

variable {relayConn}

theorem readSignal_whole (fits : msg.marshal.length ≤ maxMessage) :
    Runs (readSignal platform relayConn) (hearing relayConn msg) (.done (.ok msg)) := by
  rw [← platform.signal.roundTrip msg]
  exact readFramed_whole relayConn _ _ msg.marshal_pos fits

theorem negotiateWebRTCClient_heard (offer : String) {later : Log}
    {rest : Goroutine (Option Err)} (fits : msg.marshal.length ≤ maxMessage)
    (following : Runs (if msg.type = "fallback" then abandon (.text "server requested fallback")
      else if msg.type ≠ "answer" then abandon (.text ("expected answer, got " ++ msg.type))
      else .ask (.setRemoteDescription msg.sdp) fun
        | some err => abandon err
        | none => .ask (.goReadCandidates relayConn) fun _ => awaitConn) later rest) :
    Runs (negotiateWebRTCClient platform relayConn)
      (offering relayConn offer ++ (hearing relayConn msg ++ later)) rest := by
  simp only [negotiateWebRTCClient, perform_bind, offering, List.cons_append, List.nil_append]
  apply Runs.step
  apply Runs.step
  apply Runs.step
  apply Runs.step
  apply Runs.step
  apply Runs.step
  refine ((sendFramed_whole relayConn (offerSignal offer).marshal).bind _).trans ?_
  refine ((readSignal_whole platform fits).bind _).trans ?_
  exact following

theorem fallbackSignal_fits : fallbackSignal.marshal.length ≤ maxMessage := by decide

theorem negotiateWebRTCClient_refused (offer : String) :
    Runs (negotiateWebRTCClient platform relayConn)
      (offering relayConn offer ++ (hearing relayConn fallbackSignal ++ [⟨.closePeerConnection, ()⟩]))
      (.done (some (.text "server requested fallback"))) := by
  apply negotiateWebRTCClient_heard platform offer fallbackSignal_fits
  apply Runs.step
  exact Runs.start _

theorem negotiateWebRTCClient_answered (offer : String) {answer : String}
    (fits : (answerSignal answer).marshal.length ≤ maxMessage) :
    Runs (negotiateWebRTCClient platform relayConn)
      (offering relayConn offer ++ (hearing relayConn (answerSignal answer) ++
        [⟨.setRemoteDescription answer, none⟩, ⟨.goReadCandidates relayConn, ()⟩])) awaitConn := by
  apply negotiateWebRTCClient_heard platform offer fits
  apply Runs.step
  apply Runs.step
  exact Runs.start _

theorem negotiateWebRTCServer_told :
    Runs (negotiateWebRTCServer platform relayConn) (hearing relayConn fallbackSignal)
      (.done (true, none)) :=
  (readSignal_whole platform fallbackSignal_fits).bind _

theorem negotiateWebRTCServer_deaf (err : Err) :
    Runs (negotiateWebRTCServer platform relayConn) [⟨.read relayConn 4, .error err⟩]
      (.done (false, some err)) := by
  have header : Runs (readFull relayConn 4) [⟨.read relayConn 4, .error err⟩] (.done (.error err)) := by
    apply Runs.step
    simp only [ne_eq, not_true_eq_false, and_false, ↓reduceIte]
    exact Runs.start _
  exact (header.bind _).bind _

theorem negotiateWebRTCServer_unheard {next : Answer op → Goroutine (Bool × Option Err)}
    (run : Runs (negotiateWebRTCServer platform relayConn) log (.ask op next))
    (unheard : received relayConn log = []) : log = [] := by
  obtain ⟨first, shape⟩ : ∃ first, negotiateWebRTCServer platform relayConn =
    .ask (.read relayConn 4) first := ⟨_, rfl⟩
  have steps := run
  rw [shape] at steps
  cases steps with
  | start _ => rfl
  | step answer later =>
      cases answer with
      | error err =>
          have ended := ((negotiateWebRTCServer_deaf platform err).finished_unique run).2
          cases ended
      | ok chunk =>
          have nonempty := chunk.property.1
          rw [received_cons, List.append_eq_nil_iff] at unheard
          simp [receivedBy] at unheard
          simp [unheard.1] at nonempty

theorem negotiateWebRTCServer_declines {offer : String} (err : Err)
    (fits : (offerSignal offer).marshal.length ≤ maxMessage) :
    Runs (negotiateWebRTCServer platform relayConn)
      (hearing relayConn (offerSignal offer) ++ (⟨.newPeerConnection, some err⟩ ::
        writeFrame relayConn fallbackSignal.marshal)) (.done (true, some err)) := by
  refine ((readSignal_whole platform fits).bind _).trans ?_
  apply Runs.step
  exact (sendFramed_whole relayConn fallbackSignal.marshal).bind _

theorem negotiateWebRTCServer_answers {offer : String} (answer : String)
    (fits : (offerSignal offer).marshal.length ≤ maxMessage) :
    Runs (negotiateWebRTCServer platform relayConn)
      (answering relayConn offer answer ++ [⟨.goReadCandidates relayConn, ()⟩])
      (awaitConn >>= fun outcome => pure (false, outcome)) := by
  rw [answering, List.append_assoc]
  refine ((readSignal_whole platform fits).bind _).trans ?_
  apply Runs.step
  apply Runs.step
  apply Runs.step
  apply Runs.step
  apply Runs.step
  apply Runs.step
  refine ((sendFramed_whole relayConn (answerSignal answer).marshal).bind _).trans ?_
  apply Runs.step
  exact Runs.start _

end Courses

end SyncthingSocket
