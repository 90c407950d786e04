import SyncthingSocket.Admission

/-!
The complete runs of a connection handler: the checks refuse the client, or a data connection is
chosen and the handler's own part runs on it; the deferred close of the incoming connection comes
last.
-/

namespace SyncthingSocket

open Effect Effect.Program Framing

section

variable (platform : Platform) (opts : ServerOptions) (proceed : List Bytes → Conn → Goroutine Unit)

def RefusedRun (log : Log) : Prop :=
  ∃ checks, log = checks ++ [closing (.raw .incoming)] ∧
    Runs (admission platform opts) checks (.done none)

/-- A client with these certificates was served on `dataConn`; `session` is what the
handler did there. -/
structure ServedRun (log : Log) (certs : List Bytes) (dataConn : Conn) (session : Log) : Prop where
  split : ∃ checks choice, log = checks ++ choice ++ session ++ [closing (.raw .incoming)] ∧
    Runs (admission platform opts) checks (.done (some certs)) ∧
    Runs (serverDataConn platform opts.isRelay) choice (.done dataConn)
  session : Runs (proceed certs dataConn) session (.done ())

variable {platform opts proceed}

theorem admitConn_done {log : Log} :
    Runs (admitConn platform opts proceed) log (.done ()) ↔
      RefusedRun platform opts log ∨
      ∃ certs dataConn session, ServedRun platform opts proceed log certs dataConn session := by
  rw [admitConn, deferClose_done]
  constructor
  · rintro ⟨inner, rfl, run⟩
    obtain ⟨checks, later, outcome, rfl, early, late⟩ := runs_bind_done run
    cases outcome with
    | none =>
        simp only [pure_eq_done, runs_done] at late
        obtain ⟨rfl, -⟩ := late
        exact Or.inl ⟨checks, by simp, early⟩
    | some certs =>
        obtain ⟨choice, session, dataConn, rfl, chosen, served⟩ := runs_bind_done late
        exact Or.inr ⟨certs, dataConn, session, ⟨checks, choice, by simp, early, chosen⟩, served⟩
  · rintro (⟨checks, rfl, refused⟩ | ⟨certs, dataConn, session,
      ⟨checks, choice, rfl, passed, chosen⟩, served⟩)
    · exact ⟨checks, rfl, refused.bind _⟩
    · refine ⟨checks ++ choice ++ session, rfl, ?_⟩
      exact ((passed.bind _).trans (chosen.bind _)).trans served

theorem admission_open (platform : Platform) (isRelay : Bool) (certs : List Bytes) :
    Runs (admission platform ⟨isRelay, [], ""⟩)
      (⟨.handshake .incoming, .ok certs⟩ :: writeFrame (.tls .incoming) okChallenge.marshal)
        (.done (some certs)) := by
  apply Runs.step
  exact (performServerAuth_open platform (.tls .incoming)).bind _

theorem serverDataConn_done {isRelay : Bool} {choice : Log} {dataConn : Conn}
    (run : Runs (serverDataConn platform isRelay) choice (.done dataConn)) :
    (dataConn = .tls .incoming ∧ (choice = [] ∨ ∃ result : Bool × Option Err,
        Runs (negotiateWebRTCServer platform (.tls .incoming)) choice (.done result) ∧
        (result.1 = true ∨ result.2 ≠ none))) ∨
      dataConn = .p2p ∧ ∃ negotiation, choice = negotiation ++ [closing (.tls .incoming)] ∧
        Runs (negotiateWebRTCServer platform (.tls .incoming)) negotiation (.done (false, none)) := by
  cases isRelay with
  | false =>
      simp only [serverDataConn, Bool.false_eq_true, ↓reduceIte, pure_eq_done, runs_done,
        Program.done.injEq] at run
      exact Or.inl ⟨run.2, Or.inl run.1⟩
  | true =>
      simp only [serverDataConn, ↓reduceIte] at run
      obtain ⟨negotiation, later, ⟨fallback, err⟩, rfl, early, late⟩ := runs_bind_done run
      by_cases relayed : fallback = true ∨ err ≠ none
      · simp only [relayed, ↓reduceIte, pure_eq_done, runs_done, Program.done.injEq] at late
        obtain ⟨rfl, rfl⟩ := late
        exact Or.inl ⟨rfl, Or.inr ⟨(fallback, err), by simpa using early, relayed⟩⟩
      · simp only [relayed, ↓reduceIte, perform_bind] at late
        simp only [not_or, Bool.not_eq_true, ne_eq, not_not] at relayed
        obtain ⟨rfl, rfl⟩ := relayed
        cases late with
        | step answer finished =>
            simp only [pure_eq_done, runs_done, Program.done.injEq] at finished
            obtain ⟨rfl, rfl⟩ := finished
            exact Or.inr ⟨rfl, negotiation, rfl, early⟩

end

/-! What forwarding does with its data connection. -/

/-- `WebRTCConn.RemoteAddr`. -/
def placeholder : Addr := .tcp [] 0

theorem sendProxyHeader_done {platform : Platform} {certs : List Bytes} {dataConn : Conn}
    {log : Log} {result : Option Err}
    (run : Runs (sendProxyHeader platform certs dataConn) log (.done result)) :
    ∃ (asked : Log) (src dst : Option Addr),
      log = asked ++ [⟨.localAddr .target, dst⟩,
        ⟨.writeProxyHeader
          (proxyHeader platform certs (src.getD unspecified) (dst.getD unspecified)), result⟩] ∧
      (dataConn = .p2p ∧ src = some placeholder ∧ asked = [] ∨
        asked = [⟨.remoteAddr dataConn, src⟩]) := by
  simp only [sendProxyHeader] at run
  obtain ⟨asked, later, src, rfl, reported, rest⟩ := runs_bind_done run
  have source : dataConn = .p2p ∧ src = some placeholder ∧ asked = [] ∨
      asked = [⟨.remoteAddr dataConn, src⟩] := by
    cases dataConn with
    | p2p =>
        obtain ⟨rfl, found⟩ := runs_done.mp reported
        injection found with found
        exact Or.inl ⟨rfl, found, rfl⟩
    | _ =>
        cases reported with
        | step answer finished =>
            obtain ⟨rfl, found⟩ := runs_done.mp finished
            injection found with found
            exact Or.inr (by rw [found])
  cases rest with
  | step dst rest =>
      cases rest with
      | step outcome finished =>
          obtain ⟨rfl, found⟩ := runs_done.mp finished
          injection found with found
          exact ⟨asked, src, dst, by rw [found], source⟩

/-- The header that `handleForwardConn` sends, if it was asked to. -/
def headerStep (platform : Platform) (proxyProtocol : Bool) (certs : List Bytes) (dataConn : Conn) :
    Goroutine (Option Err) :=
  if proxyProtocol then sendProxyHeader platform certs dataConn else return none

def dialled (forwardAddr : String) (outcome : Option Err) : Sigma Answer :=
  ⟨.dialTarget (parseNetworkAndAddr forwardAddr).1 (parseNetworkAndAddr forwardAddr).2, outcome⟩

inductive ForwardRun (platform : Platform) (forwardAddr : String) (proxyProtocol : Bool)
    (certs : List Bytes) (dataConn : Conn) : Log → Prop
  | unreachable (err : Err) : ForwardRun platform forwardAddr proxyProtocol certs dataConn
      [dialled forwardAddr (some err), closing dataConn]
  | headerFailed {header : Log} {err : Err}
      (run : Runs (headerStep platform proxyProtocol certs dataConn) header (.done (some err))) :
      ForwardRun platform forwardAddr proxyProtocol certs dataConn
        (dialled forwardAddr none :: header ++ [closing .target])
  | copied {header : Log} (outcome : Option Err)
      (run : Runs (headerStep platform proxyProtocol certs dataConn) header (.done none)) :
      ForwardRun platform forwardAddr proxyProtocol certs dataConn
        (dialled forwardAddr none :: header ++
          [⟨.copyBothWays dataConn .target, outcome⟩, closing dataConn, closing .target])

theorem forwardConn_done {platform : Platform} {forwardAddr : String} {proxyProtocol : Bool}
    {certs : List Bytes} {dataConn : Conn} {session : Log} :
    Runs (forwardConn platform forwardAddr proxyProtocol certs dataConn) session (.done ()) ↔
      ForwardRun platform forwardAddr proxyProtocol certs dataConn session := by
  constructor
  · intro run
    simp only [forwardConn, perform_bind] at run
    cases run with
    | step outcome later =>
        cases outcome with
        | some err =>
            cases later with
            | step answer finished =>
                obtain ⟨rfl, -⟩ := runs_done.mp finished
                exact .unreachable err
        | none =>
            -- the connection to the target is closed by a deferred call, whatever becomes of the header
            obtain ⟨inner, rfl, body⟩ := deferClose_done.mp later
            obtain ⟨header, rest, result, rfl, sent, last⟩ := runs_bind_done body
            cases result with
            | some err =>
                obtain ⟨rfl, -⟩ := runs_done.mp last
                rw [List.append_nil]
                exact .headerFailed sent
            | none =>
                cases last with
                | step copied last =>
                    cases last with
                    | step answer finished =>
                        obtain ⟨rfl, -⟩ := runs_done.mp finished
                        have shape : ForwardRun platform forwardAddr proxyProtocol certs dataConn
                          _ := .copied copied sent
                        simpa [dialled, closing] using shape
  · intro shape
    cases shape with
    | unreachable err =>
        apply Runs.step
        apply Runs.step
        exact Runs.start _
    | headerFailed sent =>
        apply Runs.step
        exact deferClose_done.mpr ⟨_, rfl, sent.bind _⟩
    | @copied header outcome sent =>
        apply Runs.step
        refine deferClose_done.mpr
          ⟨header ++ [⟨.copyBothWays dataConn .target, outcome⟩, closing dataConn],
          by simp, (sent.bind _).trans ?_⟩
        apply Runs.step
        apply Runs.step
        exact Runs.start _

end SyncthingSocket
