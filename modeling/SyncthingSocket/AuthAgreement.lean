import SyncthingSocket.Session
import SyncthingSocket.Reference

/-!
The two ends of the authentication exchange agree on its outcome, and leave the
streams exactly where the application data begins.
-/

namespace SyncthingSocket

open Effect Effect.Program Framing

variable {extra part rest : Bytes} {conn : Conn} {log : Log} {result : Option Err} {side : Side}

section Logs

variable {platform : Platform} {totpSecret : String} {clientConn serverConn : Conn}
  {clientLog serverLog : Log}

theorem challenge_of_open {challenge : AuthChallenge}
    (challenged : Challenged platform part challenge)
    (arriving : part <+: frame okChallenge.marshal ++ rest) :
    part = frame okChallenge.marshal ∧ challenge.type = "auth_ok" := by
  -- What the server says first decides which branch the client takes.
  obtain ⟨body, finished, decoded⟩ := challenged
  obtain ⟨whole, rfl⟩ := platform.challenge.arrived finished decoded arriving
  exact ⟨whole, rfl⟩

theorem challenge_of_totp {challenge : AuthChallenge}
    (challenged : Challenged platform part challenge)
    (arriving : part <+: frame totpChallenge.marshal ++ rest) :
    part = frame totpChallenge.marshal ∧ challenge.type = "auth_required" := by
  obtain ⟨body, finished, decoded⟩ := challenged
  obtain ⟨whole, rfl⟩ := platform.challenge.arrived finished decoded arriving
  exact ⟨whole, rfl⟩

theorem Answered.of_answer {resp : AuthResponse} {code : String}
    (answered : Answered platform conn log resp)
    (arriving : received conn log <+: frame (answerTo code).marshal ++ rest) :
    received conn log = frame (answerTo code).marshal ∧ resp = answerTo code := by
  obtain ⟨body, finished, decoded⟩ := answered
  exact platform.response.arrived finished decoded arriving

theorem Answered.ne_nil {resp : AuthResponse}
    (answered : Answered platform conn log resp) : received conn log ≠ [] := by
  obtain ⟨body, finished, _⟩ := answered
  rw [finished.eq_frame]
  exact frame_ne_nil body

theorem part_not_whole {sent : Bytes} (partOf : PartOf part sent) (whole : frame sent <+: part) :
    False :=
  partOf.2 (partOf.1.eq_of_length (Nat.le_antisymm partOf.1.length_le whole.length_le))

theorem client_passes_server_fails {err : Err}
    (client : ClientAuthReturns platform clientConn none clientLog)
    (server : ServerAuthReturns platform serverConn totpSecret (some err) serverLog)
    (toClient : received clientConn clientLog <+: sent serverConn serverLog)
    (toServer : received serverConn serverLog <+: sent clientConn clientLog ++ extra) : False := by
  rcases client with ⟨challenge, challenged, isOk, _⟩ |
    ⟨first, second, challenge, code, body, res, split, challenged, required, answer, finished, decoded,
      accepted⟩
  · rcases server with ⟨_, _, part⟩ | ⟨_, _, part⟩ | ⟨_, said, _⟩ | ⟨_, resp, part, _, said, _, _⟩
    · obtain ⟨whole, _⟩ := challenge_of_open challenged
        ((toClient.trans part.1).trans (List.prefix_append _ []))
      exact part_not_whole part (whole ▸ toClient)
    · have required := (challenge_of_totp challenged
        ((toClient.trans part.1).trans (List.prefix_append _ []))).2
      simp [required] at isOk
    · have required := (challenge_of_totp challenged
        ((said ▸ toClient).trans (List.prefix_append _ []))).2
      simp [required] at isOk
    · have required := (challenge_of_totp challenged (said ▸ toClient)).2
      simp [required] at isOk
  · rw [split] at toClient
    have firstArrives := (List.prefix_append first second).trans toClient
    rcases server with ⟨_, _, part⟩ | ⟨_, _, part⟩ | ⟨_, said, _⟩ |
      ⟨_, resp, part, answered, said, within, refusal⟩
    · have isOk := (challenge_of_open challenged
        ((firstArrives.trans part.1).trans (List.prefix_append _ []))).2
      simp [required] at isOk
    · obtain ⟨whole, _⟩ := challenge_of_totp challenged
        ((firstArrives.trans part.1).trans (List.prefix_append _ []))
      exact part_not_whole part (whole ▸ firstArrives)
    · obtain ⟨whole, _⟩ := challenge_of_totp challenged
        ((said ▸ firstArrives).trans (List.prefix_append _ []))
      have lengths := toClient.length_le
      simp only [said, whole, finished.eq_frame, List.length_append, frame_length] at lengths
      omega
    · obtain ⟨whole, _⟩ := challenge_of_totp challenged (said ▸ firstArrives)
      obtain ⟨_, rfl⟩ := answered.of_answer (answer ▸ toServer)
      rw [said, whole, List.prefix_append_right_inj] at toClient
      obtain ⟨secondEq, rfl⟩ := platform.result.arrived finished decoded
        ((toClient.trans within).trans (List.prefix_append _ []))
      have all := within.eq_of_length (Nat.le_antisymm within.length_le (secondEq ▸ toClient).length_le)
      have refused := refusal all
      simp [refused] at accepted

theorem server_passes_client_fails {err : Err}
    (server : ServerAuthReturns platform serverConn totpSecret none serverLog)
    (client : ClientAuthReturns platform clientConn (some err) clientLog)
    (toServer : received serverConn serverLog <+: sent clientConn clientLog)
    (toClient : received clientConn clientLog ++ rest = sent serverConn serverLog ++ extra)
    (drained : ReadFailed clientConn clientLog → rest = []) : False := by
  have arriving : received clientConn clientLog <+: sent serverConn serverLog ++ extra := ⟨rest, toClient⟩
  -- a server passes without a secret or on a valid answer; every failure of the client is tried
  -- against both
  rcases server with ⟨_, _, said⟩ | ⟨_, resp, answered, isAuth, valid, said⟩
  · rw [said] at arriving toClient
    rcases client with ⟨_, bad⟩ | ⟨_, challenge, challenged, notOk⟩ | ⟨challenge, _, challenged,
      required, _⟩ |
      ⟨first, second, challenge, _, split, challenged, required, _⟩
    · obtain ⟨waiting, failed⟩ := platform.challenge.bad_arrived bad arriving okChallenge_fits
      have short := waiting.lt_frame arriving
      rw [drained failed, List.append_nil] at toClient
      rw [toClient, List.length_append] at short
      omega
    · exact notOk (challenge_of_open challenged arriving).2
    · simp [(challenge_of_open challenged arriving).2] at required
    · have isOk := (challenge_of_open challenged
        ((List.prefix_append first second).trans (split ▸ arriving))).2
      simp [isOk] at required
  · have heard := answered.ne_nil
    have silence : sent clientConn clientLog ≠ [] := by
      intro silent
      rw [silent, List.prefix_nil] at toServer
      exact heard toServer
    rcases client with ⟨silent, _⟩ | ⟨silent, _⟩ | ⟨challenge, code, _, _, part⟩ |
      ⟨first, second, challenge, code, split, challenged, required, answer, outcome⟩
    · exact silence silent
    · exact silence silent
    · obtain ⟨whole, _⟩ := answered.of_answer
        ((toServer.trans part.1).trans (List.prefix_append _ []))
      exact part_not_whole part (whole ▸ toServer)
    · obtain ⟨_, rfl⟩ := answered.of_answer ((answer ▸ toServer).trans (List.prefix_append _ []))
      rw [said, split, List.append_assoc] at arriving toClient
      obtain ⟨whole, _⟩ := challenge_of_totp challenged ((List.prefix_append first second).trans arriving)
      rw [whole, List.prefix_append_right_inj] at arriving
      rw [whole, List.append_assoc, List.append_cancel_left_eq] at toClient
      have passes : (verdict platform totpSecret (answerTo code)).status = "ok" := by
        simp [verdict, isAuth, valid]
      rcases outcome with bad | ⟨body, res, finished, decoded, refused⟩
      · obtain ⟨waiting, failed⟩ := platform.result.bad_arrived bad arriving (verdict_fits _ _ _)
        have short := waiting.lt_frame arriving
        rw [drained failed, List.append_nil] at toClient
        rw [toClient, List.length_append] at short
        omega
      · obtain ⟨_, rfl⟩ := platform.result.arrived finished decoded arriving
        exact refused passes

theorem both_pass_aligned {restClient restServer : Bytes}
    (server : ServerAuthReturns platform serverConn totpSecret none serverLog)
    (client : ClientAuthReturns platform clientConn none clientLog)
    (toServer : received serverConn serverLog <+: sent clientConn clientLog ++ restServer)
    (toClient : received clientConn clientLog <+: sent serverConn serverLog ++ restClient) :
    received serverConn serverLog = sent clientConn clientLog ∧
      received clientConn clientLog = sent serverConn serverLog := by
  rcases server with ⟨_, nothing, said⟩ | ⟨_, resp, answered, _, _, said⟩
  · rw [said] at toClient
    rcases client with ⟨challenge, challenged, _, silent⟩ |
      ⟨first, second, challenge, _, _, _, split, challenged, required, _⟩
    · exact ⟨by rw [nothing, silent], by rw [said, (challenge_of_open challenged toClient).1]⟩
    · have isOk := (challenge_of_open challenged
        ((List.prefix_append first second).trans (split ▸ toClient))).2
      simp [isOk] at required
  · rw [said, List.append_assoc] at toClient
    rcases client with ⟨challenge, challenged, isOk, _⟩ |
      ⟨first, second, challenge, code, body, res, split, challenged, _, answer, finished, decoded, _⟩
    · have required := (challenge_of_totp challenged toClient).2
      simp [required] at isOk
    · rw [answer] at toServer
      obtain ⟨heard, rfl⟩ := answered.of_answer toServer
      rw [split] at toClient
      obtain ⟨whole, _⟩ := challenge_of_totp challenged ((List.prefix_append first second).trans toClient)
      rw [whole, List.prefix_append_right_inj] at toClient
      obtain ⟨secondEq, _⟩ := platform.result.arrived finished decoded toClient
      exact ⟨by rw [heard, answer], by rw [split, said, whole, secondEq]⟩

theorem both_reading_absurd {clientSize serverSize : Nat}
    (client : ClientAuthAsks platform clientConn clientLog (.read clientConn clientSize))
    (server : ServerAuthAsks platform serverConn totpSecret serverLog (.read serverConn serverSize))
    (toServer : received serverConn serverLog = sent clientConn clientLog)
    (toClient : received clientConn clientLog = sent serverConn serverLog) : False := by
  rcases server with ⟨_, _, said, serverWaits⟩ | ⟨⟨data, isWrite⟩, _⟩
  swap
  · simp at isWrite
  rcases client with ⟨_, ⟨_, clientWaits⟩ | ⟨first, second, challenge, code, _, _, _, answer, _⟩⟩ |
    ⟨data, _, _, isWrite, _⟩ | ⟨isStdin, _⟩
  · rw [toClient, said] at clientWaits
    exact absurd (clientWaits.lt_frame (List.prefix_append _ [])) (Nat.lt_irrefl _)
  · rw [toServer, answer] at serverWaits
    exact absurd (serverWaits.lt_frame (List.prefix_append _ [])) (Nat.lt_irrefl _)
  · simp at isWrite
  · simp [StdinOp] at isStdin

theorem client_reading_server_passed {size : Nat}
    (client : ClientAuthAsks platform clientConn clientLog (.read clientConn size))
    (server : ServerAuthReturns platform serverConn totpSecret none serverLog)
    (toServer : received serverConn serverLog <+: sent clientConn clientLog)
    (toClient : received clientConn clientLog = sent serverConn serverLog ++ extra) : False := by
  have waits : (sent clientConn clientLog = [] ∧ Unfinished maxMessage (received clientConn clientLog)) ∨
      ∃ first second challenge code, received clientConn clientLog = first ++ second ∧
        Challenged platform first challenge ∧ challenge.type = "auth_required" ∧
        sent clientConn clientLog = frame (answerTo code).marshal ∧ Unfinished maxMessage second := by
    rcases client with ⟨_, waits⟩ | ⟨data, _, _, isWrite, _⟩ | ⟨isStdin, _⟩
    · exact waits
    · simp at isWrite
    · simp [StdinOp] at isStdin
  have unfinished_whole : ∀ {body : Bytes}, ¬ Unfinished maxMessage (frame body ++ extra) := by
    intro body waiting
    have short := waiting.lt_frame List.prefix_rfl
    rw [List.length_append] at short
    omega
  rcases server with ⟨_, _, said⟩ | ⟨_, resp, answered, _, _, said⟩
  · rw [said] at toClient
    rcases waits with ⟨_, waiting⟩ | ⟨first, second, challenge, code, split, challenged, required, _⟩
    · exact unfinished_whole (toClient ▸ waiting)
    · have isOk := (challenge_of_open challenged ⟨second, split.symm.trans toClient⟩).2
      simp [isOk] at required
  · rcases waits with ⟨silent, _⟩ | ⟨first, second, challenge, code, split, challenged, _, _, waiting⟩
    · rw [silent, List.prefix_nil] at toServer
      exact answered.ne_nil toServer
    · rw [said, split, List.append_assoc] at toClient
      obtain ⟨whole, _⟩ := challenge_of_totp challenged ⟨second, toClient⟩
      rw [whole, List.append_cancel_left_eq] at toClient
      exact unfinished_whole (toClient ▸ waiting)

theorem server_reading_client_passed {size : Nat}
    (server : ServerAuthAsks platform serverConn totpSecret serverLog (.read serverConn size))
    (client : ClientAuthReturns platform clientConn none clientLog)
    (toClient : received clientConn clientLog <+: sent serverConn serverLog) : False := by
  rcases server with ⟨_, _, said, _⟩ | ⟨⟨data, isWrite⟩, _⟩
  swap
  · simp at isWrite
  rw [said] at toClient
  rcases client with ⟨challenge, challenged, isOk, _⟩ |
    ⟨first, second, challenge, _, body, _, split, challenged, _, _, finished, _⟩
  · have required := (challenge_of_totp challenged (toClient.trans (List.prefix_append _ []))).2
    simp [required] at isOk
  · rw [split] at toClient
    obtain ⟨whole, _⟩ := challenge_of_totp challenged
      (((List.prefix_append first second).trans toClient).trans (List.prefix_append _ []))
    have lengths := toClient.length_le
    simp only [whole, finished.eq_frame, List.length_append, frame_length] at lengths
    omega

/-- A client in or after the exchange has sent nothing, or part of one answer to a
server that asked for it. -/
def ClientSaid (platform : Platform) (conn : Conn) (log : Log) : Prop :=
  sent conn log = [] ∨ ∃ first challenge code, first <+: received conn log ∧
    Challenged platform first challenge ∧ challenge.type = "auth_required" ∧
    sent conn log <+: frame (answerTo code).marshal

theorem performClientAuth_said {totpPasscode : String} {rest : Goroutine (Option Err)}
    (run : Runs (performClientAuth platform clientConn totpPasscode) clientLog rest) :
    ClientSaid platform clientConn clientLog := by
  cases rest with
  | ask op next =>
      rcases (performClientAuth_meets platform _ _).asks run with
        ⟨_, ⟨silent, _⟩ | ⟨first, second, challenge, code, split, challenged, required, answer, _⟩⟩ |
        ⟨_, challenge, code, _, challenged, required, part, _⟩ | ⟨_, silent⟩
      · exact Or.inl silent
      · exact Or.inr ⟨first, challenge, code, ⟨second, split.symm⟩, challenged, required,
          answer ▸ List.prefix_rfl⟩
      · exact Or.inr ⟨_, challenge, code, List.prefix_rfl, challenged, required, part.1⟩
      · exact Or.inl silent
  | done result =>
      have returns := (performClientAuth_meets platform _ _).finishes run
      cases result with
      | none =>
          rcases returns with ⟨_, _, _, silent⟩ |
            ⟨first, second, challenge, code, _, _, split, challenged, required, answer, _⟩
          · exact Or.inl silent
          · exact Or.inr ⟨first, challenge, code, ⟨second, split.symm⟩, challenged, required,
              answer ▸ List.prefix_rfl⟩
      | some err =>
          rcases returns with ⟨silent, _⟩ | ⟨silent, _⟩ | ⟨challenge, code, challenged, required, part⟩ |
            ⟨first, second, challenge, code, split, challenged, required, answer, _⟩
          · exact Or.inl silent
          · exact Or.inl silent
          · exact Or.inr ⟨_, challenge, code, List.prefix_rfl, challenged, required, part.1⟩
          · exact Or.inr ⟨first, challenge, code, ⟨second, split.symm⟩, challenged, required,
              answer ▸ List.prefix_rfl⟩

theorem server_passed_heard_all
    (server : ServerAuthReturns platform serverConn totpSecret none serverLog)
    (said : ClientSaid platform clientConn clientLog)
    (toServer : received serverConn serverLog ++ extra <+: sent clientConn clientLog)
    (toClient : received clientConn clientLog <+: sent serverConn serverLog ++ rest) :
    extra = [] := by
  rcases said with silent | ⟨first, challenge, code, heard, challenged, required, part⟩
  · rw [silent, List.prefix_nil] at toServer
    exact (List.append_eq_nil_iff.mp toServer).2
  rcases server with ⟨_, _, said⟩ | ⟨_, resp, answered, _, _, said⟩
  · have isOk := (challenge_of_open challenged (heard.trans (said ▸ toClient))).2
    simp [isOk] at required
  · have whole := (answered.of_answer (((List.prefix_append _ extra).trans
      (toServer.trans part)).trans (List.prefix_append _ []))).1
    have lengths := (toServer.trans part).length_le
    rw [whole, List.length_append] at lengths
    exact List.eq_nil_of_length_eq_zero (by omega)

end Logs

def authenticate (conn : Conn) (auth : Goroutine (Option Err)) : Goroutine (Option Err) := do
  match ← auth with
  | some err =>
      perform (.close conn)
      return some err
  | none => return none

def exchange (platform : Platform) (totpSecret totpPasscode : String) :
    Side → Goroutine (Option Err)
  | .client => performClientAuth platform Side.client.conn totpPasscode
  | .server => performServerAuth platform Side.server.conn totpSecret

def ExchangeOp (conn : Conn) (op : Op) : Prop :=
  IsRead conn op ∨ (∃ data, op = .write conn data) ∨ StdinOp op

theorem exchange_confined (platform : Platform) (totpSecret totpPasscode : String) (side : Side) :
    Meets (Contract.always fun _ op => ExchangeOp side.conn op) (fun _ _ => True)
      (exchange platform totpSecret totpPasscode side) [] := by
  apply meets_of_runs
  · intro log op next run
    cases side with
    | client =>
        rcases (performClientAuth_meets platform _ _).asks run with ⟨isRead, _⟩ |
          ⟨data, _, _, isWrite, _⟩ | ⟨isStdin, _⟩
        · exact Or.inl isRead
        · exact Or.inr (Or.inl ⟨data, isWrite⟩)
        · exact Or.inr (Or.inr isStdin)
    | server =>
        rcases (performServerAuth_meets platform _ _).asks run with ⟨isRead, _⟩ | ⟨isWrite, _⟩
        · exact Or.inl isRead
        · exact Or.inr (Or.inl isWrite)
  · simp

theorem authenticate_runs {auth : Goroutine (Option Err)}
    {rest : Goroutine (Option Err)} (run : Runs (authenticate conn auth) log rest) :
    (∃ op next following, Runs auth log (.ask op next) ∧ rest = .ask op following) ∨
    (∃ first err, Runs auth first (.done (some err)) ∧
      (log = first ∧ (∃ following, rest = .ask (.close conn) following) ∨
       log = first ++ [⟨.close conn, ()⟩] ∧ rest = .done (some err))) ∨
    (Runs auth log (.done none) ∧ rest = .done none) := by
  simp only [authenticate, perform_bind] at run
  rcases runs_bind run with ⟨op, next, early, rfl⟩ | ⟨first, later, failure, rfl, early, late⟩
  · exact Or.inl ⟨op, next, _, early, rfl⟩
  · cases failure with
    | none =>
        simp only [pure_eq_done, runs_done] at late
        obtain ⟨rfl, rfl⟩ := late
        exact Or.inr (Or.inr ⟨by simpa using early, rfl⟩)
    | some err =>
        refine Or.inr (Or.inl ⟨first, err, early, ?_⟩)
        cases late with
        | start _ => exact Or.inl ⟨by simp, _, rfl⟩
        | step closed last =>
            simp only [pure_eq_done, runs_done] at last
            obtain ⟨rfl, rfl⟩ := last
            exact Or.inr ⟨rfl, rfl⟩

def authProtocol (platform : Platform) (totpSecret totpPasscode : String) : Protocol where
  platform := platform
  Result _ := Option Err
  program side := authenticate side.conn (exchange platform totpSecret totpPasscode side)
  running _ main := main = .done none
  orderly := by
    rintro side early handed later op next _ rfl run
    exact absurd (runs_done.mp run).2 (by simp)
  unclosed := by
    intro side log op next run moves event member closes
    rcases authenticate_runs run with ⟨op', next', following, early, same⟩ |
      ⟨first, err, _, ⟨_, following, same⟩ | ⟨_, same⟩⟩ | ⟨_, same⟩
    · rcases ((exchange_confined platform _ _ side).confined early).1 event member with
        ⟨size, _, isRead⟩ | ⟨data, isWrite⟩ | isTerminal | isLine <;> simp_all [Closes]
    · injection same with opEq _
      rcases moves with ⟨size, isRead⟩ | ⟨data, isWrite⟩ <;> simp_all
    · simp at same
    · simp at same

section Session

variable {platform : Platform} {totpSecret totpPasscode : String}
  {net : Net (authProtocol platform totpSecret totpPasscode)}

def Returned (net : Net (authProtocol platform totpSecret totpPasscode)) (side : Side)
    (result : Option Err) : Prop :=
  ∃ first later, (net.ends side).log = first ++ later ∧
    Runs (exchange platform totpSecret totpPasscode side) first (.done result)

structure Ended (net : Net (authProtocol platform totpSecret totpPasscode)) (side : Side)
    (result : Option Err) (first : Log) : Prop where
  run : Runs (exchange platform totpSecret totpPasscode side) first (.done result)
  received_eq : received side.conn (net.ends side).log = received side.conn first
  sent_eq : sent side.conn (net.ends side).log = sent side.conn first
  readFailed : ReadFailed side.conn first → ReadFailed side.conn (net.ends side).log
  fresh : result ≠ none → (net.ends side).Fresh

theorem Returned.ended (sound : Sound net)
    (returned : Returned net side result) : ∃ first, Ended net side result first := by
  obtain ⟨first, later, split, finished⟩ := returned
  have notRunning : (net.ends side).main ≠ .done none → (net.ends side).Fresh := by
    intro different
    rcases sound.handed side with fresh | ⟨early, late, handed, _, _, running, run⟩
    · exact fresh
    · obtain rfl : handed = .done none := running
      exact absurd (runs_done.mp run).2 different
  rcases authenticate_runs (sound.runs side) with ⟨op, next, following, asking, _⟩ |
    ⟨whole, err, failed, outcome⟩ | ⟨passed, mainEq⟩
  · rw [split] at asking
    exact absurd (finished.finished_unique asking).2 (by simp)
  · rcases outcome with ⟨logEq, following, mainEq⟩ | ⟨logEq, mainEq⟩
    · obtain ⟨rfl, rfl⟩ := finished.finished_same failed
        (show first ++ later = whole ++ [] by rw [← split, logEq, List.append_nil])
      exact ⟨first, finished, by rw [logEq], by rw [logEq], by rw [logEq]; exact id,
        fun _ => notRunning fun same => nomatch mainEq.symm.trans same⟩
    · obtain ⟨rfl, rfl⟩ := finished.finished_same failed (split.symm.trans logEq)
      refine ⟨first, finished, ?_, ?_, ?_, fun _ => notRunning fun same => nomatch mainEq.symm.trans same⟩
      · simp [logEq, receivedBy]
      · simp [logEq, sentBy]
      · rintro ⟨size, cause, member⟩
        exact ⟨size, cause, by rw [logEq]; exact List.mem_append_left _ member⟩
  · obtain ⟨rfl, rfl⟩ := finished.finished_same passed
      (show first ++ later = (net.ends side).log ++ [] by rw [← split, List.append_nil])
    exact ⟨_, finished, rfl, rfl, id, by simp⟩

theorem plain_of_sound (sound : Sound net) : net.Plain := by
  have ops : ∀ side, ∀ event ∈ (net.ends side).log,
      ExchangeOp side.conn event.1 ∨ event.1 = .close side.conn := by
    intro side event member
    have confined := (exchange_confined platform totpSecret totpPasscode side)
    rcases authenticate_runs (sound.runs side) with ⟨op, next, following, asking, _⟩ |
      ⟨whole, err, failed, ⟨logEq, _⟩ | ⟨logEq, _⟩⟩ | ⟨passed, _⟩
    · exact Or.inl ((confined.confined asking).1 event member)
    · exact Or.inl ((confined.confined failed).1 event (logEq ▸ member))
    · rw [logEq] at member
      rcases List.mem_append.mp member with member | member
      · exact Or.inl ((confined.confined failed).1 event member)
      · exact Or.inr (by rw [List.mem_singleton.mp member])
    · exact Or.inl ((confined.confined passed).1 event member)
  intro side
  constructor
  · by_contra reading
    rcases ops side _ (sound.reading side reading) with
      (⟨size, _, isRead⟩ | ⟨data, isWrite⟩ | stdin) | same
      <;> simp_all [StdinOp]
  · by_contra sending
    rcases ops side _ (sound.sending side sending) with
      (⟨size, _, isRead⟩ | ⟨data, isWrite⟩ | stdin) | same
      <;> simp_all [StdinOp]

theorem Ended.server {first : Log} (ended : Ended net .server result first) :
    ServerAuthReturns platform Side.server.conn totpSecret result first :=
  (performServerAuth_meets platform _ _).finishes ended.run

theorem Ended.client {first : Log} (ended : Ended net .client result first) :
    ClientAuthReturns platform Side.client.conn result first :=
  (performClientAuth_meets platform _ totpPasscode).finishes ended.run

theorem toClient_eq (sound : Sound net) :
    received Side.client.conn (net.ends .client).log ++
      ((net.ends .client).appRead ++ net.inbox .client) =
      sent Side.server.conn (net.ends .server).log ++ (net.ends .server).appWrote := by
  have conserved := sound.conserved (plain_of_sound sound) .client
  rwa [Net.Conserved, List.append_assoc] at conserved

theorem toServer_eq (sound : Sound net) :
    received Side.server.conn (net.ends .server).log ++
      ((net.ends .server).appRead ++ net.inbox .server) =
      sent Side.client.conn (net.ends .client).log ++ (net.ends .client).appWrote := by
  have conserved := sound.conserved (plain_of_sound sound) .server
  rwa [Net.Conserved, List.append_assoc] at conserved

theorem results_agree (sound : Sound net) {client server : Option Err}
    (clientReturned : Returned net .client client) (serverReturned : Returned net .server server) :
    server = none ↔ client = none := by
  obtain ⟨clientLog, clientEnded⟩ := clientReturned.ended sound
  obtain ⟨serverLog, serverEnded⟩ := serverReturned.ended sound
  have toClient := toClient_eq sound
  have toServer := toServer_eq sound
  rw [clientEnded.received_eq, serverEnded.sent_eq] at toClient
  rw [serverEnded.received_eq, clientEnded.sent_eq] at toServer
  constructor
  · rintro rfl
    by_contra failed
    obtain ⟨err, rfl⟩ := Option.ne_none_iff_exists'.mp failed
    obtain ⟨unread, unwritten, _⟩ := clientEnded.fresh (by simp)
    rw [unread, List.nil_append] at toClient
    rw [unwritten, List.append_nil] at toServer
    exact server_passes_client_fails serverEnded.server clientEnded.client ⟨_, toServer⟩ toClient
      fun failed => (sound.readFailed .client (clientEnded.readFailed failed)).2.1
  · rintro rfl
    by_contra failed
    obtain ⟨err, rfl⟩ := Option.ne_none_iff_exists'.mp failed
    obtain ⟨_, unwritten, _⟩ := serverEnded.fresh (by simp)
    rw [unwritten, List.append_nil] at toClient
    exact client_passes_server_fails clientEnded.client serverEnded.server ⟨_, toClient⟩ ⟨_, toServer⟩

theorem streams_aligned (sound : Sound net) (clientPassed : Returned net .client none)
    (serverPassed : Returned net .server none) (side : Side) :
    received side.conn (net.ends side).log = sent side.peer.conn (net.ends side.peer).log ∧
      (net.ends side).appRead ++ net.inbox side = (net.ends side.peer).appWrote := by
  obtain ⟨clientLog, clientEnded⟩ := clientPassed.ended sound
  obtain ⟨serverLog, serverEnded⟩ := serverPassed.ended sound
  have toClient := toClient_eq sound
  have toServer := toServer_eq sound
  rw [clientEnded.received_eq, serverEnded.sent_eq] at toClient
  rw [serverEnded.received_eq, clientEnded.sent_eq] at toServer
  obtain ⟨serverHeard, clientHeard⟩ :=
    both_pass_aligned serverEnded.server clientEnded.client ⟨_, toServer⟩ ⟨_, toClient⟩
  cases side with
  | client =>
      rw [clientHeard, List.append_cancel_left_eq] at toClient
      exact ⟨by rw [clientEnded.received_eq, clientHeard]; exact serverEnded.sent_eq.symm, toClient⟩
  | server =>
      rw [serverHeard, List.append_cancel_left_eq] at toServer
      exact ⟨by rw [serverEnded.received_eq, serverHeard]; exact clientEnded.sent_eq.symm, toServer⟩

theorem reading_asks {size : Nat} {next} (sound : Sound net)
    (asks : (net.ends side).main = .ask (.read side.conn size) next) :
    (∃ next, Runs (exchange platform totpSecret totpPasscode side) (net.ends side).log
      (.ask (.read side.conn size) next)) ∧ (net.ends side).Fresh := by
  refine ⟨?_, sound.fresh asks (Or.inl ⟨size, rfl⟩)⟩
  have run := sound.runs side
  rw [asks] at run
  rcases authenticate_runs run with ⟨op, next', following, asking, same⟩ |
    ⟨_, _, _, ⟨_, _, same⟩ | ⟨_, same⟩⟩ | ⟨_, same⟩
  · injection same with opEq _
    subst opEq
    exact ⟨next', asking⟩
  · injection same with opEq _
    cases opEq
  · cases same
  · cases same

theorem not_both_reading (sound : Sound net) :
    ¬ ∀ side, net.inbox side = [] ∧
      ∃ size next, (net.ends side).main = .ask (.read side.conn size) next := by
  intro stuck
  obtain ⟨noneForClient, clientSize, clientNext, clientAsks⟩ := stuck .client
  obtain ⟨noneForServer, serverSize, serverNext, serverAsks⟩ := stuck .server
  obtain ⟨⟨_, clientRun⟩, clientUnread, clientUnwritten, _⟩ := reading_asks sound clientAsks
  obtain ⟨⟨_, serverRun⟩, serverUnread, serverUnwritten, _⟩ := reading_asks sound serverAsks
  have toClient := toClient_eq sound
  have toServer := toServer_eq sound
  rw [noneForClient, clientUnread, serverUnwritten, List.append_nil, List.append_nil,
    List.append_nil] at toClient
  rw [noneForServer, serverUnread, clientUnwritten, List.append_nil, List.append_nil,
    List.append_nil] at toServer
  exact both_reading_absurd ((performClientAuth_meets platform _ totpPasscode).asks clientRun)
    ((performServerAuth_meets platform _ _).asks serverRun) toServer toClient

def Blocked (net : Net (authProtocol platform totpSecret totpPasscode)) (side : Side) : Prop :=
  net.inbox side = [] ∧ ¬ net.Closed side.peer ∧
    ∃ size next, (net.ends side).main = .ask (.read side.conn size) next

theorem moves_or_blocked (sound : Sound net) (side : Side) :
    (∃ result, (net.ends side).main = .done result) ∨ Blocked net side ∨
      ∃ event after, Step net (.main side event) after := by
  have run := sound.runs side
  cases asks : (net.ends side).main with
  | done result => exact Or.inl ⟨result, rfl⟩
  | ask op next =>
      rw [asks] at run
      have steps : ∀ answer, net.permits side op answer →
          ∃ event after, Step net (.main side event) after :=
        fun answer allowed => ⟨⟨op, answer⟩, _, Step.main asks allowed⟩
      rcases authenticate_runs run with
        ⟨_, _, _, asking, same⟩ | ⟨_, _, _, ⟨_, _, same⟩ | ⟨_, same⟩⟩ | ⟨_, same⟩
      · injection same with opEq _
        subst opEq
        rcases ((exchange_confined platform _ _ side).confined asking).2 _ _ rfl with
          ⟨size, positive, rfl⟩ | ⟨data, rfl⟩ | rfl | rfl
        · have live := sound.not_closed asks (Or.inl ⟨size, rfl⟩)
          by_cases empty : net.inbox side = []
          · by_cases closed : net.Closed side.peer
            · exact Or.inr (Or.inr (steps (.error .eof) fun _ => Or.inr ⟨closed, empty⟩))
            · exact Or.inr (Or.inl ⟨empty, closed, size, next, asks⟩)
          · have some := List.length_pos_of_ne_nil empty
            refine Or.inr (Or.inr (steps (.ok ⟨(net.inbox side).take size, ?_, ?_⟩) fun _ => ⟨live, ?_⟩))
            · rw [List.length_take]
              omega
            · rw [List.length_take]
              omega
            · exact List.take_prefix _ _
        · exact Or.inr (Or.inr (steps none fun _ => sound.not_closed asks (Or.inr ⟨data, rfl⟩)))
        · exact Or.inr (Or.inr (steps true trivial))
        · exact Or.inr (Or.inr (steps (.ok "") trivial))
      · injection same with opEq _
        subst opEq
        exact Or.inr (Or.inr (steps () trivial))
      · cases same
      · cases same

theorem done_passed {result} (sound : Sound net) (finished : (net.ends side).main = .done result)
    (live : ¬ net.Closed side) : Returned net side none := by
  have run := sound.runs side
  rw [finished] at run
  rcases authenticate_runs run with
    ⟨_, _, _, _, same⟩ | ⟨_, _, _, ⟨_, _, same⟩ | ⟨logEq, _⟩⟩ | ⟨passed, _⟩
  · cases same
  · cases same
  · exact absurd (Or.inr ⟨_,
      by rw [logEq]; exact List.mem_append_right _ (List.mem_singleton_self _), Or.inl rfl⟩) live
  · exact ⟨_, [], by simp, passed⟩

theorem not_blocked_by_passed (sound : Sound net) (blocked : Blocked net side)
    (passed : Returned net side.peer none) : False := by
  obtain ⟨empty, _, size, next, asks⟩ := blocked
  obtain ⟨⟨_, run⟩, unread, unwritten, _⟩ := reading_asks sound asks
  obtain ⟨peerLog, ended⟩ := passed.ended sound
  have toClient := toClient_eq sound
  have toServer := toServer_eq sound
  cases side with
  | client =>
      rw [unread, empty, List.append_nil, List.append_nil] at toClient
      rw [unwritten, List.append_nil] at toServer
      have peerSent : sent Side.server.conn (net.ends .server).log = sent Side.server.conn peerLog :=
        ended.sent_eq
      have peerReceived : received Side.server.conn (net.ends .server).log =
          received Side.server.conn peerLog := ended.received_eq
      rw [peerSent] at toClient
      rw [peerReceived] at toServer
      exact client_reading_server_passed ((performClientAuth_meets platform _ totpPasscode).asks run)
        (Ended.server ended) ⟨_, toServer⟩ toClient
  | server =>
      rw [unwritten, List.append_nil] at toClient
      have peerReceived : received Side.client.conn (net.ends .client).log =
          received Side.client.conn peerLog := ended.received_eq
      rw [peerReceived] at toClient
      exact server_reading_client_passed ((performServerAuth_meets platform _ _).asks run)
        (Ended.client ended) ⟨_, toClient⟩

theorem exchange_progress (sound : Sound net) :
    (∀ side, ∃ result, (net.ends side).main = .done result) ∨
      ∃ side event after, Step net (.main side event) after := by
  have waiting : ∀ side, Blocked net side → ∃ side event after, Step net (.main side event) after := by
    intro side blocked
    rcases moves_or_blocked sound side.peer with ⟨result, finished⟩ | peerBlocked | moves
    · exact absurd (done_passed sound finished blocked.2.1) (not_blocked_by_passed sound blocked)
    · refine absurd ?_ (not_both_reading sound)
      intro other
      rcases side.eq_or_peer other with rfl | rfl
      · exact ⟨blocked.1, blocked.2.2⟩
      · exact ⟨peerBlocked.1, peerBlocked.2.2⟩
    · exact ⟨side.peer, moves⟩
  rcases moves_or_blocked sound .client with clientDone | blocked | moves
  · rcases moves_or_blocked sound .server with serverDone | blocked | moves
    · refine Or.inl fun side => ?_
      cases side with
      | client => exact clientDone
      | server => exact serverDone
    · exact Or.inr (waiting _ blocked)
    · exact Or.inr ⟨_, moves⟩
  · exact Or.inr (waiting _ blocked)
  · exact Or.inr ⟨_, moves⟩

end Session

theorem authentication_agrees (platform : Platform) (totpSecret totpPasscode : String)
    {net : Net (authProtocol platform totpSecret totpPasscode)}
    (reached : Reach Step anyStep (authProtocol platform totpSecret totpPasscode).start net) :
    (∀ client server, Returned net .client client → Returned net .server server →
      (server = none ↔ client = none)) ∧
    (Returned net .client none → Returned net .server none → ∀ side : Side,
      received side.conn (net.ends side).log = sent side.peer.conn (net.ends side.peer).log ∧
      (net.ends side).appRead ++ net.inbox side = (net.ends side.peer).appWrote) ∧
    (¬ ∀ side : Side, net.inbox side = [] ∧
      ∃ size next, (net.ends side).main = .ask (.read side.conn size) next) ∧
    ((∀ side : Side, ∃ result, (net.ends side).main = .done result) ∨
      ∃ side event after, Step net (.main side event) after) := by
  have sound := sound_of_reach reached
  refine ⟨?_, ?_, ?_, ?_⟩
  · intro client server clientReturned serverReturned
    exact results_agree sound clientReturned serverReturned
  · intro clientPassed serverPassed side
    exact streams_aligned sound clientPassed serverPassed side
  · exact not_both_reading sound
  · exact exchange_progress sound

/-! A server that wants a code, with bytes of its application right behind its verdict. -/

def accepted : AuthResult := ⟨"ok", ""⟩

theorem AuthResponse.marshal_pos (msg : AuthResponse) : 0 < msg.marshal.length :=
  List.length_pos_of_ne_nil marshal_ne_nil

theorem AuthResult.marshal_pos (msg : AuthResult) : 0 < msg.marshal.length :=
  List.length_pos_of_ne_nil marshal_ne_nil

theorem performServerAuth_totp (platform : Platform) (conn : Conn) {totpSecret code : String}
    (given : totpSecret ≠ "") (valid : platform.totpValidate code totpSecret = true)
    (fits : (answerTo code).marshal.length ≤ maxMessage) :
    Runs (performServerAuth platform conn totpSecret) (writeFrame conn totpChallenge.marshal ++
      (readFrame conn (answerTo code).marshal (answerTo code).marshal_pos ++
        writeFrame conn accepted.marshal))
      (.done none) := by
  rw [performServerAuth, if_neg given]
  refine ((sendFramed_whole conn totpChallenge.marshal).bind _).trans ?_
  rw [done_bind]
  refine ((readFramed_whole conn _ _ (answerTo code).marshal_pos fits).bind _).trans ?_
  rw [done_bind, platform.response.roundTrip]
  simp only [answerTo, ne_eq, not_true_eq_false, valid, Bool.true_eq_false, ↓reduceIte]
  exact sendFramed_whole conn accepted.marshal

theorem performClientAuth_totp (platform : Platform) (conn : Conn) {code : String}
    (given : code ≠ "") (trimmed : trimSpace code = code) :
    Runs (performClientAuth platform conn code)
      (readFrame conn totpChallenge.marshal totpChallenge.marshal_pos ++
      writeFrame conn (answerTo code).marshal ++ readFrame conn accepted.marshal accepted.marshal_pos)
      (.done none) := by
  rw [List.append_assoc, performClientAuth]
  refine ((readFramed_whole conn _ _ totpChallenge.marshal_pos (by decide)).bind _).trans ?_
  rw [done_bind, platform.challenge.roundTrip]
  have known : readPasscode code = .done (.ok code) := by
    simp only [readPasscode, trimmed, given, ne_eq, not_false_eq_true, ↓reduceIte]
    rfl
  change Runs (answerChallenge platform conn code) _ _
  rw [answerChallenge, known, done_bind]
  refine ((sendFramed_whole conn (answerTo code).marshal).bind _).trans ?_
  rw [done_bind]
  refine ((readFramed_whole conn _ _ accepted.marshal_pos (by decide)).bind _).trans ?_
  rw [done_bind, platform.result.roundTrip]
  exact Runs.start _

abbrev sampleAuth : Protocol := authProtocol referencePlatform "123456" "123456"

theorem totp_exchange_agrees :
    ∃ net, Reach Step anyStep sampleAuth.start net ∧
      (∀ side, Returned net side none) ∧ (net.ends .server).appWrote = [1, 2, 3] ∧
      ∀ side : Side, (net.ends side).appRead ++ net.inbox side = (net.ends side.peer).appWrote := by
  have serverRun := performServerAuth_totp referencePlatform Side.server.conn
    (show "123456" ≠ "" by decide)
      (show referencePlatform.totpValidate "123456" "123456" = true by decide) (by decide)
  have clientRun := performClientAuth_totp referencePlatform Side.client.conn
    (show "123456" ≠ "" by decide) (show trimSpace "123456" = "123456" by decide)
  obtain ⟨asked, asks, answers⟩ := Runs.split
    (show Runs (sampleAuth.start.ends .server).main _ (.done none) from serverRun.bind _)
  obtain ⟨waiting, replies, ends⟩ := Runs.split
    (show Runs (sampleAuth.start.ends .client).main _ (.done none) from clientRun.bind _)
  have free : ∀ (state : Net sampleAuth) side event, Routine event →
      anyStep state (Label.main side event) := fun _ _ _ _ => trivial
  obtain ⟨challenged, toChallenged, first⟩ :=
    advance_routine free sound_start asks (routine_writeFrame _ _) (by simp)
  have client : challenged.ends .client = sampleAuth.start.ends .client := first.peer
  have challenge : challenged.inbox .client = [] ++ sent Side.server.conn _ := first.outbox
  have silence : [] = received Side.server.conn _ ++ challenged.inbox .server := first.inbox
  rw [← client] at replies
  obtain ⟨replied, toReplied, second⟩ := advance_routine free first.sound replies
    (List.forall_mem_append.mpr ⟨routine_readFrame _ _ _, routine_writeFrame _ _⟩)
      (by rw [challenge]; simp)
  have server : replied.ends .server = challenged.ends .server := second.peer
  have heard : challenged.inbox .client = received Side.client.conn _ ++ replied.inbox .client :=
    second.inbox
  have drained : replied.inbox .client = [] := by
    rw [challenge] at heard
    simpa using heard
  have reply : replied.inbox .server = challenged.inbox .server ++ sent Side.client.conn _ :=
    second.outbox
  have resumes : (replied.ends .server).main = asked := by rw [server, first.ends]
  rw [← resumes] at answers
  obtain ⟨judged, toJudged, third⟩ := advance_routine free second.sound answers
    (List.forall_mem_append.mpr ⟨routine_readFrame _ _ _, routine_writeFrame _ _⟩)
    (by
      rw [reply, (List.append_eq_nil_iff.mp silence.symm).2]
      simp)
  have judgedClient : judged.ends .client = replied.ends .client := third.peer
  have verdict : judged.inbox .client = replied.inbox .client ++ sent Side.server.conn _ := third.outbox
  have logs : (judged.ends .server).log = writeFrame Side.server.conn totpChallenge.marshal ++
      (readFrame Side.server.conn (answerTo "123456").marshal (answerTo "123456").marshal_pos ++
        writeFrame Side.server.conn accepted.marshal) := by
    rw [third.ends, server, first.ends]
    rfl
  have live : ¬ judged.Closed .server := Net.live (by rw [third.ends, server, first.ends]; rfl) (by
    rw [logs]
    simp [writeFrame, readFrame, readWhole])
  obtain ⟨sending, toSending, wrote, others, pipelined⟩ := application_writes [1, 2, 3]
    (show anyStep judged (Label.appWrites .server [1, 2, 3]) from trivial)
    (show (judged.ends .server).main = .done none by rw [third.ends]) live
  have sendingClient : sending.ends .client = replied.ends .client := others.trans judgedClient
  have early := ((toChallenged.trans toReplied).trans toJudged).trans toSending
  have continues : (sending.ends .client).main = waiting := by rw [sendingClient, second.ends]
  rw [← continues] at ends
  have behind : sending.inbox .client = judged.inbox .client ++ [1, 2, 3] := pipelined
  obtain ⟨net, toNet, last⟩ := advance_routine free (sound_of_reach early) ends (routine_readFrame _ _ _)
    (by
      rw [behind, verdict, drained]
      simp)
  have reached := early.trans toNet
  have finished : net.ends .server = { judged.ends .server with
      appWrote := (judged.ends .server).appWrote ++ [1, 2, 3] } :=
    (show net.ends .server = sending.ends .server from last.peer).trans wrote
  have returned : ∀ side, Returned net side none := by
    intro side
    cases side with
    | client => exact ⟨_, [], by rw [last.ends, sendingClient, second.ends, client]; rfl, clientRun⟩
    | server => exact ⟨_, [], by rw [finished, List.append_nil]; exact logs, serverRun⟩
  have agreed := authentication_agrees referencePlatform "123456" "123456" reached
  refine ⟨net, reached, returned, ?_,
    fun side => (agreed.2.1 (returned .client) (returned .server) side).2⟩
  rw [finished, third.ends, server, first.ends]
  rfl

end SyncthingSocket
