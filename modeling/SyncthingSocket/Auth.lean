import SyncthingSocket.Wire

/-!
The authentication exchange of `auth.go` that runs right after the TLS
handshake. Without a TOTP secret the server only says so; with one it asks for a
code and answers with a verdict.
-/

namespace SyncthingSocket

open Effect Effect.Program Framing

def performServerAuth (platform : Platform) (conn : Conn) (totpSecret : String) :
    Goroutine (Option Err) := do
  if totpSecret = "" then
    sendAuthMessage conn (AuthChallenge.marshal ⟨"auth_ok", []⟩)
  else
    match ← sendAuthMessage conn (AuthChallenge.marshal ⟨"auth_required", ["totp"]⟩) with
    | some err => return some err
    | none =>
        match ← readAuthMessage platform.response conn with
        | .error err => return some err
        | .ok resp =>
            if resp.type ≠ "auth" then
              let _ ← sendAuthMessage conn
                (AuthResult.marshal ⟨"error", "expected auth message, got " ++ resp.type⟩)
              return some (.text ("expected auth message, got " ++ resp.type))
            else if platform.totpValidate resp.totp totpSecret = false then
              let _ ← sendAuthMessage conn (AuthResult.marshal ⟨"error", "invalid TOTP passcode"⟩)
              return some (.text "invalid TOTP passcode received")
            else sendAuthMessage conn (AuthResult.marshal ⟨"ok", ""⟩)

def readPasscode (totpPasscode : String) : Goroutine (Except Err String) := do
  let code := trimSpace totpPasscode
  if code ≠ "" then return .ok code
  else if (← perform .stdinIsTerminal) = false then
    return .error (.text ("server requires TOTP authentication, but --totp was not provided " ++
      "and stdin is not interactive"))
  else
    match ← perform .stdinReadString with
    | .error err => return .error (err.wrap "failed to read TOTP passcode from stdin: ")
    | .ok line => return .ok (trimSpace line)

/-- The rest of `performClientAuth` once the server has asked for a TOTP code. -/
def answerChallenge (platform : Platform) (conn : Conn) (totpPasscode : String) :
    Goroutine (Option Err) := do
  match ← readPasscode totpPasscode with
  | .error err => return some err
  | .ok code =>
      match ← sendAuthMessage conn (AuthResponse.marshal ⟨"auth", code⟩) with
      | some err => return some (err.wrap "failed to send auth response: ")
      | none =>
          match ← readAuthMessage platform.result conn with
          | .error err => return some (err.wrap "failed to read auth result from server: ")
          | .ok res =>
              if res.status ≠ "ok" then
                return some (.text ("authentication failed: " ++ res.message))
              else return none

def performClientAuth (platform : Platform) (conn : Conn) (totpPasscode : String) :
    Goroutine (Option Err) := do
  match ← readAuthMessage platform.challenge conn with
  | .error err => return some (err.wrap "failed to read auth challenge from server: ")
  | .ok challenge =>
      if challenge.type = "auth_ok" then return none
      else if challenge.type ≠ "auth_required" then
        return some (.text ("unexpected challenge type from server: " ++ challenge.type))
      else if "totp" ∉ challenge.methods then
        return some (.text ("server required unknown authentication methods: [" ++
          " ".intercalate challenge.methods ++ "]"))
      else answerChallenge platform conn totpPasscode

-- Unfolded, the test for a passcode would be evaluated on an unknown string.
attribute [local irreducible] trimSpace

/-! The frames of the exchange. -/

def okChallenge : AuthChallenge := ⟨"auth_ok", []⟩

def totpChallenge : AuthChallenge := ⟨"auth_required", ["totp"]⟩

def answerTo (code : String) : AuthResponse := ⟨"auth", code⟩

def verdict (platform : Platform) (totpSecret : String) (resp : AuthResponse) : AuthResult :=
  if resp.type ≠ "auth" then ⟨"error", "expected auth message, got " ++ resp.type⟩
  else if platform.totpValidate resp.totp totpSecret = false then ⟨"error", "invalid TOTP passcode"⟩
  else ⟨"ok", ""⟩

theorem okChallenge_fits : okChallenge.marshal.length ≤ maxMessage := by decide

theorem verdict_fits (platform : Platform) (totpSecret code : String) :
    (verdict platform totpSecret (answerTo code)).marshal.length ≤ maxMessage := by
  by_cases accepted : platform.totpValidate code totpSecret = false
  · simp only [verdict, answerTo, ne_eq, not_true_eq_false, accepted, ↓reduceIte]
    decide
  · simp only [verdict, answerTo, ne_eq, not_true_eq_false, accepted, ↓reduceIte]
    decide

theorem marshal_ne_nil {members : List (String × List Char)} :
    Json.utf8 (Json.object members) ≠ [] := by
  obtain ⟨rest, encoded⟩ := Json.utf8_object members
  simp [encoded]

def PartOf (part body : Bytes) : Prop := part <+: frame body ∧ part ≠ frame body

def BadMessage {α : Type} (unmarshal : Bytes → Except Err α) (failed : Prop) (part : Bytes) :
    Prop :=
  (∃ body err, Finished maxMessage part body ∧ unmarshal body = .error err) ∨
  (part.length = 4 ∧ maxMessage < uint32 part) ∨ (Unfinished maxMessage part ∧ failed)

variable {part : Bytes} {log : Log}

theorem badMessage_of_framedRead {α : Type} {conn : Conn} {unmarshal : Bytes → Except Err α}
    {err : Err} (before : Log) (outcome : FramedRead conn unmarshal log (.done (.error err))) :
    BadMessage unmarshal (ReadFailed conn (before ++ log)) (received conn log) := by
  rcases outcome with ⟨body, finished, decoded⟩ | oversized | ⟨short, size, cause, failed⟩
  · exact Or.inl ⟨body, err, finished, decoded⟩
  · exact Or.inr (Or.inl oversized)
  · exact Or.inr (Or.inr ⟨short, size, cause, List.mem_append_right _ failed⟩)

theorem Decoder.arrived {α : Type} {marshal : α → Bytes} (decoder : Decoder marshal)
    {body rest : Bytes} {value original : α} (finished : Finished maxMessage part body)
    (decoded : decoder.unmarshal body = .ok value)
    (arriving : part <+: frame (marshal original) ++ rest) :
    part = frame (marshal original) ∧ value = original := by
  have bodyEq := finished.body_eq arriving
  by_cases whole : body = marshal original
  · rw [whole, decoder.roundTrip, Except.ok.injEq] at decoded
    exact ⟨by rw [finished.eq_frame, whole], decoded.symm⟩
  · have early : body <+: marshal original := by
      rw [bodyEq]
      exact List.take_prefix _ _
    obtain ⟨err, refused⟩ := decoder.truncated original body early whole
    rw [refused] at decoded
    cases decoded

theorem Decoder.bad_arrived {α : Type} {marshal : α → Bytes} (decoder : Decoder marshal)
    {rest : Bytes} {original : α} {failed : Prop} (bad : BadMessage decoder.unmarshal failed part)
    (arriving : part <+: frame (marshal original) ++ rest)
    (fits : (marshal original).length ≤ maxMessage) :
    Unfinished maxMessage part ∧ failed := by
  have small : (marshal original).length < 4294967296 := by
    rw [maxMessage] at fits
    omega
  rcases bad with ⟨body, err, finished, refused⟩ | ⟨header, oversized⟩ | cut
  · rw [finished.head arriving small, decoder.roundTrip] at refused
    cases refused
  · rw [uint32_of_arriving arriving (by omega), Nat.mod_eq_of_lt small] at oversized
    omega
  · exact cut

section Server

variable (platform : Platform) (conn : Conn) (totpSecret : String)

/-- The client's answer has arrived and decodes to `resp`. -/
def Answered (log : Log) (resp : AuthResponse) : Prop :=
  ∃ body, Finished maxMessage (received conn log) body ∧ platform.response.unmarshal body = .ok resp

def ServerAuthAsks (log : Log) (op : Op) : Prop :=
  IsRead conn op ∧ totpSecret ≠ "" ∧ sent conn log = frame totpChallenge.marshal ∧
      Unfinished maxMessage (received conn log) ∨
  (∃ data, op = .write conn data) ∧
    ((totpSecret = "" ∧ received conn log = [] ∧ PartOf (sent conn log) okChallenge.marshal) ∨
     (totpSecret ≠ "" ∧ received conn log = [] ∧ PartOf (sent conn log) totpChallenge.marshal) ∨
     (totpSecret ≠ "" ∧ ∃ resp part, Answered platform conn log resp ∧
        sent conn log = frame totpChallenge.marshal ++ part ∧
        PartOf part (verdict platform totpSecret resp).marshal))

def ServerAuthReturns : Option Err → Log → Prop
  | none, log =>
      (totpSecret = "" ∧ received conn log = [] ∧ sent conn log = frame okChallenge.marshal) ∨
      (totpSecret ≠ "" ∧ ∃ resp, Answered platform conn log resp ∧ resp.type = "auth" ∧
        platform.totpValidate resp.totp totpSecret = true ∧
        sent conn log = frame totpChallenge.marshal ++ frame (verdict platform totpSecret resp).marshal)
  | some _, log =>
      (totpSecret = "" ∧ received conn log = [] ∧ PartOf (sent conn log) okChallenge.marshal) ∨
      (totpSecret ≠ "" ∧ received conn log = [] ∧ PartOf (sent conn log) totpChallenge.marshal) ∨
      (totpSecret ≠ "" ∧ sent conn log = frame totpChallenge.marshal ∧
        BadMessage platform.response.unmarshal (ReadFailed conn log) (received conn log)) ∨
      (totpSecret ≠ "" ∧ ∃ resp part, Answered platform conn log resp ∧
        sent conn log = frame totpChallenge.marshal ++ part ∧
        part <+: frame (verdict platform totpSecret resp).marshal ∧
        (part = frame (verdict platform totpSecret resp).marshal →
          (verdict platform totpSecret resp).status = "error"))

variable {platform conn totpSecret} in
theorem sendVerdict_meets {resp : AuthResponse} (closed : totpSecret ≠ "")
    (said : sent conn log = frame totpChallenge.marshal)
    (answered : Answered platform conn log resp) :
    Meets (Contract.always (ServerAuthAsks platform conn totpSecret))
      (fun value later => Answered platform conn later resp ∧ ∃ part,
        sent conn later = frame totpChallenge.marshal ++ part ∧
        part <+: frame (verdict platform totpSecret resp).marshal ∧
        (value = none ↔ part = frame (verdict platform totpSecret resp).marshal))
      (sendAuthMessage conn (verdict platform totpSecret resp).marshal) log := by
  have kept : ∀ {inner : Log}, OnlyWrites conn inner → Answered platform conn (log ++ inner) resp := by
    intro inner writes
    simpa [Answered, writes.received_eq] using answered
  refine meets_of_runs ?_ ?_
  · intro inner op next run
    obtain ⟨writes, data, opEq, started, unfinished⟩ := sendFramed_runs marshal_ne_nil run
    refine Or.inr ⟨⟨data, opEq⟩, Or.inr (Or.inr ⟨closed, resp, sent conn inner, kept writes, ?_, ?_, ?_⟩)⟩
    · simp [said]
    · exact (List.prefix_append _ _).trans started
    · exact unfinished
  · intro inner value run
    obtain ⟨writes, outcome⟩ := sendFramed_runs marshal_ne_nil run
    refine ⟨kept writes, sent conn inner, by simp [said], ?_, ?_⟩
    · cases value with
      | none => exact outcome ▸ List.prefix_rfl
      | some err => exact outcome.1
    · cases value with
      | none => exact ⟨fun _ => outcome, fun _ => rfl⟩
      | some err => exact ⟨nofun, fun same => absurd same outcome.2.1⟩

variable {platform conn totpSecret} in
theorem refusal_returns {resp : AuthResponse} {err : Err} (closed : totpSecret ≠ "")
    (refusal : (verdict platform totpSecret resp).status = "error")
    (answered : Answered platform conn log resp)
    (out : sent conn log = frame totpChallenge.marshal ++ part)
    (within : part <+: frame (verdict platform totpSecret resp).marshal) :
    ServerAuthReturns platform conn totpSecret (some err) log :=
  Or.inr (Or.inr (Or.inr ⟨closed, resp, part, answered, out, within, fun _ => refusal⟩))

theorem performServerAuth_meets :
    Meets (Contract.always (ServerAuthAsks platform conn totpSecret))
      (ServerAuthReturns platform conn totpSecret) (performServerAuth platform conn totpSecret) [] := by
  simp only [performServerAuth]
  by_cases isOpen : totpSecret = ""
  · simp only [isOpen, ↓reduceIte]
    refine meets_of_runs ?_ ?_
    · intro inner op next run
      obtain ⟨writes, data, opEq, started, unfinished⟩ := sendFramed_runs marshal_ne_nil run
      refine Or.inr ⟨⟨data, opEq⟩, Or.inl ⟨rfl, writes.received_eq, ?_, unfinished⟩⟩
      exact (List.prefix_append _ _).trans started
    · intro inner value run
      obtain ⟨writes, outcome⟩ := sendFramed_runs marshal_ne_nil run
      cases value with
      | none => exact Or.inl ⟨rfl, writes.received_eq, outcome⟩
      | some err => exact Or.inl ⟨rfl, writes.received_eq, outcome.1, outcome.2.1⟩
  · simp only [isOpen, ↓reduceIte]
    refine Meets.bind ?_
    refine meets_of_runs ?_ ?_
    · intro inner op next run
      obtain ⟨writes, data, opEq, started, unfinished⟩ := sendFramed_runs marshal_ne_nil run
      refine Or.inr ⟨⟨data, opEq⟩, Or.inr (Or.inl ⟨isOpen, writes.received_eq, ?_, unfinished⟩)⟩
      exact (List.prefix_append _ _).trans started
    · intro greeting value run
      obtain ⟨writes, outcome⟩ := sendFramed_runs marshal_ne_nil run
      cases value with
      | some err =>
          exact Or.inr (Or.inl ⟨isOpen, writes.received_eq, outcome.1, outcome.2.1⟩)
      | none =>
          have greeted : sent conn greeting = frame totpChallenge.marshal := outcome
          simp only [List.nil_append]
          refine Meets.bind ?_
          refine meets_of_runs ?_ ?_
          · intro inner op next run
            obtain ⟨reads, size, unfinished⟩ := readFramed_runs run
            refine Or.inl ⟨size, isOpen, ?_, ?_⟩
            · simp [greeted, reads.sent_eq]
            · simpa [writes.received_eq] using unfinished
          · intro listening value run
            obtain ⟨reads, outcome⟩ := readFramed_runs run
            have heard : received conn (greeting ++ listening) = received conn listening := by
              simp [writes.received_eq]
            have said : sent conn (greeting ++ listening) = frame totpChallenge.marshal := by
              simp [greeted, reads.sent_eq]
            cases value with
            | error err =>
                refine Or.inr (Or.inr (Or.inl ⟨isOpen, said, ?_⟩))
                rw [heard]
                exact badMessage_of_framedRead greeting outcome
            | ok resp =>
                have answered : Answered platform conn (greeting ++ listening) resp := by
                  rw [Answered, heard]
                  exact outcome
                -- what is left is one verdict; the branches differ in what it says
                have sending := sendVerdict_meets isOpen said answered
                by_cases wrongType : resp.type ≠ "auth"
                · have judged : verdict platform totpSecret resp =
                      ⟨"error", "expected auth message, got " ++ resp.type⟩ := by
                    simp [verdict, wrongType]
                  simp only [wrongType, ne_eq, not_false_eq_true, ↓reduceIte]
                  rw [← judged]
                  refine Meets.bind ?_
                  exact sending.mono fun value later ⟨kept, part, out, within, _⟩ =>
                    refusal_returns isOpen (by rw [judged]) kept out within
                · by_cases refused : platform.totpValidate resp.totp totpSecret = false
                  · have judged :
                        verdict platform totpSecret resp = ⟨"error", "invalid TOTP passcode"⟩ := by
                      simp [verdict, wrongType, refused]
                    simp only [wrongType, refused, ↓reduceIte]
                    rw [← judged]
                    refine Meets.bind ?_
                    exact sending.mono fun value later ⟨kept, part, out, within, _⟩ =>
                      refusal_returns isOpen (by rw [judged]) kept out within
                  · have judged : verdict platform totpSecret resp = ⟨"ok", ""⟩ := by
                      simp [verdict, wrongType, refused]
                    simp only [wrongType, refused, ↓reduceIte]
                    rw [judged] at sending
                    refine sending.mono fun value later ⟨kept, part, out, within, complete⟩ => ?_
                    cases value with
                    | none =>
                        refine Or.inr ⟨isOpen, resp, kept, by simpa using wrongType,
                          by simpa using refused, ?_⟩
                        rw [out, judged, complete.mp rfl]
                    | some err =>
                        refine Or.inr (Or.inr (Or.inr ⟨isOpen, resp, part, kept, out, ?_, ?_⟩))
                        · rw [judged]
                          exact within
                        · intro whole
                          rw [judged] at whole
                          exact absurd (complete.mpr whole) nofun

end Server

def StdinOp (op : Op) : Prop := op = .stdinIsTerminal ∨ op = .stdinReadString

def OnlyStdin (log : Log) : Prop := ∀ event ∈ log, StdinOp event.1

theorem OnlyStdin.received_eq (stdin : OnlyStdin log) (conn : Conn) :
    received conn log = [] := by
  rw [received, List.flatMap_eq_nil_iff]
  rintro ⟨op, answer⟩ member
  rcases stdin _ member with same | same <;> simp only at same <;> subst same <;> rfl

theorem OnlyStdin.sent_eq (stdin : OnlyStdin log) (conn : Conn) :
    sent conn log = [] := by
  rw [sent, List.flatMap_eq_nil_iff]
  rintro ⟨op, answer⟩ member
  rcases stdin _ member with same | same <;> simp only at same <;> subst same <;> rfl

theorem readPasscode_meets (totpPasscode : String) :
    Meets (Contract.always fun log op => OnlyStdin log ∧ StdinOp op)
      (fun _ log => OnlyStdin log) (readPasscode totpPasscode) [] := by
  simp only [readPasscode]
  by_cases given : trimSpace totpPasscode ≠ ""
  · simp only [given, ne_eq, not_false_eq_true, ↓reduceIte]
    simp [Meets, OnlyStdin]
  · simp only [given, ↓reduceIte, perform_bind]
    refine ⟨⟨by simp [OnlyStdin], Or.inl rfl⟩, fun terminal _ => ?_⟩
    cases terminal with
    | false => simp [Meets, OnlyStdin, StdinOp]
    | true =>
        simp only [Bool.true_eq_false, ↓reduceIte]
        refine ⟨⟨by simp [OnlyStdin, StdinOp], Or.inr rfl⟩, fun line _ => ?_⟩
        cases line <;> simp [Meets, OnlyStdin, StdinOp]

section Client

variable (platform : Platform) (conn : Conn) (totpPasscode : String)

def Challenged (part : Bytes) (challenge : AuthChallenge) : Prop :=
  ∃ body, Finished maxMessage part body ∧ platform.challenge.unmarshal body = .ok challenge

def ClientAuthAsks (log : Log) (op : Op) : Prop :=
  IsRead conn op ∧
    ((sent conn log = [] ∧ Unfinished maxMessage (received conn log)) ∨
     ∃ first second challenge code, received conn log = first ++ second ∧
       Challenged platform first challenge ∧ challenge.type = "auth_required" ∧
       sent conn log = frame (answerTo code).marshal ∧ Unfinished maxMessage second) ∨
  (∃ data challenge code, op = .write conn data ∧ Challenged platform (received conn log) challenge ∧
    challenge.type = "auth_required" ∧ PartOf (sent conn log) (answerTo code).marshal ∧
    (data = putUint32 (answerTo code).marshal.length ∨ data = (answerTo code).marshal)) ∨
  (StdinOp op ∧ sent conn log = [])

def ClientAuthReturns : Option Err → Log → Prop
  | none, log =>
      (∃ challenge, Challenged platform (received conn log) challenge ∧
        challenge.type = "auth_ok" ∧ sent conn log = []) ∨
      (∃ first second challenge code body res, received conn log = first ++ second ∧
        Challenged platform first challenge ∧ challenge.type = "auth_required" ∧
        sent conn log = frame (answerTo code).marshal ∧ Finished maxMessage second body ∧
        platform.result.unmarshal body = .ok res ∧ res.status = "ok")
  | some _, log =>
      (sent conn log = [] ∧
        BadMessage platform.challenge.unmarshal (ReadFailed conn log) (received conn log)) ∨
      (sent conn log = [] ∧ ∃ challenge, Challenged platform (received conn log) challenge ∧
        challenge.type ≠ "auth_ok") ∨
      (∃ challenge code, Challenged platform (received conn log) challenge ∧
        challenge.type = "auth_required" ∧ PartOf (sent conn log) (answerTo code).marshal) ∨
      (∃ first second challenge code, received conn log = first ++ second ∧
        Challenged platform first challenge ∧ challenge.type = "auth_required" ∧
        sent conn log = frame (answerTo code).marshal ∧
        (BadMessage platform.result.unmarshal (ReadFailed conn log) second ∨
          ∃ body res, Finished maxMessage second body ∧ platform.result.unmarshal body = .ok res ∧
            res.status ≠ "ok"))

variable {platform conn} in
theorem awaitResult_meets {first : Bytes} {challenge : AuthChallenge} {code : String}
    (heard : received conn log = first) (challenged : Challenged platform first challenge)
    (required : challenge.type = "auth_required")
    (answered : sent conn log = frame (answerTo code).marshal) :
    Meets (Contract.always (ClientAuthAsks platform conn)) (ClientAuthReturns platform conn)
      (readAuthMessage platform.result conn >>= fun
        | .error err => pure (some (err.wrap "failed to read auth result from server: "))
        | .ok res =>
            if res.status ≠ "ok" then
              pure (some (.text ("authentication failed: " ++ res.message)))
            else pure none) log := by
  refine Meets.bind ?_
  refine meets_of_runs ?_ ?_
  · intro inner op next run
    obtain ⟨reads, size, unfinished⟩ := readFramed_runs run
    refine Or.inl ⟨size, Or.inr ⟨first, received conn inner, challenge, code, ?_, challenged,
      required, ?_, unfinished⟩⟩
    · rw [received_append, heard]
    · rw [sent_append, reads.sent_eq, List.append_nil, answered]
  · intro inner value run
    obtain ⟨reads, outcome⟩ := readFramed_runs run
    have both : received conn (log ++ inner) = first ++ received conn inner := by
      rw [received_append, heard]
    have out : sent conn (log ++ inner) = frame (answerTo code).marshal := by
      rw [sent_append, reads.sent_eq, List.append_nil, answered]
    cases value with
    | error err =>
        exact Or.inr (Or.inr (Or.inr ⟨first, received conn inner, challenge, code, both, challenged,
          required, out, Or.inl (badMessage_of_framedRead log outcome)⟩))
    | ok res =>
        obtain ⟨body, finished, decoded⟩ := outcome
        by_cases refused : res.status ≠ "ok"
        · simp only [refused, ne_eq, not_false_eq_true, ↓reduceIte]
          exact Or.inr (Or.inr (Or.inr ⟨first, received conn inner, challenge, code, both, challenged,
            required, out, Or.inr ⟨body, res, finished, decoded, refused⟩⟩))
        · simp only [refused, ↓reduceIte]
          exact Or.inr ⟨first, received conn inner, challenge, code, body, res, both, challenged,
            required, out, finished, decoded, not_not.mp refused⟩

variable {platform conn totpPasscode} in
theorem answerChallenge_meets {greeting : Log} {challenge : AuthChallenge}
    (reads : OnlyReads conn greeting)
    (challenged : Challenged platform (received conn greeting) challenge)
    (required : challenge.type = "auth_required") :
    Meets (Contract.always (ClientAuthAsks platform conn))
      (ClientAuthReturns platform conn) (answerChallenge platform conn totpPasscode) greeting := by
  have silent : sent conn greeting = [] := reads.sent_eq
  have different : challenge.type ≠ "auth_ok" := by simp [required]
  refine Meets.bind ?_
  refine meets_of_runs ?_ ?_
  · intro typing op next run
    obtain ⟨stdin, asked⟩ := (readPasscode_meets totpPasscode).asks run
    exact Or.inr (Or.inr ⟨asked, by simp [silent, stdin.sent_eq]⟩)
  · intro typing value run
    have stdin : OnlyStdin typing := (readPasscode_meets totpPasscode).finishes run
    have quiet : sent conn (greeting ++ typing) = [] := by simp [silent, stdin.sent_eq]
    have heard : received conn (greeting ++ typing) = received conn greeting := by
      simp [stdin.received_eq]
    cases value with
    | error err =>
        exact Or.inr (Or.inl ⟨quiet, challenge, by rw [heard]; exact challenged, different⟩)
    | ok code =>
        refine Meets.bind ?_
        refine meets_of_runs ?_ ?_
        · intro answering op next run
          obtain ⟨writes, data, opEq, started, unfinished⟩ := sendFramed_runs marshal_ne_nil run
          refine Or.inr (Or.inl ⟨data, challenge, code, opEq, ?_, required, ⟨?_, ?_⟩, ?_⟩)
          · rw [received_append, heard, writes.received_eq, List.append_nil]
            exact challenged
          · rw [sent_append, quiet]
            exact (List.prefix_append _ _).trans started
          · rw [sent_append, quiet]
            exact unfinished
          · subst opEq
            simpa [answerTo] using sendFramed_asks run
        · intro answering value run
          obtain ⟨writes, outcome⟩ := sendFramed_runs marshal_ne_nil run
          have heardStill : received conn (greeting ++ typing ++ answering) = received conn greeting := by
            rw [received_append, heard, writes.received_eq, List.append_nil]
          have out : sent conn (greeting ++ typing ++ answering) = sent conn answering := by
            rw [sent_append, quiet, List.nil_append]
          cases value with
          | some err =>
              refine Or.inr (Or.inr (Or.inl ⟨challenge, code, ?_, required, ?_⟩))
              · rw [heardStill]
                exact challenged
              · rw [out]
                exact ⟨outcome.1, outcome.2.1⟩
          | none =>
              have answered : sent conn (greeting ++ typing ++ answering) =
                  frame (answerTo code).marshal := out.trans outcome
              exact awaitResult_meets heardStill challenged required answered

theorem performClientAuth_meets :
    Meets (Contract.always (ClientAuthAsks platform conn))
      (ClientAuthReturns platform conn) (performClientAuth platform conn totpPasscode) [] := by
  simp only [performClientAuth]
  refine Meets.bind ?_
  refine meets_of_runs ?_ ?_
  · intro inner op next run
    obtain ⟨reads, size, unfinished⟩ := readFramed_runs run
    exact Or.inl ⟨size, Or.inl ⟨by simp [reads.sent_eq], by simpa using unfinished⟩⟩
  · intro greeting value run
    obtain ⟨reads, outcome⟩ := readFramed_runs run
    simp only [List.nil_append]
    cases value with
    | error err =>
        exact Or.inl ⟨reads.sent_eq, badMessage_of_framedRead [] outcome⟩
    | ok challenge =>
        have challenged : Challenged platform (received conn greeting) challenge := outcome
        by_cases isOk : challenge.type = "auth_ok"
        · simp only [isOk, ↓reduceIte]
          exact Or.inl ⟨challenge, challenged, isOk, reads.sent_eq⟩
        · simp only [isOk, ↓reduceIte]
          have refusal : ∀ err, ClientAuthReturns platform conn (some err) greeting :=
            fun _ => Or.inr (Or.inl ⟨reads.sent_eq, challenge, challenged, isOk⟩)
          by_cases unknownType : challenge.type ≠ "auth_required"
          · simp only [unknownType, ne_eq, not_false_eq_true, ↓reduceIte]
            exact refusal _
          · simp only [unknownType, ↓reduceIte]
            simp only [ne_eq, not_not] at unknownType
            by_cases noTotp : "totp" ∉ challenge.methods
            · simp only [noTotp, not_false_eq_true, ↓reduceIte]
              exact refusal _
            · simp only [noTotp, ↓reduceIte]
              exact answerChallenge_meets reads challenged unknownType

end Client

theorem AuthChallenge.marshal_pos (msg : AuthChallenge) : 0 < msg.marshal.length :=
  List.length_pos_of_ne_nil marshal_ne_nil

theorem SignalMessage.marshal_pos (msg : SignalMessage) : 0 < msg.marshal.length :=
  List.length_pos_of_ne_nil marshal_ne_nil

theorem performServerAuth_open (platform : Platform) (conn : Conn) :
    Runs (performServerAuth platform conn "") (writeFrame conn okChallenge.marshal) (.done none) := by
  simp only [performServerAuth, ↓reduceIte]
  exact sendFramed_whole conn okChallenge.marshal

theorem performClientAuth_open (platform : Platform) (conn : Conn) (totpPasscode : String) :
    Runs (performClientAuth platform conn totpPasscode)
      (readFrame conn okChallenge.marshal okChallenge.marshal_pos) (.done none) := by
  rw [performClientAuth]
  refine ((readFramed_whole conn _ _ okChallenge.marshal_pos okChallenge_fits).bind _).trans ?_
  rw [done_bind, platform.challenge.roundTrip]
  exact Runs.start _

end SyncthingSocket
