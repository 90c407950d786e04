import SyncthingSocket.Luks.Polling

/-!
What `runLUKSAgent` keeps over whole runs, whatever appears in the directory and
whatever the lookups, the transfers and the sends come to: to whom a passphrase is
sent, and why a request is not answered again.
-/

namespace SyncthingSocket

open Effect Program

def Answering (log : AgentLog) : Prop := ∀ path, Replied log path → path ∈ answered log

def IdleEvent (event : Sigma AgentAnswer) : Prop :=
  Harmless event ∧ (∀ dir, event.1 ≠ .readDir dir) ∧ event.1 ≠ .findLUKSConfig

variable {after inner : AgentLog} {req : AskRequest} {delivered : Bool}
  {requests rest : List AskRequest} {cfg : LuksConfig}

section Runs

variable {quote : Text → String} {log : AgentLog}

theorem answered_harmless (harmless : ∀ event ∈ inner, Harmless event) (path : Text) :
    path ∈ answered (log ++ inner) ↔ path ∈ answered log := by
  rw [answered_append]
  exact mem_answered_untouched fun event member => (harmless event member).1 path

theorem Answering.harmless (answering : Answering log)
    (harmless : ∀ event ∈ inner, Harmless event) : Answering (log ++ inner) := by
  intro path replied
  rw [answered_harmless harmless]
  exact answering path (replied.before fun event member => (harmless event member).2 path).1

theorem Answering.pending (answering : Answering log)
    (pending : Pending quote log inner requests) : Answering (log ++ inner) := by
  intro path replied
  obtain ⟨before, there⟩ := replied.before (pending.unsent path)
  exact pending.keeps (answering path before) there

theorem Answering.set {path : Text} (answering : Answering log) :
    Answering (log ++ [⟨.setAnswered path, ()⟩]) := by
  intro other replied
  have before : other ∈ answered log := answering other (replied.before (by simp)).1
  rw [answered_append]
  exact mem_answered_grows before (by simp)

/-- The part of a pass that serves the requests found: those still to be served, and
what has been asked since the configuration was looked up. -/
structure Serving (quote : Text → String) (cfg : LuksConfig) (log after : AgentLog)
    (requests : List AskRequest) : Prop where
  answering : Answering log
  selected : ∀ req ∈ requests, Selected quote log req
  unanswered : ∀ req ∈ requests, req.path ∉ answered log
  distinct : (requests.map AskRequest.path).Nodup
  since : ∃ before, log = before ++ ⟨.findLUKSConfig, .ok (some cfg)⟩ :: after
  latest : ∀ event ∈ after, event.1 ≠ .findLUKSConfig

theorem Serving.idle (serving : Serving quote cfg log after requests) (event : Sigma AgentAnswer)
    (idle : IdleEvent event) :
    Serving quote cfg (log ++ [event]) (after ++ [event]) requests := by
  obtain ⟨answering, selected, unanswered, distinct, ⟨before, since⟩, latest⟩ := serving
  have harmless : ∀ other ∈ [event], Harmless other := by simp [idle.1]
  have quiet : NoReadDir [event] := by simpa [NoReadDir] using idle.2.1
  refine ⟨answering.harmless harmless, fun req member => (selected req member).extend quiet, ?_, distinct,
    ⟨before, by simp [since]⟩, ?_⟩
  · intro req member
    rw [answered_harmless harmless]
    exact unanswered req member
  · intro other member
    rcases List.mem_append.mp member with member | member
    · exact latest other member
    · rw [List.mem_singleton.mp member]
      exact idle.2.2

theorem Serving.tail
    (serving : Serving quote cfg log after (req :: rest)) : Serving quote cfg log after rest where
  answering := serving.answering
  selected other member := serving.selected other (List.mem_cons_of_mem _ member)
  unanswered other member := serving.unanswered other (List.mem_cons_of_mem _ member)
  distinct := (List.nodup_cons.mp serving.distinct).2
  since := serving.since
  latest := serving.latest

theorem Serving.answered (serving : Serving quote cfg log after (req :: rest)) (socketPath : Text)
    (payload : Framing.Bytes) :
    Serving quote cfg
      (log ++ [⟨.sendto req.path socketPath payload, none⟩, ⟨.closeSocket, ()⟩,
        ⟨.setAnswered req.path, ()⟩])
      (after ++ [⟨.sendto req.path socketPath payload, none⟩, ⟨.closeSocket, ()⟩,
        ⟨.setAnswered req.path, ()⟩])
      rest := by
  obtain ⟨answering, selected, unanswered, distinct, ⟨before, since⟩, latest⟩ := serving
  obtain ⟨once, distinct⟩ := List.nodup_cons.mp distinct
  have elsewhere (other : Text) (different : other ≠ req.path) :
      ∀ event ∈ ([⟨.sendto req.path socketPath payload, none⟩, ⟨.closeSocket, ()⟩,
        ⟨.setAnswered req.path, ()⟩] : AgentLog), event.1 ≠ .setAnswered other ∧
          event.1 ≠ .deleteAnswered other := by
    simp [Ne.symm different]
  refine ⟨?_, ?_, ?_, distinct, ⟨before, by simp [since]⟩, ?_⟩
  · intro path replied
    rw [answered_append]
    by_cases same : path = req.path
    · subst same
      simp only [List.foldl_cons, List.foldl_nil, answeredStep]
      split
      · assumption
      · exact List.mem_cons_self
    · refine (mem_answered_untouched (elsewhere path same)).mpr (answering path (replied.before ?_).1)
      simp [Ne.symm same]
  · intro other member
    exact (selected other (List.mem_cons_of_mem _ member)).extend (by simp [NoReadDir])
  · intro other member
    have different : other.path ≠ req.path := fun same => once (same ▸ List.mem_map_of_mem member)
    rw [answered_append, mem_answered_untouched (elsewhere other.path different)]
    exact unanswered other (List.mem_cons_of_mem _ member)
  · intro event member
    rcases List.mem_append.mp member with member | member
    · exact latest event member
    · simp only [List.mem_cons, List.not_mem_nil, or_false] at member
      rcases member with rfl | rfl | rfl <;> simp

theorem Serving.sends
    {passphrase : Framing.Bytes} (serving : Serving quote cfg log after (req :: rest))
    (fetched : ⟨.fetchPassphrase cfg, .ok passphrase⟩ ∈ after)
    (verified : cfg.device ≠ [] → ⟨.testPassphrase cfg.device passphrase, none⟩ ∈ after) :
    Sends quote log req.path req.socket (43 :: passphrase) := by
  obtain ⟨before, since⟩ := serving.since
  refine ⟨⟨req, serving.selected req List.mem_cons_self, rfl, rfl⟩, ?_, ?_⟩
  · exact ⟨before, after, cfg, passphrase, since, serving.latest, rfl, fetched, verified⟩
  · intro replied
    exact serving.unanswered req List.mem_cons_self (serving.answering req.path replied)

theorem announce_meets (serving : Serving quote cfg log after requests) :
    Meets (agentContract quote) (fun _ later => ∃ after, Serving quote cfg later after requests)
      (announce cfg delivered) log := by
  cases delivered with
  | false => exact ⟨trivial, fun _ _ => ⟨_, serving.idle _ (by simp [IdleEvent, Harmless])⟩⟩
  | true =>
      refine ⟨trivial, fun _ _ => ⟨trivial, fun _ _ => ?_⟩⟩
      exact ⟨_, (serving.idle _ (by simp [IdleEvent, Harmless])).idle _ (by simp [IdleEvent, Harmless])⟩

theorem verifyPassphrase_meets
    {passphrase : Framing.Bytes} (serving : Serving quote cfg log after requests) :
    Meets (agentContract quote)
      (fun result later => ∃ more, Serving quote cfg later (after ++ more) requests ∧
      (result = none → cfg.device ≠ [] → ⟨.testPassphrase cfg.device passphrase, none⟩ ∈ more))
      (verifyPassphrase cfg.device passphrase) log := by
  rw [verifyPassphrase]
  split
  · next unnamed => exact ⟨[], by simpa using serving, fun _ named => absurd unnamed named⟩
  · refine ⟨trivial, fun result _ => ⟨_, serving.idle _ (by simp [IdleEvent, Harmless]), ?_⟩⟩
    rintro rfl _
    exact List.mem_singleton_self _

theorem serveRequest_meets (serving : Serving quote cfg log after (req :: rest)) :
    Meets (agentContract quote) (fun _ later => ∃ after, Serving quote cfg later after rest)
      (serveRequest cfg delivered req) log := by
  rw [serveRequest]
  simp only [replyToAsk, askAgent, perform_bind, ask_bind, pure_eq_done]
  refine ⟨trivial, fun _ _ => ?_⟩
  apply Meets.bind
  refine (announce_meets (serving.idle _ (by simp [IdleEvent, Harmless]))).mono ?_
  rintro _ log ⟨after, serving⟩
  refine ⟨trivial, fun fetched _ => ?_⟩
  have transferred := serving.idle ⟨.fetchPassphrase cfg, fetched⟩ (by simp [IdleEvent, Harmless])
  have given_up : Meets (agentContract quote) (fun _ later => ∃ after, Serving quote cfg later after rest)
      (ask (.sleep agentRetryInterval) fun _ => done delivered)
        (log ++ [⟨.fetchPassphrase cfg, fetched⟩]) :=
    ⟨trivial, fun _ _ => ⟨_, (transferred.idle _ (by simp [IdleEvent, Harmless])).tail⟩⟩
  cases fetched with
  | error err => exact given_up
  | ok passphrase =>
      cases passphrase with
      | nil => exact given_up
      | cons byte more =>
          apply Meets.bind
          refine (verifyPassphrase_meets transferred).mono ?_
          rintro verdict log ⟨since, serving, verified⟩
          cases verdict with
          | some err =>
              exact ⟨trivial, fun _ _ => ⟨trivial, fun _ _ =>
                ⟨_, ((serving.idle _ (by simp [IdleEvent, Harmless])).idle _
                  (by simp [IdleEvent, Harmless])).tail⟩⟩⟩
          | none =>
              refine ⟨trivial, fun created _ => ?_⟩
              have serving := serving.idle ⟨.socket, created⟩ (by simp [IdleEvent, Harmless])
              cases created with
              | some err => exact ⟨_, serving.tail⟩
              | none =>
                  refine ⟨serving.sends (by simp) fun named => by simp [verified rfl named],
                    fun sent _ => ?_⟩
                  cases sent with
                  | some err =>
                      have serving :=
                        serving.idle ⟨.sendto req.path req.socket (43 :: byte :: more), some err⟩
                        (by simp [IdleEvent, Harmless])
                      exact ⟨trivial,
                        fun _ _ => ⟨_, (serving.idle _ (by simp [IdleEvent, Harmless])).tail⟩⟩
                  | none =>
                      refine ⟨trivial, fun _ _ => ⟨?_, fun _ _ => ⟨trivial, fun _ _ => ?_⟩⟩⟩
                      · exact Or.inl ⟨req.socket, 43 :: byte :: more, by simp⟩
                      · have printed := (serving.answered req.socket (43 :: byte :: more)).idle
                          ⟨.eprint (text "syncthing-socket: passphrase delivered for " ++ cfg.device), ()⟩
                          (by simp [IdleEvent, Harmless])
                        simp only [List.append_assoc, List.cons_append, List.nil_append] at printed ⊢
                        exact ⟨_, printed⟩

theorem serveRequests_meets (serving : Serving quote cfg log after requests) :
    Meets (agentContract quote) (fun _ later => Answering later)
      (serveRequests cfg delivered requests) log := by
  induction requests generalizing log after delivered with
  | nil => exact serving.answering
  | cons req rest ih =>
      rw [serveRequests]
      apply Meets.bind
      refine (serveRequest_meets serving).mono ?_
      rintro _ later ⟨after, serving⟩
      exact ih serving

theorem answerAll_meets {before : AgentLog} (answering : Answering log)
    (split : log = before ++ ⟨.findLUKSConfig, .ok none⟩ :: after)
    (selected : ∀ req ∈ requests, Selected quote before req) :
    Meets (agentContract quote) (fun _ later => Answering later) (answerAll requests) log := by
  induction requests generalizing log after with
  | nil => exact answering
  | cons req rest ih =>
      rw [answerAll]
      refine ⟨Or.inr (Or.inr ⟨before, after, req, split, selected req List.mem_cons_self, rfl⟩),
        fun _ _ => ?_⟩
      have longer : log ++ [⟨.setAnswered req.path, ()⟩] = before ++ ⟨.findLUKSConfig, .ok none⟩ ::
          (after ++ [⟨.setAnswered req.path, ()⟩]) := by simp [split]
      exact ih answering.set longer fun other member => selected other (List.mem_cons_of_mem _ member)

theorem agentPass_meets (answering : Answering log) :
    Meets (agentContract quote) (fun _ later => Answering later) (agentPass quote delivered) log := by
  rw [agentPass]
  simp only [askAgent, perform_bind, pure_eq_done]
  refine ⟨trivial, fun _ _ => ?_⟩
  have rested : Answering (log ++ [⟨.sleep agentPollInterval, ()⟩]) :=
    answering.harmless (by simp [Harmless])
  apply Meets.bind
  refine pendingRequests_meets.mono ?_
  rintro result _ ⟨inner, rfl, ⟨requests, rfl, ⟨pending⟩⟩ | ⟨⟨err, rfl⟩, harmless⟩⟩
  · have polled := rested.pending pending
    cases requests with
    | nil => exact polled
    | cons first others =>
        refine ⟨trivial, fun lookup _ => ?_⟩
        have harmless : ∀ event ∈ ([⟨.findLUKSConfig, lookup⟩] : AgentLog), Harmless event := by
          simp [Harmless]
        have looked := polled.harmless harmless
        cases lookup with
        | error err => exact ⟨trivial, fun _ _ => looked.harmless (by simp [Harmless])⟩
        | ok found =>
            cases found with
            | none =>
                apply Meets.bind
                exact answerAll_meets looked rfl pending.selected
            | some cfg =>
                have serving : Serving quote cfg _ [] (first :: others) := {
                  answering := looked
                  selected := fun req member => (pending.selected req member).extend (by simp [NoReadDir])
                  unanswered := fun req member held =>
                    pending.unanswered req member ((answered_harmless harmless req.path).mp held)
                  distinct := pending.distinct
                  since := ⟨_, rfl⟩
                  latest := by simp }
                exact serveRequests_meets serving
  · exact rested.harmless harmless

theorem runLUKSAgent_meets (passes : Nat) (delivered : Bool) (answering : Answering log) :
    Meets (agentContract quote) (fun _ later => Answering later)
      (runLUKSAgent quote passes delivered) log := by
  induction passes generalizing log delivered with
  | zero => exact answering
  | succ passes ih =>
      rw [runLUKSAgent]
      apply Meets.bind
      exact (agentPass_meets answering).mono fun delivered later answering => ih delivered answering

end Runs

theorem set_of_mem_answered {path : Text} {keys : List Text}
    (held : path ∈ inner.foldl answeredStep keys) :
    path ∈ keys ∨ ⟨.setAnswered path, ()⟩ ∈ inner := by
  by_cases set : ⟨.setAnswered path, ()⟩ ∈ inner
  · exact Or.inr set
  · induction inner generalizing keys with
    | nil => exact Or.inl held
    | cons event inner ih =>
        simp only [List.mem_cons, not_or] at set
        rcases ih held set.2 with sooner | later
        · refine Or.inl ?_
          obtain ⟨op, answer⟩ := event
          cases op with
          | setAnswered other =>
              have different : path ≠ other := by
                rintro rfl
                exact set.1 rfl
              simp only [answeredStep] at sooner
              split at sooner
              · exact sooner
              · simpa [different] using sooner
          | deleteAnswered other => exact List.mem_of_mem_filter sooner
          | _ => exact sooner
        · exact absurd later set.2

theorem answering_start : Answering [] := by
  rintro path ⟨before, after, _, _, split, _⟩
  simp at split

/-- Every datagram goes to a request that the last poll selected, carries a passphrase
verified for the device of the configuration, and answers a path that has no reply
standing; and no poll leaves a path in `answered` whose file it found gone. -/
theorem agent_replies_safely (quote : Text → String) (passes : Nat) {log : AgentLog}
    {rest : Agent Unit} (run : Runs (runLUKSAgent quote passes false) log rest)
    (relied : Relied (agentContract quote) [] log) :
    (∀ before after path socketPath payload sent,
      log = before ++ ⟨.sendto path socketPath payload, sent⟩ :: after →
      Sends quote before path socketPath payload) ∧
    ∀ inner requests, Runs (pendingRequests quote) inner (done (.ok requests)) →
      Relied (agentContract quote) log inner → ∀ path,
        ⟨.openFile path, .error .notExist⟩ ∈ inner ∨ ⟨.stat path, some .notExist⟩ ∈ inner →
        path ∉ answered (log ++ inner) := by
  constructor
  · rintro before after path socketPath payload sent rfl
    exact (runLUKSAgent_meets passes false answering_start).kept run relied
  · intro inner requests call allowed path gone
    obtain ⟨_, same, ⟨_, _, ⟨pending⟩⟩ | ⟨⟨_, failed⟩, _⟩⟩ := pendingRequests_meets.runs call allowed
    · rw [List.append_cancel_left same]
      rw [List.append_cancel_left same] at gone
      exact pending.missing gone
    · simp at failed

/-! One prompt, and the passes over it. -/

def promptFile : FileRead := ⟨text "[Ask]\nId=cryptsetup\nSocket=/s\nNotAfter=9", none⟩

def prompt : AskRequest :=
  { path := askPath (text "ask.1"), socket := text "/s", id := text "cryptsetup", notAfter := 9 }

def promptPoll : AgentLog :=
  [⟨.readDir askPasswordDir, .ok [text "ask.1"]⟩, ⟨.clockGettime, .ok (0, 1000)⟩,
    ⟨.isAnswered (askPath (text "ask.1")), false⟩, ⟨.openFile (askPath (text "ask.1")), .ok promptFile⟩,
    ⟨.rangeAnswered, []⟩]

theorem promptPoll_runs (quote : Text → String) :
    Runs (pendingRequests quote) promptPoll (done (.ok [prompt])) := by
  repeat apply Runs.step
  exact Runs.start _

def headerConfig : LuksConfig := ⟨text "/dev/sda1", text "seed", [], text "client"⟩

def transferLog (fetched : Except Err Framing.Bytes) : AgentLog :=
  ⟨.sleep agentPollInterval, ()⟩ :: promptPoll ++ [⟨.findLUKSConfig, .ok (some headerConfig)⟩,
    ⟨.ensureResolver, ()⟩,
    ⟨.eprint (text "syncthing-socket: requesting the passphrase for " ++ headerConfig.device), ()⟩,
    ⟨.fetchPassphrase headerConfig, fetched⟩]

def deliveryLog : AgentLog :=
  transferLog (.ok [7]) ++ [⟨.testPassphrase headerConfig.device [7], none⟩, ⟨.socket, none⟩] ++
    ⟨.sendto prompt.path prompt.socket [43, 7], none⟩ :: [⟨.closeSocket, ()⟩,
      ⟨.setAnswered prompt.path, ()⟩,
      ⟨.eprint (text "syncthing-socket: passphrase delivered for " ++ headerConfig.device), ()⟩]

theorem prompt_answered_safely :
    Runs (runLUKSAgent (fun _ => "") 1 false) deliveryLog (done ()) ∧
      ∃ before after, deliveryLog = before ++ ⟨.sendto prompt.path prompt.socket [43, 7], none⟩ :: after ∧
        Sends (fun _ => "") before prompt.path prompt.socket [43, 7] := by
  have run : Runs (runLUKSAgent (fun _ => "") 1 false) deliveryLog (done ()) := by
    repeat apply Runs.step
    exact Runs.start _
  have relied : Relied (agentContract fun _ => "") [] deliveryLog := by
    simp [deliveryLog, transferLog, promptPoll, Relied, agentContract, agentEnv, answered, answeredStep]
  exact ⟨run, _, _, rfl, (agent_replies_safely _ 1 run relied).1 _ _ _ _ _ _ rfl⟩

/-- A path enters `answered` for one of three reasons, and a request that is not in it
for one of them is opened by the next poll and returned if it is wanted. -/
theorem agent_never_loses_prompt (quote : Text → String) (passes : Nat) {log : AgentLog}
    {rest : Agent Unit} (run : Runs (runLUKSAgent quote passes false) log rest)
    (relied : Relied (agentContract quote) [] log) :
    (∀ before after path, log = before ++ ⟨.setAnswered path, ()⟩ :: after →
      Justified quote before path) ∧
    ∀ inner requests names, Runs (pendingRequests quote) inner (done (.ok requests)) →
      Relied (agentContract quote) log inner → ⟨.readDir askPasswordDir, .ok names⟩ ∈ inner →
      ∃ sec nsec, ⟨.clockGettime, .ok (sec, nsec)⟩ ∈ inner ∧ ∀ name ∈ names, text "ask." <+: name →
        askPath name ∈ answered log ∧ Justified quote log (askPath name) ∨
        ∃ opened, ⟨.openFile (askPath name), opened⟩ ∈ inner ∧ ∀ file parsed, opened = .ok file →
          parseAskFile quote file = .ok parsed → parsed.expired (usec sec nsec) = false →
          parsed.wantsCryptsetup = true → { parsed with path := askPath name } ∈ requests := by
  have marked : ∀ before after path, log = before ++ ⟨.setAnswered path, ()⟩ :: after →
      Justified quote before path := by
    rintro before after path rfl
    exact (runLUKSAgent_meets passes false answering_start).kept run relied
  refine ⟨marked, ?_⟩
  intro inner requests names call allowed listing
  obtain ⟨_, same, ⟨_, returned, ⟨pending⟩⟩ | ⟨⟨_, failed⟩, _⟩⟩ := pendingRequests_meets.runs call allowed
  · injection returned with returned
    rw [← List.append_cancel_left same, ← returned] at pending
    obtain ⟨sec, nsec, clock, listed⟩ := pending.listed listing
    refine ⟨sec, nsec, clock, ?_⟩
    intro name member asks
    rcases listed name member asks with held | opened
    · refine Or.inl ⟨held, ?_⟩
      have set := (set_of_mem_answered held).resolve_left List.not_mem_nil
      obtain ⟨before, after, split⟩ := List.append_of_mem set
      rw [split]
      exact (marked before after _ split).extend _
    · exact Or.inr opened
  · simp at failed

def failedLog : AgentLog := transferLog (.error .unexpectedEOF) ++ [⟨.sleep agentRetryInterval, ()⟩]

theorem failed_prompt_found_again :
    Runs (runLUKSAgent (fun _ => "") 1 false) failedLog (done ()) ∧
    ∃ opened, ⟨.openFile prompt.path, opened⟩ ∈ promptPoll ∧ ∀ file parsed, opened = .ok file →
      parseAskFile (fun _ => "") file = .ok parsed → parsed.expired (usec 0 1000) = false →
      parsed.wantsCryptsetup = true → { parsed with path := prompt.path } ∈ [prompt] := by
  have run : Runs (runLUKSAgent (fun _ => "") 1 false) failedLog (done ()) := by
    repeat apply Runs.step
    exact Runs.start _
  have relied : Relied (agentContract fun _ => "") [] failedLog := by
    simp [failedLog, transferLog, promptPoll, Relied, agentContract, agentEnv, answered, answeredStep]
  have unmarked : answered failedLog = [] := rfl
  have polled : Relied (agentContract fun _ => "") failedLog promptPoll := by
    simp [promptPoll, Relied, agentContract, agentEnv, unmarked, answeredStep]
  obtain ⟨sec, nsec, clock, listed⟩ := (agent_never_loses_prompt _ 1 run relied).2 promptPoll [prompt]
    [text "ask.1"] (promptPoll_runs _) polled (by simp [promptPoll])
  obtain ⟨rfl, rfl⟩ : sec = 0 ∧ nsec = 1000 := by simpa [promptPoll] using clock
  rcases listed (text "ask.1") (by simp) (by decide) with ⟨held, _⟩ | found
  · simp [unmarked] at held
  · exact ⟨run, found⟩

end SyncthingSocket
