import SyncthingSocket.Luks.Agent
import Mathlib.Data.List.Nodup

/-!
What one call of `pendingRequests` does to the log of the agent: which files it
opens, which paths enter and leave `answered`, and which requests it returns.
-/

namespace SyncthingSocket

open Effect Program

def answeredStep (keys : List Text) : Sigma AgentAnswer → List Text
  | ⟨.setAnswered path, _⟩ => if path ∈ keys then keys else path :: keys
  | ⟨.deleteAnswered path, _⟩ => keys.filter (· ≠ path)
  | _ => keys

/-- The keys of the map `answered` after this log. -/
def answered (log : AgentLog) : List Text := log.foldl answeredStep []

@[simp] theorem answered_append (log later : AgentLog) :
    answered (log ++ later) = later.foldl answeredStep (answered log) :=
  List.foldl_append

/-- A directory lists each name once, and the map holds what was written to it; any
other answer may come back from anything the agent asks. -/
def agentEnv (log : AgentLog) : (op : AgentOp) → AgentAnswer op → Prop
  | .readDir _, .ok names => names.Nodup
  | .isAnswered path, known => known = decide (path ∈ answered log)
  | .rangeAnswered, keys => keys.Perm (answered log)
  | _, _ => True

def NoReadDir (log : AgentLog) : Prop := ∀ event ∈ log, ∀ dir, event.1 ≠ .readDir dir

/-- The log is that of a poll under way, which has listed `names` and read the clock
at `now`. -/
def InPoll (log : AgentLog) (names : List Text) (now : UInt64) : Prop :=
  ∃ earlier sec nsec between, log = earlier ++ ⟨.readDir askPasswordDir, .ok names⟩ ::
    ⟨.clockGettime, .ok (sec, nsec)⟩ :: between ∧ NoReadDir between ∧ now = usec sec nsec

variable {inner log sweep : AgentLog} {keys names : List Text} {found : Option AskRequest}
  {name path : Text}

theorem InPoll.extend {now : UInt64} (polling : InPoll log names now)
    (quiet : NoReadDir inner) : InPoll (log ++ inner) names now := by
  obtain ⟨earlier, sec, nsec, between, rfl, silent, time⟩ := polling
  refine ⟨earlier, sec, nsec, between ++ inner, by simp, ?_, time⟩
  intro event member
  rcases List.mem_append.mp member with member | member
  · exact silent event member
  · exact quiet event member

/-- The request was selected by the last poll: its file was listed under a name that
starts with `ask.`, parsed, had not expired and is `cryptsetup`'s. -/
def Selected (quote : Text → String) (log : AgentLog) (req : AskRequest) : Prop :=
  ∃ before after names now file parsed name,
    log = before ++ ⟨.openFile req.path, .ok file⟩ :: after ∧ NoReadDir after ∧ InPoll before names now ∧
    name ∈ names ∧ text "ask." <+: name ∧ parseAskFile quote file = .ok parsed ∧
    req = { parsed with path := askPath name } ∧ req.expired now = false ∧ req.wantsCryptsetup = true

theorem Selected.extend {quote : Text → String} {req : AskRequest}
    (selected : Selected quote log req) (quiet : NoReadDir inner) :
    Selected quote (log ++ inner) req := by
  obtain ⟨before, after, names, now, file, parsed, name, rfl, silent, facts⟩ := selected
  refine ⟨before, after ++ inner, names, now, file, parsed, name, by simp, ?_, facts⟩
  intro event member
  rcases List.mem_append.mp member with member | member
  · exact silent event member
  · exact quiet event member

/-- Some poll found the file at this path unparseable, expired or not `cryptsetup`'s. -/
def Dismissed (quote : Text → String) (log : AgentLog) (path : Text) : Prop :=
  ∃ before after names now file, log = before ++ ⟨.openFile path, .ok file⟩ :: after ∧
    InPoll before names now ∧
    ∀ req, parseAskFile quote file = .ok req → req.expired now = true ∨ req.wantsCryptsetup = false

/-- Why a path may enter `answered`: a reply to it was sent, some poll dismissed it, or
a configuration lookup found nothing while it was pending. -/
def Justified (quote : Text → String) (log : AgentLog) (path : Text) : Prop :=
  (∃ socketPath payload, ⟨.sendto path socketPath payload, none⟩ ∈ log) ∨ Dismissed quote log path ∨
    ∃ before after req, log = before ++ ⟨.findLUKSConfig, .ok none⟩ :: after ∧ Selected quote before req ∧
      req.path = path

theorem Justified.extend {quote : Text → String} (justified : Justified quote log path)
    (inner : AgentLog) : Justified quote (log ++ inner) path := by
  rcases justified with ⟨socketPath, payload, sent⟩ | ⟨before, after, names, now, file, rfl, facts⟩ |
    ⟨before, after, req, rfl, facts⟩
  · exact Or.inl ⟨socketPath, payload, List.mem_append_left _ sent⟩
  · exact Or.inr (Or.inl ⟨before, after ++ inner, names, now, file, by simp, facts⟩)
  · exact Or.inr (Or.inr ⟨before, after ++ inner, req, by simp, facts⟩)

def Replied (log : AgentLog) (path : Text) : Prop :=
  ∃ before after socketPath payload, log = before ++ ⟨.sendto path socketPath payload, none⟩ :: after ∧
    ⟨.stat path, some .notExist⟩ ∉ after

/-- What is known when a datagram is sent: the request was selected by the last poll,
the passphrase was fetched under the configuration in use and verified for its device
if it names one, and no reply to the path stands. -/
def Sends (quote : Text → String) (log : AgentLog) (path socketPath : Text)
    (payload : Framing.Bytes) : Prop :=
  (∃ req, Selected quote log req ∧ req.path = path ∧ req.socket = socketPath) ∧
  (∃ before after cfg passphrase, log = before ++ ⟨.findLUKSConfig, .ok (some cfg)⟩ :: after ∧
    (∀ event ∈ after, event.1 ≠ .findLUKSConfig) ∧ payload = 43 :: passphrase ∧
    ⟨.fetchPassphrase cfg, .ok passphrase⟩ ∈ after ∧
    (cfg.device ≠ [] → ⟨.testPassphrase cfg.device passphrase, none⟩ ∈ after)) ∧
  ¬ Replied log path

def AgentAsks (quote : Text → String) (log : AgentLog) : AgentOp → Prop
  | .setAnswered path => Justified quote log path
  | .sendto path socketPath payload => Sends quote log path socketPath payload
  | _ => True

def agentContract (quote : Text → String) : Contract AgentAnswer where
  guard := AgentAsks quote
  rely := agentEnv

def Harmless (event : Sigma AgentAnswer) : Prop :=
  (∀ path, event.1 ≠ .setAnswered path ∧ event.1 ≠ .deleteAnswered path) ∧
    ∀ path socketPath payload, event ≠ ⟨.sendto path socketPath payload, none⟩

/-! What one directory entry comes to. -/

section Scanning

variable (quote : Text → String) (now : UInt64)

inductive Scanned (log : AgentLog) (name : Text) : AgentLog → Option AskRequest → Prop
  | foreign : ¬ text "ask." <+: name → Scanned log name [] none
  | known : text "ask." <+: name → askPath name ∈ answered log →
      Scanned log name [⟨.isAnswered (askPath name), true⟩] none
  | unreadable (err : FileErr) : text "ask." <+: name → askPath name ∉ answered log →
      Scanned log name [⟨.isAnswered (askPath name), false⟩, ⟨.openFile (askPath name), .error err⟩] none
  | dismissed (file : FileRead) : text "ask." <+: name → askPath name ∉ answered log →
      (∀ req, parseAskFile quote file = .ok req → req.expired now = true ∨ req.wantsCryptsetup = false) →
      Scanned log name [⟨.isAnswered (askPath name), false⟩, ⟨.openFile (askPath name), .ok file⟩,
        ⟨.setAnswered (askPath name), ()⟩] none
  | wanted (file : FileRead) (parsed : AskRequest) : text "ask." <+: name → askPath name ∉ answered log →
      parseAskFile quote file = .ok parsed → parsed.expired now = false → parsed.wantsCryptsetup = true →
      Scanned log name [⟨.isAnswered (askPath name), false⟩, ⟨.openFile (askPath name), .ok file⟩]
        (some { parsed with path := askPath name })

inductive ScannedAll : AgentLog → List Text → AgentLog → List AskRequest → Prop
  | nil {log : AgentLog} : ScannedAll log [] [] []
  | cons {log inner later : AgentLog} {name : Text} {rest : List Text} {found : Option AskRequest}
      {others : List AskRequest} : Scanned quote now log name inner found →
      ScannedAll (log ++ inner) rest later others →
      ScannedAll log (name :: rest) (inner ++ later) (found.toList ++ others)

end Scanning

inductive Forgot : List Text → AgentLog → Prop
  | nil : Forgot [] []
  | gone {path : Text} {rest : List Text} {later : AgentLog} : Forgot rest later →
      Forgot (path :: rest) (⟨.stat path, some .notExist⟩ :: ⟨.deleteAnswered path, ()⟩ :: later)
  | kept {path : Text} {rest : List Text} {later : AgentLog} {result : Option FileErr} :
      result ≠ some .notExist → Forgot rest later → Forgot (path :: rest) (⟨.stat path, result⟩ :: later)

/-- A call of `pendingRequests` that reached its end. -/
structure Pending (quote : Text → String) (log inner : AgentLog) (requests : List AskRequest) where
  names : List Text
  sec : UInt64
  nsec : UInt64
  scan : AgentLog
  keys : List Text
  sweep : AgentLog
  unique : names.Nodup
  order : keys.Perm (answered (log ++ ⟨.readDir askPasswordDir, .ok names⟩ ::
    ⟨.clockGettime, .ok (sec, nsec)⟩ :: scan))
  scanned : ScannedAll quote (usec sec nsec) (log ++ [⟨.readDir askPasswordDir, .ok names⟩,
    ⟨.clockGettime, .ok (sec, nsec)⟩]) names scan requests
  forgot : Forgot keys sweep
  split : inner = ⟨.readDir askPasswordDir, .ok names⟩ :: ⟨.clockGettime, .ok (sec, nsec)⟩ ::
    (scan ++ ⟨.rangeAnswered, keys⟩ :: sweep)

section Calls

variable {quote : Text → String} {now : UInt64}

theorem dismiss_meets {file : FileRead} (polling : InPoll log names now)
    (asks : text "ask." <+: name) (fresh : askPath name ∉ answered log)
    (unwanted : ∀ req, parseAskFile quote file = .ok req → req.expired now = true ∨
      req.wantsCryptsetup = false) :
    Meets (agentContract quote)
      (fun found later => ∃ inner, later = log ++ inner ∧ Scanned quote now log name inner found)
      (ask (.setAnswered (askPath name)) fun _ => done none)
      (log ++ [⟨.isAnswered (askPath name), false⟩] ++ [⟨.openFile (askPath name), .ok file⟩]) := by
  have quiet : NoReadDir [⟨.isAnswered (askPath name), false⟩] := by simp [NoReadDir]
  refine ⟨Or.inr (Or.inl ⟨_, [], names, now, file, rfl, polling.extend quiet, unwanted⟩), fun _ _ => ?_⟩
  exact ⟨_, by simp, Scanned.dismissed file asks fresh unwanted⟩

theorem scanEntry_meets (polling : InPoll log names now) :
    Meets (agentContract quote) (fun found later => ∃ inner, later = log ++ inner ∧
      Scanned quote now log name inner found) (scanEntry quote now name) log := by
  rw [scanEntry]
  simp only [askAgent, perform_bind, pure_eq_done]
  split
  · next asks =>
      refine ⟨trivial, fun known held => ?_⟩
      have held : known = decide (askPath name ∈ answered log) := held
      cases known with
      | true => exact ⟨_, rfl, Scanned.known asks (by simpa using held)⟩
      | false =>
          have fresh : askPath name ∉ answered log := by simpa using held
          refine ⟨trivial, fun opened _ => ?_⟩
          cases opened with
          | error err => exact ⟨_, List.append_assoc _ _ _, Scanned.unreadable err asks fresh⟩
          | ok file =>
              dsimp only
              cases parsed : parseAskFile quote file with
              | error err => exact dismiss_meets polling asks fresh (by simp [parsed])
              | ok req =>
                  dsimp only
                  split
                  · next late => exact dismiss_meets polling asks fresh (by simp [parsed, late])
                  · next timely =>
                      split
                      · next ours =>
                          exact ⟨_, List.append_assoc _ _ _,
                            Scanned.wanted file req asks fresh parsed (by simpa using timely) ours⟩
                      · next foreign => exact dismiss_meets polling asks fresh (by simp [parsed, foreign])
  · next foreign => exact ⟨[], by simp, Scanned.foreign foreign⟩

theorem Scanned.quiet (scanned : Scanned quote now log name inner found) : NoReadDir inner := by
  cases scanned <;> simp [NoReadDir]

theorem scanEntries_meets {rest : List Text} (polling : InPoll log names now) :
    Meets (agentContract quote) (fun requests later => ∃ inner, later = log ++ inner ∧
      ScannedAll quote now log rest inner requests) (scanEntries quote now rest) log := by
  induction rest generalizing log with
  | nil => exact ⟨[], by simp, ScannedAll.nil⟩
  | cons name rest ih =>
      rw [scanEntries]
      apply Meets.bind
      refine (scanEntry_meets polling).mono ?_
      rintro found _ ⟨inner, rfl, scanned⟩
      apply Meets.bind
      refine (ih (polling.extend scanned.quiet)).mono ?_
      rintro others _ ⟨later, rfl, all⟩
      exact ⟨_, List.append_assoc _ _ _, ScannedAll.cons scanned all⟩

theorem forgetMissing_meets :
    Meets (agentContract quote) (fun _ later => ∃ sweep, later = log ++ sweep ∧ Forgot keys sweep)
      (forgetMissing keys) log := by
  induction keys generalizing log with
  | nil => exact ⟨[], by simp, Forgot.nil⟩
  | cons path rest ih =>
      rw [forgetMissing]
      simp only [askAgent, perform_bind]
      refine ⟨trivial, fun result _ => ?_⟩
      dsimp only
      split
      · next gone =>
          subst gone
          refine ⟨trivial, fun _ _ => ih.mono ?_⟩
          rintro _ _ ⟨sweep, rfl, forgot⟩
          exact ⟨_, by simp, Forgot.gone forgot⟩
      · next kept =>
          refine ih.mono ?_
          rintro _ _ ⟨sweep, rfl, forgot⟩
          exact ⟨_, by simp, Forgot.kept kept forgot⟩

theorem pendingRequests_meets :
    Meets (agentContract quote) (fun result later => ∃ inner, later = log ++ inner ∧
      ((∃ requests, result = .ok requests ∧ Nonempty (Pending quote log inner requests)) ∨
        (∃ err, result = .error err) ∧ ∀ event ∈ inner, Harmless event)) (pendingRequests quote) log := by
  rw [pendingRequests]
  simp only [monotonicUsec, askAgent, perform_bind, ask_bind, pure_eq_done]
  refine ⟨trivial, fun listing unique => ?_⟩
  cases listing with
  | error err => exact ⟨_, rfl, Or.inr ⟨⟨err, rfl⟩, by simp [Harmless]⟩⟩
  | ok names =>
      refine ⟨trivial, fun clock _ => ?_⟩
      cases clock with
      | error err => exact ⟨_, List.append_assoc _ _ _, Or.inr ⟨⟨err, rfl⟩, by simp [Harmless]⟩⟩
      | ok clock =>
          obtain ⟨sec, nsec⟩ := clock
          have polling : InPoll (log ++ [⟨.readDir askPasswordDir, .ok names⟩] ++
              [⟨.clockGettime, .ok (sec, nsec)⟩]) names (usec sec nsec) :=
            ⟨log, sec, nsec, [], by simp, by simp [NoReadDir], rfl⟩
          simp only [done_bind]
          apply Meets.bind
          refine (scanEntries_meets polling).mono ?_
          rintro requests _ ⟨scan, rfl, scanned⟩
          refine ⟨trivial, fun keys order => ?_⟩
          apply Meets.bind
          refine forgetMissing_meets.mono ?_
          rintro _ _ ⟨sweep, rfl, forgot⟩
          simp only [List.append_assoc, List.cons_append, List.nil_append] at scanned order
          refine ⟨_, ?_, Or.inl ⟨requests, rfl,
            ⟨names, sec, nsec, scan, keys, sweep, unique, order, scanned, forgot, rfl⟩⟩⟩
          simp

end Calls

/-! How the map changes. -/

theorem mem_answeredStep {event : Sigma AgentAnswer}
    (other : event.1 ≠ .setAnswered path ∧ event.1 ≠ .deleteAnswered path) :
    path ∈ answeredStep keys event ↔ path ∈ keys := by
  obtain ⟨op, answer⟩ := event
  cases op with
  | setAnswered written =>
      have different : path ≠ written := fun same => other.1 (by rw [same])
      simp only [answeredStep]
      split
      · rfl
      · simp [different]
  | deleteAnswered deleted =>
      have different : path ≠ deleted := fun same => other.2 (by rw [same])
      simp [answeredStep, different]
  | _ => rfl

theorem mem_answered_untouched
    (others : ∀ event ∈ inner, event.1 ≠ .setAnswered path ∧ event.1 ≠ .deleteAnswered path) :
    path ∈ inner.foldl answeredStep keys ↔ path ∈ keys := by
  induction inner generalizing keys with
  | nil => rfl
  | cons event inner ih =>
      rw [List.foldl_cons, ih fun later member => others later (List.mem_cons_of_mem _ member)]
      exact mem_answeredStep (others event List.mem_cons_self)

theorem askPath_inj {one two : Text} (same : askPath one = askPath two) : one = two := by
  simpa [askPath] using same

def ScanEvent (names : List Text) (event : Sigma AgentAnswer) : Prop :=
  ∃ name ∈ names, event.1 = .isAnswered (askPath name) ∨ event.1 = .openFile (askPath name) ∨
    event.1 = .setAnswered (askPath name)

section Facts

variable {quote : Text → String} {now : UInt64} {log inner : AgentLog} {names : List Text}
  {requests : List AskRequest}

theorem Scanned.events (scanned : Scanned quote now log name inner found) :
    ∀ event ∈ inner, ScanEvent [name] event := by
  cases scanned <;> simp [ScanEvent]

theorem ScannedAll.events (scanned : ScannedAll quote now log names inner requests) :
    ∀ event ∈ inner, ScanEvent names event := by
  induction scanned with
  | nil => simp
  | @cons log inner later name rest found others scanned _ ih =>
      intro event member
      rcases List.mem_append.mp member with member | member
      · obtain ⟨_, listed, what⟩ := scanned.events event member
        exact ⟨name, by simp, by simpa [List.mem_singleton.mp listed] using what⟩
      · obtain ⟨other, listed, what⟩ := ih event member
        exact ⟨other, List.mem_cons_of_mem _ listed, what⟩

theorem ScannedAll.quiet (scanned : ScannedAll quote now log names inner requests) :
    NoReadDir inner := by
  intro event member dir
  obtain ⟨name, _, what⟩ := scanned.events event member
  rcases what with what | what | what <;> simp [what]

theorem ScannedAll.untouched (path : Text) (scanned : ScannedAll quote now log names inner requests)
    (elsewhere : ∀ name ∈ names, path ≠ askPath name) :
    path ∈ answered (log ++ inner) ↔ path ∈ answered log := by
  rw [answered_append]
  refine mem_answered_untouched ?_
  intro event member
  obtain ⟨name, listed, what⟩ := scanned.events event member
  have different := elsewhere name listed
  rcases what with what | what | what <;> simp [what, Ne.symm different]

theorem Scanned.untouched {other : Text}
    (scanned : Scanned quote now log name inner found) (different : other ≠ name) :
    askPath other ∈ answered (log ++ inner) ↔ askPath other ∈ answered log := by
  rw [answered_append]
  refine mem_answered_untouched ?_
  intro event member
  obtain ⟨_, listed, what⟩ := scanned.events event member
  have apart : askPath name ≠ askPath other := fun same => different (askPath_inj same).symm
  rw [List.mem_singleton.mp listed] at what
  rcases what with what | what | what <;> simp [what, apart]

theorem ScannedAll.selected {listed : List Text}
    (scanned : ScannedAll quote now log names inner requests) (polling : InPoll log listed now)
    (within : names ⊆ listed) :
    ∀ req ∈ requests, Selected quote (log ++ inner) req := by
  induction scanned with
  | nil => simp
  | @cons log inner later name rest found others scanned all ih =>
      intro req member
      rw [← List.append_assoc]
      rcases List.mem_append.mp member with member | member
      · have head : Selected quote (log ++ inner) req := by
          cases scanned with
          | wanted file parsed asks fresh parses timely ours =>
              obtain rfl : req = { parsed with path := askPath name } := by simpa using member
              refine ⟨log ++ [⟨.isAnswered (askPath name), false⟩], [], listed, now, file,
                parsed, name, ?_⟩
              exact ⟨by simp, by simp [NoReadDir], polling.extend (by simp [NoReadDir]),
                within List.mem_cons_self, asks, parses, rfl, timely, ours⟩
          | _ => simp at member
        exact head.extend all.quiet
      · exact ih (polling.extend scanned.quiet)
          (fun other rested => within (List.mem_cons_of_mem _ rested)) req member

theorem ScannedAll.unanswered (scanned : ScannedAll quote now log names inner requests)
    (unique : names.Nodup) :
    ∀ req ∈ requests, req.path ∉ answered (log ++ inner) := by
  induction scanned with
  | nil => simp
  | @cons log inner later name rest found others scanned all ih =>
      obtain ⟨once, unique⟩ := List.nodup_cons.mp unique
      intro req member
      rw [← List.append_assoc]
      rcases List.mem_append.mp member with member | member
      · cases scanned with
        | wanted file parsed asks fresh parses timely ours =>
            obtain rfl : req = { parsed with path := askPath name } := by simpa using member
            rw [all.untouched (askPath name) fun other rested same => once (askPath_inj same ▸ rested)]
            simpa [answeredStep] using fresh
        | _ => simp at member
      · exact ih unique req member

theorem ScannedAll.paths (scanned : ScannedAll quote now log names inner requests) :
    (requests.map AskRequest.path).Sublist (names.map askPath) := by
  induction scanned with
  | nil => exact List.Sublist.slnil
  | @cons log inner later name rest found others scanned _ ih =>
      rw [List.map_append, List.map_cons]
      cases scanned with
      | wanted _ _ _ _ _ _ _ => exact ih.cons_cons _
      | _ => exact ih.cons _

theorem ScannedAll.listed (scanned : ScannedAll quote now log names inner requests)
    (unique : names.Nodup) :
    ∀ name ∈ names, text "ask." <+: name → askPath name ∈ answered log ∨
      ∃ opened, ⟨.openFile (askPath name), opened⟩ ∈ inner ∧ ∀ file parsed, opened = .ok file →
        parseAskFile quote file = .ok parsed → parsed.expired now = false →
          parsed.wantsCryptsetup = true →
        { parsed with path := askPath name } ∈ requests := by
  induction scanned with
  | nil => simp
  | @cons log inner later name rest found others scanned all ih =>
      obtain ⟨once, unique⟩ := List.nodup_cons.mp unique
      intro chosen member asks
      rcases List.mem_cons.mp member with rfl | member
      · cases scanned with
        | foreign foreign => exact absurd asks foreign
        | known _ held => exact Or.inl held
        | unreadable err _ _ => exact Or.inr ⟨.error err, by simp, by simp⟩
        | dismissed file _ _ unwanted =>
            refine Or.inr ⟨.ok file, by simp, ?_⟩
            rintro _ parsed ⟨⟩ parses timely ours
            rcases unwanted parsed parses with late | foreign
            · simp [late] at timely
            · simp [foreign] at ours
        | wanted file parsed _ _ parses timely ours =>
            refine Or.inr ⟨.ok file, by simp, ?_⟩
            rintro _ other ⟨⟩ same _ _
            rw [parses] at same
            injection same with same
            simp [same]
      · have different : chosen ≠ name := fun same => once (same ▸ member)
        rcases ih unique chosen member asks with held | ⟨opened, event, returned⟩
        · exact Or.inl ((scanned.untouched different).mp held)
        · refine Or.inr ⟨opened, List.mem_append_right _ event, ?_⟩
          intro file parsed same parses timely ours
          exact List.mem_append_right _ (returned file parsed same parses timely ours)

theorem ScannedAll.missing (scanned : ScannedAll quote now log names inner requests)
    (unique : names.Nodup) (gone : ⟨.openFile path, .error .notExist⟩ ∈ inner) :
    path ∉ answered (log ++ inner) := by
  induction scanned with
  | nil => simp at gone
  | @cons log inner later name rest found others scanned all ih =>
      obtain ⟨once, unique⟩ := List.nodup_cons.mp unique
      rw [← List.append_assoc]
      rcases List.mem_append.mp gone with gone | gone
      · cases scanned with
        | unreadable err asks fresh =>
            obtain ⟨rfl, _⟩ : path = askPath name ∧ FileErr.notExist = err := by simpa using gone
            rw [all.untouched (askPath name) fun other rested same => once (askPath_inj same ▸ rested)]
            simpa [answeredStep] using fresh
        | _ => simp at gone
      · exact ih unique gone

/-! What sweeping does. -/

theorem Forgot.events (forgot : Forgot keys sweep) :
    ∀ event ∈ sweep, (∃ path, event.1 = .stat path) ∨
      ∃ path, event = ⟨.deleteAnswered path, ()⟩ ∧ ⟨.stat path, some .notExist⟩ ∈ sweep := by
  induction forgot with
  | nil => simp
  | @gone path rest later _ ih =>
      intro event member
      rcases List.mem_cons.mp member with rfl | member
      · exact Or.inl ⟨path, rfl⟩
      · rcases List.mem_cons.mp member with rfl | member
        · exact Or.inr ⟨path, rfl, List.mem_cons_self⟩
        · refine (ih event member).imp_right ?_
          rintro ⟨deleted, same, gone⟩
          exact ⟨deleted, same, by simp [gone]⟩
  | @kept path rest later result _ _ ih =>
      intro event member
      rcases List.mem_cons.mp member with rfl | member
      · exact Or.inl ⟨path, rfl⟩
      · refine (ih event member).imp_right ?_
        rintro ⟨deleted, same, gone⟩
        exact ⟨deleted, same, by simp [gone]⟩

theorem Forgot.shrinks {before : List Text} (forgot : Forgot keys sweep)
    (held : path ∈ sweep.foldl answeredStep before) : path ∈ before := by
  induction forgot generalizing before with
  | nil => exact held
  | gone _ ih =>
      have sooner := ih held
      simp only [answeredStep, List.mem_filter] at sooner
      exact sooner.1
  | kept _ _ ih => exact ih held

theorem Forgot.gone_absent {before : List Text}
    (forgot : Forgot keys sweep) (gone : ⟨.stat path, some .notExist⟩ ∈ sweep) :
    path ∉ sweep.foldl answeredStep before := by
  induction forgot generalizing before with
  | nil => simp at gone
  | @gone deleted rest later forgot ih =>
      rcases List.mem_cons.mp gone with same | gone
      · obtain rfl : path = deleted := by simpa using same
        intro held
        have sooner := forgot.shrinks held
        simp [answeredStep] at sooner
      · exact ih (by simpa using gone)
  | @kept other rest later result kept _ ih =>
      rcases List.mem_cons.mp gone with same | gone
      · obtain ⟨rfl, rfl⟩ : path = other ∧ some FileErr.notExist = result := by simpa using same
        exact absurd rfl kept
      · exact ih gone

theorem Forgot.keeps {before : List Text} (forgot : Forgot keys sweep)
    (there : ⟨.stat path, some .notExist⟩ ∉ sweep) :
    path ∈ sweep.foldl answeredStep before ↔ path ∈ before := by
  refine mem_answered_untouched ?_
  intro event member
  rcases forgot.events event member with ⟨other, what⟩ | ⟨deleted, rfl, gone⟩
  · simp [what]
  · have different : deleted ≠ path := fun same => there (same ▸ gone)
    simp [different]

theorem mem_answered_grows
    (held : path ∈ keys) (kept : ∀ event ∈ inner, event.1 ≠ .deleteAnswered path) :
    path ∈ inner.foldl answeredStep keys := by
  induction inner generalizing keys with
  | nil => exact held
  | cons event inner ih =>
      refine ih ?_ fun later member => kept later (List.mem_cons_of_mem _ member)
      by_cases set : event.1 = .setAnswered path
      · obtain ⟨op, answer⟩ := event
        obtain rfl : op = .setAnswered path := set
        simp [answeredStep, held]
      · exact (mem_answeredStep ⟨set, kept event List.mem_cons_self⟩).mpr held

theorem Replied.before (replied : Replied (log ++ inner) path)
    (unsent : ∀ event ∈ inner, ∀ socketPath payload, event ≠ ⟨.sendto path socketPath payload, none⟩) :
    Replied log path ∧ ⟨.stat path, some .notExist⟩ ∉ inner := by
  obtain ⟨before, after, socketPath, payload, split, standing⟩ := replied
  rcases List.append_eq_append_iff.mp split with ⟨middle, _, late⟩ | ⟨middle, early, late⟩
  · exact absurd rfl (unsent ⟨.sendto path socketPath payload, none⟩ (by simp [late]) socketPath payload)
  · cases middle with
    | nil =>
        rw [List.nil_append] at late
        exact absurd rfl
          (unsent ⟨.sendto path socketPath payload, none⟩ (by simp [← late]) socketPath payload)
    | cons event middle =>
        simp only [List.cons_append, List.cons.injEq] at late
        obtain ⟨rfl, rfl⟩ := late
        refine ⟨⟨before, middle, socketPath, payload, early, fun gone => ?_⟩, fun gone => ?_⟩
        · exact standing (List.mem_append_left _ gone)
        · exact standing (List.mem_append_right _ gone)

section Results

variable (pending : Pending quote log inner requests)

include pending

theorem Pending.polling : InPoll (log ++ [⟨.readDir askPasswordDir, .ok pending.names⟩,
    ⟨.clockGettime, .ok (pending.sec, pending.nsec)⟩]) pending.names (usec pending.sec pending.nsec) :=
  ⟨log, pending.sec, pending.nsec, [], by simp, by simp [NoReadDir], rfl⟩

theorem Pending.log_eq : log ++ inner = log ++ [⟨.readDir askPasswordDir, .ok pending.names⟩,
    ⟨.clockGettime, .ok (pending.sec, pending.nsec)⟩] ++ pending.scan ++
      ⟨.rangeAnswered, pending.keys⟩ :: pending.sweep := by
  have split := pending.split
  simp [split]

theorem Pending.selected : ∀ req ∈ requests, Selected quote (log ++ inner) req := by
  intro req member
  rw [pending.log_eq]
  refine (pending.scanned.selected pending.polling (List.Subset.refl _) req member).extend ?_
  intro event swept dir
  rcases List.mem_cons.mp swept with rfl | swept
  · simp
  · rcases pending.forgot.events event swept with ⟨path, what⟩ | ⟨path, rfl, _⟩
    · simp [what]
    · simp

theorem Pending.unanswered : ∀ req ∈ requests, req.path ∉ answered (log ++ inner) := by
  intro req member held
  rw [pending.log_eq, answered_append] at held
  exact pending.scanned.unanswered pending.unique req member (pending.forgot.shrinks held)

theorem Pending.distinct : (requests.map AskRequest.path).Nodup := by
  refine pending.scanned.paths.nodup (List.Nodup.map ?_ pending.unique)
  intro one two same
  exact askPath_inj same

theorem Pending.missing (gone : ⟨.openFile path, .error .notExist⟩ ∈ inner ∨
    ⟨.stat path, some .notExist⟩ ∈ inner) : path ∉ answered (log ++ inner) := by
  have split := pending.split
  rw [pending.log_eq, answered_append]
  intro held
  rcases gone with gone | gone
  · have opened : ⟨.openFile path, .error .notExist⟩ ∈ pending.scan := by
      simp only [split, List.mem_cons, List.mem_append] at gone
      rcases gone with same | same | scanned | same | swept
      · simp at same
      · simp at same
      · exact scanned
      · simp at same
      · rcases pending.forgot.events _ swept with ⟨_, what⟩ | ⟨_, what, _⟩
        · simp at what
        · simp at what
    exact pending.scanned.missing pending.unique opened (pending.forgot.shrinks held)
  · have swept : ⟨.stat path, some .notExist⟩ ∈ pending.sweep := by
      simp only [split, List.mem_cons, List.mem_append] at gone
      rcases gone with same | same | scanned | same | swept
      · simp at same
      · simp at same
      · obtain ⟨_, _, what⟩ := pending.scanned.events _ scanned
        simp at what
      · simp at same
      · exact swept
    exact pending.forgot.gone_absent swept held

theorem Pending.unsent (path : Text) : ∀ event ∈ inner, ∀ socketPath payload,
    event ≠ ⟨.sendto path socketPath payload, none⟩ := by
  have split := pending.split
  rintro event member socketPath payload rfl
  simp only [split, List.mem_cons, List.mem_append] at member
  rcases member with same | same | scanned | same | swept
  · simp at same
  · simp at same
  · obtain ⟨_, _, what⟩ := pending.scanned.events _ scanned
    simp at what
  · simp at same
  · rcases pending.forgot.events _ swept with ⟨_, what⟩ | ⟨_, what, _⟩
    · simp at what
    · simp at what

theorem Pending.keeps (held : path ∈ answered log)
    (there : ⟨.stat path, some .notExist⟩ ∉ inner) : path ∈ answered (log ++ inner) := by
  have split := pending.split
  have scanned : path ∈ answered (log ++ [⟨.readDir askPasswordDir, .ok pending.names⟩,
      ⟨.clockGettime, .ok (pending.sec, pending.nsec)⟩] ++ pending.scan) := by
    rw [answered_append]
    refine mem_answered_grows (by simpa [answeredStep] using held) ?_
    intro event member
    obtain ⟨_, _, what⟩ := pending.scanned.events _ member
    rcases what with what | what | what <;> simp [what]
  rw [pending.log_eq, answered_append]
  refine (pending.forgot.keeps fun gone => there ?_).mpr scanned
  simp [split, gone]

theorem Pending.listed (listing : ⟨.readDir askPasswordDir, .ok names⟩ ∈ inner) :
    ∃ sec nsec, ⟨.clockGettime, .ok (sec, nsec)⟩ ∈ inner ∧ ∀ name ∈ names, text "ask." <+: name →
      askPath name ∈ answered log ∨ ∃ opened, ⟨.openFile (askPath name), opened⟩ ∈ inner ∧
        ∀ file parsed, opened = .ok file → parseAskFile quote file = .ok parsed →
          parsed.expired (usec sec nsec) = false → parsed.wantsCryptsetup = true →
          { parsed with path := askPath name } ∈ requests := by
  have split := pending.split
  have same : names = pending.names := by
    simp only [split, List.mem_cons, List.mem_append] at listing
    rcases listing with same | same | scanned | same | swept
    · simpa using same
    · simp at same
    · obtain ⟨_, _, what⟩ := pending.scanned.events _ scanned
      simp at what
    · simp at same
    · rcases pending.forgot.events _ swept with ⟨_, what⟩ | ⟨_, what, _⟩
      · simp at what
      · simp at what
  subst same
  refine ⟨pending.sec, pending.nsec, by simp [split], ?_⟩
  intro name member asks
  rcases pending.scanned.listed pending.unique name member asks with held | ⟨opened, event, returned⟩
  · exact Or.inl (by simpa [answeredStep] using held)
  · exact Or.inr ⟨opened, by simp [split, event], returned⟩

end Results

end Facts

end SyncthingSocket
