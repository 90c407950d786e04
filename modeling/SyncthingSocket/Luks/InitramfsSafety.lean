import SyncthingSocket.Luks.Initramfs

/-!
What the boot script hands over: for every key the prompt, the configuration and the process it
came from; and, after an enrolment, the server it starts for the enrolled phone.
-/

namespace SyncthingSocket

open Effect Program Json

def BootOp.Quiet : BootOp → Prop
  | .configureNetworking | .run _ | .writeFifo _ _ _ => False
  | _ => True

/-- What a log shows just before the program is started for a prompt: the pid's passfifo
was found, the device it asks for has a configuration, and the network was set up at
some time. -/
def Attempt (log : BootLog) (pid fifo : Text) (vars : ShellConfig) : Prop :=
  ∃ before targets environment config network,
    log = before ++ ⟨.openFiles pid, targets⟩ :: ⟨.isPipe fifo, true⟩ :: ⟨.environ pid, environment⟩ ::
      (config ++ network ++
        [⟨.console (text "syncthing-socket: requesting the passphrase for " ++
          crypttabSource environment), ()⟩]) ∧
    passfifo targets = some fifo ∧ crypttabSource environment ≠ [] ∧
    Runs (readConfigFrom (crypttabSource environment)) config (.done (some vars)) ∧
    (network = [] ∨ Runs setupNetworking network (.done ())) ∧
    ∃ event ∈ log, event.1 = .configureNetworking

def Unanswered (log : BootLog) (pid : Text) : Prop :=
  ∀ before fifo key after, log = before ++ ⟨.writeFifo pid fifo key, ()⟩ :: after →
    ∃ other targets, other ≠ pid ∧ ⟨.openFiles other, targets⟩ ∈ after ∧ passfifo targets ≠ none

def BootAsks (log : BootLog) : BootOp → Prop
  | .configureNetworking => ∀ event ∈ log, event.1 ≠ .configureNetworking
  | .run args => ∃ pid fifo vars, Attempt log pid fifo vars ∧ args = startArgs vars
  | .writeFifo pid fifo key => Unanswered log pid ∧ key ≠ [] ∧
      ∃ before vars output, log = before ++ [⟨.run (startArgs vars), output⟩] ∧
        Attempt before pid fifo vars ∧
        key = captured output
  | _ => True

theorem BootOp.Quiet.asks {op : BootOp} (quiet : op.Quiet) (log : BootLog) : BootAsks log op := by
  cases op with
  | configureNetworking => exact quiet.elim
  | run args => exact quiet.elim
  | writeFifo pid fifo key => exact quiet.elim
  | _ => trivial

abbrev bootContract : Contract BootAnswer := Contract.always BootAsks

abbrev quietContract : Contract BootAnswer := Contract.always fun _ op => op.Quiet

/-! Reading the configuration. -/

theorem readTokensFrom_quiet (source : Text) (left tokenID : Nat) (vars : ShellConfig)
    (log : BootLog) :
    Meets quietContract (fun _ _ => True) (readTokensFrom source left tokenID vars) log := by
  induction left generalizing tokenID log with
  | zero => trivial
  | succ left ih =>
      refine ⟨trivial, fun tokenJSON _ => ?_⟩
      change Meets quietContract _ (if _ then _ else _) _
      split
      · change Meets quietContract _ (if _ then _ else _) _
        split
        · exact ⟨trivial, fun _ _ => ih _ _⟩
        · trivial
      · exact ih _ _

theorem readConfigFrom_quiet (source : Text) :
    Meets quietContract (fun _ _ => True) (readConfigFrom source) [] := by
  refine ⟨trivial, fun sourced _ => ?_⟩
  change Meets quietContract _ (if _ then _ else _) _
  split
  · trivial
  · refine ⟨trivial, fun block _ => ?_⟩
    cases block with
    | false => trivial
    | true =>
        change Meets quietContract _ (readTokensFrom source 32 0 _ >>= fun vars =>
          if vars.seed ≠ [] then return some vars else return none) _
        refine Meets.bind ((readTokensFrom_quiet source 32 0 _ _).mono fun vars later _ => ?_)
        change Meets quietContract _ (if _ then _ else _) _
        split <;> trivial

theorem readConfigFrom_meets (source : Text) (log : BootLog) :
    Meets bootContract
      (fun vars later => ∃ config, later = log ++ config ∧ (∀ event ∈ config, event.1.Quiet) ∧
      Runs (readConfigFrom source) config (.done vars)) (readConfigFrom source) log := by
  refine meets_of_runs ?_ ?_
  · intro inner op next run
    exact ((readConfigFrom_quiet source).asks run).asks _
  · intro inner vars run
    exact ⟨inner, rfl, ((readConfigFrom_quiet source).confined run).1, run⟩

/-! The network. -/

theorem appendNameservers_quiet (servers : List Text) (log : BootLog) :
    Meets quietContract (fun _ _ => True) (appendNameservers servers) log := by
  induction servers generalizing log with
  | nil => trivial
  | cons ns rest ih => exact ⟨trivial, fun _ _ => ih _⟩

theorem addNetConfs_quiet (intfs : List Text) (log : BootLog) :
    Meets quietContract (fun _ _ => True) (addNetConfs intfs) log := by
  induction intfs generalizing log with
  | nil => trivial
  | cons intf rest ih =>
      refine ⟨trivial, fun conf _ => ?_⟩
      change Meets quietContract _ (appendNameservers conf.nameservers >>= fun _ => addNetConfs rest) _
      exact Meets.bind ((appendNameservers_quiet _ _).mono fun _ _ _ => ih _)

variable {after before inner log : BootLog} {targets : List Text} {state : LoopState}
  {vars : ShellConfig} {document fifo pid source : Text}

theorem setupNetworking_runs {rest : Boot Unit} (run : Runs setupNetworking log rest) :
    (log = [] ∧ rest = setupNetworking) ∨ ∃ worked later, log = ⟨.configureNetworking, worked⟩ :: later ∧
      (∀ event ∈ later, event.1.Quiet) ∧ ∀ op next, rest = .ask op next → op.Quiet := by
  cases run with
  | start _ => exact Or.inl ⟨rfl, rfl⟩
  | step worked later =>
      refine Or.inr ⟨worked, _, rfl, ?_⟩
      have quiet : Meets quietContract (fun _ _ => True) ((if worked = true then do
          if ← askBoot .hasResolvConf then return ()
          else do
            askBoot .truncateResolvConf
            let intfs ← askBoot .netConfs
            addNetConfs intfs
        else return ()) : Boot Unit) [] := by
        cases worked with
        | false => trivial
        | true =>
            refine ⟨trivial, fun present _ => ?_⟩
            cases present with
            | true => trivial
            | false => exact ⟨trivial, fun _ _ => ⟨trivial, fun intfs _ => addNetConfs_quiet intfs _⟩⟩
      exact quiet.confined later

/-! The variables of the loop, as its log tells them. -/

def Unwritten (log : BootLog) : Prop :=
  ∀ event ∈ log, ∀ pid fifo key, event.1 ≠ .writeFifo pid fifo key

def Unconfigured (log : BootLog) : Prop := ∀ event ∈ log, event.1 ≠ .configureNetworking

theorem unwritten_of_quiet (quiet : ∀ event ∈ log, event.1.Quiet) : Unwritten log := by
  intro event member pid fifo key same
  exact (same ▸ quiet event member : BootOp.Quiet (.writeFifo pid fifo key))

theorem unconfigured_of_quiet (quiet : ∀ event ∈ log, event.1.Quiet) : Unconfigured log := by
  intro event member same
  exact (same ▸ quiet event member : BootOp.Quiet .configureNetworking)

theorem Unwritten.append (early : Unwritten log) (late : Unwritten inner) :
    Unwritten (log ++ inner) := by
  intro event member
  rcases List.mem_append.mp member with member | member
  · exact early event member
  · exact late event member

structure LoopInv (state : LoopState) (log : BootLog) : Prop where
  networked : state.networkingDone = true ↔ ∃ event ∈ log, event.1 = .configureNetworking
  answered : ∀ pid, state.answeredPid = pid ∨ Unanswered log pid

theorem split_before {event : Sigma BootAnswer} (outside : event ∉ inner)
    (split : log ++ inner = before ++ event :: after) :
    ∃ middle, log = before ++ event :: middle ∧ after = middle ++ inner := by
  rcases List.append_eq_append_iff.mp split with ⟨common, _, tail⟩ | ⟨common, head, tail⟩
  · exact absurd (tail ▸ List.mem_append_right _ List.mem_cons_self) outside
  · cases common with
    | nil =>
        rw [List.nil_append] at tail
        exact absurd (tail ▸ List.mem_cons_self) outside
    | cons first common =>
        obtain ⟨rfl, rest⟩ := List.cons.inj tail
        exact ⟨common, head, rest⟩

theorem Unanswered.extend (unanswered : Unanswered log pid)
    (unwritten : Unwritten inner) : Unanswered (log ++ inner) pid := by
  intro before fifo key after split
  have outside : ⟨.writeFifo pid fifo key, ()⟩ ∉ inner :=
    fun member => unwritten _ member pid fifo key rfl
  obtain ⟨middle, early, rfl⟩ := split_before outside split
  obtain ⟨other, targets, different, found, fifoFound⟩ := unanswered before fifo key middle early
  exact ⟨other, targets, different, List.mem_append_left _ found, fifoFound⟩

theorem LoopInv.extend (inv : LoopInv state log) (unwritten : Unwritten inner)
    (unconfigured : Unconfigured inner) : LoopInv state (log ++ inner) where
  networked := by
    rw [inv.networked]
    constructor
    · rintro ⟨event, member, same⟩
      exact ⟨event, List.mem_append_left _ member, same⟩
    · rintro ⟨event, member, same⟩
      rcases List.mem_append.mp member with early | late
      · exact ⟨event, early, same⟩
      · exact absurd same (unconfigured event late)
  answered pid := (inv.answered pid).imp_right fun unanswered => unanswered.extend unwritten

theorem LoopInv.quiet (inv : LoopInv state log) (op : BootOp) (quiet : op.Quiet)
    (answer : BootAnswer op) : LoopInv state (log ++ [⟨op, answer⟩]) := by
  have only : ∀ event ∈ ([⟨op, answer⟩] : BootLog), event.1.Quiet := by simpa using quiet
  exact inv.extend (unwritten_of_quiet only) (unconfigured_of_quiet only)

theorem LoopInv.turn (inv : LoopInv state (before ++ ⟨.openFiles pid, targets⟩ :: after))
    (unwritten : Unwritten after) (found : passfifo targets ≠ none) :
    LoopInv { state with answeredPid := pid } (before ++ ⟨.openFiles pid, targets⟩ :: after) where
  networked := inv.networked
  answered other := by
    by_cases same : other = pid
    · exact Or.inl same.symm
    · right
      intro earlier fifo key later split
      have outside :
          (⟨.writeFifo other fifo key, ()⟩ : Sigma BootAnswer) ∉ ⟨.openFiles pid, targets⟩ :: after := by
        intro member
        rcases List.mem_cons.mp member with first | late
        · cases first
        · exact unwritten _ late other fifo key rfl
      obtain ⟨middle, _, rfl⟩ := split_before outside split
      exact ⟨pid, targets, Ne.symm same, List.mem_append_right _ List.mem_cons_self, found⟩

theorem LoopInv.written (inv : LoopInv state log) (last : state.answeredPid = pid)
    (fifo key : Text) : LoopInv state (log ++ [⟨.writeFifo pid fifo key, ()⟩]) where
  networked := by
    rw [inv.networked]
    constructor
    · rintro ⟨event, member, same⟩
      exact ⟨event, List.mem_append_left _ member, same⟩
    · rintro ⟨event, member, same⟩
      rcases List.mem_append.mp member with early | late
      · exact ⟨event, early, same⟩
      · rw [List.mem_singleton.mp late] at same
        cases same
  answered other := by
    rcases inv.answered other with same | unanswered
    · exact Or.inl same
    · by_cases same : state.answeredPid = other
      · exact Or.inl same
      · right
        intro before otherFifo otherKey after split
        have outside : (⟨.writeFifo other otherFifo otherKey, ()⟩ : Sigma BootAnswer) ∉
            [⟨.writeFifo pid fifo key, ()⟩] := by
          intro member
          cases List.mem_singleton.mp member
          exact same last
        obtain ⟨middle, early, rfl⟩ := split_before outside split
        obtain ⟨third, targets, different, found, fifoFound⟩ :=
          unanswered before otherFifo otherKey middle early
        exact ⟨third, targets, different, List.mem_append_left _ found, fifoFound⟩

/-! A poll. -/

theorem askpassPids_unblank {lines : List Text} (listed : pid ∈ askpassPids lines) :
    .char ' ' ∉ pid := by
  obtain ⟨line, _, rfl⟩ := List.mem_map.mp listed
  intro member
  have kept := List.mem_takeWhile_imp member
  simp [isFieldBlank] at kept

theorem splitAskpass_found (unblank : .char ' ' ∉ pid)
    (given : (splitAskpass (pid ++ .char ' ' :: fifo)).1 ≠ []) :
    splitAskpass (pid ++ .char ' ' :: fifo) = (pid, fifo) := by
  rw [splitAskpass, Text.cut_key unblank] at given ⊢
  simp only [Option.getD_some] at given ⊢
  split at given
  · exact absurd rfl given
  · next different => rw [if_neg different]

def Found (log : BootLog) (pid fifo : Text) : Prop :=
  ∃ before targets, log = before ++ [⟨.openFiles pid, targets⟩] ∧ passfifo targets = some fifo

theorem firstAskpass_meets {pids : List Text} (unblank : ∀ pid ∈ pids, .char ' ' ∉ pid)
    (inv : LoopInv state log) :
    Meets bootContract (fun askpass later => LoopInv state later ∧ (askpass = [] ∨ ∃ pid fifo,
      askpass = pid ++ .char ' ' :: fifo ∧ .char ' ' ∉ pid ∧
        Found later pid fifo)) (firstAskpass pids) log := by
  induction pids generalizing log with
  | nil => exact ⟨inv, Or.inl rfl⟩
  | cons pid rest ih =>
      refine ⟨trivial, fun targets _ => ?_⟩
      have inv := inv.quiet (.openFiles pid) trivial targets
      change Meets bootContract _ ((pure (passfifo targets) : Boot (Option Text)).bind _) _
      cases found : passfifo targets with
      | none => exact ih (fun other member => unblank other (List.mem_cons_of_mem _ member)) inv
      | some fifo =>
          exact ⟨inv, Or.inr ⟨pid, fifo, rfl, unblank pid List.mem_cons_self, log, targets, rfl, found⟩⟩

theorem pollAskpass_meets (inv : LoopInv state log) :
    Meets bootContract (fun prompt later => LoopInv state later ∧ ∀ pid fifo, prompt = some (pid, fifo) →
      ∃ before, later = before ++ [⟨.isPipe fifo, true⟩] ∧ Found before pid fifo) pollAskpass log := by
  refine ⟨trivial, fun _ _ => ⟨trivial, fun lines _ => ?_⟩⟩
  change Meets bootContract _ (firstAskpass (askpassPids lines) >>= fun askpass =>
    if (splitAskpass askpass).1 = [] then return none
    else do
      if ← askBoot (.isPipe (splitAskpass askpass).2) then
        return some ((splitAskpass askpass).1, (splitAskpass askpass).2)
      else return none) _
  have ready := (inv.quiet (.sleep 1) trivial ()).quiet .ps trivial lines
  refine Meets.bind ((firstAskpass_meets (fun pid => askpassPids_unblank) ready).mono ?_)
  rintro askpass later ⟨inv, found⟩
  split
  · exact ⟨inv, by simp⟩
  · next given =>
      refine ⟨trivial, fun pipe _ => ?_⟩
      have inv := inv.quiet (.isPipe (splitAskpass askpass).2) trivial pipe
      cases pipe with
      | false => exact ⟨inv, by simp⟩
      | true =>
          refine ⟨inv, ?_⟩
          rintro pid fifo same
          have parts : splitAskpass askpass = (pid, fifo) := Option.some.inj same
          rcases found with rfl | ⟨foundPid, foundFifo, rfl, unblank, found⟩
          · exact absurd rfl given
          · obtain ⟨rfl, rfl⟩ := Prod.mk.inj ((splitAskpass_found unblank given).symm.trans parts)
            exact ⟨later, by rw [parts], found⟩

/-! An answer. -/

theorem ensureNetworking_meets (inv : LoopInv state log) :
    Meets bootContract (fun result later => ∃ network, later = log ++ network ∧ Unwritten network ∧
      (network = [] ∨ Runs setupNetworking network (.done ())) ∧
        result = { state with networkingDone := true } ∧
      LoopInv result later) (ensureNetworking state) log := by
  rw [ensureNetworking]
  split
  · next done =>
      have same : state = { state with networkingDone := true } := by rw [← done]
      exact ⟨[], by simp, by simp [Unwritten], Or.inl rfl, same, inv⟩
  · next undone =>
      refine Meets.bind (meets_of_runs ?_ ?_)
      · intro inner op next run
        rcases setupNetworking_runs run with ⟨rfl, first⟩ | ⟨_, _, _, _, quiet⟩
        · cases first
          rw [List.append_nil]
          intro event member same
          exact undone (inv.networked.mpr ⟨event, member, same⟩)
        · exact (quiet op next rfl).asks _
      · intro inner value run
        rcases setupNetworking_runs run with ⟨_, first⟩ | ⟨worked, later, rfl, quiet, _⟩
        · cases first
        · have unwritten : Unwritten (⟨.configureNetworking, worked⟩ :: later) := by
            intro event member pid fifo key
            rcases List.mem_cons.mp member with rfl | late
            · simp
            · exact unwritten_of_quiet quiet event late pid fifo key
          refine ⟨_, rfl, unwritten, Or.inr run, rfl, ?_, ?_⟩
          · exact iff_of_true rfl ⟨_, List.mem_append_right _ List.mem_cons_self, rfl⟩
          · intro pid
            exact (inv.answered pid).imp_right fun unanswered => unanswered.extend unwritten

theorem fetchKey_meets (inv : LoopInv state log) (fresh : pid ≠ state.answeredPid)
    (layout : log = before ++ ⟨.openFiles pid, targets⟩ :: after) (unwritten : Unwritten after)
    (found : passfifo targets ≠ none)
    (attempt : Attempt
      (log ++ [⟨.console (text "syncthing-socket: requesting the passphrase for " ++ source), ()⟩])
      pid fifo vars) :
    Meets bootContract LoopInv (fetchKey state pid fifo source vars) log := by
  refine ⟨trivial, fun _ _ => ⟨⟨pid, fifo, vars, attempt, rfl⟩, fun output _ => ?_⟩⟩
  have announced :=
    inv.quiet (.console (text "syncthing-socket: requesting the passphrase for " ++ source)) trivial ()
  have ran : LoopInv state
    (log ++ [⟨.console (text "syncthing-socket: requesting the passphrase for " ++ source), ()⟩] ++
      [⟨.run (startArgs vars), output⟩]) :=
        announced.extend (by simp [Unwritten]) (by simp [Unconfigured])
  change Meets bootContract _ (if _ then _ else _) _
  split
  · next given =>
      refine ⟨⟨(ran.answered pid).resolve_left fresh.symm, given, _, vars, output, rfl, attempt,
        rfl⟩, fun _ _ => ?_⟩
      refine ⟨trivial, fun _ _ => ⟨trivial, fun _ _ => ?_⟩⟩
      change LoopInv { state with answeredPid := pid } _
      rw [layout] at ran ⊢
      have turned : LoopInv { state with answeredPid := pid }
        (before ++ ⟨.openFiles pid, targets⟩ :: (after ++
          [⟨.console (text "syncthing-socket: requesting the passphrase for " ++ source), ()⟩,
            ⟨.run (startArgs vars), output⟩])) :=
        LoopInv.turn (by simpa using ran) (unwritten.append (by simp [Unwritten])) found
      have written := turned.written rfl fifo (captured output)
      have said :=
        written.quiet (.console (text "syncthing-socket: passphrase delivered for " ++ source)) trivial ()
      simpa using said.quiet (.sleep 2) trivial ()
  · refine ⟨trivial, fun _ _ => ⟨trivial, fun _ _ => ?_⟩⟩
    have said := ran.quiet (.console (text "syncthing-socket: no passphrase yet, retrying")) trivial ()
    exact said.quiet (.sleep 5) trivial ()

theorem answerPrompt_meets
    (inv : LoopInv state (before ++ [⟨.openFiles pid, targets⟩] ++ [⟨.isPipe fifo, true⟩]))
    (found : passfifo targets = some fifo) :
    Meets bootContract LoopInv (answerPrompt state pid fifo)
      (before ++ [⟨.openFiles pid, targets⟩] ++ [⟨.isPipe fifo, true⟩]) := by
  refine ⟨trivial, fun environment _ => ?_⟩
  have inv := inv.quiet (.environ pid) trivial environment
  change Meets bootContract _
    (if _ then _ else if _ then _ else readConfigFrom (crypttabSource environment) >>= _) _
  split
  · exact ⟨trivial, fun _ _ => inv.quiet (.sleep 2) trivial ()⟩
  · next asked =>
      split
      · exact ⟨trivial, fun _ _ => inv.quiet (.sleep 2) trivial ()⟩
      · next fresh =>
          have present : passfifo targets ≠ none := by simp [found]
          refine Meets.bind ((readConfigFrom_meets (crypttabSource environment) _).mono ?_)
          rintro vars later ⟨config, rfl, quiet, read⟩
          have inv := inv.extend (unwritten_of_quiet quiet) (unconfigured_of_quiet quiet)
          cases vars with
          | none =>
              -- the prompt is left to the user from now on
              have turned :
                  LoopInv { state with answeredPid := pid } (before ++ ⟨.openFiles pid, targets⟩ ::
                  ([⟨.isPipe fifo, true⟩, ⟨.environ pid, environment⟩] ++ config)) := by
                refine LoopInv.turn (by simpa using inv) ?_ present
                exact Unwritten.append (by simp [Unwritten]) (unwritten_of_quiet quiet)
              change LoopInv { state with answeredPid := pid } _
              simpa using turned
          | some vars =>
              refine Meets.bind ((ensureNetworking_meets inv).mono ?_)
              rintro result later ⟨network, rfl, unwritten, setUp, rfl, inv⟩
              have layout : before ++ [⟨.openFiles pid, targets⟩] ++ [⟨.isPipe fifo, true⟩] ++
                  [⟨.environ pid, environment⟩] ++ config ++ network =
                    before ++ ⟨.openFiles pid, targets⟩ ::
                    ([⟨.isPipe fifo, true⟩, ⟨.environ pid, environment⟩] ++ config ++ network) := by simp
              refine fetchKey_meets inv fresh layout ?_ present ?_
              · exact (Unwritten.append (by simp [Unwritten]) (unwritten_of_quiet quiet)).append unwritten
              · obtain ⟨event, member, configured⟩ := inv.networked.mp rfl
                exact ⟨before, targets, environment, config, network, by simp, found, asked,
                  read, setUp, event, List.mem_append_left _ member, configured⟩

theorem unlockLoop_meets (polls : Nat) (inv : LoopInv state log) :
    Meets bootContract LoopInv (unlockLoop polls state) log := by
  induction polls generalizing state log with
  | zero => exact inv
  | succ polls ih =>
      refine Meets.bind ((pollAskpass_meets inv).mono ?_)
      rintro prompt later ⟨inv, found⟩
      cases prompt with
      | none => exact ih inv
      | some prompt =>
          obtain ⟨middle, rfl, before, targets, rfl, passfifo⟩ := found prompt.1 prompt.2 rfl
          exact Meets.bind ((answerPrompt_meets inv passfifo).mono fun state later inv => ih inv)

theorem loopInv_start : LoopInv {} [] where
  networked := by simp
  answered pid := Or.inr fun before fifo key after split => by simp at split

/-- Whatever the processes and devices answer, the script configures the network once at
most, starts the program only for a prompt that waits and for whose device there is a
configuration, and writes a key only into the fifo of that prompt, as the program
printed it, and not again before it has turned to another prompt. -/
theorem boot_script_answers_waiting_prompts (polls : Nat) {before after : BootLog}
    {event : Sigma BootAnswer} {rest : Boot LoopState}
    (run : Runs (unlockLoop polls {}) (before ++ event :: after) rest) :
    BootAsks before event.1 :=
  (unlockLoop_meets polls loopInv_start).guarded run

/-! A prompt that is answered. -/

def waitingLine : Text := text "  12 root      1234 S    /lib/cryptsetup/askpass Please unlock disk"

def sampleFifo : Text := text "/lib/cryptsetup/passfifo"

def sampleVars : ShellConfig := ⟨text "s", [], text "server"⟩

def samplePoll : BootLog :=
  [⟨.sleep 1, ()⟩, ⟨.ps, [waitingLine]⟩, ⟨.openFiles (text "12"), [text "/dev/console", sampleFifo]⟩,
    ⟨.isPipe sampleFifo, true⟩]

theorem samplePoll_runs : Runs pollAskpass samplePoll (.done (some (text "12", sampleFifo))) := by
  have pids : askpassPids [waitingLine] = [text "12"] := by decide
  apply Runs.step
  apply Runs.step
  change Runs (firstAskpass (askpassPids [waitingLine]) >>= _) _ _
  rw [pids]
  apply Runs.step
  apply Runs.step
  exact Runs.start _

def sampleAttempt : BootLog :=
  [⟨.environ (text "12"), text "TERM=linux\x00CRYPTTAB_SOURCE=/dev/vda2\x00"⟩,
    ⟨.sourceConf, some sampleVars⟩, ⟨.configureNetworking, true⟩, ⟨.hasResolvConf, true⟩,
    ⟨.console (text "syncthing-socket: requesting the passphrase for " ++ text "/dev/vda2"), ()⟩,
    ⟨.run (startArgs sampleVars), text "key\n"⟩]

def sampleDelivery : BootLog :=
  [⟨.console (text "syncthing-socket: passphrase delivered for " ++ text "/dev/vda2"), ()⟩,
    ⟨.sleep 2, ()⟩]

theorem sampleAttempt_runs : Runs (answerPrompt {} (text "12") sampleFifo)
    (sampleAttempt ++ ⟨.writeFifo (text "12") sampleFifo (text "key"), ()⟩ :: sampleDelivery)
    (.done ⟨true, text "12"⟩) := by
  have source : crypttabSource (text "TERM=linux\x00CRYPTTAB_SOURCE=/dev/vda2\x00") =
      text "/dev/vda2" := by decide
  simp only [answerPrompt, askBoot, perform_bind]
  apply Runs.step
  simp only [source]
  apply Runs.step
  apply Runs.step
  apply Runs.step
  apply Runs.step
  apply Runs.step
  apply Runs.step
  apply Runs.step
  apply Runs.step
  exact Runs.start _

theorem waiting_prompt_answered : Runs (unlockLoop 1 {}) (samplePoll ++ (sampleAttempt ++
      ⟨.writeFifo (text "12") sampleFifo (text "key"), ()⟩ :: sampleDelivery)) (.done ⟨true, text "12"⟩) ∧
    BootAsks (samplePoll ++ sampleAttempt) (.writeFifo (text "12") sampleFifo (text "key")) := by
  have run : Runs (unlockLoop 1 {}) (samplePoll ++ (sampleAttempt ++
      ⟨.writeFifo (text "12") sampleFifo (text "key"), ()⟩ :: sampleDelivery))
        (.done ⟨true, text "12"⟩) :=
    (samplePoll_runs.bind _).trans (sampleAttempt_runs.bind _)
  refine ⟨run, ?_⟩
  rw [← List.append_assoc] at run
  exact boot_script_answers_waiting_prompts 1 run

/-! The machine after an enrolment. -/

/-- There is no `luks.conf`, and what `cryptsetup` exports from the device are the tokens
of this header; other devices have their own. -/
def FromHeader (device : Text) (header : Header) : Sigma BootAnswer → Prop
  | ⟨.sourceConf, conf⟩ => conf = none
  | ⟨.tokenExport id source, document⟩ =>
      source = device → document = ((header.slot id).map Token.document).getD []
  | _ => True

theorem readTokensFrom_header {header : Header} {left tokenID : Nat} {result : ShellConfig}
    (run : Runs (readTokensFrom source left tokenID vars) log (.done result))
    (answers : ∀ event ∈ log, FromHeader source header event) :
    result = readTokens header left tokenID vars := by
  induction left generalizing tokenID log with
  | zero =>
      cases run
      rfl
  | succ left ih =>
      simp only [readTokensFrom, askBoot, perform_bind] at run
      cases run with
      | step tokenJSON later =>
          have exported : tokenJSON = ((header.slot tokenID).map Token.document).getD [] :=
            answers _ List.mem_cons_self rfl
          have rest : ∀ event ∈ _, FromHeader source header event :=
            fun event member => answers event (List.mem_cons_of_mem _ member)
          rw [readTokens, ← exported]
          simp only [scriptTakes, Bool.and_eq_true, decide_eq_true_eq]
          beta_reduce at later
          split at later
          · next mentioned =>
              split at later
              · next version =>
                  rw [if_neg fun both => version both.2]
                  cases later with
                  | step _ later =>
                      exact ih later fun event member => rest event (List.mem_cons_of_mem _ member)
              · next version =>
                  rw [if_pos ⟨mentioned, by simpa using version⟩]
                  cases later
                  rfl
          · next unmentioned =>
              rw [if_neg fun both => unmentioned both.1]
              exact ih later rest

theorem readConfigFrom_header {header : Header}
    (run : Runs (readConfigFrom source) log (.done (some vars)))
    (answers : ∀ event ∈ log, FromHeader source header event) :
    readConfig none header = some vars := by
  simp only [readConfigFrom, askBoot, perform_bind] at run
  cases run with
  | step conf later =>
      obtain rfl : conf = none := answers _ List.mem_cons_self
      simp only [Option.getD_none, ne_eq, not_true_eq_false, ↓reduceIte] at later
      cases later with
      | step block later =>
          cases block with
          | false => cases later
          | true =>
              simp only [↓reduceIte] at later
              obtain ⟨first, second, found, rfl, early, late⟩ := runs_bind_done later
              have same :=
                readTokensFrom_header early fun event member => answers event (by simp [member])
              rw [readConfig_eq]
              change _ = readTokens header 32 0 (sourcedConfig none) at same
              rw [← same]
              split at late
              · next seeded =>
                  cases late
                  rw [if_neg seeded]
              · cases late

theorem startServer_startArgs (env : ServerEnv) (quote : Text → String) (device : Text)
    {seed holder : Text} (given : seed ≠ []) (pinned : holder ≠ []) :
    startServer env (startArgs ⟨seed, holder, text "server"⟩) =
      unlockServer env quote ⟨device, seed, holder, text "server"⟩ := by
  rw [unlockServer_eq env rfl given pinned]
  have args : startArgs ⟨seed, holder, text "server"⟩ = [text "server", text "--seed", seed,
      text "--authorized-clients", holder, text "--announce-interval", text "60s", text "--log-level", text "error"] := by
    simp [startArgs, pinned]
  have flags : parseFlags [text "--seed", seed, text "--authorized-clients", holder, text "--announce-interval",
      text "60s", text "--log-level", text "error"] = some [(text "seed", seed), (text "authorized-clients", holder),
        (text "announce-interval", text "60s"), (text "log-level", text "error")] := rfl
  have zeros : ((startArgs ⟨seed, holder, text "server"⟩).any fun arg => .char '\x00' ∈ arg) = true ↔
      .char '\x00' ∈ seed ∨ .char '\x00' ∈ holder := by
    rw [args]
    simp [text]
  unfold startServer
  by_cases zero : .char '\x00' ∈ seed ∨ .char '\x00' ∈ holder
  · rw [if_pos (zeros.mpr zero), if_pos zero]
  · rw [if_neg fun found => zero (zeros.mp found), if_neg zero, args]
    have seedFlag : flagValue [(text "seed", seed), (text "authorized-clients", holder),
        (text "announce-interval", text "60s"), (text "log-level", text "error")]
          (text "seed") = seed := rfl
    have clientsFlag : flagValue [(text "seed", seed), (text "authorized-clients", holder),
        (text "announce-interval", text "60s"), (text "log-level", text "error")]
          (text "authorized-clients") = holder := rfl
    simp only [flags, ↓reduceIte, serverCommand, seedFlag, clientsFlag, given, pinned,
      parseAuthorizedClients, ne_eq, not_false_eq_true]

def requestLine (source : Text) : Text :=
  text "syncthing-socket: requesting the passphrase for " ++ source

/-- After an enrolment the boot script starts the program, at every prompt for that
device, as a server that accepts the enrolled phone and no other client. -/
theorem enrolled_boot_serves_phone (verbs : Verbs) (unicode : UpperCase) (platform : Platform)
    (certificates : Certificates) (fresh : Except Err Unit) (reads : Text → Option Token)
    (opens : List Char → Bool) {device : Text} {unlockSeed : List Char} {header : Header}
    (derived : Derived platform.newDeviceID certificates unlockSeed)
    (keeps : KeepsDocuments reads) (named : device ≠ [])
    (room : ∃ id, id < 32 ∧ (header.slot id = none ∨ header.mentions id = true)) :
    ∃ enrolled, syncthingLuksBind reads noFaults (setupBindArgs device unlockSeed
        ((enrolmentMachine verbs platform.newDeviceID certificates opens).phoneDeviceID unlockSeed))
          header = .ok enrolled ∧
      ∀ polls before after rest args output, Runs (unlockLoop polls {})
          (before ++ ⟨.console (requestLine device), ()⟩ :: ⟨.run args, output⟩ :: after) rest →
        (∀ event ∈ before, FromHeader device enrolled event) →
        startServer (enrolmentEnv verbs unicode certificates fresh) args =
          .ok [platform.newDeviceID derived.clientCert] := by
  obtain ⟨_, phonePrints⟩ := derived.printed verbs opens
  obtain ⟨after, ran, enrolled⟩ := derived.enrols verbs opens keeps named room
  obtain ⟨_, script⟩ := enrolled.read fun _ => ""
  refine ⟨after, ran, ?_⟩
  intro polls before later rest args output run answers
  rw [List.append_cons] at run
  obtain ⟨pid, fifo, vars, attempt, rfl⟩ := (unlockLoop_meets polls loopInv_start).guarded run
  obtain ⟨early, targets, environment, config, network, split, _, _, read, _⟩ := attempt
  have whole : before ++ [⟨.console (requestLine device), ()⟩] =
      (early ++ ⟨.openFiles pid, targets⟩ :: ⟨.isPipe fifo, true⟩ :: ⟨.environ pid, environment⟩ ::
        (config ++ network)) ++ [⟨.console (requestLine (crypttabSource environment)), ()⟩] := by
    rw [split]
    simp [requestLine]
  obtain ⟨rfl, last⟩ := List.append_inj' whole rfl
  have source : device = crypttabSource environment := by simpa [requestLine] using last
  rw [← source] at read
  have found := readConfigFrom_header read fun event member => answers event (by simp [member])
  obtain rfl : ⟨runes unlockSeed, runes _, text "server"⟩ = vars :=
    Option.some.inj (script.symm.trans found)
  rw [startServer_startArgs _ (fun _ => "") device (runes_ne_nil derived.given)
    (runes_ne_nil phonePrints.given)]
  exact unlockServer_one phonePrints derived.given derived.base64.plain derived.server unicode
    fresh _ device

/-! A device without any token, bound and booted. -/

def emptyHeader : Header := ⟨fun _ => none, fun _ _ => rfl⟩

theorem emptyHeader_bound {reads : Text → Option Token} {request : BindRequest} {token : Token}
    (accepted : reads request.document = some token) :
    syncthingLuksBind reads noFaults [request.device, request.seed,
      request.keyHolderDeviceID, request.role]
      emptyHeader = .ok (emptyHeader.insert 0 token) := by
  have swept : removeFrom noFaults 32 0 emptyHeader = .ok emptyHeader := rfl
  have free : (List.range 32).find? (fun id => (emptyHeader.slot id).isNone) = some 0 := rfl
  have stops : (noFaults.notLuks || noFaults.mktempFails || noFaults.chmodFails) = false := rfl
  have imported : importToken reads noFaults request.document emptyHeader =
      .ok (emptyHeader.insert 0 token) := by
    simp only [importToken, accepted, free]
    rfl
  simp only [syncthingLuksBind, bindRequest_given, stops, swept]
  exact imported

theorem readTokensFrom_takes (takes : scriptTakes document = true) (source : Text)
    (left tokenID : Nat) (vars : ShellConfig) :
    Runs (readTokensFrom source (left + 1) tokenID vars) [⟨.tokenExport tokenID source, document⟩]
      (.done (vars.take document)) := by
  obtain ⟨mentioned, version⟩ : mentionsType document = true ∧
    sed (text "version") leadingDigits document = text "1" := by
    simpa [scriptTakes] using takes
  simp only [readTokensFrom, askBoot, perform_bind]
  apply Runs.step
  simp only [mentioned, version, ne_eq, not_true_eq_false, ↓reduceIte]
  exact Runs.start _

def firstTokenRead (source document : Text) : BootLog :=
  [⟨.sourceConf, none⟩, ⟨.isBlock source, true⟩, ⟨.tokenExport 0 source, document⟩]

theorem firstTokenRead_runs (takes : scriptTakes document = true)
    (taken : (⟨[], [], text "client"⟩ : ShellConfig).take document = vars)
    (seeded : vars.seed ≠ []) (source : Text) :
    Runs (readConfigFrom source) (firstTokenRead source document) (.done (some vars)) := by
  simp only [readConfigFrom, askBoot, perform_bind]
  apply Runs.step
  simp only [Option.getD_none, ne_eq, not_true_eq_false, ↓reduceIte]
  apply Runs.step
  simp only [↓reduceIte]
  refine ((readTokensFrom_takes takes source 31 0 _).bind _).trans ?_
  rw [taken, done_bind, if_pos seeded]
  exact Runs.start _

def emptyFetch (vars : ShellConfig) : BootLog :=
  [⟨.configureNetworking, true⟩, ⟨.hasResolvConf, true⟩,
    ⟨.console (text "syncthing-socket: requesting the passphrase for " ++ text "/dev/vda2"), ()⟩,
    ⟨.run (startArgs vars), []⟩,
      ⟨.console (text "syncthing-socket: no passphrase yet, retrying"), ()⟩, ⟨.sleep 5, ()⟩]

theorem emptyFetch_runs (pid fifo : Text) (vars : ShellConfig) :
    Runs (ensureNetworking {} >>= fun state => fetchKey state pid fifo (text "/dev/vda2") vars)
      (emptyFetch vars)
      (.done ⟨true, []⟩) := by
  apply Runs.step
  apply Runs.step
  apply Runs.step
  apply Runs.step
  apply Runs.step
  apply Runs.step
  exact Runs.start _

theorem tokenBoot_runs (takes : scriptTakes document = true)
    (taken : (⟨[], [], text "client"⟩ : ShellConfig).take document = vars)
    (seeded : vars.seed ≠ []) :
    Runs (answerPrompt {} (text "12") sampleFifo)
      (⟨.environ (text "12"), text "CRYPTTAB_SOURCE=/dev/vda2"⟩ ::
      (firstTokenRead (text "/dev/vda2") document ++ emptyFetch vars)) (.done ⟨true, []⟩) := by
  have source : crypttabSource (text "CRYPTTAB_SOURCE=/dev/vda2") = text "/dev/vda2" := by decide
  simp only [answerPrompt, askBoot, perform_bind]
  apply Runs.step
  simp only [source]
  exact ((firstTokenRead_runs takes taken seeded _).bind _).trans (emptyFetch_runs _ _ vars)

theorem enrolled_boot_starts (verbs : Verbs) {newDeviceID : Framing.Bytes → DeviceID}
    {certificates : Certificates} {unlockSeed : List Char}
    (derived : Derived newDeviceID certificates unlockSeed) (opens : List Char → Bool)
    {reads : Text → Option Token} (keeps : KeepsDocuments reads) :
    ∃ enrolled before after rest args, syncthingLuksBind reads noFaults
      (setupBindArgs (text "/dev/vda2") unlockSeed
        ((enrolmentMachine verbs newDeviceID certificates opens).phoneDeviceID unlockSeed))
          emptyHeader = .ok enrolled ∧
      Runs (unlockLoop 1 {})
        (before ++ ⟨.console (requestLine (text "/dev/vda2")), ()⟩ :: ⟨.run args, []⟩ :: after) rest ∧
      ∀ event ∈ before, FromHeader (text "/dev/vda2") enrolled event := by
  let request := setupRequest vda2_given derived.given
    ((enrolmentMachine verbs newDeviceID certificates opens).phoneDeviceID unlockSeed)
  obtain ⟨seedPlain, holderPlain⟩ := derived.plain verbs opens
  obtain ⟨token, accepted, ours, kept⟩ := keeps request seedPlain holderPlain
  have document : token.document = request.line :=
    List.append_cancel_right (kept.trans request.document_eq)
  obtain ⟨script, taken⟩ := Option.ite_none_right_eq_some.mp
    (IsBound.script ⟨seedPlain, holderPlain, ours, document⟩ (sourcedConfig none))
  have seeded : ((sourcedConfig none).take token.document).seed ≠ [] := by
    rw [Option.some.inj taken]
    exact request.seed_given
  have run : Runs (unlockLoop 1 {})
    (samplePoll ++ ⟨.environ (text "12"), text "CRYPTTAB_SOURCE=/dev/vda2"⟩ ::
      (firstTokenRead (text "/dev/vda2") token.document ++
        emptyFetch ((sourcedConfig none).take token.document)))
      (.done ⟨true, []⟩) :=
    (samplePoll_runs.bind _).trans ((tokenBoot_runs script rfl seeded).bind _)
  refine ⟨_, samplePoll ++ ⟨.environ (text "12"), text "CRYPTTAB_SOURCE=/dev/vda2"⟩ ::
    (firstTokenRead (text "/dev/vda2") token.document ++ [⟨.configureNetworking, true⟩,
      ⟨.hasResolvConf, true⟩]),
    _, _, startArgs ((sourcedConfig none).take token.document), emptyHeader_bound accepted,
    by simpa [emptyFetch, requestLine] using run, ?_⟩
  simp [samplePoll, firstTokenRead, FromHeader, Header.insert_slot_self]

theorem sample_boot_serves_phone :
    let machine :=
      enrolmentMachine plainVerbs referencePlatform.newDeviceID seedCertificates fun _ => true
    ∃ enrolled before after rest args, syncthingLuksBind keepingReads noFaults
        (setupBindArgs (text "/dev/vda2") enrolledSeed (machine.phoneDeviceID enrolledSeed))
          emptyHeader = .ok enrolled ∧
      Runs (unlockLoop 1 {})
        (before ++ ⟨.console (requestLine (text "/dev/vda2")), ()⟩ :: ⟨.run args, []⟩ :: after) rest ∧
      (∀ event ∈ before, FromHeader (text "/dev/vda2") enrolled event) ∧
      startServer (enrolmentEnv plainVerbs asciiCase seedCertificates (.ok ())) args =
        .ok [referencePlatform.newDeviceID enrolledIDs.clientCert] := by
  intro machine
  have room : ∃ id, id < 32 ∧ (emptyHeader.slot id = none ∨ emptyHeader.mentions id = true) :=
    ⟨0, by decide, Or.inl rfl⟩
  obtain ⟨enrolled, bound, serves⟩ :=
    enrolled_boot_serves_phone plainVerbs asciiCase referencePlatform seedCertificates
    (.ok ()) keepingReads (fun _ => true) enrolledIDs keepingReads_keeps vda2_given room
  obtain ⟨same, before, after, rest, args, again, run, answers⟩ :=
    enrolled_boot_starts plainVerbs enrolledIDs
    (fun _ => true) keepingReads_keeps
  rw [again] at bound
  cases bound
  exact ⟨_, before, after, rest, args, again, run, answers, serves _ _ _ _ _ _ run answers⟩

end SyncthingSocket
