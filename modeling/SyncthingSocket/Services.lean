import SyncthingSocket.Effect.Interpret
import SyncthingSocket.Server

/-!
What a server runs on its data connection: the SOCKS, shell, command and reverse forwarding
services, three of them over yamux. A goroutine or copy loop of a service is one operation.
-/

namespace SyncthingSocket

open Effect Effect.Program Framing

/-! yamux sessions, as far as starting one can fail. -/

/-- The fields that `VerifyConfig` looks at. -/
structure YamuxConfig where
  acceptBacklog : Int
  keepAliveInterval : Int
  maxStreamWindowSize : Nat
  hasLogOutput : Bool
  hasLogger : Bool
  deriving DecidableEq, Repr

def initialStreamWindow : Nat := 256 * 1024

def YamuxConfig.default : YamuxConfig where
  acceptBacklog := 256
  keepAliveInterval := 30000000000
  maxStreamWindowSize := initialStreamWindow
  hasLogOutput := true
  hasLogger := false

def YamuxConfig.verify (config : YamuxConfig) : Option Err :=
  if config.acceptBacklog ≤ 0 then some (.text "backlog must be positive")
  else if config.keepAliveInterval = 0 then some (.text "keep-alive interval must be positive")
  else if config.maxStreamWindowSize < initialStreamWindow then
    some (.text "MaxStreamWindowSize must be larger than 262144")
  else if config.hasLogOutput && config.hasLogger then
    some (.text "both Logger and LogOutput may not be set, select one")
  else if !config.hasLogOutput && !config.hasLogger then
    some (.text "one of Logger or LogOutput must be set, select one")
  else none

def yamuxServer (config : Option YamuxConfig) : Option Err :=
  (config.getD .default).verify

/-! The operations of the services, next to those of the handlers. -/

inductive ServiceOp
  | handler (op : Op)
  | stillRunning
  | sessionAccept (conn : Conn)
  | closeSession (conn : Conn)
  | newSocks5
  | goServeConn
  | spawnShell
  | goResize
  | goRemoteToPty
  | ptyToRemote
  | waitShell
  | closeShell
  | stdinPipe
  | stdoutPipe
  | stderrPipe
  | goScanStderr
  | goRemoteToStdin (conn : Conn)
  | goStdoutToRemote (conn : Conn)
  | startCommand (argv : List String)
  | waitGroup
  | waitCommand
  | osRemove (addr : String)
  | listen (network addr : String)
  | listenerAccept
  | goForwardStream (conn : Conn)
  | closeListener
  deriving DecidableEq, Repr

abbrev ServiceAnswer : ServiceOp → Type
  | .handler op => Answer op
  | .stillRunning => Empty
  | .sessionAccept _ | .newSocks5 | .spawnShell | .ptyToRemote | .waitShell | .stdinPipe | .stdoutPipe
  | .stderrPipe | .startCommand _ | .waitCommand | .listen _ _ | .listenerAccept => Option Err
  | .closeSession _ | .goServeConn | .goResize | .goRemoteToPty | .closeShell | .goScanStderr
  | .goRemoteToStdin _ | .goStdoutToRemote _ | .waitGroup | .osRemove _ | .goForwardStream _
  | .closeListener => Unit

abbrev Service (α : Type) := Program ServiceOp ServiceAnswer α

abbrev ServiceLog := History ServiceAnswer

abbrev serviceCall (op : ServiceOp) : Service (ServiceAnswer op) := Program.perform op

def deferred (cleanup : Service Unit) (body : Service Unit) : Service Unit := do
  body
  cleanup

/-- A `for` loop that accepts until accepting fails, and starts a goroutine for each
connection. -/
def acceptLoop (accept : Service (Option Err)) (spawn : Service Unit) : Nat → Service Unit
  | 0 => do
      let never ← serviceCall .stillRunning
      nomatch never
  | bound + 1 => do
      match ← accept with
      | some _ => return ()
      | none =>
          spawn
          acceptLoop accept spawn bound

/-! `socks.go` -/

def acceptStreams (conn : Conn) : Nat → Service Unit :=
  acceptLoop (serviceCall (.sessionAccept conn)) (serviceCall .goServeConn)

def runSocksServer (bound : Nat) (conn : Conn) : Service Unit :=
  match yamuxServer none with
  | some _ => return ()
  | none => deferred (serviceCall (.closeSession conn)) do
      match ← serviceCall .newSocks5 with
      | some _ => return ()
      | none => acceptStreams conn bound

/-! `shell.go` -/

def runShellServer (conn : Conn) : Service Unit :=
  match yamuxServer none with
  | some _ => return ()
  | none => deferred (serviceCall (.closeSession conn)) do
      match ← serviceCall (.sessionAccept conn) with
      | some _ => return ()
      | none =>
      match ← serviceCall (.sessionAccept conn) with
      | some _ => return ()
      | none =>
      match ← serviceCall .spawnShell with
      | some _ => return ()
      | none => deferred (serviceCall .closeShell) do
          serviceCall .goResize
          serviceCall .goRemoteToPty
          let _ ← serviceCall .ptyToRemote
          let _ ← serviceCall .waitShell
          return ()

def shellArgv (goos commandStr : String) : List String :=
  if goos = "windows" then ["cmd.exe", "/c", commandStr] else ["/bin/sh", "-c", commandStr]

def runCommandServer (goos : String) (conn : Conn) (commandStr : String) : Service Unit := do
  match ← serviceCall .stdinPipe with
  | some _ => return ()
  | none =>
  match ← serviceCall .stdoutPipe with
  | some _ => return ()
  | none =>
  match ← serviceCall .stderrPipe with
  | some _ => return ()
  | none =>
  serviceCall .goScanStderr
  serviceCall (.goRemoteToStdin conn)
  serviceCall (.goStdoutToRemote conn)
  match ← serviceCall (.startCommand (shellArgv goos commandStr)) with
  | some _ => return ()
  | none =>
      serviceCall .waitGroup
      let _ ← serviceCall .waitCommand
      return ()

/-! `reverse_forward.go` -/

def acceptLocal (conn : Conn) : Nat → Service Unit :=
  acceptLoop (serviceCall .listenerAccept) (serviceCall (.goForwardStream conn))

def listenLocal (bound : Nat) (conn : Conn) (network addr : String) : Service Unit := do
  match ← serviceCall (.listen network addr) with
  | some _ => return ()
  | none => deferred (serviceCall .closeListener) (acceptLocal conn bound)

def runReverseForwardServer (bound : Nat) (conn : Conn) (bindAddr : String) : Service Unit :=
  match yamuxServer none with
  | some _ => return ()
  | none => deferred (serviceCall (.closeSession conn)) do
      let (network, addr) := parseNetworkAndAddr bindAddr
      if network = "unix" then
        serviceCall (.osRemove addr)
        deferred (serviceCall (.osRemove addr)) (listenLocal bound conn network addr)
      else listenLocal bound conn network addr

/-- How a handler's operations are carried out: its calls of the four services by the
services themselves, with loops of at most `bound` iterations, and the others as they are. -/
def carryOut (goos : String) (bound : Nat) : (op : Op) → Service (Answer op)
  | .handle .socksServer conn => runSocksServer bound conn
  | .handle .shellServer conn => runShellServer conn
  | .handle (.commandServer commandStr) conn => runCommandServer goos conn commandStr
  | .handle (.reverseForwardServer bindAddr) conn => runReverseForwardServer bound conn bindAddr
  | op => serviceCall (.handler op)

/-! What the services do with their connection: the three that put a session on it close
that session when they return, the command service closes nothing. -/

variable {conn : Conn} {body : Service Unit} {piece : ServiceLog}

theorem deferred_done {cleanup : Service Unit} {log : ServiceLog} :
    Runs (deferred cleanup body) log (.done ()) ↔
      ∃ first last, log = first ++ last ∧ Runs body first (.done ()) ∧ Runs cleanup last (.done ()) := by
  constructor
  · intro run
    obtain ⟨first, last, _, split, early, late⟩ := runs_bind_done run
    exact ⟨first, last, split, early, late⟩
  · rintro ⟨first, last, rfl, early, late⟩
    exact (early.bind _).trans late

def App.isService : App → Bool
  | socksServer | shellServer | commandServer _ | reverseForwardServer _ => true
  | socksClient _ | shellClient | reverseForwardClient _ | pipe => false

def App.isMultiplexed : App → Bool
  | socksServer | shellServer | reverseForwardServer _ => true
  | _ => false

/-- The operations of a service that may end the session of `ends`, if of any. -/
def ServiceOp.Own (ends : Option Conn) : ServiceOp → Prop
  | handler _ => False
  | closeSession conn => ends = some conn
  | _ => True

abbrev Owns (ends : Option Conn) : Contract ServiceAnswer := Contract.always fun _ op => op.Own ends

section Own

variable {ends : Option Conn} {log : ServiceLog}

theorem serviceCall_owns {op : ServiceOp} (own : op.Own ends) :
    Meets (Owns ends) (fun _ _ => True) (serviceCall op) log :=
  ⟨own, fun _ _ => trivial⟩

theorem deferred_owns {cleanup : Service Unit}
    (first : ∀ log, Meets (Owns ends) (fun _ _ => True) body log)
    (last : ∀ log, Meets (Owns ends) (fun _ _ => True) cleanup log) :
    Meets (Owns ends) (fun _ _ => True) (deferred cleanup body) log :=
  Meets.bind ((first log).mono fun _ later _ => last later)

theorem acceptLoop_owns {accept : Service (Option Err)} {spawn : Service Unit}
    (accepts : ∀ log, Meets (Owns ends) (fun _ _ => True) accept log)
    (spawns : ∀ log, Meets (Owns ends) (fun _ _ => True) spawn log) (bound : Nat)
    (log : ServiceLog) :
    Meets (Owns ends) (fun _ _ => True) (acceptLoop accept spawn bound) log := by
  induction bound generalizing log with
  | zero => exact ⟨trivial, fun never _ => nomatch never⟩
  | succ bound ih =>
      refine Meets.bind ((accepts log).mono fun outcome later _ => ?_)
      cases outcome with
      | some err => trivial
      | none => exact Meets.bind ((spawns later).mono fun _ after _ => ih after)

theorem runSocksServer_owns (bound : Nat) (conn : Conn) :
    Meets (Owns (some conn)) (fun _ _ => True) (runSocksServer bound conn) [] := by
  refine deferred_owns (fun log => ?_) (fun log => serviceCall_owns rfl)
  refine ⟨trivial, fun outcome _ => ?_⟩
  cases outcome with
  | some err => trivial
  | none =>
      refine acceptLoop_owns (fun _ => ?_) (fun _ => ?_) bound _
      · exact serviceCall_owns trivial
      · exact serviceCall_owns trivial

theorem runShellServer_owns (conn : Conn) :
    Meets (Owns (some conn)) (fun _ _ => True) (runShellServer conn) [] := by
  refine deferred_owns (fun log => ?_) (fun log => serviceCall_owns rfl)
  refine ⟨trivial, fun data _ => ?_⟩
  cases data with
  | some err => trivial
  | none =>
  refine ⟨trivial, fun control _ => ?_⟩
  cases control with
  | some err => trivial
  | none =>
  refine ⟨trivial, fun shell _ => ?_⟩
  cases shell with
  | some err => trivial
  | none =>
      refine deferred_owns (fun _ => ?_) (fun _ => serviceCall_owns trivial)
      exact ⟨trivial,
        fun _ _ => ⟨trivial, fun _ _ => ⟨trivial, fun _ _ => ⟨trivial, fun _ _ => trivial⟩⟩⟩⟩

theorem listenLocal_owns (bound : Nat) (conn : Conn) (network addr : String) (log : ServiceLog) :
    Meets (Owns ends) (fun _ _ => True) (listenLocal bound conn network addr) log := by
  refine ⟨trivial, fun outcome _ => ?_⟩
  cases outcome with
  | some err => trivial
  | none =>
      refine deferred_owns (fun log => ?_) (fun _ => serviceCall_owns trivial)
      refine acceptLoop_owns (fun _ => ?_) (fun _ => ?_) bound log
      · exact serviceCall_owns trivial
      · exact serviceCall_owns trivial

theorem runReverseForwardServer_owns (bound : Nat) (conn : Conn) (bindAddr : String) :
    Meets (Owns (some conn)) (fun _ _ => True) (runReverseForwardServer bound conn bindAddr) [] := by
  refine deferred_owns (fun log => ?_) (fun log => serviceCall_owns rfl)
  simp only
  split
  · refine ⟨trivial, fun _ _ => ?_⟩
    exact deferred_owns (fun log => listenLocal_owns bound conn _ _ log)
      (fun _ => serviceCall_owns trivial)
  · exact listenLocal_owns bound conn _ _ log

theorem runCommandServer_owns (goos : String) (conn : Conn) (commandStr : String) :
    Meets (Owns none) (fun _ _ => True) (runCommandServer goos conn commandStr) [] := by
  refine ⟨trivial, fun stdin _ => ?_⟩
  cases stdin with
  | some err => trivial
  | none =>
  refine ⟨trivial, fun stdout _ => ?_⟩
  cases stdout with
  | some err => trivial
  | none =>
  refine ⟨trivial, fun stderr _ => ?_⟩
  cases stderr with
  | some err => trivial
  | none =>
  refine ⟨trivial, fun _ _ => ⟨trivial, fun _ _ => ⟨trivial, fun _ _ => ⟨trivial, fun started _ => ?_⟩⟩⟩⟩
  cases started with
  | some err => trivial
  | none => exact ⟨trivial, fun _ _ => ⟨trivial, fun _ _ => trivial⟩⟩

end Own

theorem closes_session {log : ServiceLog}
    (run : Runs (deferred (serviceCall (.closeSession conn)) body) log (.done ())) :
    (⟨.closeSession conn, ()⟩ : Sigma ServiceAnswer) ∈ log := by
  obtain ⟨first, last, rfl, -, closed⟩ := deferred_done.mp run
  cases closed with
  | step answer finished => simp

theorem owns_done {ends : Option Conn} {program : Service Unit}
    (owns : Meets (Owns ends) (fun _ _ => True) program []) (run : Runs program piece (.done ())) :
    (∀ op reply, (⟨.handler op, reply⟩ : Sigma ServiceAnswer) ∉ piece) ∧
    ∀ other, (⟨.closeSession other, ()⟩ : Sigma ServiceAnswer) ∈ piece → ends = some other :=
  ⟨fun _ _ member => (owns.confined run).1 _ member, fun _ member => (owns.confined run).1 _ member⟩

theorem session_service_done
    (owns : Meets (Owns (some conn)) (fun _ _ => True)
      (deferred (serviceCall (.closeSession conn)) body) [])
    (run : Runs (deferred (serviceCall (.closeSession conn)) body) piece (.done ())) :
    (∀ op reply, (⟨.handler op, reply⟩ : Sigma ServiceAnswer) ∉ piece) ∧
    ∀ other, (⟨.closeSession other, ()⟩ : Sigma ServiceAnswer) ∈ piece ↔ true = true ∧ other = conn := by
  obtain ⟨apart, only⟩ := owns_done owns run
  refine ⟨apart, fun other => ⟨fun member => ?_, ?_⟩⟩
  · injection only other member with same
    exact ⟨rfl, same.symm⟩
  · rintro ⟨-, rfl⟩
    exact closes_session run

theorem service_done {goos : String} {bound : Nat} {app : App}
    {answer : Answer (.handle app conn)} (isService : app.isService = true)
    (run : Runs (carryOut goos bound (.handle app conn)) piece (.done answer)) :
    (∀ op reply, (⟨.handler op, reply⟩ : Sigma ServiceAnswer) ∉ piece) ∧
    ∀ other, (⟨.closeSession other, ()⟩ : Sigma ServiceAnswer) ∈ piece ↔ app.isMultiplexed = true ∧
      other = conn := by
  cases app with
  | socksServer => exact session_service_done (runSocksServer_owns bound conn) run
  | shellServer => exact session_service_done (runShellServer_owns conn) run
  | reverseForwardServer bindAddr =>
      exact session_service_done (runReverseForwardServer_owns bound conn bindAddr) run
  | commandServer commandStr =>
      obtain ⟨apart, only⟩ := owns_done (runCommandServer_owns goos conn commandStr) run
      refine ⟨apart, fun other => ⟨fun member => ?_, ?_⟩⟩
      · cases only other member
      · rintro ⟨multiplexed, -⟩
        cases multiplexed
  | _ => cases isService

def ServiceCall (op : Op) : Prop := ∃ app conn, op = .handle app conn ∧ app.isService = true

theorem carryOut_other (goos : String) (bound : Nat) {op : Op} (other : ¬ ServiceCall op) :
    carryOut goos bound op = serviceCall (.handler op) := by
  cases op with
  | handle app conn =>
      cases app with
      | socksServer | shellServer | commandServer _ | reverseForwardServer _ =>
          exact absurd ⟨_, _, rfl, rfl⟩ other
      | _ => rfl
  | _ => rfl

section Carried

variable {goos : String} {bound : Nat} {log : Log} {lower : ServiceLog}

theorem handler_event_iff {op : Op} {answer : Answer op} (other : ¬ ServiceCall op)
    (implements : Implements (carryOut goos bound) log lower) :
    (⟨.handler op, answer⟩ : Sigma ServiceAnswer) ∈ lower ↔ (⟨op, answer⟩ : Sigma Answer) ∈ log := by
  constructor
  · intro member
    obtain ⟨above, reply, piece, found, run, inside⟩ := implements.found_above member
    by_cases call : ServiceCall above
    · obtain ⟨app, conn, rfl, isService⟩ := call
      exact absurd inside ((service_done isService run).1 op answer)
    · rw [carryOut_other goos bound call] at run
      cases run with
      | step given finished =>
          obtain ⟨rfl, same⟩ := runs_done.mp finished
          injection same with same
          subst same
          simp only [List.mem_singleton, Sigma.mk.injEq, ServiceOp.handler.injEq] at inside
          obtain ⟨rfl, same⟩ := inside
          cases same
          exact found
  · intro member
    obtain ⟨piece, run, inside⟩ := implements.carried_out member
    rw [carryOut_other goos bound other] at run
    cases run with
    | step given finished =>
        obtain ⟨rfl, same⟩ := runs_done.mp finished
        injection same with same
        subst same
        exact inside _ List.mem_cons_self

theorem session_closed_iff (implements : Implements (carryOut goos bound) log lower) :
    (⟨.closeSession conn, ()⟩ : Sigma ServiceAnswer) ∈ lower ↔
      ∃ event ∈ log, ∃ app, event.1 = .handle app conn ∧ app.isMultiplexed = true := by
  constructor
  · intro member
    obtain ⟨above, reply, piece, found, run, inside⟩ := implements.found_above member
    by_cases call : ServiceCall above
    · obtain ⟨app, served, rfl, isService⟩ := call
      obtain ⟨multiplexed, rfl⟩ := ((service_done isService run).2 conn).mp inside
      exact ⟨_, found, app, rfl, multiplexed⟩
    · rw [carryOut_other goos bound call] at run
      cases run with
      | step given finished =>
          obtain ⟨rfl, -⟩ := runs_done.mp finished
          simp at inside
  · rintro ⟨⟨op, answer⟩, found, app, rfl, multiplexed⟩
    obtain ⟨piece, run, inside⟩ := implements.carried_out found
    have isService : app.isService = true := by cases app <;> first | rfl | cases multiplexed
    exact inside _ (((service_done isService run).2 conn).mpr ⟨multiplexed, rfl⟩)

end Carried

end SyncthingSocket
