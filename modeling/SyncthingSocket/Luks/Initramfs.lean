import SyncthingSocket.Luks.Enrolment

/-!
The local-top script of initramfs-tools: it looks for an `askpass` on `cryptsetup`'s passfifo,
reads the configuration of the device, runs the program and writes what it prints into the fifo. A
run of the endless loop is a run of some of its polls.
-/

namespace SyncthingSocket

open Effect Program

/-- The variables of one `/run/net-*.conf`, after it has been sourced. -/
structure NetConf where
  ipv4dns0 : Text
  ipv4dns1 : Text
  ipv6dns0 : Text
  deriving DecidableEq, Repr

/-- What the script asks. `openFiles` is the loop over `/proc/pid/fd` with `readlink -f`,
and `writeFifo` carries the `askpass` that the fifo was found for. -/
inductive BootOp
  | sleep (seconds : Nat)
  | ps
  | openFiles (pid : Text)
  | isPipe (fifo : Text)
  | environ (pid : Text)
  | sourceConf
  | isBlock (source : Text)
  | tokenExport (id : Nat) (source : Text)
  | configureNetworking
  | hasResolvConf
  | truncateResolvConf
  | netConfs
  | sourceNetConf (intf : Text)
  | appendResolvConf (line : Text)
  | console (line : Text)
  | run (args : List Text)
  | writeFifo (pid fifo key : Text)
  deriving DecidableEq, Repr

/-- `sourceConf` is what the variables are once `luks.conf` has been sourced, if there is
one, and `tokenExport` what `$(…)` makes of the document. -/
abbrev BootAnswer : BootOp → Type
  | .ps => List Text
  | .openFiles _ => List Text
  | .isPipe _ => Bool
  | .environ _ => Text
  | .sourceConf => Option ShellConfig
  | .isBlock _ => Bool
  | .tokenExport _ _ => Text
  | .configureNetworking => Bool
  | .hasResolvConf => Bool
  | .netConfs => List Text
  | .sourceNetConf _ => NetConf
  | .run _ => Text
  | _ => Unit

abbrev Boot (α : Type) := Program BootOp BootAnswer α

abbrev BootLog := History BootAnswer

def askBoot (op : BootOp) : Boot (BootAnswer op) := Program.perform op

/-! The prompt. -/

/-- `$(…)`, on any output. -/
def captured (output : Text) : Text := substituted (.char '\x00') (.char '\n') output

def isFieldBlank (rune : Rune) : Bool := rune = .char ' ' || rune = .char '\t'

/-- `awk '/\/lib\/cryptsetup\/askpass/ && !/awk/ { print $1 }'`. -/
def askpassPids (lines : List Text) : List Text :=
  (lines.filter fun line => Text.contains line
    (text "/lib/cryptsetup/askpass") && !Text.contains line (text "awk")).map
    fun line => (line.dropWhile isFieldBlank).takeWhile fun rune => !isFieldBlank rune

/-- The first target that `*/cryptsetup/passfifo` matches. -/
def passfifo (targets : List Text) : Option Text :=
  targets.find? fun target => (text "/cryptsetup/passfifo").isSuffixOf target

def getFifoPath (pid : Text) : Boot (Option Text) := do
  let targets ← askBoot (.openFiles pid)
  return passfifo targets

def firstAskpass : List Text → Boot Text
  | [] => return []
  | pid :: rest => do
      match ← getFifoPath pid with
      | none => firstAskpass rest
      | some fifo => return pid ++ .char ' ' :: fifo

def getAskpass : Boot Text := do
  let lines ← askBoot .ps
  firstAskpass (askpassPids lines)

/-- `${askpass%% *}` and `${askpass#* }`, which are both the whole text if it has no blank. -/
def splitAskpass (askpass : Text) : Text × Text :=
  let (pid, fifo) := (askpass.cut ' ').getD (askpass, askpass)
  if pid = fifo then ([], []) else (pid, fifo)

/-- The body of the `until` loop and the test that follows it. -/
def pollAskpass : Boot (Option (Text × Text)) := do
  askBoot (.sleep 1)
  let askpass ← getAskpass
  let (pid, fifo) := splitAskpass askpass
  if pid = [] then return none
  else if ← askBoot (.isPipe fifo) then return some (pid, fifo)
  else return none

/-- `tr '\0' '\n' | sed -n 's/^CRYPTTAB_SOURCE=//p'`. -/
def crypttabSource (environment : Text) : Text :=
  let lines :=
    (environment.map fun rune => if rune = .char '\x00' then .char '\n' else rune).splitOn (.char '\n')
  let name := text "CRYPTTAB_SOURCE="
  captured (lines.flatMap fun line =>
    if name.isPrefixOf line then List.drop name.length line ++ [.char '\n'] else [])

/-! The configuration. -/

def readTokensFrom (source : Text) : Nat → Nat → ShellConfig → Boot ShellConfig
  | 0, _, vars => return vars
  | left + 1, tokenID, vars => do
      let tokenJSON ← askBoot (.tokenExport tokenID source)
      if mentionsType tokenJSON then
        let version := sed (text "version") leadingDigits tokenJSON
        if version ≠ text "1" then do
          askBoot (.console (text "syncthing-socket: the token on " ++ source ++ text " is version " ++
            (if version = [] then text "unversioned" else version) ++
            text ", and this build understands version 1. Re-run syncthing-luks-bind."))
          readTokensFrom source left (tokenID + 1) vars
        else return vars.take tokenJSON
      else readTokensFrom source left (tokenID + 1) vars

def readConfigFrom (source : Text) : Boot (Option ShellConfig) := do
  let vars := (← askBoot .sourceConf).getD ⟨[], [], text "client"⟩
  if vars.seed ≠ [] then return some vars
  else if ← askBoot (.isBlock source) then do
    let vars ← readTokensFrom source 32 0 vars
    if vars.seed ≠ [] then return some vars else return none
  else return none

/-! The network. -/

def NetConf.nameservers (conf : NetConf) : List Text :=
  [conf.ipv4dns0, conf.ipv4dns1, conf.ipv6dns0].filter fun ns => ns ≠ [] ∧ ns ≠ text "0.0.0.0"

def appendNameservers : List Text → Boot Unit
  | [] => return ()
  | ns :: rest => do
      askBoot (.appendResolvConf (text "nameserver " ++ ns))
      appendNameservers rest

def addNetConfs : List Text → Boot Unit
  | [] => return ()
  | intf :: rest => do
      let conf ← askBoot (.sourceNetConf intf)
      appendNameservers conf.nameservers
      addNetConfs rest

def setupNetworking : Boot Unit := do
  if ← askBoot .configureNetworking then
    if ← askBoot .hasResolvConf then return ()
    else do
      askBoot .truncateResolvConf
      let intfs ← askBoot .netConfs
      addNetConfs intfs
  else return ()

/-! The loop. -/

def startArgs (vars : ShellConfig) : List Text :=
  if vars.role = text "server" then
    if vars.keyHolderDeviceID ≠ [] then
      [text "server", text "--seed", vars.seed, text "--authorized-clients", vars.keyHolderDeviceID,
        text "--announce-interval", text "60s", text "--log-level", text "error"]
    else [text "server", text "--seed", vars.seed, text "--announce-interval", text "60s",
      text "--log-level", text "error"]
  else if vars.keyHolderDeviceID ≠ [] then
    [text "client", text "--seed", vars.seed, text "--log-level", text "error", vars.keyHolderDeviceID]
  else [text "client", text "--seed", vars.seed, text "--log-level", text "error"]

structure LoopState where
  networkingDone : Bool := false
  answeredPid : Text := []
  deriving DecidableEq, Repr

def ensureNetworking (state : LoopState) : Boot LoopState :=
  if state.networkingDone then return state
  else do
    setupNetworking
    return { state with networkingDone := true }

def fetchKey (state : LoopState) (pid fifo source : Text) (vars : ShellConfig) : Boot LoopState :=
  do
  askBoot (.console (text "syncthing-socket: requesting the passphrase for " ++ source))
  let output ← askBoot (.run (startArgs vars))
  if captured output ≠ [] then do
    askBoot (.writeFifo pid fifo (captured output))
    askBoot (.console (text "syncthing-socket: passphrase delivered for " ++ source))
    askBoot (.sleep 2)
    return { state with answeredPid := pid }
  else do
    askBoot (.console (text "syncthing-socket: no passphrase yet, retrying"))
    askBoot (.sleep 5)
    return state

/-- What the loop does about an `askpass` that it has found. -/
def answerPrompt (state : LoopState) (pid fifo : Text) : Boot LoopState := do
  let source := crypttabSource (← askBoot (.environ pid))
  if source = [] then do
    askBoot (.sleep 2)
    return state
  else if pid = state.answeredPid then do
    askBoot (.sleep 2)
    return state
  else
    match ← readConfigFrom source with
    | none => return { state with answeredPid := pid }
    | some vars => do
        let state ← ensureNetworking state
        fetchKey state pid fifo source vars

/-- The first `polls` polls. -/
def unlockLoop : Nat → LoopState → Boot LoopState
  | 0, state => return state
  | polls + 1, state => do
      match ← pollAskpass with
      | none => unlockLoop polls state
      | some (pid, fifo) => do
          let state ← answerPrompt state pid fifo
          unlockLoop polls state

end SyncthingSocket
