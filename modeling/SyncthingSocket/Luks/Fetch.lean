import SyncthingSocket.Text

/-!
`fetchPassphrase` of `luks_agent.go`: it runs this same program as a child, in the
role the configuration names, and takes what the child prints for the passphrase.
-/

namespace SyncthingSocket

open Framing

structure LuksConfig where
  device : Text
  seed : Text
  keyHolderDeviceID : Text
  role : Text
  deriving DecidableEq, Repr

/-- How a child process ended: all it wrote, and the error of `cmd.Output()`. -/
structure ChildExit where
  out : Bytes
  errBuf : String
  err : Option Err
  deadlineExceeded : Bool
  deriving DecidableEq, Repr

/-- `UnlockAnnounceInterval.String()`. -/
def unlockAnnounceInterval : String := "1m0s"

/-- `agentAttemptTimeout.String()`. -/
def agentAttemptTimeout : String := "5m0s"

def lastLine (s : String) : String :=
  let lines := ((trimSpace s).toList.splitOn '\n').map fun line => trimSpace (String.ofList line)
  (lines.reverse.find? fun line => line ≠ "").getD ""

/-- The child's arguments; `quote` is the formatting of `%q`. -/
def fetchArgs (quote : Text → String) (cfg : LuksConfig) : Except Err (List Text) :=
  let args := [cfg.role, text "--seed", cfg.seed, text "--log-level", text "error"]
  if cfg.role = text "server" then
    .ok (args ++
      (if cfg.keyHolderDeviceID ≠ [] then [text "--authorized-clients", cfg.keyHolderDeviceID] else []) ++
      [text "--announce-interval", text unlockAnnounceInterval])
  else if cfg.role = text "client" then
    .ok (args ++ if cfg.keyHolderDeviceID ≠ [] then [cfg.keyHolderDeviceID] else [])
  else .error (.text ("unknown unlock role " ++ quote cfg.role))

def childResult (exit : ChildExit) : Except Err Bytes :=
  match exit.err with
  | none => .ok exit.out
  | some err =>
      if exit.deadlineExceeded then
        .error (.text ("gave up after " ++ agentAttemptTimeout ++ " waiting for the key holder"))
      else if lastLine exit.errBuf ≠ "" then
        .error (.text (err.message ++ ": " ++ lastLine exit.errBuf))
      else .error err

/-- `executable` is the answer of `os.Executable()`, and `run` runs a command line. -/
def fetchPassphrase (quote : Text → String) (executable : Except Err String)
    (run : String → List Text → ChildExit) (cfg : LuksConfig) : Except Err Bytes := do
  let self ← executable
  let args ← fetchArgs quote cfg
  childResult (run self args)

end SyncthingSocket
