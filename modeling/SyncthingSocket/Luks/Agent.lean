import SyncthingSocket.Luks.Fetch

/-!
The systemd password agent of `luks_agent.go` and `luks_agent_linux.go`. Its map `answered` is
memory outside the program like the files, so that the log of a run tells what it holds.
-/

namespace SyncthingSocket

open Effect Program Framing

structure AskRequest where
  path : Text := []
  socket : Text := []
  id : Text := []
  message : Text := []
  notAfter : UInt64 := 0
  deriving DecidableEq, Repr

def AskRequest.readLine (quote : Text → String) (req : AskRequest) (line : Text) :
    Except Err AskRequest :=
  let line := line.trimSpace
  if line = [] ∨ text "#" <+: line ∨ text "[" <+: line then .ok req
  else
    match line.cut '=' with
    | none => .ok req
    | some (key, value) =>
        if key.trimSpace = text "Socket" then .ok { req with socket := value.trimSpace }
        else if key.trimSpace = text "Id" then .ok { req with id := value.trimSpace }
        else if key.trimSpace = text "Message" then .ok { req with message := value.trimSpace }
        else if key.trimSpace = text "NotAfter" then
          match Text.parseUint quote value.trimSpace with
          | .ok n => .ok { req with notAfter := n }
          | .error err => .error (.text ("unparseable NotAfter " ++ quote value ++ ": " ++ err.message))
        else .ok req

def parseAskFile (quote : Text → String) (file : FileRead) : Except Err AskRequest := do
  let req ← file.scanLines.1.foldlM (AskRequest.readLine quote) {}
  match file.scanLines.2 with
  | some err => .error err
  | none => if req.socket = [] then .error (.text "no Socket= in the request") else .ok req

def AskRequest.expired (req : AskRequest) (nowUsec : UInt64) : Bool :=
  req.notAfter ≠ 0 && nowUsec ≥ req.notAfter

def AskRequest.wantsCryptsetup (req : AskRequest) : Bool :=
  (text "cryptsetup").isPrefixOf req.id

def askPasswordDir : Text := text "/run/systemd/ask-password"

/-- `filepath.Join(askPasswordDir, name)`. -/
def askPath (name : Text) : Text := askPasswordDir ++ .char '/' :: name

inductive FileErr
  | notExist
  | other (err : Err)
  deriving DecidableEq, Repr

inductive ReplyErr
  | cannotCreate (err : Err)
  | cannotSend (socketPath : Text) (err : Err)
  deriving DecidableEq, Repr

/-- What the agent asks. `sendto` carries the path of the request it replies to, which
the datagram itself does not. -/
inductive AgentOp
  | sleep (seconds : Nat)
  | readDir (dir : Text)
  | clockGettime
  | openFile (path : Text)
  | stat (path : Text)
  | isAnswered (path : Text)
  | setAnswered (path : Text)
  | deleteAnswered (path : Text)
  | rangeAnswered
  | findLUKSConfig
  | ensureResolver
  | eprint (line : Text)
  | fetchPassphrase (cfg : LuksConfig)
  | testPassphrase (device : Text) (passphrase : Bytes)
  | socket
  | sendto (path socketPath : Text) (payload : Bytes)
  | closeSocket
  deriving DecidableEq, Repr

abbrev AgentAnswer : AgentOp → Type
  | .readDir _ => Except Err (List Text)
  | .clockGettime => Except Err (UInt64 × UInt64)
  | .openFile _ => Except FileErr FileRead
  | .stat _ => Option FileErr
  | .isAnswered _ => Bool
  | .rangeAnswered => List Text
  | .findLUKSConfig => Except Err (Option LuksConfig)
  | .fetchPassphrase _ => Except Err Bytes
  | .testPassphrase _ _ => Option Err
  | .socket => Option Err
  | .sendto _ _ _ => Option Err
  | _ => Unit

abbrev Agent (α : Type) := Program AgentOp AgentAnswer α

abbrev AgentLog := History AgentAnswer

def askAgent (op : AgentOp) : Agent (AgentAnswer op) := Program.perform op

def usec (sec nsec : UInt64) : UInt64 := sec * 1000000 + nsec / 1000

def monotonicUsec : Agent (Except Err UInt64) := do
  match ← askAgent .clockGettime with
  | .error err => return .error err
  | .ok (sec, nsec) => return .ok (usec sec nsec)

def replyToAsk (path socketPath : Text) (password : Bytes) : Agent (Option ReplyErr) := do
  match ← askAgent .socket with
  | some err => return some (.cannotCreate err)
  | none =>
      let sent ← askAgent (.sendto path socketPath (43 :: password))
      askAgent .closeSocket
      return sent.map (.cannotSend socketPath)

def verifyPassphrase (device : Text) (passphrase : Bytes) : Agent (Option Err) :=
  if device = [] then return none else askAgent (.testPassphrase device passphrase)

def scanEntry (quote : Text → String) (now : UInt64) (name : Text) : Agent (Option AskRequest) :=
  if text "ask." <+: name then do
    if ← askAgent (.isAnswered (askPath name)) then return none
    else
      match ← askAgent (.openFile (askPath name)) with
      | .error _ => return none
      | .ok file =>
          match parseAskFile quote file with
          | .error _ => do
              askAgent (.setAnswered (askPath name))
              return none
          | .ok req =>
              if req.expired now then do
                askAgent (.setAnswered (askPath name))
                return none
              else if req.wantsCryptsetup then return some { req with path := askPath name }
              else do
                askAgent (.setAnswered (askPath name))
                return none
  else return none

def scanEntries (quote : Text → String) (now : UInt64) : List Text → Agent (List AskRequest)
  | [] => return []
  | name :: rest => do
      let found ← scanEntry quote now name
      let others ← scanEntries quote now rest
      return found.toList ++ others

def forgetMissing : List Text → Agent Unit
  | [] => return ()
  | path :: rest => do
      if (← askAgent (.stat path)) = some .notExist then
        askAgent (.deleteAnswered path)
        forgetMissing rest
      else forgetMissing rest

def pendingRequests (quote : Text → String) : Agent (Except Err (List AskRequest)) := do
  match ← askAgent (.readDir askPasswordDir) with
  | .error err => return .error err
  | .ok entries =>
      match ← monotonicUsec with
      | .error err => return .error err
      | .ok now =>
          let requests ← scanEntries quote now entries
          let keys ← askAgent .rangeAnswered
          forgetMissing keys
          return .ok requests

def agentPollInterval : Nat := 1

def agentRetryInterval : Nat := 5

def announce (cfg : LuksConfig) (delivered : Bool) : Agent Unit := do
  if delivered then
    askAgent (.eprint
      (text "syncthing-socket: " ++ cfg.device ++ text " rejected the passphrase, asking again"))
  askAgent (.eprint (text "syncthing-socket: requesting the passphrase for " ++ cfg.device))

/-- One round of the loop over the requests; the result is the new `delivered`. -/
def serveRequest (cfg : LuksConfig) (delivered : Bool) (req : AskRequest) : Agent Bool := do
  askAgent .ensureResolver
  announce cfg delivered
  match ← askAgent (.fetchPassphrase cfg) with
  | .error _ =>
      askAgent (.sleep agentRetryInterval)
      return delivered
  | .ok [] =>
      askAgent (.sleep agentRetryInterval)
      return delivered
  | .ok (byte :: more) =>
      match ← verifyPassphrase cfg.device (byte :: more) with
      | some _ =>
          askAgent (.eprint (text "syncthing-socket: the passphrase received (" ++
            text (toString (byte :: more).length) ++ text " bytes) does not unlock " ++ cfg.device ++
            text "; not using it"))
          askAgent (.sleep agentRetryInterval)
          return delivered
      | none =>
          match ← replyToAsk req.path req.socket (byte :: more) with
          | some _ => return delivered
          | none =>
              askAgent (.setAnswered req.path)
              askAgent (.eprint (text "syncthing-socket: passphrase delivered for " ++ cfg.device))
              return true

def serveRequests (cfg : LuksConfig) (delivered : Bool) : List AskRequest → Agent Bool
  | [] => return delivered
  | req :: rest => do
      let delivered ← serveRequest cfg delivered req
      serveRequests cfg delivered rest

def answerAll : List AskRequest → Agent Unit
  | [] => return ()
  | req :: rest => do
      askAgent (.setAnswered req.path)
      answerAll rest

def agentPass (quote : Text → String) (delivered : Bool) : Agent Bool := do
  askAgent (.sleep agentPollInterval)
  match ← pendingRequests quote with
  | .error _ => return delivered
  | .ok [] => return delivered
  | .ok (first :: others) =>
      match ← askAgent .findLUKSConfig with
      | .error _ =>
          askAgent (.sleep agentRetryInterval)
          return delivered
      | .ok none =>
          answerAll (first :: others)
          return delivered
      | .ok (some cfg) => serveRequests cfg delivered (first :: others)

/-- The first `passes` passes of a loop that does not end. -/
def runLUKSAgent (quote : Text → String) : Nat → Bool → Agent Unit
  | 0, _ => return ()
  | passes + 1, delivered => do
      let delivered ← agentPass quote delivered
      runLUKSAgent quote passes delivered

end SyncthingSocket
