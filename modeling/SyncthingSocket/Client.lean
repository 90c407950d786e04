import SyncthingSocket.Server

/-!
`RunClient`: find the server's addresses, try the direct ones, fall back to a
relay and, unless the caller asked for relay only, try to upgrade the relayed
connection. `handleClientConn` gets whichever connection came out of it.
-/

namespace SyncthingSocket

open Effect Effect.Program Framing

structure ClientOptions where
  serverID : String
  relayURI : String
  discoveryServer : String
  tryDirect : Bool
  socks : String
  shell : Bool
  reverseForward : String
  totpPasscode : String
  deriving DecidableEq, Repr

def handleClientConn (opts : ClientOptions) (finalConn : Conn) : Goroutine Unit := do
  if opts.socks ≠ "" then perform (.handle (.socksClient opts.socks) finalConn)
  else if opts.shell then perform (.handle .shellClient finalConn)
  else if opts.reverseForward ≠ "" then
    perform (.handle (.reverseForwardClient opts.reverseForward) finalConn)
  else
    let _ ← perform (.handle .pipe finalConn)
    perform (.close finalConn)

def attemptDirect (platform : Platform) (opts : ClientOptions) (serverID : DeviceID) (index : Nat)
    (addrStr : String) : Goroutine Bool := do
  match platform.urlHost addrStr with
  | .error _ => return false
  | .ok host =>
  match ← perform (.dialContext index host) with
  | some _ => return false
  | none =>
  match ← perform (.handshake (.direct index)) with
  | .error _ =>
      perform (.close (.raw (.direct index)))
      return false
  | .ok [] =>
      perform (.close (.tls (.direct index)))
      return false
  | .ok (leaf :: _) =>
  if platform.newDeviceID leaf ≠ serverID then
    perform (.close (.tls (.direct index)))
    return false
  else
  match ← performClientAuth platform (.tls (.direct index)) opts.totpPasscode with
  | some _ =>
      perform (.close (.tls (.direct index)))
      return false
  | none =>
      handleClientConn opts (.tls (.direct index))
      return true

def attemptAll (platform : Platform) (opts : ClientOptions) (serverID : DeviceID) :
    Nat → List String → Goroutine Bool
  | _, [] => return false
  | index, addrStr :: rest => do
      if ← attemptDirect platform opts serverID index addrStr then return true
      else attemptAll platform opts serverID (index + 1) rest

def useRelay (platform : Platform) (opts : ClientOptions) : Goroutine Unit := do
  if opts.tryDirect = false then handleClientConn opts (.tls .relay)
  else
    match ← negotiateWebRTCClient platform (.tls .relay) with
    | some _ =>
        let _ ← sendSignal (.tls .relay) fallbackSignal
        handleClientConn opts (.tls .relay)
    | none =>
        perform (.close (.tls .relay))
        handleClientConn opts .p2p

def relaySession (platform : Platform) (opts : ClientOptions) (serverID : DeviceID) :
    Goroutine (Option Err) :=
  deferClose (.raw .relay) do
    match ← perform (.handshake .relay) with
    | .error err => return some (err.wrap "TLS handshake failed: ")
    | .ok [] =>
        perform (.close (.tls .relay))
        return some (.text "server presented no TLS certificates")
    | .ok (leaf :: _) =>
        if platform.newDeviceID leaf ≠ serverID then
          perform (.close (.tls .relay))
          return some (.text ("security mismatch: connected to device " ++
            platform.deviceIDString (platform.newDeviceID leaf) ++ ", expected " ++
            platform.deviceIDString serverID))
        else
          match ← performClientAuth platform (.tls .relay) opts.totpPasscode with
          | some err =>
              perform (.close (.tls .relay))
              return some (err.wrap "authentication failed: ")
          | none =>
              useRelay platform opts
              return none

def isDirect (addr : String) : Bool := hasPrefix addr "tcp://"

def isRelayed (addr : String) : Bool := !isDirect addr && hasPrefix addr "relay://"

def lookupAddresses (platform : Platform) (opts : ClientOptions) (serverID : DeviceID) :
    Goroutine (Except Err (List String)) := do
  if opts.relayURI ≠ "" then return .ok [opts.relayURI]
  else
    match ← perform (.lookup (platform.deviceIDString serverID) opts.discoveryServer) with
    | .error err => return .error (err.wrap "discovery lookup failed: ")
    | .ok addresses => return .ok addresses

def runClient (platform : Platform) (opts : ClientOptions) : Goroutine (Option Err) := do
  match platform.deviceIDFromString opts.serverID with
  | .error err => return some (err.wrap "invalid server Device ID: ")
  | .ok serverID =>
  match ← lookupAddresses platform opts serverID with
  | .error err => return some err
  | .ok addresses =>
  let directAddresses := addresses.filter isDirect
  let relayAddresses := addresses.filter isRelayed
  if ← (if opts.tryDirect = true ∧ directAddresses.length > 0 then
      attemptAll platform opts serverID 0 directAddresses else return false) then return none
  else if relayAddresses.length = 0 then
    return some (.text "no connectable relay or TCP addresses found")
  else
    match ← perform (.dialFastestRelay relayAddresses) with
    | some err => return some err
    | none => relaySession platform opts serverID

/-! The path of a client that is given a relay and meets the server it expects. -/

def relayDialled (opts : ClientOptions) (leaf : Bytes) : Log :=
  [⟨.dialFastestRelay [opts.relayURI], none⟩, ⟨.handshake .relay, .ok [leaf]⟩]

/-- What is left of `RunClient` when authentication over the relay has ended. -/
def afterClientAuth (platform : Platform) (opts : ClientOptions) :
    Option Err → Goroutine (Option Err)
  | some err => do
      perform (.close (.tls .relay))
      perform (.close (.raw .relay))
      return some (err.wrap "authentication failed: ")
  | none => do
      useRelay platform opts
      perform (.close (.raw .relay))
      return none

theorem runClient_meets_server {platform : Platform} {opts : ClientOptions} {leaf : Bytes}
    (identity : platform.deviceIDFromString opts.serverID = .ok (platform.newDeviceID leaf))
    (relayed : isRelayed opts.relayURI = true) :
    Runs (runClient platform opts) (relayDialled opts leaf)
      (performClientAuth platform (.tls .relay) opts.totpPasscode >>= afterClientAuth platform opts) := by
  have given : opts.relayURI ≠ "" := by
    intro blank
    rw [blank] at relayed
    exact absurd relayed (by decide)
  have notDirect : isDirect opts.relayURI = false := by
    rw [isRelayed, Bool.and_eq_true, Bool.not_eq_true'] at relayed
    exact relayed.1
  have direct : [opts.relayURI].filter isDirect = [] := by simp [notDirect]
  have relays : [opts.relayURI].filter isRelayed = [opts.relayURI] := by simp [relayed]
  simp only [runClient, identity, lookupAddresses, given, ne_eq, not_false_eq_true, ↓reduceIte,
    pure_eq_done, done_bind, direct, List.length_nil, Nat.lt_irrefl, and_false, gt_iff_lt,
    Bool.false_eq_true, perform_bind]
  rw [relays]
  apply Runs.step
  simp only [relaySession, deferClose, perform_bind, ask_bind]
  apply Runs.step
  simp only [ne_eq, not_true_eq_false, ↓reduceIte, Program.bind_assoc]
  convert Runs.start _ using 2
  funext failure
  cases failure with
  | some err => rfl
  | none => simp only [afterClientAuth, Program.bind_assoc, pure_eq_done, done_bind, perform_bind]

end SyncthingSocket
