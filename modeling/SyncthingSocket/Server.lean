import SyncthingSocket.Upgrade

/-!
The connection handlers `handleServerConn` and `handleForwardConn` of `main.go`: TLS handshake,
authorized Device IDs, authentication and, over a relay, the WebRTC upgrade; then what each does
with the data connection.
-/

namespace SyncthingSocket

open Effect Effect.Program Framing

def deferClose {α : Type} (conn : Conn) (body : Goroutine α) : Goroutine α := do
  let result ← body
  perform (.close conn)
  return result

def closing (conn : Conn) : Sigma Answer := ⟨.close conn, ()⟩

theorem deferClose_done {α : Type} {conn : Conn} {body : Goroutine α} {log : Log} {result : α} :
    Runs (deferClose conn body) log (.done result) ↔
      ∃ inner, log = inner ++ [closing conn] ∧ Runs body inner (.done result) := by
  constructor
  · intro run
    simp only [deferClose, perform_bind] at run
    obtain ⟨inner, last, value, rfl, early, late⟩ := runs_bind_done run
    cases late with
    | step answer finished =>
        simp only [pure_eq_done, runs_done, Program.done.injEq] at finished
        obtain ⟨rfl, rfl⟩ := finished
        exact ⟨inner, rfl, early⟩
  · rintro ⟨inner, rfl, run⟩
    simp only [deferClose, perform_bind]
    refine (run.bind _).trans ?_
    apply Runs.step
    exact Runs.start _

structure ServerOptions where
  isRelay : Bool
  authorizedClients : List DeviceID
  totpSecret : String
  deriving DecidableEq, Repr

def clientID (platform : Platform) : List Bytes → DeviceID
  | leaf :: _ => platform.newDeviceID leaf
  | [] => Vector.replicate 32 0

def authorized (platform : Platform) (authorizedClients : List DeviceID) (certs : List Bytes) :
    Bool :=
  if authorizedClients.length > 0 then
    if certs.length > 0 then authorizedClients.any fun authID => authID == clientID platform certs
    else false
  else true

/-- The connection the handler goes on with: the relayed one, or the data channel
after the relay has been closed. -/
def serverDataConn (platform : Platform) (isRelay : Bool) : Goroutine Conn := do
  if isRelay then
    let (fallback, err) ← negotiateWebRTCServer platform (.tls .incoming)
    if fallback = true ∨ err ≠ none then return .tls .incoming
    else
      perform (.close (.tls .incoming))
      return .p2p
  else return .tls .incoming

def admission (platform : Platform) (opts : ServerOptions) : Goroutine (Option (List Bytes)) := do
  match ← perform (.handshake .incoming) with
  | .error _ => return none
  | .ok certs =>
      if authorized platform opts.authorizedClients certs = false then
        perform (.close (.tls .incoming))
        return none
      else
        match ← performServerAuth platform (.tls .incoming) opts.totpSecret with
        | some _ =>
            perform (.close (.tls .incoming))
            return none
        | none => return some certs

def admitConn (platform : Platform) (opts : ServerOptions)
    (proceed : List Bytes → Conn → Goroutine Unit) : Goroutine Unit :=
  deferClose (.raw .incoming) do
    match ← admission platform opts with
    | none => return ()
    | some certs =>
        let dataConn ← serverDataConn platform opts.isRelay
        proceed certs dataConn

structure ServerMode where
  isSocks : Bool
  isShell : Bool
  isCommand : String
  reverseForward : String
  deriving DecidableEq, Repr

def handleConn (mode : ServerMode) (finalConn : Conn) : Goroutine Unit := do
  if mode.isSocks then perform (.handle .socksServer finalConn)
  else if mode.isShell then perform (.handle .shellServer finalConn)
  else if mode.isCommand ≠ "" then perform (.handle (.commandServer mode.isCommand) finalConn)
  else if mode.reverseForward ≠ "" then
    perform (.handle (.reverseForwardServer mode.reverseForward) finalConn)
  else
    let _ ← perform (.handle .pipe finalConn)
    perform (.close finalConn)

def handleServerConn (platform : Platform) (opts : ServerOptions) (mode : ServerMode) :
    Goroutine Unit :=
  admitConn platform opts fun _ finalConn => handleConn mode finalConn

/-! Forwarding to a local service. -/

def hasPrefix (s start : String) : Bool := start.toList.isPrefixOf s.toList

def trimStart (s start : String) : String :=
  if hasPrefix s start then String.ofList (s.toList.drop start.length) else s

def parseNetworkAndAddr (addr : String) : String × String :=
  if hasPrefix addr "unix://" then ("unix", trimStart addr "unix://")
  else if hasPrefix addr "unix:" then ("unix", trimStart addr "unix:")
  else if hasPrefix addr "tcp://" then ("tcp", trimStart addr "tcp://")
  else if hasPrefix addr "tcp:" then ("tcp", trimStart addr "tcp:")
  else if hasPrefix addr "/" || hasPrefix addr "./" || hasPrefix addr "../" ||
      ".sock".toList.isSuffixOf addr.toList || !addr.toList.contains ':' then ("unix", addr)
  else ("tcp", addr)

/-- `net.IP.To4() != nil`. -/
def isTo4 (ip : Bytes) : Bool :=
  ip.length == 4 ||
    (ip.length == 16 && (ip.take 10).all (· == 0) && (ip.drop 10).take 2 == [255, 255])

def unspecified : Addr := .tcp [0, 0, 0, 0, 0, 0, 0, 0, 0, 0, 255, 255, 0, 0, 0, 0] 0

def asUnix (platform : Platform) : Addr → Addr
  | .unix name => .unix name
  | addr => .unix (platform.addrString addr)

def proxyHeader (platform : Platform) (certs : List Bytes) (srcAddr dstAddr : Addr) : ProxyHeader :=
  let tlv := match certs with
    | leaf :: _ => some (platform.deviceIDString (platform.newDeviceID leaf))
    | [] => none
  match srcAddr, dstAddr with
  | .unix _, _ | _, .unix _ =>
      ⟨.unixStream, asUnix platform srcAddr, asUnix platform dstAddr, tlv⟩
  | .tcp ip _, _ => ⟨if isTo4 ip then .tcpv4 else .tcpv6, srcAddr, dstAddr, tlv⟩
  | .udp ip _, _ => ⟨if isTo4 ip then .udpv4 else .udpv6, srcAddr, dstAddr, tlv⟩

/-- `RemoteAddr()`; a `WebRTCConn` always reports an empty TCP address. -/
def remoteAddr : Conn → Goroutine (Option Addr)
  | .p2p => return some (.tcp [] 0)
  | conn => perform (.remoteAddr conn)

def sendProxyHeader (platform : Platform) (certs : List Bytes) (dataConn : Conn) :
    Goroutine (Option Err) := do
  let srcAddr := (← remoteAddr dataConn).getD unspecified
  let dstAddr := (← perform (.localAddr .target)).getD unspecified
  perform (.writeProxyHeader (proxyHeader platform certs srcAddr dstAddr))

def forwardConn (platform : Platform) (forwardAddr : String) (proxyProtocol : Bool)
    (certs : List Bytes) (dataConn : Conn) : Goroutine Unit := do
  let (network, addr) := parseNetworkAndAddr forwardAddr
  match ← perform (.dialTarget network addr) with
  | some _ => perform (.close dataConn)
  | none =>
      deferClose .target do
        match ← (if proxyProtocol then sendProxyHeader platform certs dataConn else return none) with
        | some _ => return ()
        | none =>
            let _ ← perform (.copyBothWays dataConn .target)
            perform (.close dataConn)

def handleForwardConn (platform : Platform) (opts : ServerOptions) (forwardAddr : String)
    (proxyProtocol : Bool) : Goroutine Unit :=
  admitConn platform opts (forwardConn platform forwardAddr proxyProtocol)

inductive ServerHandler
  | serve (mode : ServerMode)
  | forward (forwardAddr : String) (proxyProtocol : Bool)
  deriving DecidableEq, Repr

def ServerHandler.run (platform : Platform) (opts : ServerOptions) : ServerHandler → Goroutine Unit
  | serve mode => handleServerConn platform opts mode
  | forward forwardAddr proxyProtocol => handleForwardConn platform opts forwardAddr proxyProtocol

def ServerHandler.proceed (platform : Platform) : ServerHandler → List Bytes → Conn → Goroutine Unit
  | serve mode => fun _ finalConn => handleConn mode finalConn
  | forward forwardAddr proxyProtocol => forwardConn platform forwardAddr proxyProtocol

theorem ServerHandler.run_eq (platform : Platform) (opts : ServerOptions)
    (handler : ServerHandler) :
    handler.run platform opts = admitConn platform opts (handler.proceed platform) := by
  cases handler <;> rfl

/-! How far a handler has come. -/

def Closing (log : Log) (rest : Goroutine Unit) : Prop :=
  (∀ event ∈ log, ∃ conn, event.1 = .close conn) ∧ ∀ op next, rest = .ask op next →
    ∃ conn, op = .close conn

def Asks {α : Type} (rest : Goroutine α) (op : Op) : Prop := ∃ next, rest = .ask op next

section Admission

variable (platform : Platform) (opts : ServerOptions) (proceed : List Bytes → Conn → Goroutine Unit)

def admitted (certs : List Bytes) : Goroutine Unit :=
  deferClose (.raw .incoming) do
    let dataConn ← serverDataConn platform opts.isRelay
    proceed certs dataConn

def CheckedStage (certs : List Bytes) (log : Log) (rest : Goroutine Unit) : Prop :=
  (authorized platform opts.authorizedClients certs = false ∧ Closing log rest) ∨
  (authorized platform opts.authorizedClients certs = true ∧
    ((∃ op next, Runs (performServerAuth platform (.tls .incoming) opts.totpSecret) log (.ask op next) ∧
        Asks rest op) ∨
     (∃ auth later err, log = auth ++ later ∧
        Runs (performServerAuth platform (.tls .incoming) opts.totpSecret) auth (.done (some err)) ∧
        Closing later rest) ∨
     (∃ auth later, log = auth ++ later ∧
        Runs (performServerAuth platform (.tls .incoming) opts.totpSecret) auth (.done none) ∧
        Runs (admitted platform opts proceed certs) later rest)))

def AdmitStage (log : Log) (rest : Goroutine Unit) : Prop :=
  (log = [] ∧ Asks rest (.handshake .incoming)) ∨
  (∃ err later, log = ⟨.handshake .incoming, .error err⟩ :: later ∧ Closing later rest) ∨
  (∃ certs later, log = ⟨.handshake .incoming, .ok certs⟩ :: later ∧
    CheckedStage platform opts proceed certs later rest)

theorem closing_of_meets {program : Goroutine Unit} {log : Log} {rest : Goroutine Unit}
    (closes : Meets (Contract.always fun _ op => ∃ conn, op = .close conn) (fun _ _ => True) program [])
    (run : Runs program log rest) : Closing log rest :=
  closes.confined run

variable {platform opts proceed} in
theorem admitConn_runs {log : Log} {rest : Goroutine Unit}
    (run : Runs (admitConn platform opts proceed) log rest) :
    AdmitStage platform opts proceed log rest := by
  simp only [admitConn, admission, deferClose, perform_bind, ask_bind] at run
  cases run with
  | start _ => exact Or.inl ⟨rfl, _, rfl⟩
  | step outcome later =>
      cases outcome with
      | error err =>
          refine Or.inr (Or.inl ⟨err, _, rfl, closing_of_meets ?_ later⟩)
          simp [Meets, Contract.always]
      | ok certs =>
          refine Or.inr (Or.inr ⟨certs, _, rfl, ?_⟩)
          cases listed : authorized platform opts.authorizedClients certs with
          | false =>
              simp only [listed, ↓reduceIte] at later
              refine Or.inl ⟨listed, closing_of_meets ?_ later⟩
              simp [Meets, Contract.always]
          | true =>
              simp only [listed, Bool.true_eq_false, ↓reduceIte, Program.bind_assoc] at later
              refine Or.inr ⟨listed, ?_⟩
              rcases runs_bind later with ⟨op, next, early, restEq⟩ |
                ⟨auth, tail, failure, split, early, last⟩
              · exact Or.inl ⟨op, next, early, _, restEq⟩
              · cases failure with
                | some err =>
                    refine Or.inr (Or.inl ⟨auth, tail, err, split, early, closing_of_meets ?_ last⟩)
                    simp [Meets, Contract.always]
                | none =>
                    refine Or.inr (Or.inr ⟨auth, tail, split, early, ?_⟩)
                    simpa only [admitted, deferClose, Program.bind_assoc, perform_bind, pure_eq_done,
                      done_bind] using last

end Admission

end SyncthingSocket
