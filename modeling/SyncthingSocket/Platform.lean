import SyncthingSocket.Effect.Program
import SyncthingSocket.Effect.Framing
import SyncthingSocket.Json.Encode

/-!
What the program talks to: connections, errors, the messages of its two JSON
protocols, and every operation a goroutine can ask of the network, of pion, of
the terminal or of the rest of the process.
-/

namespace SyncthingSocket

open Effect Framing

inductive Err
  | eof
  | unexpectedEOF
  | shortWrite
  | text (message : String)
  deriving DecidableEq, Repr

def Err.message : Err → String
  | eof => "EOF"
  | unexpectedEOF => "unexpected EOF"
  | shortWrite => "short write"
  | text message => message

def Err.wrap (label : String) (err : Err) : Err := .text (label ++ err.message)

abbrev DeviceID := Vector UInt8 32

def isSpace (c : Char) : Bool :=
  c ∈ ['\t', '\n', '\x0b', '\x0c', '\r', ' ', '\u0085', '\u00a0', '\u1680', '\u2028', '\u2029',
    '\u202f', '\u205f', '\u3000'] || ('\u2000' ≤ c && c ≤ '\u200a')

def trimSpace (s : String) : String :=
  String.ofList ((s.toList.dropWhile isSpace).reverse.dropWhile isSpace).reverse

/-- The transports a connection runs over: the one a server accepted, the i-th
direct address a client dialled, or the joined relay session. -/
inductive Link
  | incoming
  | direct (index : Nat)
  | relay
  deriving DecidableEq, Repr

inductive Conn
  | raw (link : Link)
  | tls (link : Link)
  | p2p
  | target
  deriving DecidableEq, Repr

inductive Addr
  | tcp (ip : Bytes) (port : Nat)
  | udp (ip : Bytes) (port : Nat)
  | unix (name : String)
  deriving DecidableEq, Repr

inductive TransportProtocol
  | tcpv4
  | tcpv6
  | udpv4
  | udpv6
  | unixStream
  deriving DecidableEq, Repr

structure ProxyHeader where
  transportProtocol : TransportProtocol
  sourceAddr : Addr
  destinationAddr : Addr
  tlv : Option String
  deriving DecidableEq, Repr

structure AuthChallenge where
  type : String
  methods : List String
  deriving DecidableEq, Repr

structure AuthResponse where
  type : String
  totp : String
  deriving DecidableEq, Repr

structure AuthResult where
  status : String
  message : String
  deriving DecidableEq, Repr

structure ICECandidateInit where
  candidate : String
  sdpMid : Option String
  sdpMLineIndex : Option UInt16
  usernameFragment : Option String
  deriving DecidableEq, Repr

structure SignalMessage where
  type : String
  sdp : String
  candidate : Option ICECandidateInit
  deriving DecidableEq, Repr

/-! The struct tags of the four messages, as `json.Marshal` writes them. -/

def AuthChallenge.marshal (msg : AuthChallenge) : Bytes :=
  Json.utf8 (Json.object (("type", Json.quote msg.type) ::
    if msg.methods = [] then [] else [("methods", Json.array (msg.methods.map Json.quote))]))

def AuthResponse.marshal (msg : AuthResponse) : Bytes :=
  Json.utf8 (Json.object (("type", Json.quote msg.type) :: Json.omitEmpty "totp" msg.totp))

def AuthResult.marshal (msg : AuthResult) : Bytes :=
  Json.utf8 (Json.object (("status", Json.quote msg.status) :: Json.omitEmpty "message" msg.message))

def ICECandidateInit.text (init : ICECandidateInit) : List Char :=
  Json.object [("candidate", Json.quote init.candidate),
    ("sdpMid", Json.orNull (init.sdpMid.map Json.quote)),
    ("sdpMLineIndex", Json.orNull (init.sdpMLineIndex.map fun index => Nat.toDigits 10 index.toNat)),
    ("usernameFragment", Json.orNull (init.usernameFragment.map Json.quote))]

def SignalMessage.marshal (msg : SignalMessage) : Bytes :=
  Json.utf8 (Json.object (("type", Json.quote msg.type) :: (Json.omitEmpty "sdp" msg.sdp ++
    (msg.candidate.map fun init => ("candidate", init.text)).toList)))

theorem SignalMessage.marshal_object (msg : SignalMessage) : ∃ rest, msg.marshal = 123 :: rest :=
  Json.utf8_object _

/-- What the program relies on about `json.Unmarshal` into one of its structs: it
inverts `json.Marshal`, a truncated document is a syntax error, and so is a
document that starts with a NUL byte. -/
structure Decoder {α : Type} (marshal : α → Bytes) where
  unmarshal : Bytes → Except Err α
  roundTrip : ∀ value, unmarshal (marshal value) = .ok value
  truncated : ∀ value part, part <+: marshal value → part ≠ marshal value →
    ∃ err, unmarshal part = .error err
  nul : ∀ rest, ∃ err, unmarshal (0 :: rest) = .error err

def deviceIDAlphabet : List Char := "ABCDEFGHIJKLMNOPQRSTUVWXYZ234567-".toList

structure Platform where
  newDeviceID : Bytes → DeviceID
  deviceIDFromString : String → Except Err DeviceID
  deviceIDString : DeviceID → String
  urlHost : String → Except Err String
  addrString : Addr → String
  totpValidate : String → String → Bool
  challenge : Decoder AuthChallenge.marshal
  response : Decoder AuthResponse.marshal
  result : Decoder AuthResult.marshal
  signal : Decoder SignalMessage.marshal

inductive App
  | socksServer
  | shellServer
  | commandServer (command : String)
  | reverseForwardServer (bindAddr : String)
  | socksClient (localPort : String)
  | shellClient
  | reverseForwardClient (target : String)
  | pipe
  deriving DecidableEq, Repr

abbrev Chunk (size : Nat) := { data : Bytes // 0 < data.length ∧ data.length ≤ size }

/-- Which case of the `select` over `connChan`, `ctx.Done()` and the timer was taken. -/
inductive Await
  | opened
  | cancelled (err : Err)
  | timeout
  deriving DecidableEq, Repr

/-- What one call of `pipeBiDirectional` did: the payload it wrote to its data
output, the stdin bytes the connection accepted, and how remote-to-stdout ended. -/
structure PipeReport where
  output : Bytes
  sent : Bytes
  receiveErr : Option Err
  deriving DecidableEq, Repr

inductive Op
  | read (conn : Conn) (size : Nat)
  | write (conn : Conn) (data : Bytes)
  | close (conn : Conn)
  | handshake (link : Link)
  | stdinIsTerminal
  | stdinReadString
  | newPeerConnection
  | createDataChannel
  | onOpen
  | onICECandidate (conn : Conn)
  | createOffer
  | createAnswer
  | setLocalDescription (sdp : String)
  | setRemoteDescription (sdp : String)
  | closePeerConnection
  | goReadCandidates (conn : Conn)
  | addICECandidate (candidate : ICECandidateInit)
  | awaitDataChannel
  | lookup (serverID discoveryServer : String)
  | dialContext (index : Nat) (host : String)
  | dialFastestRelay (relayAddresses : List String)
  | dialTarget (network addr : String)
  | remoteAddr (conn : Conn)
  | localAddr (conn : Conn)
  | writeProxyHeader (header : ProxyHeader)
  | copyBothWays (left right : Conn)
  | awaitConnection
  | osPipe
  | goWriteStdin (data : Bytes)
  | generateCert (seed : String)
  | handle (app : App) (conn : Conn)
  deriving DecidableEq, Repr

abbrev Answer : Op → Type
  | .read _ size => Except Err (Chunk size)
  | .write _ _ => Option Err
  | .close _ => Unit
  | .handshake _ => Except Err (List Bytes)
  | .stdinIsTerminal => Bool
  | .stdinReadString => Except Err String
  | .newPeerConnection => Option Err
  | .createDataChannel => Option Err
  | .onOpen => Unit
  | .onICECandidate _ => Unit
  | .createOffer => Except Err String
  | .createAnswer => Except Err String
  | .setLocalDescription _ => Option Err
  | .setRemoteDescription _ => Option Err
  | .closePeerConnection => Unit
  | .goReadCandidates _ => Unit
  | .addICECandidate _ => Option Err
  | .awaitDataChannel => Await
  | .lookup _ _ => Except Err (List String)
  | .dialContext _ _ => Option Err
  | .dialFastestRelay _ => Option Err
  | .dialTarget _ _ => Option Err
  | .remoteAddr _ => Option Addr
  | .localAddr _ => Option Addr
  | .writeProxyHeader _ => Option Err
  | .copyBothWays _ _ => Option Err
  | .awaitConnection => Except Err Bool
  | .osPipe => Option Err
  | .goWriteStdin _ => Unit
  | .generateCert _ => Option Err
  | .handle .pipe _ => PipeReport
  | .handle _ _ => Unit

abbrev Goroutine (α : Type) := Program Op Answer α

abbrev Log := History Answer

abbrev perform (op : Op) : Goroutine (Answer op) := Program.perform op

abbrev Unrestricted : Program.Contract Answer := Program.Contract.always fun _ _ => True

end SyncthingSocket
