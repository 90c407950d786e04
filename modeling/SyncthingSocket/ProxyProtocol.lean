import SyncthingSocket.HandlerRuns
import SyncthingSocket.OpenPGP.Format

/-!
The PROXY protocol header in front of a forwarded session. `handleForwardConn` chooses
its transport protocol, and `formatVersion2` of the vendored encoder decides whether the
addresses can be written under that protocol at all.
-/

namespace SyncthingSocket

open Effect Effect.Program Framing
open OpenPGP (be16)
open Json (utf8)

/-- `net.IP.To4`. -/
def to4 (ip : Bytes) : Option Bytes :=
  if ip.length = 4 then some ip
  else if isTo4 ip then some (ip.drop 12)
  else none

/-- `net.IP.To16`. -/
def to16 (ip : Bytes) : Option Bytes :=
  if ip.length = 4 then some ([0, 0, 0, 0, 0, 0, 0, 0, 0, 0, 255, 255] ++ ip)
  else if ip.length = 16 then some ip
  else none

theorem to4_isSome (ip : Bytes) : (to4 ip).isSome = isTo4 ip := by
  rw [to4]
  by_cases four : ip.length = 4
  · simp [four, isTo4]
  · cases mapped : isTo4 ip <;> simp [four]

theorem to16_isSome (ip : Bytes) : (to16 ip).isSome = true ↔ ip.length = 4 ∨ ip.length = 16 := by
  rw [to16]
  by_cases four : ip.length = 4
  · simp [four]
  · by_cases sixteen : ip.length = 16 <;> simp [four, sixteen]

namespace TransportProtocol

def toByte : TransportProtocol → UInt8
  | tcpv4 => 0x11
  | udpv4 => 0x12
  | tcpv6 => 0x21
  | udpv6 => 0x22
  | unixStream => 0x31

def isStream : TransportProtocol → Bool
  | tcpv4 | tcpv6 | unixStream => true
  | udpv4 | udpv6 => false

def isDatagram : TransportProtocol → Bool
  | udpv4 | udpv6 => true
  | tcpv4 | tcpv6 | unixStream => false

end TransportProtocol

/-! The encoder. -/

def sigV2 : Bytes := [0x0D, 0x0A, 0x0D, 0x0A, 0x00, 0x0D, 0x0A, 0x51, 0x55, 0x49, 0x54, 0x0A]

def proxyCommand : UInt8 := 0x21

def errInvalidAddress : Err := .text "proxyproto: invalid address"

def errInvalidPortNumber : Err := .text "proxyproto: invalid port number"

def errUint16Overflow : Err := .text "proxyproto: uint16 overflow"

def addTLVLen (cur tlvLen : Nat) : Except Err Bytes :=
  if tlvLen = 0 then .ok (be16 cur)
  else if cur + tlvLen ≥ 0x10000 then .error errUint16Overflow
  else .ok (be16 (cur + tlvLen))

def formatUnixName (name : String) : Bytes :=
  let octets := utf8 name.toList
  if octets.length ≥ 108 then octets.take 108 else octets ++ List.replicate (108 - octets.length) 0

namespace ProxyHeader

variable (header : ProxyHeader)

def tcpAddrs : Option ((Bytes × Nat) × (Bytes × Nat)) :=
  if header.transportProtocol.isStream then
    match header.sourceAddr, header.destinationAddr with
    | .tcp sourceIP sourcePort, .tcp destIP destPort => some ((sourceIP, sourcePort), (destIP, destPort))
    | _, _ => none
  else none

def udpAddrs : Option ((Bytes × Nat) × (Bytes × Nat)) :=
  if header.transportProtocol.isDatagram then
    match header.sourceAddr, header.destinationAddr with
    | .udp sourceIP sourcePort, .udp destIP destPort => some ((sourceIP, sourcePort), (destIP, destPort))
    | _, _ => none
  else none

def unixAddrs : Option (String × String) :=
  match header.sourceAddr, header.destinationAddr with
  | .unix source, .unix dest => some (source, dest)
  | _, _ => none

def ips : Bytes × Bytes :=
  match header.tcpAddrs, header.udpAddrs with
  | some (source, dest), _ | none, some (source, dest) => (source.1, dest.1)
  | none, none => ([], [])

def ports : Option (Nat × Nat) :=
  match header.tcpAddrs, header.udpAddrs with
  | some (source, dest), _ | none, some (source, dest) => some (source.2, dest.2)
  | none, none => none

/-- `SetTLVs` leaves the header without TLVs when it fails. -/
def rawTLVs : Bytes :=
  match header.tlv with
  | none => []
  | some value =>
      let octets := utf8 value.toList
      if octets.length > 65535 then [] else 0xEA :: (be16 octets.length ++ octets)

def formatAddrs : Except Err (Bytes × Option Bytes × Option Bytes) := do
  match header.transportProtocol with
  | .tcpv4 | .udpv4 =>
      let hdrLen ← addTLVLen 12 header.rawTLVs.length
      return (hdrLen, to4 header.ips.1, to4 header.ips.2)
  | .tcpv6 | .udpv6 =>
      let hdrLen ← addTLVLen 36 header.rawTLVs.length
      return (hdrLen, to16 header.ips.1, to16 header.ips.2)
  | .unixStream =>
      let hdrLen ← addTLVLen 216 header.rawTLVs.length
      match header.unixAddrs with
      | none => throw errInvalidAddress
      | some (source, dest) => return (hdrLen, some (formatUnixName source), some (formatUnixName dest))

def formatVersion2 : Except Err Bytes := do
  let start := sigV2 ++ [proxyCommand, header.transportProtocol.toByte]
  match ← header.formatAddrs with
  | (hdrLen, some addrSrc, some addrDst) =>
      match header.ports with
      | some (sourcePort, destPort) =>
          if sourcePort > 65535 ∨ destPort > 65535 then throw errInvalidPortNumber
          else return start ++ hdrLen ++ addrSrc ++ addrDst ++ be16 sourcePort ++ be16 destPort ++
            header.rawTLVs
      | none => return start ++ hdrLen ++ addrSrc ++ addrDst ++ header.rawTLVs
  | _ => throw errInvalidAddress

def writeTo (write : Bytes → Option Err) : Option Err :=
  match header.formatVersion2 with
  | .error err => some err
  | .ok data => write data

end ProxyHeader

def Encodable (header : ProxyHeader) : Prop :=
  match header.transportProtocol, header.sourceAddr, header.destinationAddr with
  | .tcpv4, .tcp source _, .tcp dest _ | .udpv4, .udp source _, .udp dest _ =>
      (to4 source).isSome ∧ (to4 dest).isSome
  | .tcpv6, .tcp source _, .tcp dest _ | .udpv6, .udp source _, .udp dest _ =>
      (to16 source).isSome ∧ (to16 dest).isSome
  | .unixStream, .unix _, .unix _ => True
  | _, _, _ => False

def smallPort : Addr → Prop
  | .tcp _ port | .udp _ port => port < 65536
  | .unix _ => True

theorem addTLVLen_ok {cur tlvLen : Nat} (fits : cur + tlvLen < 0x10000) :
    ∃ hdrLen, addTLVLen cur tlvLen = .ok hdrLen := by
  rw [addTLVLen]
  by_cases empty : tlvLen = 0
  · exact ⟨_, if_pos empty⟩
  · rw [if_neg empty, if_neg (by omega)]
    exact ⟨_, rfl⟩

namespace ProxyHeader

variable {header : ProxyHeader}

theorem ports_small (source : smallPort header.sourceAddr) (dest : smallPort header.destinationAddr)
    {sourcePort destPort : Nat} (found : header.ports = some (sourcePort, destPort)) :
    sourcePort < 65536 ∧ destPort < 65536 := by
  obtain ⟨protocol, sourceAddr, destinationAddr, tlv⟩ := header
  cases protocol <;> cases sourceAddr <;> cases destinationAddr <;>
    simp [ports, tcpAddrs, udpAddrs, TransportProtocol.isStream,
      TransportProtocol.isDatagram] at found <;>
    exact ⟨found.1 ▸ source, found.2 ▸ dest⟩

theorem formatVersion2_ok_iff {hdrLen : Bytes} {addrSrc addrDst : Option Bytes}
    (source : smallPort header.sourceAddr) (dest : smallPort header.destinationAddr)
    (addrs : header.formatAddrs = .ok (hdrLen, addrSrc, addrDst)) :
    (∃ data, header.formatVersion2 = .ok data) ↔ addrSrc.isSome ∧ addrDst.isSome := by
  rw [formatVersion2, addrs]
  cases addrSrc with
  | none => simp [bind, Except.bind, throw, throwThe, MonadExceptOf.throw]
  | some src =>
      cases addrDst with
      | none => simp [bind, Except.bind, throw, throwThe, MonadExceptOf.throw]
      | some dst =>
          cases found : header.ports with
          | none => simp [bind, Except.bind, pure, Except.pure]
          | some pair =>
              obtain ⟨sourcePort, destPort⟩ := pair
              obtain ⟨first, second⟩ := ports_small source dest found
              have inRange : ¬ (sourcePort > 65535 ∨ destPort > 65535) := by omega
              simp [bind, Except.bind, pure, Except.pure, inRange]

theorem encodes_ips_iff {convert : Bytes → Option Bytes} {cur : Nat}
    (source : smallPort header.sourceAddr) (dest : smallPort header.destinationAddr)
    (fits : cur + header.rawTLVs.length < 0x10000)
    (form : header.formatAddrs = addTLVLen cur header.rawTLVs.length >>= fun hdrLen =>
      pure (hdrLen, convert header.ips.1, convert header.ips.2)) :
    (∃ data, header.formatVersion2 = .ok data) ↔
      (convert header.ips.1).isSome ∧ (convert header.ips.2).isSome := by
  obtain ⟨hdrLen, lengthEq⟩ := addTLVLen_ok fits
  rw [lengthEq] at form
  exact formatVersion2_ok_iff source dest form

theorem formatVersion2_encodes_iff (source : smallPort header.sourceAddr)
    (dest : smallPort header.destinationAddr) (short : 216 + header.rawTLVs.length < 0x10000) :
    (∃ data, header.formatVersion2 = .ok data) ↔ Encodable header := by
  have missing4 : to4 [] = none := rfl
  have missing16 : to16 [] = none := rfl
  have fits4 : 12 + header.rawTLVs.length < 0x10000 := by omega
  have fits16 : 36 + header.rawTLVs.length < 0x10000 := by omega
  obtain ⟨protocol, sourceAddr, destinationAddr, tlv⟩ := header
  cases protocol with
  | tcpv4 =>
      rw [encodes_ips_iff source dest fits4 rfl]
      cases sourceAddr <;> cases destinationAddr <;>
        simp [Encodable, ips, tcpAddrs, udpAddrs, TransportProtocol.isStream,
          TransportProtocol.isDatagram, missing4]
  | udpv4 =>
      rw [encodes_ips_iff source dest fits4 rfl]
      cases sourceAddr <;> cases destinationAddr <;>
        simp [Encodable, ips, tcpAddrs, udpAddrs, TransportProtocol.isStream,
          TransportProtocol.isDatagram, missing4]
  | tcpv6 =>
      rw [encodes_ips_iff source dest fits16 rfl]
      cases sourceAddr <;> cases destinationAddr <;>
        simp [Encodable, ips, tcpAddrs, udpAddrs, TransportProtocol.isStream,
          TransportProtocol.isDatagram, missing16]
  | udpv6 =>
      rw [encodes_ips_iff source dest fits16 rfl]
      cases sourceAddr <;> cases destinationAddr <;>
        simp [Encodable, ips, tcpAddrs, udpAddrs, TransportProtocol.isStream,
          TransportProtocol.isDatagram, missing16]
  | unixStream =>
      obtain ⟨hdrLen, lengthEq⟩ := addTLVLen_ok short
      cases named : unixAddrs ⟨.unixStream, sourceAddr, destinationAddr, tlv⟩ with
      | none =>
          have refused : formatAddrs ⟨.unixStream, sourceAddr, destinationAddr, tlv⟩ =
              .error errInvalidAddress := by
            rw [formatAddrs, lengthEq, named]
            rfl
          rw [formatVersion2, refused]
          cases sourceAddr <;> cases destinationAddr <;> simp [unixAddrs] at named <;>
            simp [Encodable, bind, Except.bind]
      | some names =>
          have form : formatAddrs ⟨.unixStream, sourceAddr, destinationAddr, tlv⟩ =
              .ok (hdrLen, some (formatUnixName names.1), some (formatUnixName names.2)) := by
            rw [formatAddrs, lengthEq, named]
            rfl
          rw [formatVersion2_ok_iff source dest form]
          cases sourceAddr <;> cases destinationAddr <;> simp [unixAddrs] at named
          simp [Encodable]

end ProxyHeader

/-! The addresses of a forwarded session, and what becomes of it. -/

inductive Endpoint : Addr → Prop
  | ipv4 {ip : Bytes} {port : Nat} (four : isTo4 ip = true) (small : port < 65536) : Endpoint
    (.tcp ip port)
  | ipv6 {ip : Bytes} {port : Nat} (sixteen : ip.length = 16) (six : isTo4 ip = false)
    (small : port < 65536) :
      Endpoint (.tcp ip port)
  | unix (name : String) : Endpoint (.unix name)

def Compatible : Addr → Addr → Prop
  | .tcp source _, .tcp dest _ => source ≠ [] ∧ (isTo4 source = true → isTo4 dest = true)
  | _, _ => True

/-- In this session the data connection reports `src`, the forward target's connection
reports `dst`, and a header goes through the encoder and then through `write`. -/
structure Observed (src dst : Addr) (write : Bytes → Option Err) (dataConn : Conn)
    (session : Log) : Prop where
  p2p : dataConn = .p2p → src = placeholder
  source : ∀ answer : Option Addr, (⟨.remoteAddr dataConn, answer⟩ : Sigma Answer) ∈ session →
    answer = some src
  dest : ∀ answer : Option Addr, (⟨.localAddr .target, answer⟩ : Sigma Answer) ∈ session →
    answer = some dst
  header : ∀ (header : ProxyHeader) (answer : Option Err),
    (⟨.writeProxyHeader header, answer⟩ : Sigma Answer) ∈ session → answer = header.writeTo write

structure HeaderServes (platform : Platform) (certs : List Bytes) (src dst : Addr) : Prop where
  encodable : Encodable (proxyHeader platform certs src dst)
  written : ∃ data, ∀ write, (proxyHeader platform certs src dst).writeTo write = write data
  truthful : (proxyHeader platform certs src dst).transportProtocol ≠ .unixStream →
    (proxyHeader platform certs src dst).sourceAddr = src
  forwarded : ∀ opts forwardAddr log dataConn session write,
    ServedRun platform opts (forwardConn platform forwardAddr true) log certs dataConn session →
    Observed src dst write dataConn session → (∀ data, write data = none) →
    dialled forwardAddr none ∈ session →
    ∃ outcome : Option Err, (⟨.copyBothWays dataConn .target, outcome⟩ : Sigma Answer) ∈ log

theorem Endpoint.smallPort {addr : Addr} (endpoint : Endpoint addr) : smallPort addr := by
  cases endpoint with
  | ipv4 _ small => exact small
  | ipv6 _ _ small => exact small
  | unix name => trivial

section

variable {platform : Platform} {certs : List Bytes} {src dst : Addr}

theorem proxyHeader_unix (unix : (∃ name, src = .unix name) ∨ ∃ name, dst = .unix name) :
    ∃ tlv, proxyHeader platform certs src dst =
      ⟨.unixStream, asUnix platform src, asUnix platform dst, tlv⟩ := by
  rcases unix with ⟨name, rfl⟩ | ⟨name, rfl⟩
  · exact ⟨_, rfl⟩
  · cases src <;> exact ⟨_, rfl⟩

theorem proxyHeader_tcp (platform : Platform) (certs : List Bytes) (srcIP dstIP : Bytes)
    (srcPort dstPort : Nat) :
    ∃ tlv, proxyHeader platform certs (.tcp srcIP srcPort) (.tcp dstIP dstPort) =
      ⟨if isTo4 srcIP then .tcpv4 else .tcpv6, .tcp srcIP srcPort, .tcp dstIP dstPort, tlv⟩ :=
  ⟨_, rfl⟩

theorem asUnix_eq (platform : Platform) (addr : Addr) :
    ∃ name, asUnix platform addr = .unix name := by
  cases addr <;> exact ⟨_, rfl⟩

theorem proxyHeader_smallPorts (source : smallPort src) (dest : smallPort dst) :
    smallPort (proxyHeader platform certs src dst).sourceAddr ∧
      smallPort (proxyHeader platform certs src dst).destinationAddr := by
  cases src <;> cases dst <;> exact ⟨by first | exact source | trivial, by first | exact dest | trivial⟩

theorem proxyHeader_rawTLVs (short : ∀ id, (utf8 (platform.deviceIDString id).toList).length ≤ 63) :
    (proxyHeader platform certs src dst).rawTLVs.length ≤ 66 := by
  have tlv : (proxyHeader platform certs src dst).tlv = none ∨
      ∃ id, (proxyHeader platform certs src dst).tlv = some (platform.deviceIDString id) := by
    cases certs <;> cases src <;> cases dst <;> simp [proxyHeader]
  rw [ProxyHeader.rawTLVs]
  rcases tlv with absent | ⟨id, printed⟩
  · simp [absent]
  · have bound := short id
    rw [printed]
    simp only
    split
    · simp
    · simp [be16]
      omega

theorem isTo4_length {ip : Bytes} (four : isTo4 ip = true) : ip.length = 4 ∨ ip.length = 16 := by
  simp only [isTo4, Bool.or_eq_true, Bool.and_eq_true, beq_iff_eq] at four
  omega

theorem Endpoint.tcp_length {ip : Bytes} {port : Nat} (endpoint : Endpoint (.tcp ip port)) :
    ip.length = 4 ∨ ip.length = 16 := by
  cases endpoint with
  | ipv4 four _ => exact isTo4_length four
  | ipv6 sixteen _ _ => exact Or.inr sixteen

theorem tcp_encodable_iff {srcIP dstIP : Bytes} {srcPort dstPort : Nat}
    (source : Endpoint (.tcp srcIP srcPort) ∨ srcIP = []) (dest : Endpoint (.tcp dstIP dstPort)) :
    Encodable (proxyHeader platform certs (.tcp srcIP srcPort) (.tcp dstIP dstPort)) ↔
      srcIP ≠ [] ∧ (isTo4 srcIP = true → isTo4 dstIP = true) := by
  obtain ⟨tlv, header⟩ := proxyHeader_tcp platform certs srcIP dstIP srcPort dstPort
  have wide : (to16 dstIP).isSome = true := (to16_isSome dstIP).mpr dest.tcp_length
  rw [header]
  cases four : isTo4 srcIP with
  | true =>
      have nonempty : srcIP ≠ [] := by
        rintro rfl
        cases four
      simp [Encodable, to4_isSome, four, nonempty]
  | false =>
      rcases source with endpoint | rfl
      · have length := endpoint.tcp_length
        have nonempty : srcIP ≠ [] := by
          rintro rfl
          simp at length
        simp [Encodable, wide, (to16_isSome srcIP).mpr length, nonempty]
      · simp [Encodable, to16]

theorem unix_encodable (unix : (∃ name, src = .unix name) ∨ ∃ name, dst = .unix name) :
    Encodable (proxyHeader platform certs src dst) := by
  obtain ⟨tlv, header⟩ := proxyHeader_unix unix
  obtain ⟨srcName, srcUnix⟩ := asUnix_eq platform src
  obtain ⟨dstName, dstUnix⟩ := asUnix_eq platform dst
  rw [header, srcUnix, dstUnix]
  trivial

theorem Endpoint.unix_or_tcp {addr : Addr} (endpoint : Endpoint addr) :
    (∃ name, addr = .unix name) ∨ ∃ ip port, addr = .tcp ip port := by
  cases endpoint with
  | ipv4 _ _ => exact Or.inr ⟨_, _, rfl⟩
  | ipv6 _ _ _ => exact Or.inr ⟨_, _, rfl⟩
  | unix name => exact Or.inl ⟨name, rfl⟩

theorem proxyHeader_encodable_iff (source : Endpoint src ∨ src = placeholder)
    (dest : Endpoint dst) :
    Encodable (proxyHeader platform certs src dst) ↔ Compatible src dst := by
  rcases dest.unix_or_tcp with ⟨name, rfl⟩ | ⟨dstIP, dstPort, rfl⟩
  · have compatible : Compatible src (.unix name) := by cases src <;> trivial
    exact iff_of_true (unix_encodable (Or.inr ⟨name, rfl⟩)) compatible
  · rcases source with endpoint | rfl
    · rcases endpoint.unix_or_tcp with ⟨name, rfl⟩ | ⟨srcIP, srcPort, rfl⟩
      · exact iff_of_true (unix_encodable (Or.inl ⟨name, rfl⟩)) trivial
      · exact tcp_encodable_iff (Or.inl endpoint) dest
    · exact tcp_encodable_iff (Or.inr rfl) dest

theorem proxyHeader_truthful
    (ipFamily : (proxyHeader platform certs src dst).transportProtocol ≠ .unixStream) :
    (proxyHeader platform certs src dst).sourceAddr = src := by
  cases src <;> cases dst <;> first | rfl | exact absurd rfl ipFamily

theorem header_written_copies {forwardAddr : String} {dataConn : Conn} {session : Log}
    {data : Bytes} {write : Bytes → Option Err}
    (written : ∀ write, (proxyHeader platform certs src dst).writeTo write = write data)
    (run : Runs (forwardConn platform forwardAddr true certs dataConn) session (.done ()))
    (observed : Observed src dst write dataConn session) (succeeds : ∀ data, write data = none)
    (reached : dialled forwardAddr none ∈ session) :
    ∃ outcome : Option Err, (⟨.copyBothWays dataConn .target, outcome⟩ : Sigma Answer) ∈ session := by
  cases forwardConn_done.mp run with
  | unreachable err => simp [dialled, closing] at reached
  | @headerFailed header err sent =>
      obtain ⟨asked, srcAnswer, dstAnswer, rfl, source⟩ := sendProxyHeader_done sent
      have srcEq : srcAnswer = some src := by
        rcases source with ⟨p2p, rfl, rfl⟩ | rfl
        · rw [observed.p2p p2p]
        · exact observed.source _ (by simp)
      have dstEq : dstAnswer = some dst := observed.dest _ (by simp)
      have failed := observed.header _ _ (List.mem_append_left _ (List.mem_cons_of_mem _
        (List.mem_append_right asked (List.mem_cons_of_mem _ List.mem_cons_self))))
      rw [srcEq, dstEq, Option.getD_some, Option.getD_some, written, succeeds] at failed
      cases failed
  | copied outcome _ => exact ⟨outcome, by simp⟩

end

theorem proxy_header_serves_iff (platform : Platform)
    (printed : ∀ id, (utf8 (platform.deviceIDString id).toList).length ≤ 63) (certs : List Bytes)
    {src dst : Addr} (source : Endpoint src ∨ src = placeholder) (dest : Endpoint dst) :
    HeaderServes platform certs src dst ↔ Compatible src dst := by
  have encodes : Encodable (proxyHeader platform certs src dst) ↔ Compatible src dst :=
    proxyHeader_encodable_iff source dest
  constructor
  · intro serves
    exact encodes.mp serves.encodable
  · intro compatible
    have encodable := encodes.mpr compatible
    have srcSmall : smallPort src := by
      rcases source with endpoint | rfl
      · exact endpoint.smallPort
      · exact Nat.zero_lt_succ _
    have ports : smallPort (proxyHeader platform certs src dst).sourceAddr ∧
        smallPort (proxyHeader platform certs src dst).destinationAddr :=
      proxyHeader_smallPorts srcSmall dest.smallPort
    have short : (proxyHeader platform certs src dst).rawTLVs.length ≤ 66 := proxyHeader_rawTLVs printed
    obtain ⟨data, formatted⟩ :=
      (ProxyHeader.formatVersion2_encodes_iff ports.1 ports.2 (by omega)).mpr encodable
    have written : ∀ write, (proxyHeader platform certs src dst).writeTo write = write data := by
      intro write
      rw [ProxyHeader.writeTo, formatted]
    refine ⟨encodable, ⟨data, written⟩, proxyHeader_truthful, ?_⟩
    intro opts forwardAddr log dataConn session write served observed succeeds reached
    obtain ⟨outcome, member⟩ := header_written_copies written served.session observed succeeds reached
    obtain ⟨checks, choice, rfl, -, -⟩ := served.split
    exact ⟨outcome, by simp [member]⟩

def shortIDPlatform : Platform :=
  { referencePlatform with deviceIDString := fun _ => "MFZWI3D-BONSGYC-YLTMRWG" }

theorem ipv4_session_served :
    HeaderServes shortIDPlatform [[1]] (.tcp [192, 0, 2, 1] 4711) (.tcp [127, 0, 0, 1] 40000) := by
  have short : (utf8 "MFZWI3D-BONSGYC-YLTMRWG".toList).length ≤ 63 := by decide
  have source : Endpoint (.tcp [192, 0, 2, 1] 4711) := .ipv4 rfl (by decide)
  have dest : Endpoint (.tcp [127, 0, 0, 1] 40000) := .ipv4 rfl (by decide)
  exact (proxy_header_serves_iff shortIDPlatform (fun _ => short) [[1]] (.inl source) dest).mpr
    ⟨by decide, fun _ => rfl⟩

def localhostIPv6 : Addr := .tcp [0, 0, 0, 0, 0, 0, 0, 0, 0, 0, 0, 0, 0, 0, 0, 1] 40000

def droppedSession : Log :=
  [dialled "localhost:80" none, ⟨.remoteAddr (.tls .incoming), some (.tcp [192, 0, 2, 1] 4711)⟩,
    ⟨.localAddr .target, some localhostIPv6⟩,
    ⟨.writeProxyHeader (proxyHeader referencePlatform [] (.tcp [192, 0, 2, 1] 4711) localhostIPv6),
      some errInvalidAddress⟩,
    closing .target]

theorem droppedSession_runs :
    Runs (forwardConn referencePlatform "localhost:80" true [] (.tls .incoming)) droppedSession
      (.done ()) := by
  apply Runs.step
  apply Runs.step
  apply Runs.step
  apply Runs.step
  apply Runs.step
  exact Runs.start _

theorem droppedSession_observed :
    Observed (.tcp [192, 0, 2, 1] 4711) localhostIPv6 (fun _ => none) (.tls .incoming)
      droppedSession where
  p2p := by simp
  source := by simp [droppedSession, dialled, closing]
  dest := by simp [droppedSession, dialled, closing]
  header := by
    intro header answer member
    have refused :
        (proxyHeader referencePlatform [] (.tcp [192, 0, 2, 1] 4711) localhostIPv6).writeTo (fun _ => none) =
        some errInvalidAddress := rfl
    simp only [droppedSession, dialled, closing, List.mem_cons, Sigma.mk.injEq, reduceCtorEq, false_and,
      false_or, Op.writeProxyHeader.injEq, List.not_mem_nil, or_false] at member
    obtain ⟨rfl, same⟩ := member
    rw [refused]
    exact eq_of_heq same

theorem mixed_families_drop_session :
    ¬ HeaderServes referencePlatform [] (.tcp [192, 0, 2, 1] 4711) localhostIPv6 ∧
    ¬ HeaderServes referencePlatform [] placeholder (.tcp [127, 0, 0, 1] 40000) ∧
    Observed (.tcp [192, 0, 2, 1] 4711) localhostIPv6 (fun _ => none) (.tls .incoming) droppedSession ∧
    ∃ log, ServedRun referencePlatform ⟨false, [], ""⟩ (forwardConn referencePlatform "localhost:80" true)
        log [] (.tls .incoming) droppedSession ∧
      Runs (handleForwardConn referencePlatform ⟨false, [], ""⟩ "localhost:80" true) log (.done ()) ∧
      ∀ outcome : Option
        Err, (⟨.copyBothWays (.tls .incoming) .target, outcome⟩ : Sigma Answer) ∉ log := by
  refine ⟨?_, ?_, droppedSession_observed, ?_⟩
  · intro serves
    have compatible : Compatible (.tcp [192, 0, 2, 1] 4711) localhostIPv6 :=
      (proxyHeader_encodable_iff (Or.inl (.ipv4 rfl (by decide))) (.ipv6 rfl rfl (by decide))).mp
        serves.encodable
    exact absurd (compatible.2 rfl) (by decide)
  · intro serves
    have compatible : Compatible placeholder (.tcp [127, 0, 0, 1] 40000) :=
      (proxyHeader_encodable_iff (Or.inr rfl) (.ipv4 rfl (by decide))).mp serves.encodable
    exact compatible.1 rfl
  · have served : ServedRun referencePlatform ⟨false, [], ""⟩
      (forwardConn referencePlatform "localhost:80" true)
        _ [] (.tls .incoming) droppedSession :=
      ⟨⟨_, [], rfl, admission_open referencePlatform false [], Runs.start _⟩, droppedSession_runs⟩
    refine ⟨_, served, admitConn_done.mpr (Or.inr ⟨_, _, _, served⟩), ?_⟩
    intro outcome
    simp [droppedSession, dialled, closing, writeFrame]

end SyncthingSocket
