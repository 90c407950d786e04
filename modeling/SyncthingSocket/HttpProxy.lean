import SyncthingSocket.Bits.Base64
import SyncthingSocket.Bufio.Reader
import SyncthingSocket.ClientFailures

/-!
Connections through an HTTP proxy. The answer to `CONNECT` is read through a buffer, which
may take in the first bytes of the peer with it.
-/

namespace SyncthingSocket

open Bufio

structure ProxyURL where
  host : String
  user : Option (String × Option String)
  deriving DecidableEq, Repr

/-- `http.Request`, with the header fields that the program sets. -/
structure ConnectRequest where
  method : String
  target : String
  host : String
  header : List (String × String)
  deriving DecidableEq, Repr

def basicAuth (username password : String) : String :=
  String.ofList (Base64.encode (Json.utf8 (username ++ ":" ++ password).toList))

/-- `SetBasicAuth`. -/
def setBasicAuth (req : ConnectRequest) (username password : String) : ConnectRequest :=
  { req with header := req.header ++ [("Authorization", "Basic " ++ basicAuth username password)] }

def connectRequest (proxyURL : ProxyURL) (addr : String) : ConnectRequest :=
  let req := ⟨"CONNECT", addr, addr, []⟩
  match proxyURL.user with
  | some (username, password) => setBasicAuth req username (password.getD "")
  | none => req

/-- `http.ReadResponse`: a client of the buffer that ends with a status code or an error. -/
structure ResponseReader where
  readResponse : Reader Err → Except Err Nat × Reader Err
  uses : ∀ reader, ∃ taken, Reader.Uses reader taken (readResponse reader).2

/-- What the network does: the connection to the proxy, and what comes back over it once a
request is written. -/
structure ProxyNet where
  dial : String → Option Err
  write : ConnectRequest → Except Err (Wire Err)

inductive ProxyAct
  | dial (host : String)
  | write (req : ConnectRequest)
  | close
  deriving DecidableEq, Repr

def defaultBufSize : Nat := 4096

/-- `proxyConn`, by the readers that are left of its `io.MultiReader`. -/
inductive ProxyConn
  | buffered (br : Reader Err)
  | direct (conn : Wire Err)

namespace ProxyConn

def read : ProxyConn → Nat → Except Err (List UInt8) × ProxyConn
  | .buffered br, n =>
      match br.read defaultBufSize n with
      | (.error .eof, br) => ((br.wire.read n).1, .direct (br.wire.read n).2)
      | (result, br) => (result, .buffered br)
  | .direct conn, n => ((conn.read n).1, .direct (conn.read n).2)

def reads : ProxyConn → List Nat → List UInt8 × Option Err
  | _, [] => ([], none)
  | conn, n :: sizes =>
      match conn.read n with
      | (.ok chunk, conn) => (chunk ++ (conn.reads sizes).1, (conn.reads sizes).2)
      | (.error err, _) => ([], some err)

def unread : ProxyConn → List UInt8
  | .buffered br => br.unread
  | .direct conn => conn.left

def stop : ProxyConn → Err
  | .buffered br => br.wire.stop
  | .direct conn => conn.stop

end ProxyConn

section

variable (net : ProxyNet) (http : ResponseReader)

/-- `httpProxyDialer.Dial`, with what it does to the connection. -/
def httpProxyDial (proxyURL : ProxyURL) (addr : String) : Except Err ProxyConn × List ProxyAct :=
  let req := connectRequest proxyURL addr
  match net.dial proxyURL.host with
  | some err => (.error err, [.dial proxyURL.host])
  | none =>
      match net.write req with
      | .error err => (.error err, [.dial proxyURL.host, .write req, .close])
      | .ok conn =>
          match http.readResponse (Reader.new conn) with
          | (.error err, _) => (.error err, [.dial proxyURL.host, .write req, .close])
          | (.ok statusCode, br) =>
              if statusCode ≠ statusOK then
                (.error (.text ("HTTP proxy failed with status: " ++ toString statusCode)),
                  [.dial proxyURL.host, .write req, .close])
              else (.ok (.buffered br), [.dial proxyURL.host, .write req])

end

/-! Reading through the buffer. -/

namespace ProxyConn

theorem read_got {conn after : ProxyConn} {n : Nat} {result : Except Err (List UInt8)}
    (returned : conn.read n = (result, after)) (asked : 0 < n) :
    Got conn.stop n conn.unread result after.unread ∧ after.stop = conn.stop := by
  cases conn with
  | direct conn =>
      cases returned
      exact Wire.read_got rfl asked
  | buffered br =>
      rw [read] at returned
      split at returned
      · next rest finished =>
          -- The buffer reports the end only when the connection has nothing left either.
          obtain ⟨got, stop⟩ := Reader.read_got finished (by decide) asked
          obtain ⟨before, nothing, _⟩ := got.ended
          have ended : rest.wire.left = [] := (List.append_eq_nil_iff.mp nothing).2
          have direct :
              Got rest.wire.stop n rest.wire.left (rest.wire.read n).1 (rest.wire.read n).2.left ∧
              (rest.wire.read n).2.stop = rest.wire.stop := Wire.read_got rfl asked
          cases returned
          rw [ended, stop] at direct
          refine ⟨?_, direct.2⟩
          rw [unread, before]
          exact direct.1
      · next result rest _ finished =>
          cases returned
          exact Reader.read_got finished (by decide) asked

theorem reads_spec (sizes : List Nat) (asked : ∀ n ∈ sizes, 0 < n) (conn : ProxyConn) :
    ∃ later, conn.unread = (conn.reads sizes).1 ++ later ∧
      ((conn.reads sizes).2 = none → sizes.length ≤ (conn.reads sizes).1.length) ∧
      ∀ err, (conn.reads sizes).2 = some err → later = [] ∧ err = conn.stop := by
  induction sizes generalizing conn with
  | nil => exact ⟨conn.unread, rfl, fun _ => Nat.le_refl _, fun _ none => by cases none⟩
  | cons n sizes ih =>
      rw [reads]
      split
      · next chunk after returned =>
          obtain ⟨got, stop⟩ := read_got returned (asked n List.mem_cons_self)
          obtain ⟨later, rest, progress, final⟩ :=
            ih (fun m member => asked m (List.mem_cons_of_mem _ member)) after
          cases got with
          | bytes some _ split =>
              refine ⟨later, ?_, ?_, ?_⟩
              · rw [split, rest, List.append_assoc]
              · intro going
                have here := List.length_pos_iff.mpr some
                have there := progress going
                rw [List.length_append, List.length_cons]
                omega
              · intro err failed
                obtain ⟨nothing, same⟩ := final err failed
                exact ⟨nothing, same.trans stop⟩
      · next err after returned =>
          obtain ⟨got, _⟩ := read_got returned (asked n List.mem_cons_self)
          obtain ⟨nothing, _, same⟩ := got.ended
          refine ⟨[], ?_, ?_, ?_⟩
          · rw [nothing, List.append_nil]
          · rintro ⟨⟩
          · rintro _ ⟨⟩
            exact ⟨rfl, same⟩

end ProxyConn

variable {net : ProxyNet} {http : ResponseReader} {proxyURL : ProxyURL} {addr : String}

theorem httpProxyDial_ok {conn : ProxyConn} {acts : List ProxyAct}
    (dialled : httpProxyDial net http proxyURL addr = (.ok conn, acts)) :
    ∃ wire br, net.write (connectRequest proxyURL addr) = .ok wire ∧
      http.readResponse (Reader.new wire) = (.ok statusOK, br) ∧ conn = .buffered br ∧
      acts = [.dial proxyURL.host, .write (connectRequest proxyURL addr)] := by
  simp only [httpProxyDial] at dialled
  split at dialled
  · cases dialled
  · split at dialled
    · cases dialled
    · next wire written =>
        split at dialled
        · cases dialled
        · next statusCode br answered =>
            split at dialled
            · cases dialled
            · next accepted =>
                cases dialled
                rw [Decidable.not_not.mp accepted] at answered
                exact ⟨wire, br, written, answered, rfl, rfl⟩

/-- Nothing that comes after the answer to `CONNECT` is lost, doubled or reordered, however it
arrives and is read: the header that `ReadResponse` took, what the connection has returned
and what is still to come make up the stream of the proxy. As long as there is no error each
read makes progress, and the first error is the one that the stream stopped with. -/
theorem proxied_stream_kept {conn : ProxyConn} {acts : List ProxyAct}
    (dialled : httpProxyDial net http proxyURL addr = (.ok conn, acts)) :
    ProxyAct.close ∉ acts ∧ ∃ wire header br, net.write (connectRequest proxyURL addr) = .ok wire ∧
      http.readResponse (Reader.new wire) = (.ok statusOK, br) ∧ Reader.Uses (Reader.new wire) header br ∧
      ∀ sizes : List Nat, (∀ n ∈ sizes, 0 < n) →
        ∃ later, wire.left = header ++ (conn.reads sizes).1 ++ later ∧
          ((conn.reads sizes).2 = none → sizes.length ≤ (conn.reads sizes).1.length) ∧
          ∀ err, (conn.reads sizes).2 = some err → later = [] ∧ err = wire.stop := by
  obtain ⟨wire, br, written, answered, rfl, rfl⟩ := httpProxyDial_ok dialled
  refine ⟨by simp, ?_⟩
  obtain ⟨header, uses⟩ := http.uses (Reader.new wire)
  rw [answered] at uses
  obtain ⟨conserved, stop⟩ := uses.conserved
  refine ⟨wire, header, br, written, answered, uses, fun sizes asked => ?_⟩
  obtain ⟨later, rest, progress, final⟩ := ProxyConn.reads_spec sizes asked (.buffered br)
  refine ⟨later, ?_, progress, fun err failed => ?_⟩
  · rw [List.append_assoc, ← rest]
    exact conserved
  · obtain ⟨nothing, same⟩ := final err failed
    exact ⟨nothing, same.trans stop⟩

/-! A proxy that answers at once, with the first bytes of the peer behind its answer. -/

def statusDigits (line : List UInt8) : Nat :=
  ((line.drop 9).take 3).foldl (fun n digit => 10 * n + (digit.toNat - 48)) 0

def readStatus (reader : Reader Err) : Except Err Nat × Reader Err :=
  match reader.failed with
  | some err => (.error err, reader)
  | none =>
      let filled := reader.fill defaultBufSize (Nat.succ_pos 4095)
      (.ok (statusDigits filled.buffer), filled.advance 16)

theorem readStatus_uses (reader : Reader Err) :
    ∃ taken, Reader.Uses reader taken (readStatus reader).2 := by
  rw [readStatus]
  split
  · exact ⟨_, .start⟩
  · next ready => exact ⟨_, .advanced 16 (.filled defaultBufSize (Nat.succ_pos 4095) .start ready)⟩

def statusReader : ResponseReader := ⟨readStatus, readStatus_uses⟩

def proxyAnswering (answer : ConnectRequest → List UInt8) : ProxyNet where
  dial := fun _ => none
  write := fun req => .ok ⟨answer req, id, .eof⟩

/-- The bytes of `HTTP/1.1 200` and an empty line. -/
def accepting : List UInt8 := [72, 84, 84, 80, 47, 49, 46, 49, 32, 50, 48, 48, 13, 10, 13, 10]

def eagerProxy : ProxyNet := proxyAnswering fun _ => accepting ++ [1, 2, 3]

theorem eager_peer_heard : ∃ conn acts,
    httpProxyDial eagerProxy statusReader ⟨"proxy:3128", none⟩ "relay:443" = (.ok conn, acts) ∧
      ProxyAct.close ∉ acts ∧ conn.reads [2, 8, 8] = ([1, 2, 3], some .eof) :=
  ⟨_, _, rfl, (@proxied_stream_kept eagerProxy statusReader ⟨"proxy:3128",
    none⟩ "relay:443" _ _ rfl).1, rfl⟩

end SyncthingSocket
