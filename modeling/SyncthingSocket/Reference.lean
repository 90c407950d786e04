import SyncthingSocket.Json.Decode
import SyncthingSocket.Platform

/-!
A platform that can be run: its decoders accept exactly the documents the
encoders write. It shows that what the model assumes about `encoding/json` can be
met, and is the platform of every concrete run.
-/

namespace SyncthingSocket

open Framing Json

structure Codec {α : Type} (marshal : α → Bytes) where
  members : α → List (String × Value)
  ofMembers : List (String × Value) → Option α
  encodes : ∀ value, marshal value = utf8 (render (.object (members value)))
  recovers : ∀ value, ofMembers (members value) = some value

section Strict

variable {α : Type} {marshal : α → Bytes} (codec : Codec marshal)

def Codec.decode (body : Bytes) : Option α :=
  match parse body with
  | some (.object members) => codec.ofMembers members
  | _ => none

theorem Codec.decode_append (value : α) (rest : Bytes) :
    codec.decode (marshal value ++ rest) = some value := by
  rw [Codec.decode, codec.encodes, parse_utf8_render]
  exact codec.recovers value

def Codec.unmarshal (body : Bytes) : Except Err α :=
  match codec.decode body with
  | some value => if marshal value = body then .ok value else .error (.text "invalid character")
  | none => .error (.text "invalid character")

theorem Codec.unmarshal_ok {body : Bytes} {value : α}
    (accepted : codec.unmarshal body = .ok value) :
    marshal value = body := by
  rw [Codec.unmarshal] at accepted
  cases decoded : codec.decode body with
  | none => simp [decoded] at accepted
  | some found =>
      by_cases same : marshal found = body
      · simp only [decoded, same, ↓reduceIte, Except.ok.injEq] at accepted
        exact accepted ▸ same
      · simp [decoded, same] at accepted

theorem Codec.unmarshal_rejects {body : Bytes} (different : ∀ value, marshal value ≠ body) :
    ∃ err, codec.unmarshal body = .error err := by
  cases outcome : codec.unmarshal body with
  | error err => exact ⟨err, rfl⟩
  | ok value => exact absurd (codec.unmarshal_ok outcome) (different value)

def Codec.decoder : Decoder marshal where
  unmarshal := codec.unmarshal
  roundTrip := by
    intro value
    have found := codec.decode_append value []
    rw [List.append_nil] at found
    rw [Codec.unmarshal, found]
    exact if_pos rfl
  truncated := by
    intro value part early different
    apply codec.unmarshal_rejects
    rintro other rfl
    obtain ⟨rest, whole⟩ := early
    have here := codec.decode_append other rest
    have there := codec.decode_append value []
    rw [whole] at here
    rw [List.append_nil, here, Option.some.injEq] at there
    exact different (congrArg marshal there)
  nul := by
    intro rest
    apply codec.unmarshal_rejects
    intro value same
    obtain ⟨tail, starts⟩ :=
      utf8_object ((codec.members value).map fun member => (member.1, render member.2))
    rw [codec.encodes, render_object, starts] at same
    exact absurd (List.cons.inj same).1 (by decide)

end Strict

def stringValue : Option Value → String
  | some (.string s) => s
  | _ => ""

def stringMember (name : String) (members : List (String × Value)) : String :=
  stringValue (members.lookup name)

def optionalString : Value → Option String
  | .string s => some s
  | _ => none

def orNullValue (value : Option Value) : Value := value.getD .null

def omitEmptyString (name value : String) : List (String × Value) :=
  if value = "" then [] else [(name, .string value)]

theorem omitEmptyString_texts (name value : String) :
    (omitEmptyString name value).map (fun member => (member.1, render member.2)) =
      omitEmpty name value := by
  rw [omitEmptyString, omitEmpty]
  split <;> rfl

def challengeCodec : Codec AuthChallenge.marshal where
  members challenge := ("type", .string challenge.type) ::
    if challenge.methods = [] then [] else [("methods", .array (challenge.methods.map .string))]
  ofMembers members := some ⟨stringMember "type" members, match members.lookup "methods" with
    | some (.array items) => items.map fun item => stringValue (some item)
    | _ => []⟩
  encodes := by
    intro challenge
    rw [AuthChallenge.marshal, render_object]
    by_cases none : challenge.methods = []
    · simp [none]
    · simp [none, render_array, Function.comp_def]
  recovers := by
    rintro ⟨type, methods⟩
    by_cases none : methods = []
    · simp [none, stringMember, stringValue, List.lookup_cons]
    · simp [none, stringMember, stringValue, List.lookup_cons, Function.comp_def]

def responseCodec : Codec AuthResponse.marshal where
  members resp := ("type", .string resp.type) :: omitEmptyString "totp" resp.totp
  ofMembers members := some ⟨stringMember "type" members, stringMember "totp" members⟩
  encodes := by
    intro resp
    rw [AuthResponse.marshal, render_object, List.map_cons, omitEmptyString_texts]
    rfl
  recovers := by
    rintro ⟨type, totp⟩
    by_cases blank : totp = "" <;> simp [omitEmptyString, blank, stringMember, stringValue,
      List.lookup_cons]

def resultCodec : Codec AuthResult.marshal where
  members res := ("status", .string res.status) :: omitEmptyString "message" res.message
  ofMembers members := some ⟨stringMember "status" members, stringMember "message" members⟩
  encodes := by
    intro res
    rw [AuthResult.marshal, render_object, List.map_cons, omitEmptyString_texts]
    rfl
  recovers := by
    rintro ⟨status, message⟩
    by_cases blank : message = "" <;> simp [omitEmptyString, blank, stringMember, stringValue,
      List.lookup_cons]

def candidateMembers (init : ICECandidateInit) : List (String × Value) :=
  [("candidate", .string init.candidate),
    ("sdpMid", orNullValue (init.sdpMid.map .string)),
    ("sdpMLineIndex", orNullValue (init.sdpMLineIndex.map fun index => .number index.toNat)),
    ("usernameFragment", orNullValue (init.usernameFragment.map .string))]

def candidateOf (members : List (String × Value)) : ICECandidateInit where
  candidate := stringMember "candidate" members
  sdpMid := (members.lookup "sdpMid").bind optionalString
  sdpMLineIndex := match members.lookup "sdpMLineIndex" with
    | some (.number n) => some (UInt16.ofNat n)
    | _ => none
  usernameFragment := (members.lookup "usernameFragment").bind optionalString

theorem candidate_text (init : ICECandidateInit) :
    render (.object (candidateMembers init)) = init.text := by
  obtain ⟨candidate, sdpMid, index, fragment⟩ := init
  rw [render_object, ICECandidateInit.text]
  cases sdpMid <;> cases index <;> cases fragment <;> rfl

theorem candidateOf_members (init : ICECandidateInit) :
    candidateOf (candidateMembers init) = init := by
  obtain ⟨candidate, sdpMid, index, fragment⟩ := init
  cases sdpMid <;> cases index <;> cases fragment <;>
    simp [candidateOf, candidateMembers, orNullValue, stringMember, stringValue, optionalString,
      List.lookup_cons]

def signalCodec : Codec SignalMessage.marshal where
  members msg := ("type", .string msg.type) :: (omitEmptyString "sdp" msg.sdp ++
    (msg.candidate.map fun init => ("candidate", .object (candidateMembers init))).toList)
  ofMembers members := some ⟨stringMember "type" members, stringMember "sdp" members,
    match members.lookup "candidate" with
    | some (.object inner) => some (candidateOf inner)
    | _ => none⟩
  encodes := by
    rintro ⟨type, sdp, candidate⟩
    rw [SignalMessage.marshal, render_object, List.map_cons, List.map_append, omitEmptyString_texts]
    cases candidate with
    | none => rfl
    | some init => simp [candidate_text]
  recovers := by
    rintro ⟨type, sdp, candidate⟩
    by_cases blank : sdp = "" <;> cases candidate <;>
      simp [omitEmptyString, blank, stringMember, stringValue, List.lookup_cons, candidateOf_members]

def referencePlatform : Platform where
  newDeviceID raw := Vector.ofFn fun i => raw.getD i 0
  deviceIDFromString s := .ok (Vector.ofFn fun i => (utf8 s.toList).getD i 0)
  deviceIDString id := String.ofList (id.toList.map fun byte => Char.ofNat byte.toNat)
  urlHost s := .ok s
  addrString _ := "address"
  totpValidate code secret := code == secret
  challenge := challengeCodec.decoder
  response := responseCodec.decoder
  result := resultCodec.decoder
  signal := signalCodec.decoder

end SyncthingSocket
