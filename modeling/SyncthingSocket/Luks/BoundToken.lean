import Mathlib.Data.List.Nodup
import SyncthingSocket.Luks.Patterns

/-!
The token that `syncthing-luks-bind` wrote, once `cryptsetup` gives it back on one line:
what the agent and the initramfs-tools script read in it, and that neither of them
takes a token that does not mention our type.
-/

namespace SyncthingSocket

open Json

/-- The document without the newline at its end. -/
def BindRequest.line (request : BindRequest) : Text :=
  text "\x7b\"type\":\"syncthing-socket\",\"keyslots\":[],\"version\":1,\"p2p_key_seed\":\"" ++
    (request.seed ++ (Scan.separator (text "key_holder_device_id") ++
      (request.keyHolderDeviceID ++ (Scan.separator (text "unlock_role") ++
        (request.role ++ text "\"\x7d")))))

theorem BindRequest.document_eq (request : BindRequest) :
    request.document = request.line ++ [.char '\n'] := by
  have last : text "\"\x7d" ++ [.char '\n'] = Scan.closing := rfl
  rw [document, bindDocument_eq, line]
  simp only [List.append_assoc, last]

structure IsBound (request : BindRequest) (token : Token) : Prop where
  seed_plain : ∀ rune ∈ request.seed, isPlain rune = true
  holder_plain : ∀ rune ∈ request.keyHolderDeviceID, isPlain rune = true
  type : token.type = luksTokenType
  document : token.document = request.line

variable {request : BindRequest} {token : Token} {key name w s : Text} {members : List (Text × Datum)}
  {top : Option Datum} {kind : Text → Option Text}

/-! What is read. -/

theorem IsBound.scanned (bound : IsBound request token) :
    scan token.document = scan request.document := by
  have read : request.line.foldlM Scan.feed {} = some ⟨.endTop, [], text "unlock_role",
      bindPreamble ++ [(text "p2p_key_seed", .string request.seed)] ++
        [(text "key_holder_device_id", .string request.keyHolderDeviceID)] ++
        [(text "unlock_role", .string request.role)], some .object⟩ := by
    rw [BindRequest.line, List.foldlM_append, bind_start, Option.bind_eq_bind, Option.bind_some,
      ← List.append_assoc, List.foldlM_append, Scan.piece_member bound.seed_plain holderName_plain,
      Option.bind_eq_bind, Option.bind_some, ← List.append_assoc, List.foldlM_append,
      Scan.piece_member bound.holder_plain roleName_plain, Option.bind_eq_bind, Option.bind_some,
      List.foldlM_append, Scan.feed_plain rfl request.role_plain]
    rfl
  rw [BindRequest.document, bind_scanned bound.seed_plain bound.holder_plain request.role_plain,
    bound.document, scan, read]
  rfl

theorem keysFrom_piece (plainValue : ∀ rune ∈ w, isPlain rune = true)
    (plainName : ∀ rune ∈ name, isPlain rune = true) (s : Text) :
    keysFrom ⟨.inString [], [.objectValue], key, members, top⟩ (w ++ (Scan.separator name ++ s)) =
      (name, .char ':' :: .char '"' :: s) ::
        keysFrom ⟨.inString [], [.objectValue], name, members ++ [(key, .string w)], top⟩ s := by
  have value : w.foldlM Scan.feed ⟨.inString [], [.objectValue], key, members, top⟩ =
      some ⟨.inString w, [.objectValue], key, members, top⟩ := by
    rw [Scan.feed_plain rfl plainValue, List.nil_append]
  have named :
      name.foldlM Scan.feed ⟨.inString [], [.objectKey], key, members ++ [(key, .string w)], top⟩ =
      some ⟨.inString name, [.objectKey], key, members ++ [(key, .string w)], top⟩ := by
    rw [Scan.feed_plain rfl plainName, List.nil_append]
  have begun (t : Text) : keysFrom ⟨.inString w, [.objectValue], key, members, top⟩
      (.char '"' :: .char ',' :: .char '"' :: t) =
        keysFrom ⟨.inString [], [.objectKey], key, members ++ [(key, .string w)], top⟩ t := rfl
  have split : Scan.separator name ++ s = .char '"' :: .char ',' :: .char '"' ::
      (name ++ .char '"' :: .char ':' :: .char '"' :: s) := by simp [Scan.separator]
  rw [keysFrom_append value, keysFrom_plain rfl plainValue, split, begun, keysFrom_append named,
    keysFrom_plain rfl plainName]
  rfl

def boundNames : List Text :=
  ["type", "keyslots", "version", "p2p_key_seed", "key_holder_device_id", "unlock_role"].map text

theorem IsBound.keys (bound : IsBound request token) : ∃ first second third fourth fifth : Text,
    keys token.document =
      [(text "type", .char ':' :: .char '"' :: (luksTokenType ++ .char '"' :: first)),
        (text "keyslots", second), (text "version", .char ':' :: .char '1' :: .char ',' :: third),
        (text "p2p_key_seed", .char ':' :: .char '"' :: (request.seed ++ .char '"' :: fourth)),
        (text "key_holder_device_id",
          .char ':' :: .char '"' :: (request.keyHolderDeviceID ++ .char '"' :: fifth)),
        (text "unlock_role", .char ':' :: .char '"' :: (request.role ++ .char '"' :: text "\x7d"))] := by
  have front : keysFrom {}
      (text "\x7b\"type\":\"syncthing-socket\",\"keyslots\":[],\"version\":1,\"p2p_key_seed\":\"") =
      [(text "type", text ":\"syncthing-socket\",\"keyslots\":[],\"version\":1,\"p2p_key_seed\":\""),
        (text "keyslots", text ":[],\"version\":1,\"p2p_key_seed\":\""),
        (text "version", text ":1,\"p2p_key_seed\":\""), (text "p2p_key_seed", text ":\"")] := by
    decide +kernel
  rw [bound.document, BindRequest.line, Json.keys, keysFrom_append bind_start, front,
    keysFrom_piece bound.seed_plain holderName_plain, keysFrom_piece bound.holder_plain roleName_plain,
    keysFrom_append (Scan.feed_plain rfl request.role_plain), keysFrom_plain rfl request.role_plain]
  exact ⟨_, _, _, _, _, rfl⟩

/-! What `sed` finds. -/

theorem leadingString_quoted (unquoted : Unquoted w) (s : Text) :
    leadingString (.char '"' :: (w ++ .char '"' :: s)) = some w := by
  rw [leadingString, if_pos (by simp), List.takeWhile_append_of_pos]
  · simp
  · intro rune member
    have other : rune ≠ .char '"' := fun same => unquoted (same ▸ member)
    simpa using other

theorem unquoted_of_plain (plain : ∀ rune ∈ w, isPlain rune = true) : Unquoted w := by
  intro quoted
  exact absurd (plain _ quoted) (by decide)

theorem taken_string (plain : ∀ rune ∈ w, isPlain rune = true) (name s : Text) :
    taken name leadingString (name, .char ':' :: .char '"' :: (w ++ .char '"' :: s)) = some w := by
  rw [taken, if_pos (List.suffix_refl _)]
  exact leadingString_quoted (unquoted_of_plain plain) s

theorem apart_bound : ∀ one ∈ boundNames, ∀ other ∈ boundNames, EndsAs one other → one = other := by
  decide

theorem filterMap_taken {entries : List (Text × Text)} {value after : Text}
    (names : entries.map Prod.fst = boundNames) (listed : (name, after) ∈ entries)
    (takes : taken name kind (name, after) = some value) :
    entries.filterMap (taken name kind) = [value] := by
  have distinct : (entries.map Prod.fst).Nodup := names ▸ by decide
  have known : name ∈ boundNames := names ▸ List.mem_map_of_mem listed
  obtain ⟨front, back, rfl⟩ := List.append_of_mem listed
  have others : ∀ entry ∈ front ++ back, taken name kind entry = none := by
    intro entry member
    refine if_neg fun ends => ?_
    have also : entry.1 ∈ boundNames := by
      rw [← names]
      refine List.mem_map_of_mem ?_
      rcases List.mem_append.mp member with early | late
      · simp [early]
      · simp [late]
    have same := apart_bound name known entry.1 also ends
    rw [List.map_append, List.map_cons, List.nodup_middle, List.nodup_cons, ← List.map_append] at distinct
    exact distinct.1 (List.mem_map.mpr ⟨entry, member, same.symm⟩)
  rw [List.filterMap_append, List.filterMap_cons_some takes,
    List.filterMap_eq_nil_iff.mpr fun entry member => others entry (List.mem_append_left _ member),
    List.filterMap_eq_nil_iff.mpr fun entry member => others entry (List.mem_append_right _ member)]
  rfl

structure LineRead (request : BindRequest) (document : Text) : Prop where
  type : sed (text "type") leadingString document = luksTokenType
  version : sed (text "version") leadingDigits document = text "1"
  seed : sed (text "p2p_key_seed") leadingString document = request.seed
  holder : sed (text "key_holder_device_id") leadingString document = request.keyHolderDeviceID
  role : sed (text "unlock_role") leadingString document = request.role

theorem IsBound.read (bound : IsBound request token) : LineRead request token.document := by
  have accepted : (scan token.document).isSome = true := by
    rw [bound.scanned, BindRequest.document,
      bind_scanned bound.seed_plain bound.holder_plain request.role_plain]
    rfl
  obtain ⟨first, second, third, fourth, fifth, listed⟩ := bound.keys
  have names : (Json.keys token.document).map Prod.fst = boundNames := by
    rw [listed]
    rfl
  have found {name : String} {kind : Text → Option Text} {after value : Text} (known : name ∈ fieldNames)
      (takes : taken (text name) kind (text name, after) = some value)
      (inside : (text name, after) ∈ Json.keys token.document) :
      sed (text name) kind token.document = value := by
    rw [sed_keys (sought_field known) accepted, filterMap_taken names inside takes]
    rfl
  have typePlain : ∀ rune ∈ luksTokenType, isPlain rune = true := by decide
  have version : taken (text "version") leadingDigits
      (text "version", .char ':' :: .char '1' :: .char ',' :: third) = some (text "1") := rfl
  exact ⟨found (by decide) (taken_string typePlain _ first) (by simp [listed]),
    found (by decide) version (by simp [listed]),
    found (by decide) (taken_string bound.seed_plain _ fourth) (by simp [listed]),
    found (by decide) (taken_string bound.holder_plain _ fifth) (by simp [listed]),
    found (by decide) (taken_string request.role_plain _ (text "\x7d")) (by simp [listed])⟩

/-! The readers. -/

theorem BindRequest.role_given (request : BindRequest) : request.role ≠ [] := by
  rcases request.role_known with client | server
  · rw [client]
    decide
  · rw [server]
    decide

theorem IsBound.agent (bound : IsBound request token) (quote : Text → String) :
    agentReads quote token = some request.config := by
  have parsed := parseLUKSToken_of_plain quote bound.seed_plain bound.holder_plain
  rw [parseLUKSToken, unmarshalToken, ← bound.scanned, ← unmarshalToken, ← parseLUKSToken] at parsed
  rw [agentReads, if_pos bound.type, parsed]

theorem IsBound.script (bound : IsBound request token) (vars : ShellConfig) :
    scriptReads vars token = some ⟨request.seed, request.keyHolderDeviceID, request.role⟩ := by
  have read := bound.read
  have takes : scriptTakes token.document = true := by
    simp [scriptTakes, mentionsType_of_type bound.type, read.version]
  rw [scriptReads, if_pos takes, ShellConfig.take, read.seed, read.holder, read.role,
    if_pos request.role_given]

section

variable (unmentioned : mentionsType token.document = false)

include unmentioned

theorem agentReads_unmentioned (quote : Text → String) : agentReads quote token = none := by
  refine if_neg ?_
  intro ours
  simp [mentionsType_of_type ours] at unmentioned

theorem scriptReads_unmentioned (vars : ShellConfig) : scriptReads vars token = none :=
  if_neg (by simp [scriptTakes, unmentioned])

end

end SyncthingSocket
