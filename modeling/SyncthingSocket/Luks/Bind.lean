import SyncthingSocket.Luks.Token
import SyncthingSocket.Json.Pieces

/-!
The token document that `syncthing-luks-bind` writes, a here-document with the seed,
the Device ID and the role put in as they are, and what `parseLUKSToken` reads back.
-/

namespace SyncthingSocket

open Json

/-- Arguments that `syncthing-luks-bind` accepts. -/
structure BindRequest where
  device : Text
  seed : Text
  keyHolderDeviceID : Text
  role : Text
  device_given : device ≠ []
  seed_given : seed ≠ []
  role_known : role = text "client" ∨ role = text "server"
  deriving DecidableEq

def bindRequest (args : List Text) : Option BindRequest :=
  let device := args.getD 0 []
  let seed := args.getD 1 []
  let keyHolderDeviceID := args.getD 2 []
  let role := if args.getD 3 [] = [] then text "client" else args.getD 3 []
  if deviceGiven : device ≠ [] then
    if seedGiven : seed ≠ [] then
      if roleKnown : role = text "client" ∨ role = text "server" then
        some ⟨device, seed, keyHolderDeviceID, role, deviceGiven, seedGiven, roleKnown⟩
      else none
    else none
  else none

theorem bindRequest_given (request : BindRequest) :
    bindRequest [request.device, request.seed, request.keyHolderDeviceID, request.role] =
      some request := by
  obtain ⟨device, seed, keyHolderDeviceID, role, deviceGiven, seedGiven, roleKnown⟩ := request
  have given : role ≠ [] := by
    rcases roleKnown with rfl | rfl
    · decide
    · decide
  simp [bindRequest, deviceGiven, seedGiven, given, roleKnown]

def bindDocument (seed keyHolderDeviceID role : Text) : Text :=
  text "\x7b\"type\":\"syncthing-socket\",\"keyslots\":[],\"version\":1,\"p2p_key_seed\":\"" ++ seed ++
    text "\",\"key_holder_device_id\":\"" ++ keyHolderDeviceID ++ text "\",\"unlock_role\":\"" ++ role ++
    text "\"\x7d\n"

def bindPreamble : List (Text × Datum) :=
  [(text "type", .string (text "syncthing-socket")), (text "keyslots", .array),
    (text "version", .number (text "1"))]

theorem bind_start :
    (text "\x7b\"type\":\"syncthing-socket\",\"keyslots\":[],\"version\":1,\"p2p_key_seed\":\"").foldlM
    Scan.feed {} = some ⟨.inString [], [.objectValue], text "p2p_key_seed", bindPreamble,
      some .object⟩ := by
  decide +kernel

theorem bindDocument_eq (seed keyHolderDeviceID role : Text) :
    bindDocument seed keyHolderDeviceID role =
    text "\x7b\"type\":\"syncthing-socket\",\"keyslots\":[],\"version\":1,\"p2p_key_seed\":\"" ++
      ((seed ++ Scan.separator (text "key_holder_device_id")) ++
        ((keyHolderDeviceID ++ Scan.separator (text "unlock_role")) ++ (role ++ Scan.closing))) := by
  have first : text "\",\"key_holder_device_id\":\"" =
      Scan.separator (text "key_holder_device_id") := by decide +kernel
  have second : text "\",\"unlock_role\":\"" = Scan.separator (text "unlock_role") := by decide +kernel
  have last : text "\"\x7d\n" = Scan.closing := rfl
  simp [bindDocument, first, second, last]

theorem holderName_plain : ∀ rune ∈ text "key_holder_device_id", isPlain rune = true := by decide

theorem roleName_plain : ∀ rune ∈ text "unlock_role", isPlain rune = true := by decide

/-! A document whose strings stand for themselves. -/

variable {later tok : LuksToken} {name : String} {keyHolderDeviceID role seed w : Text}
  {member : Text × Datum}

theorem bind_scanned (seedPlain : ∀ rune ∈ seed, isPlain rune = true)
    (holderPlain : ∀ rune ∈ keyHolderDeviceID, isPlain rune = true)
    (rolePlain : ∀ rune ∈ role, isPlain rune = true) :
    scan (bindDocument seed keyHolderDeviceID role) = some ⟨.endTop, [], text "unlock_role",
      bindPreamble ++ [(text "p2p_key_seed", .string seed)] ++
        [(text "key_holder_device_id", .string keyHolderDeviceID)] ++
          [(text "unlock_role", .string role)],
      some .object⟩ := by
  have fed : (bindDocument seed keyHolderDeviceID role).foldlM Scan.feed {} =
      some ⟨.endTop, [], text "unlock_role",
      bindPreamble ++ [(text "p2p_key_seed", .string seed)] ++
        [(text "key_holder_device_id", .string keyHolderDeviceID)] ++
          [(text "unlock_role", .string role)],
      some .object⟩ := by
    rw [bindDocument_eq, List.foldlM_append, bind_start, Option.bind_eq_bind, Option.bind_some,
      List.foldlM_append, Scan.piece_member seedPlain holderName_plain, Option.bind_eq_bind,
        Option.bind_some,
      List.foldlM_append, Scan.piece_member holderPlain roleName_plain, Option.bind_eq_bind,
        Option.bind_some]
    exact Scan.piece_closed rolePlain
  rw [scan, fed]
  rfl

theorem decodeString_plain (plain : ∀ rune ∈ w, isPlain rune = true) : decodeString w = w :=
  unquote_plain plain

theorem store_seed (tok : LuksToken) (raw : Text) :
    tok.store (text "p2p_key_seed", .string raw) = some { tok with seed := decodeString raw } := by
  have type : nameMatches (text "p2p_key_seed") "type" = false := by decide +kernel
  have version : nameMatches (text "p2p_key_seed") "version" = false := by decide +kernel
  have seed : nameMatches (text "p2p_key_seed") "p2p_key_seed" = true := by decide +kernel
  simp [LuksToken.store, type, version, seed, storeString]

theorem store_holder (tok : LuksToken) (raw : Text) :
    tok.store (text "key_holder_device_id", .string raw) =
      some { tok with keyHolderDeviceID := decodeString raw } := by
  have type : nameMatches (text "key_holder_device_id") "type" = false := by decide +kernel
  have version : nameMatches (text "key_holder_device_id") "version" = false := by decide +kernel
  have seed : nameMatches (text "key_holder_device_id") "p2p_key_seed" = false := by decide +kernel
  have holder : nameMatches (text "key_holder_device_id") "key_holder_device_id" = true := by
    decide +kernel
  simp [LuksToken.store, type, version, seed, holder, storeString]

theorem store_role (tok : LuksToken) (raw : Text) :
    tok.store (text "unlock_role", .string raw) = some { tok with role := decodeString raw } := by
  have type : nameMatches (text "unlock_role") "type" = false := by decide +kernel
  have version : nameMatches (text "unlock_role") "version" = false := by decide +kernel
  have seed : nameMatches (text "unlock_role") "p2p_key_seed" = false := by decide +kernel
  have holder : nameMatches (text "unlock_role") "key_holder_device_id" = false := by decide +kernel
  have role : nameMatches (text "unlock_role") "unlock_role" = true := by decide +kernel
  simp [LuksToken.store, type, version, seed, holder, role, storeString]

theorem bind_unmarshalled (seedPlain : ∀ rune ∈ seed, isPlain rune = true)
    (holderPlain : ∀ rune ∈ keyHolderDeviceID, isPlain rune = true)
    (rolePlain : ∀ rune ∈ role, isPlain rune = true) :
    unmarshalToken (bindDocument seed keyHolderDeviceID role) =
      some ⟨luksTokenType, luksTokenVersion, seed, keyHolderDeviceID, role⟩ := by
  have preamble : bindPreamble.foldlM LuksToken.store {} =
      some ⟨luksTokenType, luksTokenVersion, [], [], []⟩ := by
    decide +kernel
  simp only [unmarshalToken, bind_scanned seedPlain holderPlain rolePlain, List.foldlM_append, preamble,
    List.foldlM_cons, List.foldlM_nil, Option.bind_eq_bind, Option.bind_some, store_seed,
      store_holder, store_role,
    decodeString_plain seedPlain, decodeString_plain holderPlain, decodeString_plain rolePlain,
      Option.pure_def]

/-! What any such document can hold. -/

inductive Piece (name : String) (w : Text) : List (Text × Datum) → Prop
  | whole : Scan.Unescaped w → Piece name w [(text name, .string w)]
  | short {found : List (Text × Datum)} : (∀ member ∈ found, member.2.Short w.length) → Piece name w found

theorem bind_members {scanned : Scan} (rolePlain : ∀ rune ∈ role, isPlain rune = true)
    (whole : scan (bindDocument seed keyHolderDeviceID role) = some scanned) :
    ∃ first second, Piece "p2p_key_seed" seed first ∧
      Piece "key_holder_device_id" keyHolderDeviceID second ∧
      scanned.members = bindPreamble ++ first ++ second ++ [(text "unlock_role", .string role)] := by
  rw [scan, bindDocument_eq, List.foldlM_append, bind_start] at whole
  obtain ⟨fed, reached, whole⟩ := Option.bind_eq_some_iff.mp whole
  obtain ⟨ended, blank, whole⟩ := Option.bind_eq_some_iff.mp whole
  have finished : ended.step = .endTop ∧ ended = scanned := by simpa using whole
  obtain ⟨finished, rfl⟩ := finished
  rw [Option.bind_eq_bind, Option.bind_some, List.foldlM_append] at reached
  obtain ⟨afterSeed, seedFed, reached⟩ := Option.bind_eq_some_iff.mp reached
  rw [List.foldlM_append] at reached
  obtain ⟨afterHolder, holderFed, reached⟩ := Option.bind_eq_some_iff.mp reached
  have holderStrays : ∃ c rest, text "key_holder_device_id" = .char c :: rest ∧ Scan.Strays c :=
    ⟨'k', text "ey_holder_device_id", rfl, by simp [Scan.Strays, isBlank]⟩
  have roleStrays : ∃ c rest, text "unlock_role" = .char c :: rest ∧ Scan.Strays c :=
    ⟨'u', text "nlock_role", rfl, by simp [Scan.Strays, isBlank]⟩
  obtain ⟨seedInside, seedBelow, seedStack, seedKey, seedFound⟩ :=
    Scan.piece_value rfl holderName_plain holderStrays seedFed
  obtain ⟨holderInside, holderBelow, holderStack, holderKey, holderFound⟩ :=
    Scan.piece_value seedInside roleName_plain roleStrays holderFed
  obtain ⟨rfl, closed⟩ := Scan.closed_outermost holderInside holderStack rolePlain reached blank finished
  obtain ⟨first, seedPiece, seedMembers⟩ : ∃ first, Piece "p2p_key_seed" seed first ∧
      afterSeed.members = bindPreamble ++ first := by
    rcases seedFound with ⟨found, members, short⟩ | ⟨unescaped, stack, members⟩
    · exact ⟨found, .short short, members⟩
    · obtain rfl : [] = seedBelow := (List.cons.inj stack).2
      exact ⟨_, .whole unescaped, members⟩
  obtain ⟨second, holderPiece, holderMembers⟩ :
      ∃ second, Piece "key_holder_device_id" keyHolderDeviceID second ∧
      afterHolder.members = afterSeed.members ++ second := by
    rcases holderFound with ⟨found, members, short⟩ | ⟨unescaped, stack, members⟩
    · exact ⟨found, .short short, members⟩
    · obtain rfl : seedBelow = [] := (List.cons.inj (seedStack.symm.trans stack)).2
      rw [seedKey rfl] at members
      exact ⟨_, .whole unescaped, members⟩
  exact ⟨first, second, seedPiece, holderPiece, by rw [closed, holderKey rfl, holderMembers, seedMembers]⟩

def Supplies (name : String) (value : Text) (member : Text × Datum) : Prop :=
  nameMatches member.1 name = true ∧ ∃ raw, member.2 = .string raw ∧ value = decodeString raw

theorem storeString_supplies {field value : Text}
    (named : nameMatches member.1 name = true) (stored : storeString field member.2 = some value) :
    value = field ∨ Supplies name value member := by
  cases datum : member.2 with
  | null =>
      rw [datum] at stored
      exact Or.inl (Option.some.inj stored).symm
  | string raw =>
      rw [datum] at stored
      exact Or.inr ⟨named, raw, datum, (Option.some.inj stored).symm⟩
  | _ => simp [datum, storeString] at stored

inductive Stored (tok : LuksToken) (member : Text × Datum) : LuksToken → Prop
  | type {value : Text} : nameMatches member.1 "type" = true →
    storeString tok.type member.2 = some value →
      Stored tok member { tok with type := value }
  | version {value : Int} : nameMatches member.1 "version" = true →
    storeInt tok.version member.2 = some value →
      Stored tok member { tok with version := value }
  | seed {value : Text} : nameMatches member.1 "p2p_key_seed" = true →
    storeString tok.seed member.2 = some value →
      Stored tok member { tok with seed := value }
  | holder {value : Text} : nameMatches member.1 "key_holder_device_id" = true →
      storeString tok.keyHolderDeviceID member.2 = some value →
      Stored tok member { tok with keyHolderDeviceID := value }
  | role {value : Text} : nameMatches member.1 "unlock_role" = true →
    storeString tok.role member.2 = some value →
      Stored tok member { tok with role := value }
  | ignored : Stored tok member tok

theorem store_stored (stored : tok.store member = some later) :
    Stored tok member later := by
  simp only [LuksToken.store] at stored
  split at stored
  · next named =>
      obtain ⟨value, assigned, rfl⟩ := Option.map_eq_some_iff.mp stored
      exact .type named assigned
  · split at stored
    · next named =>
        obtain ⟨value, assigned, rfl⟩ := Option.map_eq_some_iff.mp stored
        exact .version named assigned
    · split at stored
      · next named =>
          obtain ⟨value, assigned, rfl⟩ := Option.map_eq_some_iff.mp stored
          exact .seed named assigned
      · split at stored
        · next named =>
            obtain ⟨value, assigned, rfl⟩ := Option.map_eq_some_iff.mp stored
            exact .holder named assigned
        · split at stored
          · next named =>
              obtain ⟨value, assigned, rfl⟩ := Option.map_eq_some_iff.mp stored
              exact .role named assigned
          · cases stored
            exact .ignored

theorem Stored.seed_or (stored : Stored tok member later) :
    later.seed = tok.seed ∨ Supplies "p2p_key_seed" later.seed member := by
  cases stored with
  | seed named assigned => exact storeString_supplies named assigned
  | _ => exact Or.inl rfl

theorem Stored.holder_or (stored : Stored tok member later) :
    later.keyHolderDeviceID = tok.keyHolderDeviceID ∨
      Supplies "key_holder_device_id" later.keyHolderDeviceID member := by
  cases stored with
  | holder named assigned => exact storeString_supplies named assigned
  | _ => exact Or.inl rfl

theorem stored_supplied {field : LuksToken → Text}
    (one : ∀ {tok later : LuksToken} {member : Text × Datum}, Stored tok member later →
      field later = field tok ∨ Supplies name (field later) member)
    {members : List (Text × Datum)} (stored : members.foldlM LuksToken.store tok = some later) :
    field later = field tok ∨ ∃ member ∈ members, Supplies name (field later) member := by
  induction members generalizing tok with
  | nil =>
      cases stored
      exact Or.inl rfl
  | cons member members ih =>
      rw [List.foldlM_cons] at stored
      obtain ⟨next, first, rest⟩ := Option.bind_eq_some_iff.mp stored
      rcases ih rest with same | ⟨other, listed, supplies⟩
      · rcases one (store_stored first) with kept | supplies
        · exact Or.inl (same.trans kept)
        · rw [← same] at supplies
          exact Or.inr ⟨member, List.mem_cons_self, supplies⟩
      · exact Or.inr ⟨other, List.mem_cons_of_mem _ listed, supplies⟩

theorem decodeString_length_le (raw : Text) : (decodeString raw).length ≤ raw.length := by
  rw [decodeString, List.length_map]
  exact unquote_length_le raw

theorem Supplies.lt_of_short {value : Text} {n : Nat}
    (supplies : Supplies name value member) (short : member.2.Short n) : value.length < n := by
  obtain ⟨_, raw, datum, rfl⟩ := supplies
  rw [datum] at short
  exact Nat.lt_of_le_of_lt (decodeString_length_le raw) short

theorem plain_of_decodeString (unescaped : Scan.Unescaped w) (same : w = decodeString w) :
    ∀ rune ∈ w, isPlain rune = true := by
  have absent : .char '\\' ∉ w := by
    intro escaped
    have shorter := unquote_length_lt escaped
    have length := congrArg List.length same
    rw [decodeString, List.length_map] at length
    omega
  intro rune member
  have decoded : rune ∈ decodeString w := same ▸ member
  obtain ⟨c, _, rfl⟩ := List.mem_map.mp decoded
  exact unescaped absent c member

theorem Piece.own {found : List (Text × Datum)}
    (piece : Piece name w found) (listed : member ∈ found) (supplies : Supplies name w member) :
    ∀ rune ∈ w, isPlain rune = true := by
  cases piece with
  | whole unescaped =>
      obtain ⟨_, raw, datum, same⟩ := supplies
      rw [List.mem_singleton.mp listed] at datum
      obtain rfl : w = raw := Datum.string.inj datum
      exact plain_of_decodeString unescaped same
  | short short => exact absurd (supplies.lt_of_short (short member listed)) (Nat.lt_irrefl _)

theorem Piece.foreign {other : String} {value : Text} {found : List (Text × Datum)}
    (piece : Piece name w found) (listed : member ∈ found)
    (supplies : Supplies other value member) (distinct : nameMatches (text name) other = false) :
    ∀ member ∈ found, member.2.Short w.length := by
  cases piece with
  | whole unescaped =>
      have named := supplies.1
      rw [List.mem_singleton.mp listed, distinct] at named
      exact absurd named (by simp)
  | short short => exact short

theorem supplied_between {value : Text} {first second : List (Text × Datum)}
    (outside : ∀ key ∈ ["type", "keyslots", "version", "unlock_role"], nameMatches
      (text key) name = false)
    (supplied : ∃ member ∈ bindPreamble ++ first ++ second ++ [(text "unlock_role", .string role)],
      Supplies name value member) :
    (∃ member ∈ first, Supplies name value member) ∨ ∃ member ∈ second, Supplies name value member := by
  obtain ⟨member, listed, supplies⟩ := supplied
  have named := supplies.1
  rcases List.mem_append.mp listed with listed | last
  · rcases List.mem_append.mp listed with listed | listed
    · rcases List.mem_append.mp listed with early | listed
      · simp only [bindPreamble, List.mem_cons, List.not_mem_nil, or_false] at early
        rcases early with rfl | rfl | rfl
        · simp [outside "type" (by simp)] at named
        · simp [outside "keyslots" (by simp)] at named
        · simp [outside "version" (by simp)] at named
      · exact Or.inl ⟨member, listed, supplies⟩
    · exact Or.inr ⟨member, listed, supplies⟩
  · rw [List.mem_singleton.mp last, outside "unlock_role" (by simp)] at named
    simp at named

theorem pieces_plain {first second : List (Text × Datum)}
    (seedPiece : Piece "p2p_key_seed" seed first)
    (holderPiece : Piece "key_holder_device_id" keyHolderDeviceID second)
    (seedFrom : ∃ member ∈ bindPreamble ++ first ++ second ++ [(text "unlock_role", .string role)],
      Supplies "p2p_key_seed" seed member) (holderFrom : keyHolderDeviceID = [] ∨
      ∃ member ∈ bindPreamble ++ first ++ second ++ [(text "unlock_role", .string role)],
        Supplies "key_holder_device_id" keyHolderDeviceID member) :
    (∀ rune ∈ seed, isPlain rune = true) ∧ ∀ rune ∈ keyHolderDeviceID, isPlain rune = true := by
  -- If both values are read back, neither can come from the other's piece: it would be shorter than
  -- that one, which would in turn come from a piece shorter still.
  have seedDistinct : nameMatches (text "key_holder_device_id") "p2p_key_seed" = false := by
    decide +kernel
  have holderDistinct : nameMatches (text "p2p_key_seed") "key_holder_device_id" = false := by
    decide +kernel
  rcases supplied_between (by decide +kernel) seedFrom with
    ⟨source, listed, supplies⟩ | ⟨source, listed, supplies⟩
  · refine ⟨seedPiece.own listed supplies, ?_⟩
    rcases holderFrom with rfl | holderFrom
    · simp
    · rcases supplied_between (by decide +kernel) holderFrom with
        ⟨other, among, gives⟩ | ⟨other, among, gives⟩
      · have short := seedPiece.foreign among gives holderDistinct
        exact absurd (supplies.lt_of_short (short source listed)) (Nat.lt_irrefl _)
      · exact holderPiece.own among gives
  · have short := holderPiece.foreign listed supplies seedDistinct
    have less := supplies.lt_of_short (short source listed)
    rcases holderFrom with rfl | holderFrom
    · simp at less
    · rcases supplied_between (by decide +kernel) holderFrom with
        ⟨other, among, gives⟩ | ⟨other, among, gives⟩
      · have shorter := seedPiece.foreign among gives holderDistinct
        have more := gives.lt_of_short (shorter other among)
        omega
      · exact absurd (gives.lt_of_short (short other among)) (Nat.lt_irrefl _)

theorem BindRequest.role_plain (request : BindRequest) :
    ∀ rune ∈ request.role, isPlain rune = true := by
  rcases request.role_known with role | role
  · rw [role]
    decide
  · rw [role]
    decide

def BindRequest.document (request : BindRequest) : Text :=
  bindDocument request.seed request.keyHolderDeviceID request.role

def BindRequest.config (request : BindRequest) : LuksConfig :=
  ⟨[], request.seed, request.keyHolderDeviceID, request.role⟩

theorem parseLUKSToken_of_plain (quote : Text → String) {request : BindRequest}
    (seedPlain : ∀ rune ∈ request.seed, isPlain rune = true)
    (holderPlain : ∀ rune ∈ request.keyHolderDeviceID, isPlain rune = true) :
    parseLUKSToken quote request.document = .ok (some request.config) := by
  have unmarshalled : unmarshalToken request.document =
      some ⟨luksTokenType, luksTokenVersion, request.seed, request.keyHolderDeviceID, request.role⟩ :=
    bind_unmarshalled seedPlain holderPlain request.role_plain
  have given : request.role ≠ [] := by
    rcases request.role_known with role | role
    · rw [role]
      decide
    · rw [role]
      decide
  have known : ¬ (request.role ≠ text "client" ∧ request.role ≠ text "server") := by
    rintro ⟨notClient, notServer⟩
    exact request.role_known.elim notClient notServer
  simp [parseLUKSToken, unmarshalled, request.seed_given, given, known, BindRequest.config]

theorem plain_of_parseLUKSToken {quote : Text → String} {request : BindRequest}
    (parsed : parseLUKSToken quote request.document = .ok (some request.config)) :
    (∀ rune ∈ request.seed, isPlain rune = true) ∧
      ∀ rune ∈ request.keyHolderDeviceID, isPlain rune = true := by
  obtain ⟨tok, unmarshalled, _, _, seed, holder⟩ := parseLUKSToken_ok parsed
  have seed : request.seed = tok.seed := seed
  have holder : request.keyHolderDeviceID = tok.keyHolderDeviceID := holder
  simp only [unmarshalToken] at unmarshalled
  cases scanned : scan request.document with
  | none => simp [scanned] at unmarshalled
  | some found =>
      simp only [scanned] at unmarshalled
      split at unmarshalled
      · obtain ⟨first, second, seedPiece, holderPiece, members⟩ := bind_members request.role_plain scanned
        rw [members] at unmarshalled
        have seedFrom := stored_supplied Stored.seed_or unmarshalled
        have holderFrom := stored_supplied Stored.holder_or unmarshalled
        rw [← seed] at seedFrom
        rw [← holder] at holderFrom
        exact pieces_plain seedPiece holderPiece (seedFrom.resolve_left request.seed_given) holderFrom
      · cases unmarshalled
        exact absurd seed request.seed_given
      · simp at unmarshalled

/-- Exactly the seeds and Device IDs without quotes, backslashes, control characters
and stray bytes are read back. -/
theorem bind_round_trip (quote : Text → String) (request : BindRequest) :
    parseLUKSToken quote request.document = .ok (some request.config) ↔
      (∀ rune ∈ request.seed, isPlain rune = true) ∧
        ∀ rune ∈ request.keyHolderDeviceID, isPlain rune = true := by
  constructor
  · exact plain_of_parseLUKSToken
  · rintro ⟨seedPlain, holderPlain⟩
    exact parseLUKSToken_of_plain quote seedPlain holderPlain

def quotedSeed : BindRequest :=
  ⟨text "/dev/sda2", text "a\",\"p2p_key_seed\":\"b", [], text "server", by decide, by decide, by decide⟩

theorem quoted_seed_misread :
    parseLUKSToken (fun _ => "") quotedSeed.document = .ok (some ⟨[], text "b", [], text "server"⟩) ∧
      parseLUKSToken (fun _ => "") quotedSeed.document ≠ .ok (some quotedSeed.config) := by
  have parsed : parseLUKSToken (fun _ => "") quotedSeed.document =
      .ok (some ⟨[], text "b", [], text "server"⟩) := by
    decide +kernel
  refine ⟨parsed, ?_⟩
  rw [parsed]
  decide

end SyncthingSocket
