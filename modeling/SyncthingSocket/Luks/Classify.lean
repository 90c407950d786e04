import SyncthingSocket.Luks.Token
import SyncthingSocket.Json.Numbers

/-!
Which tokens `parseLUKSToken` takes for ours, which it can use and which it passes
over, for every JSON object that a header may hold.
-/

namespace SyncthingSocket

open Json

inductive TokenField
  | type
  | version
  | seed
  | keyHolder
  | role
  deriving DecidableEq, Repr

/-- The field of `luksToken` that a member of this name is decoded into. -/
def tokenField (key : Text) : Option TokenField :=
  if nameMatches key "type" then some .type
  else if nameMatches key "version" then some .version
  else if nameMatches key "p2p_key_seed" then some .seed
  else if nameMatches key "key_holder_device_id" then some .keyHolder
  else if nameMatches key "unlock_role" then some .role
  else none

def stringStorable : Datum → Bool
  | .null => true
  | .string _ => true
  | _ => false

def intStorable : Datum → Bool
  | .null => true
  | .number raw => (parseInt raw).isSome
  | _ => false

/-- A field takes values of its own type, and `null`. -/
def storable : TokenField → Datum → Bool
  | .version => intStorable
  | _ => stringStorable

def AllStorable (members : List (Text × Datum)) : Prop :=
  ∀ member ∈ members, ∀ field, tokenField member.1 = some field → storable field member.2 = true

/-- What the members say of a field: among several of its name the last, and `null`
says nothing. -/
def given (members : List (Text × Datum)) (field : TokenField) : Option Datum :=
  (members.filter fun member => tokenField member.1 = some field ∧ member.2 ≠ .null).getLast?.map Prod.snd

def stringGiven : Option Datum → Text
  | some (.string raw) => decodeString raw
  | _ => []

def versionGiven : Option Datum → Int
  | some (.number raw) => (parseInt raw).getD 0
  | _ => 0

def LuksToken.ofMembers (members : List (Text × Datum)) : LuksToken where
  type := stringGiven (given members .type)
  version := versionGiven (given members .version)
  seed := stringGiven (given members .seed)
  keyHolderDeviceID := stringGiven (given members .keyHolder)
  role := stringGiven (given members .role)

theorem given_concat (members : List (Text × Datum)) (member : Text × Datum) (field : TokenField) :
    given (members ++ [member]) field =
      if tokenField member.1 = some field ∧ member.2 ≠ .null then some member.2
      else given members field := by
  rw [given, List.filter_append]
  by_cases counts : tokenField member.1 = some field ∧ member.2 ≠ .null
  · rw [if_pos counts]
    simp [counts]
  · rw [if_neg counts, given]
    simp only [List.filter_cons, counts, decide_false, Bool.false_eq_true, ↓reduceIte, List.filter_nil,
      List.append_nil]

variable {members : List (Text × Datum)} {raw : Text}

theorem given_mem {field : TokenField} {datum : Datum} (found : given members field = some datum) :
    ∃ key, (key, datum) ∈ members ∧ tokenField key = some field ∧ datum ≠ .null := by
  obtain ⟨⟨key, value⟩, last, rfl⟩ := Option.map_eq_some_iff.mp found
  have member := List.mem_filter.mp (List.mem_of_getLast? last)
  simp only [decide_eq_true_eq] at member
  exact ⟨key, member⟩

theorem storeString_given (previous : Option Datum) (datum : Datum) :
    storeString (stringGiven previous) datum =
      if stringStorable datum then some
        (stringGiven (if datum ≠ .null then some datum else previous)) else none := by
  cases datum <;> rfl

theorem storeInt_given (previous : Option Datum) (datum : Datum) :
    storeInt (versionGiven previous) datum =
      if intStorable datum then some (versionGiven (if datum ≠ .null then some datum else previous))
      else none := by
  cases datum with
  | number raw =>
      simp only [storeInt, intStorable, ne_eq, reduceCtorEq, not_false_eq_true, ↓reduceIte, versionGiven]
      cases parseInt raw <;> rfl
  | _ => rfl

def LuksToken.put (tok : LuksToken) (datum : Datum) : TokenField → Option LuksToken
  | .type => (storeString tok.type datum).map fun value => { tok with type := value }
  | .version => (storeInt tok.version datum).map fun value => { tok with version := value }
  | .seed => (storeString tok.seed datum).map fun value => { tok with seed := value }
  | .keyHolder =>
      (storeString tok.keyHolderDeviceID datum).map fun value =>
        { tok with keyHolderDeviceID := value }
  | .role => (storeString tok.role datum).map fun value => { tok with role := value }

theorem store_eq (tok : LuksToken) (member : Text × Datum) :
    tok.store member = (tokenField member.1).elim (some tok) (tok.put member.2) := by
  rw [LuksToken.store, tokenField]
  split_ifs <;> rfl

theorem put_ofMembers {key : Text} {datum : Datum} {field : TokenField}
    (named : tokenField key = some field) :
    (LuksToken.ofMembers members).put datum field =
      if storable field datum then some (LuksToken.ofMembers (members ++ [(key, datum)])) else none := by
  cases field with
  | version =>
      simp only [LuksToken.put, LuksToken.ofMembers, storeInt_given, storable, given_concat, named]
      cases intStorable datum <;> simp
  | type | seed | keyHolder | role =>
      simp only [LuksToken.put, LuksToken.ofMembers, storeString_given, storable, given_concat, named]
      cases stringStorable datum <;> simp

theorem store_ofMembers (members : List (Text × Datum)) (member : Text × Datum) (tok : LuksToken) :
    (LuksToken.ofMembers members).store member = some tok ↔
      (∀ field, tokenField member.1 = some field → storable field member.2 = true) ∧
      LuksToken.ofMembers (members ++ [member]) = tok := by
  obtain ⟨key, datum⟩ := member
  rw [store_eq]
  cases named : tokenField key with
  | none => simp [named, LuksToken.ofMembers, given_concat]
  | some field =>
      rw [Option.elim_some, put_ofMembers named]
      by_cases fits : storable field datum = true
      · simp [fits]
      · simp [fits]

theorem members_decoded (members : List (Text × Datum)) (tok : LuksToken) :
    members.foldlM LuksToken.store {} = some tok ↔ AllStorable members ∧
      LuksToken.ofMembers members = tok := by
  induction members using List.reverseRecOn generalizing tok with
  | nil => simp [AllStorable, LuksToken.ofMembers, given, stringGiven, versionGiven]
  | append_singleton members member ih =>
      rw [List.foldlM_append]
      simp only [List.foldlM_cons, List.foldlM_nil, bind_pure]
      constructor
      · intro decoded
        obtain ⟨earlier, before, last⟩ := Option.bind_eq_some_iff.mp decoded
        obtain ⟨fits, rfl⟩ := (ih earlier).mp before
        obtain ⟨here, same⟩ := (store_ofMembers members member tok).mp last
        refine ⟨?_, same⟩
        intro other listed
        rcases List.mem_append.mp listed with listed | listed
        · exact fits other listed
        · exact List.mem_singleton.mp listed ▸ here
      · rintro ⟨fits, same⟩
        refine Option.bind_eq_some_iff.mpr ⟨LuksToken.ofMembers members, (ih _).mpr ⟨?_, rfl⟩, ?_⟩
        · exact fun other listed => fits other (List.mem_append_left _ listed)
        · exact (store_ofMembers members member tok).mpr ⟨fits member (by simp), same⟩

/-! The number 1 has one spelling. -/

theorem parseDigits_stops {n : Nat} {digits : Text} {c : Char} (member : .char c ∈ digits)
    (mark : c.isDigit = false) : ∃ why, Text.parseDigits n digits = .error why := by
  induction digits generalizing n with
  | nil => simp at member
  | cons rune digits ih =>
      cases rune with
      | invalid byte => exact ⟨_, rfl⟩
      | char d =>
          rw [Text.parseDigits]
          by_cases digit : d.isDigit = true
          · have later : .char c ∈ digits := by
              rcases List.mem_cons.mp member with same | later
              · cases same
                simp [digit] at mark
              · exact later
            simp only [digit, ↓reduceIte]
            split
            · exact ih later
            · exact ⟨_, rfl⟩
          · rw [if_neg digit]
            exact ⟨_, rfl⟩

theorem parseInt_negative {digits : Text} {value : Int}
    (parsed : parseInt (.char '-' :: digits) = some value) :
    value ≤ 0 := by
  simp only [parseInt, signedDigits, ↓reduceIte] at parsed
  split_ifs at parsed
  split at parsed
  · simp at parsed
  · split_ifs at parsed
    cases parsed
    rw [Int.negOfNat_eq, Int.ofNat_eq_natCast]
    omega

theorem parseInt_marked {c : Char} (member : .char c ∈ raw) (mark : c = '.' ∨ c = 'e' ∨ c = 'E') :
    parseInt raw = none := by
  have noDigit : c.isDigit = false := by rcases mark with rfl | rfl | rfl <;> decide
  have unsigned : c ≠ '-' := by rcases mark with rfl | rfl | rfl <;> decide
  have stops {negative : Bool} {digits : Text} (member : .char c ∈ digits) :
      signedDigits negative digits = none := by
    obtain ⟨why, failed⟩ := parseDigits_stops (n := 0) member noDigit
    simp [signedDigits, failed]
  rw [parseInt.eq_def]
  split
  · next digits =>
      have later : .char c ∈ digits := by
        rcases List.mem_cons.mp member with same | later
        · injection same with same
          exact absurd same unsigned
        · exact later
      exact stops later
  · exact stops member

theorem spelled_one {place : NumberStep} (spelled : place.Spelled raw)
    (final : place.final = true) (one : parseInt raw = some 1) : raw = text "1" := by
  cases place with
  | neg | dot | exp | expSign => exact absurd final (by decide)
  | zero => rcases spelled with rfl | rfl <;> exact absurd one (by decide)
  | frac | expDigits =>
      obtain ⟨c, member, mark⟩ := spelled
      rw [parseInt_marked member mark] at one
      simp at one
  | int =>
      obtain ⟨sign, c, digits, rfl, rfl | rfl, nonzero, digit⟩ := spelled
      · exact parseInt_one digit nonzero one
      · exact absurd (parseInt_negative one) (by decide)

theorem version_one (spelled : ∀ key raw, (key, Datum.number raw) ∈ members →
      ∃ place : NumberStep, place.final = true ∧ place.Spelled raw) :
    versionGiven (given members .version) = 1 ↔ given members .version = some (.number (text "1")) := by
  constructor
  · intro one
    cases found : given members .version with
    | none => simp [found, versionGiven] at one
    | some datum =>
        cases datum with
        | number raw =>
            obtain ⟨key, member, _⟩ := given_mem found
            obtain ⟨place, final, here⟩ := spelled key raw member
            simp only [found, versionGiven] at one
            cases parsed : parseInt raw with
            | none => simp [parsed] at one
            | some value =>
                simp only [parsed, Option.getD_some] at one
                rw [spelled_one here final (one ▸ parsed)]
        | _ => simp [found, versionGiven] at one
  · intro found
    rw [found]
    decide

/-! The verdicts. -/

/-- The `type` member is the string that marks our tokens. -/
def IsOurs (members : List (Text × Datum)) : Prop :=
  ∃ raw, given members .type = some (.string raw) ∧ decodeString raw = luksTokenType

def KnownRole (role : Text) : Prop := role = [] ∨ role = text "client" ∨ role = text "server"

/-- A token that can be used: every member of ours has a value of its field's type,
the version is the literal 1, the seed a string that is not empty, and the role known. -/
structure UsableToken (members : List (Text × Datum)) : Prop where
  storable : AllStorable members
  version : given members .version = some (.number (text "1"))
  seed : ∃ raw, given members .seed = some (.string raw) ∧ decodeString raw ≠ []
  role : KnownRole (stringGiven (given members .role))

def configGiven (members : List (Text × Datum)) : LuksConfig where
  device := []
  seed := stringGiven (given members .seed)
  keyHolderDeviceID := stringGiven (given members .keyHolder)
  role := if stringGiven (given members .role) =
    [] then text "client" else stringGiven (given members .role)

/-- Exactly the verdicts a reader of tokens should give on a document with these members. -/
structure ExactlyClassified (quote : Text → String)
    (raw : Text) (members : List (Text × Datum)) : Prop where
  foreign : ¬ IsOurs members → parseLUKSToken quote raw = .ok none
  usable : IsOurs members → ∀ cfg, parseLUKSToken quote raw = .ok (some cfg) ↔
    UsableToken members ∧ cfg = configGiven members
  unusable : IsOurs members → ¬ UsableToken members → ∃ err, parseLUKSToken quote raw = .error err

theorem isOurs_iff (members : List (Text × Datum)) :
    IsOurs members ↔ (LuksToken.ofMembers members).type = luksTokenType := by
  have unnamed : luksTokenType ≠ [] := by decide
  rw [LuksToken.ofMembers, IsOurs]
  cases found : given members .type with
  | none => simp [stringGiven, unnamed.symm]
  | some datum => cases datum <;> simp [stringGiven, unnamed.symm]

theorem seed_given (members : List (Text × Datum)) :
    (∃ raw, given members .seed = some (.string raw) ∧ decodeString raw ≠ []) ↔
      (LuksToken.ofMembers members).seed ≠ [] := by
  rw [LuksToken.ofMembers]
  cases found : given members .seed with
  | none => simp [stringGiven]
  | some datum => cases datum <;> simp [stringGiven]

theorem parseLUKSToken_foreign {quote : Text → String} {tok : LuksToken}
    (decoded : unmarshalToken raw = some tok) (foreign : tok.type ≠ luksTokenType) :
    parseLUKSToken quote raw = .ok none := by
  simp [parseLUKSToken, decoded, foreign]

theorem parseLUKSToken_ours {quote : Text → String} {tok : LuksToken}
    (decoded : unmarshalToken raw = some tok) (ours : tok.type = luksTokenType) :
    (tok.version = 1 ∧ tok.seed ≠ [] ∧ KnownRole tok.role ∧ parseLUKSToken quote raw =
      .ok (some ⟨[], tok.seed, tok.keyHolderDeviceID,
        if tok.role = [] then text "client" else tok.role⟩)) ∨
    (¬ (tok.version = 1 ∧ tok.seed ≠ [] ∧ KnownRole tok.role) ∧
      ∃ err, parseLUKSToken quote raw = .error err) := by
  simp only [parseLUKSToken, decoded, ours, ne_eq, not_true_eq_false, ↓reduceIte]
  by_cases version : tok.version = luksTokenVersion
  · simp only [version, not_true_eq_false, ↓reduceIte]
    by_cases seed : tok.seed = []
    · simp [seed]
    · by_cases known : KnownRole tok.role
      · refine Or.inl ⟨rfl, seed, known, ?_⟩
        rcases known with none | client | server
        · simp [seed, none]
        · simp [seed, client]
        · simp [seed, server, show text "server" ≠ [] by decide]
      · refine Or.inr ⟨fun all => known all.2.2, ?_⟩
        simp only [KnownRole, not_or] at known
        simp [seed, known]
  · refine Or.inr ⟨fun all => version all.1, ?_⟩
    simp only [version, not_false_eq_true, ↓reduceIte]
    split
    · exact ⟨_, rfl⟩
    · exact ⟨_, rfl⟩

def IsObject (raw : Text) (members : List (Text × Datum)) : Prop :=
  ∃ scanned, scanDeep raw = some scanned ∧ scanned.top = some .object ∧ scanned.members = members

theorem unmarshalToken_object (object : IsObject raw members) (shallow : (scan raw).isSome = true) :
    unmarshalToken raw = members.foldlM LuksToken.store {} := by
  obtain ⟨scanned, deep, top, rfl⟩ := object
  obtain ⟨found, accepted⟩ := Option.isSome_iff_exists.mp shallow
  have same := scanDeep_of_scan accepted
  rw [deep, Option.some.injEq] at same
  subst same
  simp only [unmarshalToken, accepted, top]

theorem unmarshal_storable (object : IsObject raw members)
    (shallow : (scan raw).isSome = true) (storable : AllStorable members) :
    unmarshalToken raw = some (LuksToken.ofMembers members) := by
  rw [unmarshalToken_object object shallow]
  exact (members_decoded members _).mpr ⟨storable, rfl⟩

theorem unmarshal_unstorable (object : IsObject raw members) (shallow : (scan raw).isSome = true)
    (unstorable : ¬ AllStorable members) : unmarshalToken raw = none := by
  rw [unmarshalToken_object object shallow, Option.eq_none_iff_forall_ne_some]
  intro tok decoded
  exact unstorable ((members_decoded members tok).mp decoded).1

theorem parseLUKSToken_undecoded {quote : Text → String} (failed : unmarshalToken raw = none) :
    parseLUKSToken quote raw = .error (.text "json") := by
  rw [parseLUKSToken, failed]

theorem classified_ours {quote : Text → String}
    (object : IsObject raw members) (shallow : (scan raw).isSome = true) (ours : IsOurs members) :
    ExactlyClassified quote raw members := by
  have spelled : ∀ key raw, (key, Datum.number raw) ∈ members →
      ∃ place : NumberStep, place.final = true ∧ place.Spelled raw := by
    obtain ⟨scanned, deep, _, rfl⟩ := object
    exact (scanDeep_spelled deep).members
  have usable_iff : ∀ storable : AllStorable members, UsableToken members ↔
      (LuksToken.ofMembers members).version = 1 ∧ (LuksToken.ofMembers members).seed ≠ [] ∧
        KnownRole (LuksToken.ofMembers members).role := by
    intro storable
    rw [← seed_given]
    constructor
    · rintro ⟨_, version, seed, role⟩
      exact ⟨(version_one spelled).mpr version, seed, role⟩
    · rintro ⟨version, seed, role⟩
      exact ⟨storable, (version_one spelled).mp version, seed, role⟩
  have verdict : (UsableToken members ∧ parseLUKSToken quote raw = .ok (some (configGiven members))) ∨
      (¬ UsableToken members ∧ ∃ err, parseLUKSToken quote raw = .error err) := by
    by_cases storable : AllStorable members
    · rw [usable_iff storable]
      have decoded := unmarshal_storable object shallow storable
      rcases parseLUKSToken_ours decoded ((isOurs_iff members).mp ours) with
        ⟨version, seed, role, parsed⟩ | failed
      · exact Or.inl ⟨⟨version, seed, role⟩, parsed⟩
      · exact Or.inr failed
    · refine Or.inr ⟨fun usable => storable usable.storable, ?_⟩
      exact ⟨_, parseLUKSToken_undecoded (unmarshal_unstorable object shallow storable)⟩
  refine ⟨fun foreign => absurd ours foreign, fun _ cfg => ?_, fun _ unusable => ?_⟩
  · rcases verdict with ⟨usable, parsed⟩ | ⟨unusable, err, parsed⟩
    · simp [parsed, usable, eq_comm]
    · simp [parsed, unusable]
  · exact (verdict.resolve_left fun usable => unusable usable.1).2

/-- The verdict on a document is right when the decoder accepts its nesting, and it
either is ours or holds nothing under our names that the struct's fields do not take;
a document that is nested too deeply is refused, which is right for an unusable one. -/
theorem tokens_classified_iff (quote : Text → String) {raw : Text} {members : List (Text × Datum)}
    (object : IsObject raw members) :
    ExactlyClassified quote raw members ↔
      ((scan raw).isSome = true ∧ (IsOurs members ∨ AllStorable members)) ∨
      (IsOurs members ∧ ¬ UsableToken members) := by
  -- nested too deeply, a document is an error for the decoder whatever it says
  by_cases shallow : (scan raw).isSome = true
  · by_cases ours : IsOurs members
    · simp only [shallow, ours, true_or, and_self, iff_true]
      exact classified_ours object shallow ours
    · simp only [shallow, ours, false_or, true_and, false_and, or_false]
      constructor
      · intro classified
        have parsed := classified.foreign ours
        by_contra unstorable
        rw [parseLUKSToken_undecoded (unmarshal_unstorable object shallow unstorable)] at parsed
        simp at parsed
      · intro storable
        have decoded := unmarshal_storable object shallow storable
        refine ⟨fun _ => parseLUKSToken_foreign decoded ?_, fun yes => absurd yes ours,
          fun yes => absurd yes ours⟩
        exact fun type => ours ((isOurs_iff members).mpr type)
  · have failed : unmarshalToken raw = none := by
      simp only [Option.not_isSome_iff_eq_none] at shallow
      rw [unmarshalToken, shallow]
    have refused : parseLUKSToken quote raw = .error (.text "json") := parseLUKSToken_undecoded failed
    simp only [shallow, false_and, false_or, Bool.false_eq_true]
    constructor
    · intro classified
      have ours : IsOurs members := by
        by_contra foreign
        have parsed := classified.foreign foreign
        rw [refused] at parsed
        simp at parsed
      refine ⟨ours, fun usable => ?_⟩
      have parsed := (classified.usable ours (configGiven members)).mpr ⟨usable, rfl⟩
      rw [refused] at parsed
      simp at parsed
    · rintro ⟨ours, unusable⟩
      refine ⟨fun foreign => absurd ours foreign, fun _ cfg => ?_, fun _ _ => ⟨_, refused⟩⟩
      simp [refused, unusable]

def clevisDocument : Text := text "\x7b\"type\":\"clevis\",\"keyslots\":[\"1\"]\x7d"

def clevisMembers : List (Text × Datum) :=
  [(text "type", .string (text "clevis")), (text "keyslots", .array)]

theorem clevis_classified : ExactlyClassified (fun _ => "") clevisDocument clevisMembers := by
  have object : IsObject clevisDocument clevisMembers :=
    ⟨⟨.endTop, [], text "keyslots", clevisMembers, some .object⟩, by decide +kernel, rfl, rfl⟩
  refine (tokens_classified_iff (fun _ => "") object).mpr (Or.inl ⟨by decide +kernel, Or.inr ?_⟩)
  rintro member listed field named
  simp only [clevisMembers, List.mem_cons, List.not_mem_nil, or_false] at listed
  rcases listed with rfl | rfl
  · rw [show tokenField (text "type") = some .type by decide] at named
    cases named
    rfl
  · rw [show tokenField (text "keyslots") = none by decide] at named
    cases named

def versionedDocument : Text := text "\x7b\"type\":\"clevis\",\"version\":\"2\"\x7d"

def versionedMembers : List (Text × Datum) :=
  [(text "type", .string (text "clevis")), (text "version", .string (text "2"))]

theorem foreign_token_refused : IsObject versionedDocument versionedMembers ∧
    ¬ ExactlyClassified (fun _ => "") versionedDocument versionedMembers := by
  have object : IsObject versionedDocument versionedMembers :=
    ⟨⟨.endTop, [], text "version", versionedMembers, some .object⟩, by decide +kernel, rfl, rfl⟩
  refine ⟨object, ?_⟩
  intro classified
  have foreign : ¬ IsOurs versionedMembers := by
    rw [isOurs_iff]
    decide
  have parsed := classified.foreign foreign
  exact absurd parsed (by decide +kernel)

end SyncthingSocket
