import SyncthingSocket.Unlock

/-!
`ClassifyUnlockError` of the mobile bridge, over the errors that `UnlockLUKS` reports.
It looks for phrases in the lower-cased message, so the text of a cause can carry a
phrase of another stage.
-/

namespace SyncthingSocket

open Effect Effect.Program Framing

/-- `unicode.ToLower`. -/
structure Unicode where
  toLower : Char → Char
  ascii : ∀ c : Char, c.toNat < 128 → toLower c = c.toLower

/-- `strings.ToLower`. -/
def Unicode.lower (unicode : Unicode) (s : String) : String :=
  String.ofList (s.toList.map unicode.toLower)

inductive UnlockCategory
  | serverOffline
  | serverUnreachable
  | wrongDevice
  | noNetwork
  | rejected
  | unknown
  deriving DecidableEq, Repr

def UnlockCategory.code : UnlockCategory → String
  | serverOffline => "SERVER_OFFLINE"
  | serverUnreachable => "SERVER_UNREACHABLE"
  | wrongDevice => "WRONG_DEVICE"
  | noNetwork => "NO_NETWORK"
  | rejected => "REJECTED"
  | unknown => "UNKNOWN"

def unlockCases : List (List String × UnlockCategory) :=
  [(["not found in discovery"], .serverOffline),
   (["invitation from relay", "join session", "not found"], .serverUnreachable),
   (["security mismatch"], .wrongDevice),
   (["discovery lookup failed", "no such host", "dial tcp", "network is unreachable", "timeout",
     "deadline exceeded"], .noNetwork),
   (["authentication failed", "unauthorized"], .rejected)]

def firstCase (m : String) : List (List String × UnlockCategory) → UnlockCategory
  | [] => .unknown
  | (phrases, category) :: rest => if phrases.any (containsText m) then category else firstCase m rest

def unlockCategory (unicode : Unicode) (msg : String) : UnlockCategory :=
  firstCase (unicode.lower msg) unlockCases

def classifyUnlockError (unicode : Unicode) (msg : String) : String :=
  (unlockCategory unicode msg).code

theorem UnlockCategory.code_inj {one other : UnlockCategory} :
    one.code = other.code ↔ one = other := by
  cases one <;> cases other <;> decide

def earlierPhrases (category : UnlockCategory) : List String :=
  (unlockCases.takeWhile fun tested => tested.2 ≠ category).flatMap Prod.fst

/-! Phrases in a message that is put together from pieces. -/

variable {label msg phrase : String}

section

variable (unicode : Unicode)

def Unicode.Mentions (s phrase : String) : Prop := containsText (unicode.lower s) phrase = true

instance (s phrase : String) : Decidable (unicode.Mentions s phrase) :=
  inferInstanceAs (Decidable (containsText (unicode.lower s) phrase = true))

def lowerAscii (s : String) : List Char := s.toList.map Char.toLower

def isAscii (s : String) : Bool := s.toList.all fun c => c.toNat < 128

def Clear (label phrase : String) : Bool :=
  isAscii label && !Sequence.abuts (lowerAscii label) phrase.toList && !Sequence.occurs
    (lowerAscii label) phrase.toList

def Labelled (label phrase : String) : Bool :=
  isAscii label && Sequence.occurs (lowerAscii label) phrase.toList

variable {unicode}

theorem lower_ascii (ascii : isAscii label = true) :
    (unicode.lower label).toList = lowerAscii label := by
  rw [Unicode.lower, String.toList_ofList, lowerAscii]
  refine List.map_congr_left fun c member => unicode.ascii c ?_
  simpa using List.all_eq_true.mp ascii c member

theorem mentions_iff (s phrase : String) :
    unicode.Mentions s phrase ↔ phrase.toList <:+: (unicode.lower s).toList := Sequence.occurs_iff _ _

theorem mentions_ascii {s : String} (ascii : isAscii s = true) (phrase : String) :
    unicode.Mentions s phrase ↔ Sequence.occurs (lowerAscii s) phrase.toList = true := by
  rw [mentions_iff, lower_ascii ascii, Sequence.occurs_iff]

theorem unmentioned_ascii {phrases : List String} (ascii : isAscii msg = true)
    (absent : (phrases.any fun phrase => Sequence.occurs (lowerAscii msg) phrase.toList) = false) :
    ∀ phrase ∈ phrases, ¬ unicode.Mentions msg phrase := by
  intro phrase member found
  rw [List.any_eq_true.mpr ⟨phrase, member, (mentions_ascii ascii phrase).mp found⟩] at absent
  contradiction

theorem lower_append (first second : String) :
    (unicode.lower (first ++ second)).toList =
      (unicode.lower first).toList ++ (unicode.lower second).toList := by
  simp [Unicode.lower]

theorem mentions_behind_clear (clear : Clear label phrase = true) (cause : String) :
    unicode.Mentions (label ++ cause) phrase ↔ unicode.Mentions cause phrase := by
  simp only [Clear, Bool.and_eq_true, Bool.not_eq_true'] at clear
  obtain ⟨⟨ascii, apart⟩, absent⟩ := clear
  rw [mentions_iff, mentions_iff, lower_append, lower_ascii ascii, Sequence.infix_behind_label _ apart]
  refine or_iff_right fun inside => ?_
  rw [(Sequence.occurs_iff _ _).mpr inside] at absent
  contradiction

theorem mentions_behind_labelled (labelled : Labelled label phrase = true) (cause : String) :
    unicode.Mentions (label ++ cause) phrase := by
  simp only [Labelled, Bool.and_eq_true, Sequence.occurs_iff] at labelled
  rw [mentions_iff, lower_append, lower_ascii labelled.1]
  exact labelled.2.trans (List.prefix_append _ _).isInfix

theorem mentions_before_labelled (labelled : Labelled label phrase = true) (first : String) :
    unicode.Mentions (first ++ label) phrase := by
  simp only [Labelled, Bool.and_eq_true, Sequence.occurs_iff] at labelled
  rw [mentions_iff, lower_append, lower_ascii labelled.1]
  exact labelled.2.trans (List.suffix_append _ _).isInfix

theorem mentions_before_mark {rest : String} {mark : Char} {tail : List Char} (first : String)
    (begins : (unicode.lower rest).toList = mark :: tail) (absent : mark ∉ phrase.toList) :
    unicode.Mentions (first ++ rest) phrase ↔ unicode.Mentions first phrase ∨
      unicode.Mentions rest phrase := by
  -- What follows begins with a character that the phrase does not have.
  rw [mentions_iff, mentions_iff, mentions_iff, lower_append, begins]
  exact Sequence.infix_before_mark _ absent

/-! The order of the cases. -/

theorem any_contains_iff (phrases : List String) (msg : String) :
    phrases.any (containsText (unicode.lower msg)) = true ↔
      ∃ phrase ∈ phrases, unicode.Mentions msg phrase := by
  rw [List.any_eq_true]
  rfl

theorem firstCase_eq_iff {table : List (List String × UnlockCategory)} {phrases : List String}
    {category : UnlockCategory} (distinct : (table.map Prod.snd).Nodup)
    (tested : (phrases, category) ∈ table)
    (mentioned : ∃ phrase ∈ phrases, unicode.Mentions msg phrase) :
    firstCase (unicode.lower msg) table = category ↔
      ∀ phrase ∈ (table.takeWhile fun tested => tested.2 ≠ category).flatMap Prod.fst,
        ¬ unicode.Mentions msg phrase := by
  induction table with
  | nil => simp at tested
  | cons first rest ih =>
      obtain ⟨others, other⟩ := first
      rw [List.map_cons, List.nodup_cons] at distinct
      rcases List.mem_cons.mp tested with here | later
      · obtain ⟨rfl, rfl⟩ := Prod.mk.inj here
        rw [firstCase, if_pos ((any_contains_iff phrases msg).mpr mentioned)]
        simp
      · have different : other ≠ category := by
          rintro rfl
          exact distinct.1 (List.mem_map.mpr ⟨_, later, rfl⟩)
        rw [firstCase, List.takeWhile_cons_of_pos (by simpa using different), List.flatMap_cons]
        by_cases matched : others.any (containsText (unicode.lower msg)) = true
        · rw [if_pos matched]
          obtain ⟨phrase, member, found⟩ := (any_contains_iff others msg).mp matched
          refine ⟨fun same => absurd same different, fun unmentioned => ?_⟩
          exact absurd found (unmentioned phrase (by simp [member]))
        · rw [if_neg matched, ih distinct.2 later]
          rw [any_contains_iff] at matched
          constructor
          · intro unmentioned phrase member
            rcases List.mem_append.mp member with member | member
            · exact fun found => matched ⟨phrase, member, found⟩
            · exact unmentioned phrase member
          · exact fun unmentioned phrase member => unmentioned phrase (List.mem_append_right _ member)

theorem classify_eq_iff {category : UnlockCategory} (mentioned : unicode.Mentions msg phrase)
    (tested : ∃ tested ∈ unlockCases, tested.2 = category ∧ phrase ∈ tested.1) :
    unlockCategory unicode msg = category ↔
      ∀ phrase ∈ earlierPhrases category, ¬ unicode.Mentions msg phrase := by
  obtain ⟨⟨phrases, _⟩, member, rfl, listed⟩ := tested
  exact firstCase_eq_iff (by decide) member ⟨phrase, listed, mentioned⟩

end

/-! The advice for each stage. -/

def ClientFailure.category : ClientFailure → Option UnlockCategory
  | notFound _ => some .serverOffline
  | lookup _ => some .noNetwork
  | unconnectable => some .serverUnreachable
  | relays _ => some .serverUnreachable
  | mismatch _ _ => some .wrongDevice
  | auth _ => some .rejected
  | badServerID _ => none
  | cancelled _ => none
  | handshake _ => none
  | noCertificates => none

def ClientFailure.Plain (unicode : Unicode) : ClientFailure → Prop
  | lookup cause => ∀ phrase ∈ earlierPhrases .noNetwork, ¬ unicode.Mentions cause.message phrase
  | unconnectable => False
  | relays .unusable => False
  | relays (.invitation host cause) | relays (.session host cause) =>
      ∀ phrase ∈ earlierPhrases .serverUnreachable,
        ¬ (unicode.Mentions host phrase ∨ unicode.Mentions cause.message phrase)
  | auth cause => ∀ phrase ∈ earlierPhrases .rejected, ¬ unicode.Mentions cause.message phrase
  | _ => True

def ClientFailure.report (failure : ClientFailure) : Err := failure.err.wrap "client failed: "

def PrintedID (id : String) : Prop := ∀ c ∈ id.toList, c ∈ deviceIDAlphabet

section

variable {unicode : Unicode} {category : UnlockCategory} {log : Log}

theorem outer_clear (listed : phrase ∈ unlockCases.flatMap Prod.fst) :
    Clear "client failed: " phrase = true := by
  have clear : (unlockCases.flatMap Prod.fst).all (Clear "client failed: ") = true := by decide
  exact List.all_eq_true.mp clear phrase listed

theorem earlier_listed (member : phrase ∈ earlierPhrases category) :
    phrase ∈ unlockCases.flatMap Prod.fst := by
  obtain ⟨tested, listed, inside⟩ := List.mem_flatMap.mp member
  exact List.mem_flatMap.mpr ⟨tested, (List.takeWhile_sublist _).subset listed, inside⟩

theorem stage_classified_iff
    (tested : ∃ tested ∈ unlockCases, tested.2 = category ∧ phrase ∈ tested.1)
    (labelled : Labelled label phrase = true)
    (bare : (earlierPhrases category).all (Clear label) = true) (cause : String) :
    unlockCategory unicode ("client failed: " ++ (label ++ cause)) = category ↔
      ∀ earlier ∈ earlierPhrases category, ¬ unicode.Mentions cause earlier := by
  have listed : phrase ∈ unlockCases.flatMap Prod.fst := by
    obtain ⟨case, member, _, inside⟩ := tested
    exact List.mem_flatMap.mpr ⟨case, member, inside⟩
  have mentioned : unicode.Mentions ("client failed: " ++ (label ++ cause)) phrase :=
    (mentions_behind_clear (outer_clear listed) _).mpr (mentions_behind_labelled labelled cause)
  rw [classify_eq_iff mentioned tested]
  refine forall₂_congr fun earlier member => not_congr ?_
  rw [mentions_behind_clear (outer_clear (earlier_listed member)),
    mentions_behind_clear (List.all_eq_true.mp bare earlier member)]

theorem classify_unknown (ascii : isAscii msg = true)
    (absent : ((unlockCases.flatMap Prod.fst).any fun phrase => Sequence.occurs
      (lowerAscii msg) phrase.toList) = false) :
    unlockCategory unicode msg = .unknown := by
  have unmentioned :
      ∀ tested ∈ unlockCases, ¬ tested.1.any (containsText (unicode.lower msg)) = true := by
    intro tested member matched
    obtain ⟨phrase, inside, found⟩ := (any_contains_iff tested.1 msg).mp matched
    exact unmentioned_ascii ascii absent phrase (List.mem_flatMap.mpr ⟨tested, member, inside⟩) found
  rw [unlockCategory]
  generalize unlockCases = table at unmentioned
  induction table with
  | nil => rfl
  | cons first rest ih =>
      rw [firstCase, if_neg (unmentioned first (by simp))]
      exact ih fun tested member => unmentioned tested (by simp [member])

theorem lower_printed {id : String} (printed : PrintedID id) : ' ' ∉ (unicode.lower id).toList := by
  have letters : (deviceIDAlphabet.all fun c => c.toNat < 128 ∧ c.toLower ≠ ' ') = true := by decide
  rw [Unicode.lower, String.toList_ofList, List.mem_map]
  rintro ⟨c, member, blank⟩
  obtain ⟨small, other⟩ := of_decide_eq_true (List.all_eq_true.mp letters c (printed c member))
  rw [unicode.ascii c small] at blank
  exact other blank

theorem printed_unmentioned {id : String} (printed : PrintedID id) (blank : ' ' ∈ phrase.toList) :
    ¬ unicode.Mentions id phrase := by
  rw [mentions_iff]
  intro found
  exact lower_printed printed (found.subset blank)

theorem notFound_classified (serverID : String) :
    unlockCategory unicode (ClientFailure.notFound serverID).report.message = .serverOffline := by
  have mentioned : unicode.Mentions (ClientFailure.notFound serverID).report.message
    "not found in discovery" := by
    simp only [ClientFailure.report, ClientFailure.err, Err.wrap, Err.message, ← String.append_assoc]
    exact mentions_before_labelled (by decide) _
  have first : earlierPhrases .serverOffline = [] := rfl
  rw [classify_eq_iff mentioned (by decide), first]
  simp

theorem lookup_classified_iff (cause : Err) :
    unlockCategory unicode (ClientFailure.lookup cause).report.message = .noNetwork ↔
      (ClientFailure.lookup cause).Plain unicode := by
  have labelled : Labelled "discovery lookup failed: " "discovery lookup failed" = true := by decide
  exact stage_classified_iff (by decide) labelled (by decide) cause.message

theorem auth_classified_iff (cause : Err) :
    unlockCategory unicode (ClientFailure.auth cause).report.message = .rejected ↔
      (ClientFailure.auth cause).Plain unicode := by
  have labelled : Labelled "authentication failed: " "authentication failed" = true := by decide
  exact stage_classified_iff (by decide) labelled (by decide) cause.message

theorem relay_classified_iff
    (tested : ∃ tested ∈ unlockCases, tested.2 = .serverUnreachable ∧ phrase ∈ tested.1)
    (labelled : Labelled label phrase = true)
    (bare : (earlierPhrases .serverUnreachable).all (Clear label) = true) (host cause : String) :
    unlockCategory unicode ("client failed: " ++ (label ++ host ++ ": " ++ cause)) = .serverUnreachable ↔
      ∀ phrase ∈ earlierPhrases .serverUnreachable,
        ¬ (unicode.Mentions host phrase ∨ unicode.Mentions cause phrase) := by
  have split : label ++ host ++ ": " ++ cause = label ++ (host ++ (": " ++ cause)) := by
    simp only [String.append_assoc]
  have colon : (unicode.lower (": " ++ cause)).toList = ':' :: ' ' :: (unicode.lower cause).toList := by
    rw [lower_append, lower_ascii (by decide)]
    rfl
  have absent : ∀ earlier ∈ earlierPhrases .serverUnreachable, ':' ∉ earlier.toList := by decide
  have behind : (earlierPhrases .serverUnreachable).all (Clear ": ") = true := by decide
  rw [split, stage_classified_iff tested labelled bare]
  refine forall₂_congr fun earlier member => not_congr ?_
  rw [mentions_before_mark host colon (absent earlier member),
    mentions_behind_clear (List.all_eq_true.mp behind earlier member)]

theorem mismatch_classified {peerID serverID : String} (peerPrinted : PrintedID peerID)
    (serverPrinted : PrintedID serverID) :
    unlockCategory unicode (ClientFailure.mismatch peerID serverID).report.message = .wrongDevice := by
  have split : (ClientFailure.mismatch peerID serverID).report.message = "client failed: " ++
      ("security mismatch: connected to device " ++ (peerID ++ (", expected " ++ serverID))) := by
    simp only [ClientFailure.report, ClientFailure.err, Err.wrap, Err.message, String.append_assoc]
  have labelled : Labelled "security mismatch: connected to device " "security mismatch" =
      true := by decide
  have marks : ∀ earlier ∈ earlierPhrases .wrongDevice, ',' ∉ earlier.toList ∧
      ' ' ∈ earlier.toList := by decide
  have behind : (earlierPhrases .wrongDevice).all (Clear ", expected ") = true := by decide
  have comma : (unicode.lower (", expected " ++ serverID)).toList =
      ',' :: (" expected ".toList ++ (unicode.lower serverID).toList) := by
    rw [lower_append, lower_ascii (by decide)]
    rfl
  rw [split, stage_classified_iff (by decide) labelled (by decide)]
  intro earlier member
  obtain ⟨absent, blank⟩ := marks earlier member
  rw [mentions_before_mark peerID comma absent,
    mentions_behind_clear (List.all_eq_true.mp behind earlier member)]
  rintro (inPeer | inServer)
  · exact printed_unmentioned peerPrinted blank inPeer
  · exact printed_unmentioned serverPrinted blank inServer

theorem unconnectable_classified :
    unlockCategory unicode ClientFailure.unconnectable.report.message = .unknown := by
  exact classify_unknown (by decide) (by decide)

theorem unusable_classified :
    unlockCategory unicode (ClientFailure.relays .unusable).report.message = .unknown := by
  exact classify_unknown (by decide) (by decide)

theorem relays_classified_iff (failure : RelayFailure) :
    unlockCategory unicode (ClientFailure.relays failure).report.message = .serverUnreachable ↔
      (ClientFailure.relays failure).Plain unicode := by
  cases failure with
  | unusable =>
      rw [unusable_classified]
      simp [ClientFailure.Plain]
  | invitation host cause =>
      have labelled : Labelled "failed to get invitation from relay " "invitation from relay" =
          true := by decide
      exact relay_classified_iff (by decide) labelled (by decide) host cause.message
  | session host cause =>
      have labelled : Labelled "failed to join session on relay " "join session" = true := by decide
      exact relay_classified_iff (by decide) labelled (by decide) host cause.message

theorem Failing.classified_iff {platform : Platform} {opts : ClientOptions}
    {failure : ClientFailure} (printed : ∀ id, PrintedID (platform.deviceIDString id))
    (failing : Failing platform opts log failure) (expected : failure.category = some category) :
    unlockCategory unicode failure.report.message = category ↔ failure.Plain unicode := by
  cases failing with
  | badServerID _ => simp [ClientFailure.category] at expected
  | cancelled _ _ _ => simp [ClientFailure.category] at expected
  | handshake _ _ => simp [ClientFailure.category] at expected
  | noCertificates _ _ => simp [ClientFailure.category] at expected
  | notFound _ _ _ =>
      cases expected
      exact iff_of_true (notFound_classified _) trivial
  | lookup _ _ _ _ =>
      cases expected
      exact lookup_classified_iff _
  | unconnectable _ _ =>
      cases expected
      rw [unconnectable_classified]
      simp [ClientFailure.Plain]
  | relays _ _ _ =>
      cases expected
      exact relays_classified_iff _
  | mismatch _ _ _ =>
      cases expected
      exact iff_of_true (mismatch_classified (printed _) (printed _)) trivial
  | auth _ _ _ =>
      cases expected
      exact auth_classified_iff _

theorem Failing.reported {platform : Platform} {p2pKeySeed serverDeviceID : String}
    {failure : ClientFailure}
    (failing : Failing platform (unlockOptions serverDeviceID) log failure)
    (mentions : containsText failure.err.message "EOF" = false) (passphrase : Bytes) :
    Runs (unlockLUKS platform passphrase p2pKeySeed serverDeviceID)
      (unlockPrelude passphrase p2pKeySeed ++ log) (.done (some failure.report)) := by
  have result : unlockResult (some failure.err) = some failure.report := by
    simp [unlockResult, mentions, ClientFailure.report]
  rw [← result]
  apply Runs.step
  apply Runs.step
  apply Runs.step
  exact failing.runs.bind fun err => (pure (unlockResult err) : Goroutine (Option Err))

/-- The advice fits the stage exactly when the stage has a phrase of its own and no
phrase of an earlier case stands in the cause. -/
theorem unlock_advice_fits_iff (unicode : Unicode) (platform : Platform)
    (printed : ∀ id, PrintedID (platform.deviceIDString id)) (passphrase : Bytes)
    (p2pKeySeed serverDeviceID : String) {log : Log} {report : Err}
    (answers : RelayAnswers platform log)
    (run : Runs (unlockLUKS platform passphrase p2pKeySeed serverDeviceID)
      (unlockPrelude passphrase p2pKeySeed ++ log) (.done (some report))) :
    (∃ failure, Failing platform (unlockOptions serverDeviceID) log failure) ∧
    ∀ failure category, Failing platform (unlockOptions serverDeviceID) log failure →
      failure.category = some category →
      (classifyUnlockError unicode report.message = category.code ↔ failure.Plain unicode) := by
  rcases unlockLUKS_runs run with ⟨_, _, elsewhere⟩ | ⟨client, ended, same, ran, result⟩
  · exact absurd rfl (elsewhere log)
  obtain rfl : log = client := List.append_cancel_left same
  cases ended with
  | none => simp [unlockResult] at result
  | some err =>
      have reported : report = err.wrap "client failed: " := by
        rw [unlockResult] at result
        split at result
        · simp at result
        · simpa using result
      refine ⟨failing_of_runs answers ran, ?_⟩
      intro failure category failing expected
      have equal := ran.rest_unique failing.runs
      injection equal with equal
      injection equal with equal
      rw [reported, equal, classifyUnlockError, UnlockCategory.code_inj]
      exact failing.classified_iff printed expected

end

/-! Failures on a platform that prints every Device ID alike. -/

def asciiOnly : Unicode where
  toLower := Char.toLower
  ascii _ _ := rfl

def samplePrintedID : String := "AAAAAAA-AAAAAAA-AAAAAAA-AAAAAAA-AAAAAAA-AAAAAAA-AAAAAAA-AAAAAAA"

def printingPlatform : Platform :=
  { referencePlatform with deviceIDString := fun _ => samplePrintedID }

def sampleLookup (answer : Except Err (List String)) : Sigma Answer :=
  ⟨.lookup samplePrintedID defaultDiscoveryURL, answer⟩

theorem timed_out_failing : Failing printingPlatform (unlockOptions "A")
    [sampleLookup (.error (.text "dial tcp: i/o timeout"))]
      (.lookup (.text "dial tcp: i/o timeout")) := by
  have answered : lookup (printingPlatform.deviceIDString serverA)
    (.transportError (.text "dial tcp: i/o timeout")) =
      .error (.text "dial tcp: i/o timeout") := rfl
  exact .lookup rfl rfl answered (by simp)

theorem timed_out_lookup_advised :
    classifyUnlockError asciiOnly (ClientFailure.lookup (.text "dial tcp: i/o timeout")).report.message =
      "NO_NETWORK" := by
  have letters : (samplePrintedID.toList.all fun c => c ∈ deviceIDAlphabet) = true := by decide
  have printed : PrintedID samplePrintedID :=
    fun c member => of_decide_eq_true (List.all_eq_true.mp letters c member)
  have answers :
      RelayAnswers printingPlatform [sampleLookup (.error (.text "dial tcp: i/o timeout"))] := by
    intro relayAddresses err member
    simp [sampleLookup] at member
  have fits := unlock_advice_fits_iff asciiOnly printingPlatform (fun _ => printed) [1] "seed" "A" answers
    (timed_out_failing.reported (by decide) [1])
  refine (fits.2 _ _ timed_out_failing rfl).mpr ?_
  exact unmentioned_ascii (by decide) (by decide)

theorem sample_located (addresses : List String) (undirected : addresses.filter isDirect = []) :
    Located printingPlatform (unlockOptions "A") serverA addresses [sampleLookup (.ok addresses)] := by
  refine ⟨rfl, [sampleLookup (.ok addresses)], [], rfl, ?_, ?_⟩
  · apply Runs.step
    exact Runs.start _
  · simp only [undirected, List.length_nil, gt_iff_lt, Nat.lt_irrefl, and_false, if_false]
    exact Runs.start _

def unreadChallenge (cause : Err) : Log :=
  [sampleLookup (.ok ["relay://host"])] ++
    greeted ["relay://host"] (.ok [Json.utf8 ['A']]) ([⟨.read (.tls .relay) 4, .error cause⟩] ++ hungUp)

def unreadFailure (cause : String) : ClientFailure :=
  .auth (.text ("failed to read auth challenge from server: " ++ cause))

theorem unread_failing (cause : String) :
    Failing printingPlatform (unlockOptions "A") (unreadChallenge (.text cause))
      (unreadFailure cause) := by
  have located := sample_located ["relay://host"] rfl
  have refused : Runs (performClientAuth printingPlatform (.tls .relay) (unlockOptions "A").totpPasscode)
      [⟨.read (.tls .relay) 4, .error (.text cause)⟩]
      (.done (some (.text ("failed to read auth challenge from server: " ++ cause)))) := by
    apply Runs.step
    exact Runs.start _
  exact .auth located (by decide) refused

theorem advice_follows_cause :
    (Failing printingPlatform (unlockOptions "A") [sampleLookup (.ok [])] .unconnectable ∧
      Runs (unlockLUKS printingPlatform [1] "seed" "A")
        (unlockPrelude [1] "seed" ++ [sampleLookup (.ok [])])
        (.done (some ClientFailure.unconnectable.report)) ∧
      classifyUnlockError asciiOnly ClientFailure.unconnectable.report.message = "UNKNOWN") ∧
    (Runs (unlockLUKS printingPlatform [1] "seed" "A")
        (unlockPrelude [1] "seed" ++ unreadChallenge (.text "connection reset by peer"))
        (.done (some (unreadFailure "connection reset by peer").report)) ∧
      classifyUnlockError asciiOnly
        (unreadFailure "connection reset by peer").report.message = "REJECTED") ∧
    Runs (unlockLUKS printingPlatform [1] "seed" "A")
      (unlockPrelude [1] "seed" ++ unreadChallenge (.text "i/o timeout"))
      (.done (some (unreadFailure "i/o timeout").report)) ∧
    classifyUnlockError asciiOnly (unreadFailure "i/o timeout").report.message = "NO_NETWORK" := by
  have unconnectable :
      Failing printingPlatform (unlockOptions "A") [sampleLookup (.ok [])] .unconnectable :=
    .unconnectable (sample_located [] rfl) rfl
  have unknown : unlockCategory asciiOnly ClientFailure.unconnectable.report.message = .unknown :=
    unconnectable_classified
  have rejected : unlockCategory asciiOnly
    (unreadFailure "connection reset by peer").report.message = .rejected :=
    (auth_classified_iff _).mpr (unmentioned_ascii (by decide) (by decide))
  have mentioned : asciiOnly.Mentions (unreadFailure "i/o timeout").report.message "timeout" := by decide
  have network : unlockCategory asciiOnly (unreadFailure "i/o timeout").report.message = .noNetwork :=
    (classify_eq_iff mentioned (by decide)).mpr (unmentioned_ascii (by decide) (by decide))
  simp only [classifyUnlockError, unknown, rejected, network]
  exact ⟨⟨unconnectable, unconnectable.reported (by decide) [1], rfl⟩,
    ⟨(unread_failing _).reported (by decide) [1], rfl⟩,
    (unread_failing _).reported (by decide) [1], rfl⟩

end SyncthingSocket
