import SyncthingSocket.Effect.Transition
import SyncthingSocket.Signing.Identity

/-!
Many runs of `generate_keystore` on one disk: what is pinned stays, the files of a role are
those of its pinned identity, and the seed of an identity writes it again.
-/

namespace SyncthingSocket

open Framing OpenPGP Effect Effect.Program

section

variable {Point : Type} (kit : SigningKit Point)

def pinPath (role : Text) : Text :=
  if role = debianRole then pinnedKeyPath kit role else pinnedCertPath kit role

def identityFiles (role : Text) : List Text :=
  if role = debianRole then [secretPath role, pubPath role] else [keyPath role, certPath role]

def IsName (role : Text) : Prop := .char '/' ∉ role

def RunStep [DecidableEq Point] (before : Machine) (args : List Text) (after : Machine) : Prop :=
  ∃ history rest, Runs (generateKeystore kit args) history rest ∧
    Carries (signEffects kit) history { before with stdout := [], failed := false } after

/-- The pin of a role is as it was, and each of its files holds what it held or, as far as
it was written, what the identity that is pinned has in it. -/
def PinKept (role : Text) (start machine : Machine) : Prop :=
  machine.disk (pinPath kit role) = start.disk (pinPath kit role) ∧
    ∀ path ∈ identityFiles role, machine.disk path = start.disk path ∨
      ∃ seed plan contents held, Signs kit start.disk ⟨false, seed, role⟩ plan ∧
        (path, contents) ∈ plan.writes ∧
        held <+: contents ∧ machine.disk path = some held

def publicIdentity (role seed : Text) : Except Err (Point ⊕ Bytes) :=
  if role = debianRole then
    (deriveEd25519Key kit seed role).map fun priv => .inr (transferablePublicKey kit.crypto priv)
  else (deriveECKey kit seed role).map fun priv => .inl priv.pub

def LeavesPin (role : Text) (_ : Machine) (args : List Text) : Prop :=
  ∃ request, parseArgs args = some request ∧ IsName request.role ∧
    ¬ (request.bootstrap = true ∧ request.role = role)

end

section

variable {Point : Type} {kit : SigningKit Point} {disk other : Disk Text Rune}
  {request : SignRequest} {plan : SignPlan}
  {role : Text}

/-! Names of files. -/

theorem join_signing {name : Text} (plain : IsName name) (long : 2 < name.length) :
    kit.join (text "signing") name = text "signing" ++ text "/" ++ name := by
  have apart : ∀ short : Text, short.length ≤ 2 → name ≠ short := by
    rintro short size rfl
    omega
  exact kit.join_plain _ _ (by decide) plain (by decide) (apart _ (by decide)) (by decide)
    (apart _ (by decide)) (by decide)
    (apart _ (by decide))

theorem IsName.append {first second : Text} (one : IsName first) (two : IsName second) :
    IsName (first ++ second) :=
  fun found => (List.mem_append.mp found).elim one two

theorem pinPath_eq (name : IsName role) : pinPath kit role =
    text "signing" ++ text "/" ++
      (role ++ if role = debianRole then text "-pub.asc" else text "-cert.pem") := by
  rw [pinPath]
  split
  · exact join_signing (name.append (show .char '/' ∉ text "-pub.asc" by decide))
      (by rw [List.length_append]; exact Nat.lt_add_left _ (by decide))
  · exact join_signing (name.append (show .char '/' ∉ text "-cert.pem" by decide))
      (by rw [List.length_append]; exact Nat.lt_add_left _ (by decide))

theorem endings_apart (first second : Text) :
    first ++ text "-pub.asc" ≠ second ++ text "-cert.pem" := by
  intro same
  have last := congrArg List.getLast? same
  rw [List.getLast?_append, List.getLast?_append,
    show (text "-pub.asc").getLast? = some (.char 'c') by decide,
    show (text "-cert.pem").getLast? = some (.char 'm') by decide] at last
  exact absurd (Option.some.inj last) (by decide)

theorem pinPath_injective {first second : Text} (one : IsName first) (two : IsName second)
    (same : pinPath kit first = pinPath kit second) : first = second := by
  rw [pinPath_eq one, pinPath_eq two] at same
  have names := List.append_cancel_left same
  split at names
  · next debian =>
      split at names
      · next also => rw [debian, also]
      · exact absurd names (endings_apart _ _)
  · split at names
    · exact absurd names.symm (endings_apart _ _)
    · exact List.append_cancel_right names

def fileKinds : List (Text × Text) :=
  [(text "secret_", text ".asc"), (text "pub_", text ".asc"), (text "key_", text ".pem"),
    (text "cert_", text ".pem")]

theorem identityFiles_kind {path : Text} (member : path ∈ identityFiles role) :
    ∃ kind ∈ fileKinds, path = kind.1 ++ role ++ kind.2 := by
  rw [identityFiles] at member
  split at member
  · rcases List.mem_cons.mp member with rfl | rest
    · exact ⟨_, List.mem_cons_self, rfl⟩
    · exact ⟨_, List.mem_cons_of_mem _ List.mem_cons_self, List.mem_singleton.mp rest⟩
  · rcases List.mem_cons.mp member with rfl | rest
    · exact ⟨_, List.mem_cons_of_mem _ (List.mem_cons_of_mem _ List.mem_cons_self), rfl⟩
    · exact ⟨(text "cert_", text ".pem"), by decide, List.mem_singleton.mp rest⟩

theorem fileKinds_head {kind : Text × Text} (known : kind ∈ fileKinds) (rest : Text) :
    (kind.1 ++ rest).head? = kind.1.head? ∧ .char '/' ∉ kind.1 ++ kind.2 := by
  have all : fileKinds.all
    (fun kind => kind.1.head?.isSome && decide (.char '/' ∉ kind.1 ++ kind.2)) = true := by decide
  have checked := List.all_eq_true.mp all kind known
  simp only [Bool.and_eq_true, decide_eq_true_eq] at checked
  refine ⟨?_, checked.2⟩
  rw [List.head?_append]
  exact Option.or_of_isSome checked.1

theorem identityFiles_owner {path first second : Text} (one : path ∈ identityFiles first)
    (two : path ∈ identityFiles second) :
    first = second := by
  obtain ⟨kind, known, rfl⟩ := identityFiles_kind one
  obtain ⟨again, also, same⟩ := identityFiles_kind two
  have told : fileKinds.all (fun kind => fileKinds.all fun again =>
      decide (kind.1.head? = again.1.head? → kind = again)) = true := by decide
  have heads := congrArg List.head? same
  rw [List.append_assoc, List.append_assoc, (fileKinds_head known _).1,
    (fileKinds_head also _).1] at heads
  obtain rfl :=
    of_decide_eq_true (List.all_eq_true.mp (List.all_eq_true.mp told kind known) again also) heads
  exact List.append_cancel_left (List.append_cancel_right same)

theorem identityFiles_not_pin {path pinned : Text} (name : IsName role) (pinnedName : IsName pinned)
    (member : path ∈ identityFiles role) : path ≠ pinPath kit pinned := by
  intro same
  obtain ⟨kind, known, rfl⟩ := identityFiles_kind member
  have slash : Rune.char '/' ∈ kind.1 ++ role ++ kind.2 := by
    rw [same, pinPath_eq pinnedName]
    exact List.mem_append_left _ (by decide)
  have plain := (fileKinds_head known []).2
  rcases List.mem_append.mp slash with front | back
  · rcases List.mem_append.mp front with front | middle
    · exact plain (List.mem_append_left _ front)
    · exact name middle
  · exact plain (List.mem_append_right _ back)

/-! Which files a plan has. -/

theorem Signs.files (signs : Signs kit disk request plan) : ∀ file ∈ plan.writes,
    (request.bootstrap = true ∧ file.1 = pinPath kit request.role) ∨
      file.1 ∈ identityFiles request.role := by
  cases signs with
  | verified _ x509 =>
      intro file member
      rw [identityFiles, if_neg x509]
      exact .inr (List.mem_map_of_mem member)
  | minted _ x509 =>
      intro file member
      rw [identityFiles, if_neg x509, pinPath, if_neg x509]
      rcases List.mem_cons.mp member with rfl | rest
      · exact .inl ⟨rfl, rfl⟩
      · exact .inr (List.mem_map_of_mem rest)
  | reproduced =>
      intro file member
      exact .inr (List.mem_map_of_mem member)
  | published =>
      intro file member
      rcases List.mem_cons.mp member with rfl | rest
      · exact .inl ⟨rfl, rfl⟩
      · exact .inr (List.mem_map_of_mem rest)

theorem Signs.congr {seed : Text} (signs : Signs kit disk ⟨false, seed, role⟩ plan)
    (same : other (pinPath kit role) = disk (pinPath kit role)) :
    Signs kit other ⟨false, seed, role⟩ plan := by
  cases signs with
  | verified given x509 derived found =>
      rw [pinPath, if_neg x509] at same
      exact .verified given x509 derived (same.trans found) ‹_› ‹_› ‹_› ‹_›
  | reproduced given derived found agrees => exact .reproduced given derived (same.trans found) agrees

theorem FollowsPin.stages {start machine : Machine}
    (follows : FollowsPin kit start request machine) :
    machine.disk = start.disk ∨ ∃ plan, Signs kit start.disk request plan ∧
      Disk.Stages start.disk plan.writes machine.disk := by
  rcases follows with partly | ⟨plan, _, signs, whole, _⟩
  · exact partly.2
  · have all := Disk.Stages.between start.disk plan.writes []
    rw [List.append_nil, ← whole] at all
    exact .inr ⟨plan, signs, all⟩

theorem pinKept_step [DecidableEq Point] {start before after : Machine} {args : List Text}
    (name : IsName role) (kept : PinKept kit role start before)
    (allowed : LeavesPin role before args) (taken : RunStep kit before args after) :
    PinKept kit role start after := by
  obtain ⟨⟨bootstrap, seed, asked⟩, parsed, askedName, leaves⟩ := allowed
  obtain ⟨history, rest, run, carries⟩ := taken
  have follows := ((generateKeystore_holds parsed).runs (.inl ⟨rfl, .inl rfl⟩) run carries).1
  rcases follows.stages with same | ⟨plan, signs, stages⟩
  · rw [PinKept, show after.disk = before.disk from same]
    exact kept
  have files := signs.files
  refine ⟨?_, fun path member => ?_⟩
  · -- a run writes no pin but that of the role it pins
    refine (stages.untouched fun file written same => ?_).trans kept.1
    rcases files file written with ⟨pins, path⟩ | identity
    · exact leaves ⟨pins, pinPath_injective askedName name (path.symm.trans same)⟩
    · exact identityFiles_not_pin askedName name identity same
  · rcases stages.held path with same | ⟨contents, held, written, part, holds⟩
    · rw [same]
      exact kept.2 path member
    · -- a file of the role is written only for the role, and then for its pinned identity
      rcases files _ written with ⟨_, pin⟩ | identity
      · exact absurd pin (identityFiles_not_pin name askedName member)
      · obtain rfl := identityFiles_owner identity member
        have verifies : bootstrap = false := by
          cases bootstrap with
          | false => rfl
          | true => exact absurd ⟨rfl, rfl⟩ leaves
        subst verifies
        exact .inr ⟨seed, plan, contents, held, signs.congr kept.1.symm, written, part, holds⟩

/-- However often the tool runs, with whatever seeds and also when it is stopped or an
operation fails: a role that is not pinned anew keeps its pin, and what its files hold is
the identity that is pinned. -/
theorem pinned_identity_kept [DecidableEq Point] {start machine : Machine} (name : IsName role)
    (reached : Reach (RunStep kit) (LeavesPin role) start machine) :
    PinKept kit role start machine :=
  reached.invariant ⟨rfl, fun _ _ => .inl rfl⟩ fun _ _ _ kept allowed taken =>
    pinKept_step name kept allowed taken

theorem two_runs_keep_app : ∃ machine,
    Reach (RunStep sampleKit) (LeavesPin (text "app")) pinnedApp.2 machine ∧
      PinKept sampleKit (text "app") pinnedApp.2 machine := by
  have other : Reach (RunStep sampleKit) (LeavesPin (text "app")) pinnedApp.2 _ :=
    Reach.here.take [text "t", text "app"] ⟨⟨false, text "t", text "app"⟩, rfl,
      by unfold IsName; decide, by decide⟩
      ⟨_, _, play_runs smoothly _ _, play_carries smoothly_sound _ _⟩
  have both := other.take [text "s", text "app"] ⟨⟨false, text "s", text "app"⟩, rfl,
    by unfold IsName; decide, by decide⟩
    ⟨_, _, play_runs smoothly _ _, play_carries smoothly_sound _ _⟩
  exact ⟨_, both, pinned_identity_kept (by unfold IsName; decide) both⟩

/-! Pinning, and then writing again. -/

theorem identityFiles_nodup (role : Text) : (identityFiles role).Nodup := by
  have heads : ∀ (first second : Text × Text), first ∈ fileKinds → second ∈ fileKinds →
      first.1.head? ≠ second.1.head? →
      first.1 ++ role ++ first.2 ≠ second.1 ++ role ++ second.2 := by
    intro first second known also differ same
    have begins := congrArg List.head? same
    rw [List.append_assoc, List.append_assoc, (fileKinds_head known _).1,
      (fileKinds_head also _).1] at begins
    exact differ begins
  rw [identityFiles]
  split
  · exact List.nodup_cons.mpr ⟨fun found => heads (text "secret_", text ".asc") (text "pub_",
      text ".asc") (by decide)
      (by decide) (by decide) (List.mem_singleton.mp found), List.nodup_singleton _⟩
  · exact List.nodup_cons.mpr ⟨fun found => heads (text "key_", text ".pem") (text "cert_",
      text ".pem") (by decide)
      (by decide) (by decide) (List.mem_singleton.mp found), List.nodup_singleton _⟩

theorem Signs.pinning {seed : Text} (signs : Signs kit disk ⟨true, seed, role⟩ plan) :
    ∃ pin again, plan = again.pinning (pinPath kit role) pin ∧
      again.writes.map Prod.fst = identityFiles role ∧
      ∀ later : Disk Text Rune, later (pinPath kit role) = some pin →
        Signs kit later ⟨false, seed, role⟩ again := by
  cases signs with
  | minted given x509 derived parsed marshalled word =>
      rw [pinPath, identityFiles, if_neg x509, if_neg x509]
      refine ⟨_, _, rfl, rfl, fun later found => ?_⟩
      exact .verified given x509 derived found (kit.pemDecode_encode _) parsed marshalled word
  | published given derived =>
      exact ⟨_, _, rfl, rfl, fun later found => .reproduced given derived found rfl⟩

theorem Signs.unique {seed : Text} {again : SignPlan}
    (first : Signs kit disk ⟨false, seed, role⟩ plan)
    (second : Signs kit disk ⟨false, seed, role⟩ again) : plan = again := by
  cases first with
  | verified _ x509 derived found decoded _ marshalled word =>
      cases second with
      | verified _ _ derivedAgain foundAgain decodedAgain _ marshalledAgain wordAgain =>
          obtain rfl := Except.ok.inj (derived.symm.trans derivedAgain)
          obtain rfl := Option.some.inj (found.symm.trans foundAgain)
          obtain ⟨rfl, rfl⟩ := Prod.mk.inj (Option.some.inj (decoded.symm.trans decodedAgain))
          obtain rfl := Except.ok.inj (marshalled.symm.trans marshalledAgain)
          obtain rfl := Except.ok.inj (word.symm.trans wordAgain)
          rfl
      | reproduced => exact absurd rfl x509
  | reproduced _ derived =>
      cases second with
      | verified _ x509 => exact absurd rfl x509
      | reproduced _ derivedAgain =>
          obtain rfl := Except.ok.inj (derived.symm.trans derivedAgain)
          rfl

theorem publicArmor_trimmed_iff {priv again : PrivateKey} :
    (publicArmor kit priv).trimSpace = (publicArmor kit again).trimSpace ↔
      transferablePublicKey kit.crypto priv = transferablePublicKey kit.crypto again := by
  refine ⟨fun same => ?_, fun same => by rw [publicArmor, publicArmor, same]⟩
  have unbroken : .char '\n' ∉ publicBlock := by decide
  have texts : publicArmor kit priv = publicArmor kit again := by
    rw [publicArmor, ← armor_trimmed, ← publicArmor, same]
    exact armor_trimmed _ _
  have lines := armorLines_split unbroken (transferablePublicKey kit.crypto priv)
  rw [show unlines (armorLines publicBlock (transferablePublicKey kit.crypto priv)) = _ from texts,
    publicArmor, armorLines_split unbroken] at lines
  exact (armorLines_injective (List.append_cancel_right lines)).symm

theorem Signs.admits {seed other pin : Text} {rest : List (Text × Text)} {later : Disk Text Rune}
    (signs : Signs kit disk ⟨true, seed, role⟩ plan)
    (writes : plan.writes = (pinPath kit role, pin) :: rest)
    (found : later (pinPath kit role) = some pin) :
    (∃ plan, Signs kit later ⟨false, other, role⟩ plan) ↔
      other ≠ [] ∧ publicIdentity kit role other = publicIdentity kit role seed := by
  cases signs with
  | @minted _ _ priv certDER _ _ _ x509 derived parsed =>
      have pinned : certPEM kit certDER = pin := congrArg Prod.snd (List.cons.inj writes).1
      have decoded : kit.pemDecode pin = some (text "CERTIFICATE", certDER) := by
        rw [← pinned]
        exact kit.pemDecode_encode certDER
      rw [pinPath, if_neg x509] at found
      obtain ⟨secret, derivedOther, positive, small, pub⟩ := deriveECKey_in_range kit other role
      rw [publicIdentity, publicIdentity, if_neg x509, if_neg x509, derived, derivedOther]
      constructor
      · rintro ⟨plan, signs⟩
        cases signs with
        | verified given _ derivedAgain foundAgain decodedAgain parsedAgain =>
            obtain rfl := Except.ok.inj (derivedOther.symm.trans derivedAgain)
            obtain rfl := Option.some.inj (found.symm.trans foundAgain)
            obtain ⟨_, rfl⟩ := Prod.mk.inj (Option.some.inj (decoded.symm.trans decodedAgain))
            have same := Option.some.inj (Except.ok.inj (parsedAgain.symm.trans parsed))
            exact ⟨given, by rw [Except.map, Except.map, same]⟩
        | reproduced => exact absurd rfl x509
      · rintro ⟨given, same⟩
        have pubs : secret.pub = priv.pub := Sum.inl.inj (Except.ok.inj same)
        obtain ⟨privDER, marshalled⟩ := kit.marshal_on_curve secret.d positive small
        rw [← pub] at marshalled
        obtain ⟨pass, word, _⟩ := derivePassphrase_word kit other role
        exact ⟨_, .verified given x509 derivedOther found decoded (by rw [parsed, pubs]) marshalled word⟩
  | @published _ priv _ derived =>
      have pinned : publicArmor kit priv = pin := congrArg Prod.snd (List.cons.inj writes).1
      obtain ⟨secret, derivedOther⟩ := deriveEd25519Key_some kit other debianRole
      rw [publicIdentity, publicIdentity, if_pos rfl, if_pos rfl, derived, derivedOther]
      constructor
      · rintro ⟨plan, signs⟩
        cases signs with
        | verified _ x509 => exact absurd rfl x509
        | reproduced given derivedAgain foundAgain agrees =>
            obtain rfl := Except.ok.inj (derivedOther.symm.trans derivedAgain)
            obtain rfl := Option.some.inj (found.symm.trans foundAgain)
            rw [← pinned] at agrees
            exact ⟨given, by rw [Except.map, Except.map, publicArmor_trimmed_iff.mp agrees]⟩
      · rintro ⟨given, same⟩
        have keys := Sum.inr.inj (Except.ok.inj same)
        exact ⟨_, .reproduced given derivedOther found
          (by rw [← pinned, publicArmor_trimmed_iff.mpr keys])⟩

/-- After a role was pinned with one seed, a seed is accepted exactly if it has the public
key that is pinned, and the one it was pinned with writes the same files and prints the same
output once more. -/
theorem bootstrapped_identity_reproduced [DecidableEq Point] {start pinned after : Machine}
    {seed other : Text} {code : Nat} {first second : History SignAnswer} (name : IsName role)
    (noOption : other ≠ text "-bootstrap")
    (bootstrap : Runs (generateKeystore kit [text "-bootstrap", seed, role]) first (.done 0))
    (bootstraps : Carries (signEffects kit) first start pinned)
    (verify : Runs (generateKeystore kit [other, role]) second (.done code))
    (verifies : Carries (signEffects kit) second { pinned with
      stdout := start.stdout, failed := false } after) :
    (code = 0 → publicIdentity kit role other = publicIdentity kit role seed) ∧
    (after.failed = false →
      (code = 0 ↔ other ≠ [] ∧ publicIdentity kit role other = publicIdentity kit role seed) ∧
      (other = seed → code = 0 ∧ after.disk = pinned.disk ∧
        pinned.stdout <+: after.stdout ∧ (pinned.failed = false → after.stdout = pinned.stdout))) := by
  have parsedFirst : parseArgs [text "-bootstrap", seed, role] = some ⟨true, seed, role⟩ := by
    simp [parseArgs]
  have parsedSecond : parseArgs [other, role] = some ⟨false, other, role⟩ := by
    simp [parseArgs, noOption]
  have minted := (generateKeystore_holds parsedFirst).finishes (.inl ⟨rfl, .inl rfl⟩) bootstrap bootstraps
  have verdict := (generateKeystore_holds parsedSecond).finishes (.inl ⟨rfl, .inl rfl⟩) verify verifies
  obtain ⟨plan, shown, signs, disk, output, part, whole⟩ :
      Wholly kit start ⟨true, seed, role⟩ pinned := by
    rcases minted with ⟨_, whole⟩ | ⟨failed, _⟩
    · exact whole
    · exact absurd failed (by decide)
  obtain ⟨pin, again, rfl, paths, signsAgain⟩ := signs.pinning
  have distinct : ((again.pinning (pinPath kit role) pin).writes.map Prod.fst).Nodup := by
    rw [SignPlan.pinning, List.map_cons, paths]
    exact List.nodup_cons.mpr ⟨fun member => identityFiles_not_pin name name member rfl,
      identityFiles_nodup role⟩
  have found : pinned.disk (pinPath kit role) = some pin := by
    rw [disk]
    exact Disk.putAll_mem distinct List.mem_cons_self
  have admits : (∃ plan, Signs kit pinned.disk ⟨false, other, role⟩ plan) ↔
      other ≠ [] ∧ publicIdentity kit role other = publicIdentity kit role seed := signs.admits rfl found
  have accepted : code = 0 → ∃ plan, Signs kit pinned.disk ⟨false, other, role⟩ plan := by
    intro success
    rcases verdict with ⟨_, plan, _, verified, _⟩ | ⟨failed, _⟩
    · exact ⟨plan, verified⟩
    · omega
  have succeeds : after.failed = false → (∃ plan, Signs kit pinned.disk ⟨false, other, role⟩ plan) →
      code = 0 ∧ Wholly kit { pinned with stdout := start.stdout, failed := false } ⟨false, other,
        role⟩ after := by
    rintro smooth ⟨plan, verified⟩
    rcases verdict with whole | ⟨_, _, refused⟩
    · exact whole
    · exact absurd verified (refused smooth plan)
  refine ⟨fun success => (admits.mp (accepted success)).2,
    fun smooth => ⟨⟨fun success => admits.mp (accepted success),
    fun same => (succeeds smooth (admits.mpr same)).1⟩, ?_⟩⟩
  rintro rfl
  obtain ⟨success, plan, printed, verified, written, told, _, entire⟩ :=
    succeeds smooth ⟨again, signsAgain _ found⟩
  obtain rfl := verified.unique (signsAgain _ found)
  have same : after.stdout = start.stdout ++ plan.output := by rw [told, entire smooth]
  refine ⟨success, written.trans (Disk.putAll_self fun file member => ?_), ?_, fun unfailed => ?_⟩
  · rw [disk]
    exact Disk.putAll_mem distinct (List.mem_cons_of_mem _ member)
  · rw [output, same]
    exact (List.prefix_append_right_inj _).mpr part
  · rw [same, output, whole unfailed]
    rfl

end

theorem app_identity_reproduced :
    let again := (play smoothly (generateKeystore sampleKit [text "s", text "app"])
      { pinnedApp.2 with stdout := [], failed := false }).2
    pinnedApp.1 = 0 ∧ again.1 = 0 ∧ again.2.disk = pinnedApp.2.disk ∧
      again.2.stdout = pinnedApp.2.stdout := by
  have pinned : pinnedApp.1 = 0 ∧ pinnedApp.2.failed = false := by decide
  have smooth : (play smoothly (generateKeystore sampleKit [text "s", text "app"])
      { pinnedApp.2 with stdout := [], failed := false }).2.2.failed = false := by decide
  have first :=
    play_runs smoothly (generateKeystore sampleKit [text "-bootstrap", text "s", text "app"]) emptyMachine
  rw [show (play smoothly (generateKeystore sampleKit [text "-bootstrap", text "s",
    text "app"]) emptyMachine).2.1 = 0
    from pinned.1] at first
  obtain ⟨success, disk, _, stdout⟩ :=
    ((bootstrapped_identity_reproduced (by unfold IsName; decide) (by decide) first
    (play_carries smoothly_sound _ _) (play_runs smoothly _ _)
      (play_carries smoothly_sound _ _)).2 smooth).2 rfl
  exact ⟨pinned.1, success, disk, stdout pinned.2⟩

end SyncthingSocket
