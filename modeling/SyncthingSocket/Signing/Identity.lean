import SyncthingSocket.Signing.Keystore

/-!
What `generate_keystore` is for: on a disk with pins a request names at most one identity, and
every run writes it, in order and as far as it gets, or nothing. Hence what many runs leave
behind, and that a pinned identity is written again by its seed alone.
-/

namespace SyncthingSocket

open Framing OpenPGP Effect Effect.Program

structure SignPlan where
  writes : List (Text × Text)
  output : Text

section

variable {Point : Type} (kit : SigningKit Point)

def certPEM (der : Bytes) : Text := kit.pemEncode (text "CERTIFICATE") der

def x509Plan (role : Text) (privDER certDER : Bytes) (pass : List Char) : SignPlan :=
  { writes := [(keyPath role, kit.pemEncode (text "EC PRIVATE KEY") privDER),
    (certPath role, certPEM kit certDER)]
    output := pass.map Rune.char ++ text "\n" }

def publicArmor (priv : PrivateKey) : Text :=
  unlines (armorLines publicBlock (transferablePublicKey kit.crypto priv))

def secretArmor (priv : PrivateKey) : Text :=
  unlines (armorLines privateBlock (transferableSecretKey kit.crypto priv))

def openPGPPlan (role : Text) (priv : PrivateKey) : SignPlan :=
  { writes := [(secretPath role, secretArmor kit priv), (pubPath role, publicArmor kit priv)]
    output := upperHex (fingerprint kit.crypto priv.pub) ++ text "\n" }

def SignPlan.pinning (path contents : Text) (plan : SignPlan) : SignPlan :=
  { plan with writes := (path, contents) :: plan.writes }

/-- The identity that a request stands for. Without `-bootstrap` it is pinned on the disk. -/
inductive Signs (disk : Disk Text Rune) : SignRequest → SignPlan → Prop
  | verified {seed role pem blockType : Text} {priv : ECPrivateKey Point} {certDER privDER : Bytes}
    {pass : List Char} :
      seed ≠ [] → role ≠ debianRole → deriveECKey kit seed role = .ok priv →
      disk (pinnedCertPath kit role) = some pem → kit.pemDecode pem = some (blockType, certDER) →
      kit.parseCertificate certDER = .ok (some priv.pub) → kit.marshalECPrivateKey priv = .ok privDER →
      derivePassphrase kit seed role = .ok pass →
      Signs disk ⟨false, seed, role⟩ (x509Plan kit role privDER certDER pass)
  | minted {seed role : Text} {priv : ECPrivateKey Point} {certDER privDER : Bytes} {pass : List Char} :
      seed ≠ [] → role ≠ debianRole → deriveECKey kit seed role = .ok priv →
      kit.parseCertificate certDER = .ok (some priv.pub) → kit.marshalECPrivateKey priv = .ok privDER →
      derivePassphrase kit seed role = .ok pass →
      Signs disk ⟨true, seed, role⟩
        ((x509Plan kit role privDER certDER pass).pinning (pinnedCertPath kit role) (certPEM kit certDER))
  | reproduced {seed want : Text} {priv : PrivateKey} :
      seed ≠ [] → deriveEd25519Key kit seed debianRole = .ok priv →
      disk (pinnedKeyPath kit debianRole) = some want →
        want.trimSpace = (publicArmor kit priv).trimSpace →
      Signs disk ⟨false, seed, debianRole⟩ (openPGPPlan kit debianRole priv)
  | published {seed : Text} {priv : PrivateKey} :
      seed ≠ [] → deriveEd25519Key kit seed debianRole = .ok priv →
      Signs disk ⟨true, seed, debianRole⟩
        ((openPGPPlan kit debianRole priv).pinning (pinnedKeyPath kit debianRole) (publicArmor kit priv))

variable (start : Machine) (request : SignRequest)

def Partly (machine : Machine) : Prop :=
  machine.stdout = start.stdout ∧ (machine.disk = start.disk ∨
    ∃ plan, Signs kit start.disk request plan ∧ Disk.Stages start.disk plan.writes machine.disk)

/-- What is printed may be cut short, as its error is dropped. -/
def Wholly (machine : Machine) : Prop :=
  ∃ plan printed, Signs kit start.disk request plan ∧ machine.disk = start.disk.putAll plan.writes ∧
    machine.stdout = start.stdout ++ printed ∧ printed <+: plan.output ∧
    (machine.failed = false → printed = plan.output)

def FollowsPin (machine : Machine) : Prop :=
  Partly kit start request machine ∨ Wholly kit start request machine

/-- From this machine on a part of the tool follows the identity, prints nothing and goes on
as it says, or it ends the tool: because an operation failed, or for want of an identity. -/
def KeepsTo {α : Type} (goesOn : α → Machine → Prop) (part : Signing Point α) (machine : Machine) :
    Prop :=
  Holds (signEffects kit) (FollowsPin kit start request) (Onward goesOn fun code machine =>
    code = 1 ∧ Partly kit start request machine ∧
      (machine.failed = false → ∀ plan, ¬ Signs kit start.disk request plan)) part.run machine

/-- The files `before` are written. -/
def Reached (before : List (Text × Text)) (machine : Machine) : Prop :=
  machine.disk = start.disk.putAll before ∧ machine.stdout = start.stdout

/-- Behind them a file holds `held` so far. -/
def Writing (before : List (Text × Text)) (path held : Text) (machine : Machine) : Prop :=
  machine.disk = (start.disk.putAll before).put path held ∧ machine.stdout = start.stdout

def Stopped (machine : Machine) : Prop := Partly kit start request machine ∧ machine.failed = true

end

variable {mode : Nat} {role s seed : Text}

section

variable {Point α β : Type} {kit : SigningKit Point} {start machine : Machine} {request : SignRequest}
  {plan : SignPlan} {before rest : List (Text × Text)} {path contents held : Text}
    {priv : ECPrivateKey Point}

theorem KeepsTo.bind {part : Signing Point α} {following : α → Signing Point β}
    {goesOn : β → Machine → Prop}
    (keeps : KeepsTo kit start request
      (fun value => KeepsTo kit start request goesOn (following value)) part machine) :
    KeepsTo kit start request goesOn (part >>= following) machine := Holds.bindExcept keeps

theorem keeps_lift {program : Program (SignOp Point) SignAnswer α} {goesOn : α → Machine → Prop}
    (holds : Holds (signEffects kit) (FollowsPin kit start request) goesOn program machine) :
    KeepsTo kit start request goesOn (ExceptT.lift program) machine := Holds.bind holds

theorem keeps_fail {message : Text} {goesOn : α → Machine → Prop}
    (kept : Partly kit start request machine)
    (reason : machine.failed = false → ∀ plan, ¬ Signs kit start.disk request plan) :
    KeepsTo kit start request goesOn (fail message) machine := by
  rintro ⟨⟩ later rfl
  exact ⟨.inl kept, rfl, kept, reason⟩

theorem Stopped.fail {message : Text} {goesOn : α → Machine → Prop}
    (stopped : Stopped kit start request machine) :
    KeepsTo kit start request goesOn (fail message) machine :=
  keeps_fail stopped.1 fun going => absurd (going.symm.trans stopped.2) (by decide)

theorem keeps_toStderr {goesOn : Unit → Machine → Prop}
    (kept : FollowsPin kit start request machine) (goes : goesOn () machine) :
    KeepsTo kit start request goesOn (toStderr s) machine := by
  rintro ⟨⟩ later rfl
  exact ⟨kept, goes⟩

theorem keeps_mint {goesOn : Except Err Bytes → Machine → Prop}
    (kept : Partly kit start request machine)
    (goes : ∀ der, kit.parseCertificate der = .ok (some priv.pub) → goesOn (.ok der) machine)
    (stops : ∀ err later, Stopped kit start request later → goesOn (.error err) later) :
    KeepsTo kit start request goesOn (bootstrapCert role priv) machine := by
  rintro (err | der) later minted
  · obtain rfl := minted
    exact ⟨.inl kept, stops err _ ⟨kept, rfl⟩⟩
  · obtain ⟨parsed, rfl⟩ := minted
    exact ⟨.inl kept, goes der parsed⟩

theorem keeps_mkdirAll {path : Text} {goesOn : Option Err → Machine → Prop}
    (kept : Partly kit start request machine) (goes : goesOn none machine)
    (stops : ∀ err later, Stopped kit start request later → goesOn (some err) later) :
    KeepsTo kit start request goesOn (mkdirAll path mode) machine := by
  rintro (_ | err) later rfl
  · exact ⟨.inl kept, goes⟩
  · exact ⟨.inl kept, stops err _ ⟨kept, rfl⟩⟩

theorem keeps_readFile {path : Text} {goesOn : Except Err Text → Machine → Prop}
    (kept : Partly kit start request machine)
    (goes : ∀ contents, machine.disk path = some contents → goesOn (.ok contents) machine)
    (stops : ∀ err later, Stopped kit start request later → goesOn (.error err) later) :
    KeepsTo kit start request goesOn (readFile path) machine := by
  rintro (err | contents) later read
  · obtain rfl := read
    exact ⟨.inl kept, stops err _ ⟨kept, rfl⟩⟩
  · obtain ⟨found, rfl⟩ := read
    exact ⟨.inl kept, goes contents found⟩

theorem keeps_toStdout {goesOn : Unit → Machine → Prop}
    (signs : Signs kit start.disk request plan) (output : plan.output = s)
    (reached : Reached start plan.writes machine)
    (goes : ∀ later, Wholly kit start request later → goesOn () later) :
    KeepsTo kit start request goesOn (toStdout s) machine := by
  intro answer later done
  have whole : Wholly kit start request later := by
    cases answer with
    | none =>
        obtain rfl := done
        exact ⟨plan, s, signs, reached.1, by rw [reached.2], by rw [output], fun _ => output.symm⟩
    | some err =>
        obtain ⟨kept, part, rfl⟩ := done
        exact ⟨plan, kept, signs, reached.1, by rw [Machine.fault, reached.2], output ▸ part,
          fun smooth => by cases smooth⟩
  exact ⟨.inr whole, goes later whole⟩

theorem Reached.partly (signs : Signs kit start.disk request plan)
    (writes : plan.writes = before ++ rest) (reached : Reached start before machine) :
    Partly kit start request machine := by
  refine ⟨reached.2, .inr ⟨plan, signs, ?_⟩⟩
  rw [writes, reached.1]
  exact Disk.Stages.between _ _ _

theorem Writing.partly (signs : Signs kit start.disk request plan)
    (writes : plan.writes = before ++ (path, contents) :: rest)
    (writing : Writing start before path held machine) (part : held <+: contents) :
    Partly kit start request machine := by
  refine ⟨writing.2, .inr ⟨plan, signs, ?_⟩⟩
  rw [writes, writing.1]
  exact Disk.Stages.during _ _ _ _ part

theorem Writing.written (writing : Writing start before path contents machine) :
    Reached start (before ++ [(path, contents)]) machine :=
  ⟨writing.1.trans (Disk.putAll_append start.disk before [(path, contents)]).symm, writing.2⟩

/-! Files. -/

theorem keeps_create {goesOn : Option Err → Machine → Prop}
    (signs : Signs kit start.disk request plan)
    (writes : plan.writes = before ++ (path, contents) :: rest)
    (reached : Reached start before machine)
    (goes : ∀ later, Writing start before path [] later → goesOn none later)
    (stops : ∀ err later, Stopped kit start request later → goesOn (some err) later) :
    KeepsTo kit start request goesOn (create path mode) machine := by
  rintro (_ | err) later rfl
  · have writing : Writing start before path [] (machine.put path []) :=
      ⟨by rw [Machine.put, reached.1], reached.2⟩
    exact ⟨.inl (writing.partly signs writes List.nil_prefix), goes _ writing⟩
  · have kept : Partly kit start request machine := reached.partly signs writes
    exact ⟨.inl kept, stops err _ ⟨kept, rfl⟩⟩

theorem append_after {answer : Option Err} {later : Machine}
    (signs : Signs kit start.disk request plan)
    (writes : plan.writes = before ++ (path, contents) :: rest)
    (writing : Writing start before path held machine) (part : held ++ s <+: contents)
    (done : signEffects kit (.append path s) answer machine later) :
    Partly kit start request later ∧ ((answer = none ∧ Writing start before path (held ++ s) later) ∨
      ∃ err, answer = some err ∧ Stopped kit start request later) := by
  have holding : (machine.disk path).getD [] = held := by
    rw [writing.1, Disk.put_same]
    rfl
  have after : ∀ kept, Writing start before path (held ++ kept) (machine.put path (held ++ kept)) := by
    intro kept
    refine ⟨?_, writing.2⟩
    rw [Machine.put, writing.1]
    exact Disk.put_put _ _ _ _
  cases answer with
  | none =>
      obtain rfl := done
      rw [holding]
      exact ⟨(after s).partly signs writes part, .inl ⟨rfl, after s⟩⟩
  | some err =>
      obtain ⟨kept, cut, rfl⟩ := done
      rw [holding]
      have torn :=
        (after kept).partly signs writes ((List.prefix_append_right_inj held).mpr cut |>.trans part)
      exact ⟨torn, .inr ⟨err, rfl, torn, rfl⟩⟩

theorem keeps_writeFile {goesOn : Option Err → Machine → Prop}
    (signs : Signs kit start.disk request plan)
    (writes : plan.writes = before ++ (path, contents) :: rest)
    (reached : Reached start before machine)
    (goes : ∀ later, Reached start (before ++ [(path, contents)]) later → goesOn none later)
    (stops : ∀ err later, Stopped kit start request later → goesOn (some err) later) :
    KeepsTo kit start request goesOn (writeFile path contents mode) machine := by
  refine KeepsTo.bind
    (keeps_create signs writes reached (fun opened writing => ?_) fun err later stopped => ?_)
  · intro answer later done
    obtain ⟨kept, ⟨rfl, whole⟩ | ⟨err, rfl, stopped⟩⟩ :=
      append_after signs writes writing List.prefix_rfl done
    · exact ⟨.inl kept, goes _ (Writing.written whole)⟩
    · exact ⟨.inl kept, stops err _ stopped⟩
  · exact stops err later stopped

/-- How a text ends up in the file behind `held`. -/
def Printed (kit : SigningKit Point) (start : Machine) (request : SignRequest)
    (before : List (Text × Text)) (path held : Text) (answer : Option Err) (machine : Machine) :
    Prop :=
  (answer = none ∧ Writing start before path held machine) ∨ ∃ err, answer = some err ∧
    Stopped kit start request machine

theorem printLines_keeps {lines : List Text} (signs : Signs kit start.disk request plan)
    (writes : plan.writes = before ++ (path, contents) :: rest)
    (writing : Writing start before path held machine) (part : held ++ unlines lines <+: contents) :
    Holds (signEffects kit) (FollowsPin kit start request)
      (Printed kit start request before path (held ++ unlines lines))
      (interpret (appendTo path) (printLines lines)) machine := by
  induction lines generalizing machine held with
  | nil => exact .inl ⟨rfl, by rw [show unlines [] = ([] : Text) from rfl, List.append_nil]; exact writing⟩
  | cons line lines ih =>
      have split : held ++ unlines (line :: lines) = held ++ (line ++ text "\n") ++ unlines lines := by
        rw [List.append_assoc]
        rfl
      rw [split] at part ⊢
      intro answer later done
      obtain ⟨kept, ⟨rfl, whole⟩ | ⟨err, rfl, stopped⟩⟩ :=
        append_after signs writes writing ((List.prefix_append _ _).trans part) done
      · exact ⟨.inl kept, ih whole part⟩
      · exact ⟨.inl kept, .inr ⟨err, rfl, stopped⟩⟩

theorem keeps_armorTo {blockType : Text} {data : Bytes} {goesOn : Option Err → Machine → Prop}
    (signs : Signs kit start.disk request plan)
    (writes : plan.writes = before ++ (path, unlines (armorLines blockType data)) :: rest)
    (writing : Writing start before path [] machine)
    (goes : ∀ later, Reached start (before ++ [(path, unlines (armorLines blockType data))]) later →
      goesOn none later)
    (stops : ∀ err later, Stopped kit start request later → goesOn (some err) later) :
    KeepsTo kit start request goesOn (armorTo path blockType data) machine := by
  obtain ⟨opening, closing, begins, ends, frame⟩ : ∃ opening closing : Text,
      opening = text "-----BEGIN " ++ blockType ++ text "-----\n\n" ∧
      closing = text "=" ++ (armorEncode (checksumBytes data)).map Rune.char ++ text "\n-----END " ++ blockType ++
        text "-----\n" ∧
      unlines (armorLines blockType data) = opening ++ unlines (armorBody data) ++ closing :=
    ⟨_, _, rfl, rfl, armor_frame blockType data⟩
  rw [frame] at writes goes
  have printed : Holds (signEffects kit) (FollowsPin kit start request)
      (Printed kit start request before path (opening ++ unlines (armorBody data) ++ closing))
      (interpret (appendTo path) (armor blockType data)) machine := by
    intro answer later done
    obtain ⟨kept, ⟨rfl, whole⟩ | ⟨err, rfl, stopped⟩⟩ := append_after signs writes writing
      ((List.prefix_append opening _).trans (List.prefix_append _ closing)) (begins ▸ done)
    · refine ⟨.inl kept, ?_⟩
      change Holds _ _ _ (interpret _ (printLines (armorBody data) >>= _)) later
      rw [interpret_bind]
      refine Holds.bind
        ((printLines_keeps signs writes whole (List.prefix_append _ closing)).mono (fun _ kept => kept) ?_)
      rintro answer later (⟨rfl, body⟩ | ⟨err, rfl, stopped⟩)
      · intro answer later done
        obtain ⟨kept, ended⟩ := append_after signs writes body List.prefix_rfl (ends ▸ done)
        exact ⟨.inl kept, ended⟩
      · exact .inr ⟨err, rfl, stopped⟩
    · exact ⟨.inl kept, .inr ⟨err, rfl, stopped⟩⟩
  refine keeps_lift (printed.mono (fun _ kept => kept) ?_)
  rintro answer later (⟨rfl, whole⟩ | ⟨err, rfl, stopped⟩)
  · exact goes later whole.written
  · exact stops err later stopped

/-! X.509 roles. -/

theorem Reached.fresh (reached : Reached start [] machine) : Partly kit start request machine :=
  ⟨reached.2, .inl reached.1⟩

theorem keeps_writeIdentity {certDER privDER : Bytes}
    {pass : List Char} (signs : Signs kit start.disk request plan)
    (marshalled : kit.marshalECPrivateKey priv = .ok privDER)
    (derived : derivePassphrase kit seed role = .ok pass)
    (writes : plan.writes = before ++ (x509Plan kit role privDER certDER pass).writes)
    (output : plan.output = (x509Plan kit role privDER certDER pass).output)
    (reached : Reached start before machine) :
    KeepsTo kit start request (fun _ => Wholly kit start request)
      (writeIdentity kit seed role priv certDER) machine := by
  rw [writeIdentity, marshalled]
  refine KeepsTo.bind
    (keeps_writeFile signs writes reached (fun later keyed => ?_) fun err later stopped => stopped.fail)
  have second := writes.trans (List.append_assoc before [_] _).symm
  refine KeepsTo.bind
    (keeps_writeFile signs second keyed (fun later certified => ?_) fun err later stopped => stopped.fail)
  simp only [derived]
  have all : Reached start plan.writes later := by
    rw [second]
    exact certified
  exact KeepsTo.bind (keeps_toStdout signs output all fun _ whole => keeps_toStderr (.inr whole) whole)

theorem keeps_mintCert {goesOn : Bytes → Machine → Prop} (fresh : Reached start [] machine)
    (plans : ∀ der, kit.parseCertificate der = .ok (some priv.pub) →
      ∃ plan rest, Signs kit start.disk request plan ∧
      plan.writes = (pinnedCertPath kit role, certPEM kit der) :: rest)
    (goes : ∀ der later, kit.parseCertificate der = .ok (some priv.pub) →
      Reached start [(pinnedCertPath kit role, certPEM kit der)] later → goesOn der later) :
    KeepsTo kit start request goesOn (mintCert kit role priv) machine := by
  refine KeepsTo.bind
    (keeps_mint fresh.fresh (fun der parsed => ?_) fun err later stopped => stopped.fail)
  obtain ⟨plan, rest, signs, writes⟩ := plans der parsed
  refine KeepsTo.bind (keeps_mkdirAll fresh.fresh ?_ fun err later stopped => stopped.fail)
  refine KeepsTo.bind
    (keeps_writeFile signs writes fresh (fun later pinned => ?_) fun err later stopped => stopped.fail)
  exact KeepsTo.bind (keeps_toStderr (.inl (pinned.partly signs writes)) (goes der later parsed pinned))

theorem checkPinned_ok [DecidableEq Point] {pem : Text} {der : Bytes} :
    checkPinned kit role priv pem = .ok der ↔
      ∃ blockType, kit.pemDecode pem = some (blockType, der) ∧
        kit.parseCertificate der = .ok (some priv.pub) := by
  rw [checkPinned]
  constructor
  · intro accepted
    split at accepted
    · cases accepted
    · next blockType certDER decoded =>
        split at accepted
        · cases accepted
        · cases accepted
        · next pinned parsed =>
            split at accepted
            · next same =>
                cases accepted
                exact ⟨blockType, decoded, by rw [parsed, same]⟩
            · cases accepted
  · rintro ⟨blockType, decoded, parsed⟩
    simp only [decoded, parsed, if_pos]

theorem keeps_pinnedCert [DecidableEq Point] {goesOn : Bytes → Machine → Prop}
    (fresh : Reached start [] machine)
    (goes : ∀ pem der, start.disk (pinnedCertPath kit role) = some pem →
      checkPinned kit role priv pem = .ok der →
      goesOn der machine)
    (refuses : (∀ pem der, start.disk (pinnedCertPath kit role) = some pem →
      checkPinned kit role priv pem ≠ .ok der) →
      ∀ plan, ¬ Signs kit start.disk request plan) :
    KeepsTo kit start request goesOn (pinnedCert kit role priv) machine := by
  refine KeepsTo.bind
    (keeps_readFile fresh.fresh (fun pem found => ?_) fun err later stopped => stopped.fail)
  have same : start.disk (pinnedCertPath kit role) = some pem := (congrFun fresh.1 _).symm.trans found
  cases checked : checkPinned kit role priv pem with
  | error message =>
      simp only [checked]
      refine keeps_fail fresh.fresh fun _ => refuses fun other der holding accepted => ?_
      obtain rfl := Option.some.inj (same.symm.trans holding)
      cases checked.symm.trans accepted
  | ok der =>
      simp only [checked]
      exact goes pem der same checked

theorem keeps_runX509 [DecidableEq Point] {bootstrap : Bool} (given : seed ≠ [])
    (x509 : role ≠ debianRole) (fresh : Reached start [] machine) :
    KeepsTo kit start ⟨bootstrap, seed, role⟩ (fun _ => Wholly kit start ⟨bootstrap, seed, role⟩)
      (runX509 kit seed role bootstrap) machine := by
  obtain ⟨priv, derived, positive, small, pub⟩ := deriveECKey_in_range kit seed role
  obtain ⟨privDER, marshalled⟩ : ∃ privDER, kit.marshalECPrivateKey priv = .ok privDER := by
    obtain ⟨der, marshalled⟩ := kit.marshal_on_curve priv.d positive small
    exact ⟨der, by rw [← pub] at marshalled; exact marshalled⟩
  obtain ⟨pass, word, _⟩ := derivePassphrase_word kit seed role
  rw [runX509, derived]
  cases bootstrap with
  | true =>
      have signs : ∀ der, kit.parseCertificate der = .ok (some priv.pub) →
          Signs kit start.disk ⟨true, seed, role⟩ _ :=
        fun der parsed => .minted given x509 derived parsed marshalled word
      refine KeepsTo.bind (keeps_mintCert fresh (fun der parsed => ⟨_, _, signs der parsed, rfl⟩)
        fun der later parsed pinned => ?_)
      exact keeps_writeIdentity (signs der parsed) marshalled word rfl rfl pinned
  | false =>
      refine KeepsTo.bind
        (keeps_pinnedCert fresh (fun pem der found accepted => ?_) fun refused plan signs => ?_)
      · obtain ⟨blockType, decoded, parsed⟩ := checkPinned_ok.mp accepted
        have signs : Signs kit start.disk ⟨false, seed, role⟩ _ :=
          .verified given x509 derived found decoded parsed marshalled word
        exact keeps_writeIdentity signs marshalled word rfl rfl fresh
      · cases signs with
        | verified _ _ again found decoded parsed =>
            obtain rfl := Except.ok.inj (derived.symm.trans again)
            exact refused _ _ found (checkPinned_ok.mpr ⟨_, decoded, parsed⟩)
        | reproduced => exact x509 rfl

/-! The OpenPGP role. -/

theorem builder_bind (program : Printing α) (following : α → Printing β) :
    builder (program >>= following) =
      ((builder program).1 ++ (builder (following (builder program).2)).1,
        (builder (following (builder program).2)).2) := by
  induction program with
  | done value => rfl
  | ask s next ih =>
      rw [ask_bind, builder, ih none, builder, List.append_assoc]

theorem builder_printLines (lines : List Text) :
    builder (printLines lines) = (unlines lines, none) := by
  induction lines with
  | nil => rfl
  | cons line lines ih =>
      have rest : builder (printLines (line :: lines)) =
          ((line ++ text "\n") ++ (builder (printLines lines)).1, (builder (printLines lines)).2) := rfl
      rw [rest, ih]
      rfl

theorem builder_armor (blockType : Text) (data : Bytes) :
    builder (armor blockType data) = (unlines (armorLines blockType data), none) := by
  have whole : builder (armor blockType data) =
      ((text "-----BEGIN " ++ blockType ++ text "-----\n\n") ++ (builder (printLines (armorBody data) >>= _)).1,
        (builder (printLines (armorBody data) >>= _)).2) := rfl
  rw [whole, builder_bind, builder_printLines, armor_frame, List.append_assoc _ (unlines _) _]
  congr 2
  exact congrArg (unlines (armorBody data) ++ ·) (List.append_nil _)

theorem keeps_writeOpenPGP {priv : PrivateKey} (signs : Signs kit start.disk request plan)
    (writes : plan.writes = before ++ (openPGPPlan kit role priv).writes)
    (output : plan.output = (openPGPPlan kit role priv).output)
    (reached : Reached start before machine) :
    KeepsTo kit start request (fun _ => Wholly kit start request)
      (writeOpenPGP kit role priv (publicArmor kit priv)) machine := by
  refine KeepsTo.bind
    (keeps_create signs writes reached (fun later opened => ?_) fun err later stopped => stopped.fail)
  refine KeepsTo.bind
    (keeps_armorTo signs writes opened (fun later secret => ?_) fun err later stopped => stopped.fail)
  have second := writes.trans (List.append_assoc before [_] _).symm
  refine KeepsTo.bind
    (keeps_writeFile signs second secret (fun later published => ?_) fun err later stopped => stopped.fail)
  have all : Reached start plan.writes later := by
    rw [second]
    exact published
  exact KeepsTo.bind (keeps_toStdout signs output all fun _ whole => keeps_toStderr (.inr whole) whole)

theorem keeps_runOpenPGP {bootstrap : Bool} (given : seed ≠ []) (fresh : Reached start [] machine) :
    KeepsTo kit start ⟨bootstrap, seed, debianRole⟩
      (fun _ => Wholly kit start ⟨bootstrap, seed, debianRole⟩)
      (runOpenPGP kit seed debianRole bootstrap) machine := by
  obtain ⟨priv, derived⟩ := deriveEd25519Key_some kit seed debianRole
  rw [runOpenPGP, derived]
  simp only [builder_armor]
  change KeepsTo kit start _ _
    (if bootstrap = true then pinKey kit debianRole (publicArmor kit priv) >>= _
    else checkKey kit debianRole (publicArmor kit priv) >>= _) machine
  cases bootstrap with
  | true =>
      have signs : Signs kit start.disk ⟨true, seed, debianRole⟩ _ := .published given derived
      refine KeepsTo.bind
        (KeepsTo.bind (keeps_mkdirAll fresh.fresh ?_ fun err later stopped => stopped.fail))
      refine KeepsTo.bind
        (keeps_writeFile signs rfl fresh (fun later pinned => ?_) fun err later stopped => stopped.fail)
      exact keeps_toStderr (.inl (pinned.partly signs rfl)) (keeps_writeOpenPGP signs rfl rfl pinned)
  | false =>
      refine KeepsTo.bind
        (KeepsTo.bind (keeps_readFile fresh.fresh (fun want found => ?_) fun err later stopped => stopped.fail))
      have same : start.disk (pinnedKeyPath kit debianRole) = some want :=
        (congrFun fresh.1 _).symm.trans found
      by_cases reproduces : Text.trimSpace want = (publicArmor kit priv).trimSpace
      · have signs : Signs kit start.disk ⟨false, seed, debianRole⟩ _ :=
          .reproduced given derived same reproduces
        simp only [reproduces, ne_eq, not_true_eq_false, if_false]
        exact keeps_writeOpenPGP signs rfl rfl fresh
      · simp only [reproduces, ne_eq, not_false_eq_true, if_true]
        refine keeps_fail fresh.fresh fun _ plan signs => ?_
        cases signs with
        | verified _ x509 => exact x509 rfl
        | reproduced _ again holding agrees =>
            obtain rfl := Except.ok.inj (derived.symm.trans again)
            obtain rfl := Option.some.inj (same.symm.trans holding)
            exact reproduces agrees

/-! Whole runs. -/

theorem keeps_runRequest [DecidableEq Point] (fresh : Reached start [] machine) :
    KeepsTo kit start request (fun _ => Wholly kit start request) (runRequest kit request) machine := by
  obtain ⟨bootstrap, seed, role⟩ := request
  by_cases missing : seed = []
  · rw [runRequest, if_pos missing]
    refine keeps_fail fresh.fresh fun _ plan signs => ?_
    cases signs with
    | verified given => exact given missing
    | minted given => exact given missing
    | reproduced given => exact given missing
    | published given => exact given missing
  · rw [runRequest, if_neg missing]
    by_cases openPGP : role = debianRole
    · subst openPGP
      rw [if_pos rfl]
      exact keeps_runOpenPGP missing fresh
    · rw [if_neg openPGP]
      exact keeps_runX509 missing openPGP fresh

def Verdict (kit : SigningKit Point) (start : Machine) (request : SignRequest) (code : Nat)
    (machine : Machine) : Prop :=
  (code = 0 ∧ Wholly kit start request machine) ∨
    (code = 1 ∧ Partly kit start request machine ∧
      (machine.failed = false → ∀ plan, ¬ Signs kit start.disk request plan))

theorem generateKeystore_holds [DecidableEq Point] {args : List Text}
    (parsed : parseArgs args = some request) :
    Holds (signEffects kit) (FollowsPin kit start request) (Verdict kit start request)
      (generateKeystore kit args) start := by
  rw [generateKeystore, parsed]
  refine Holds.bind
    (Holds.mono (keeps_runRequest ⟨rfl, rfl⟩) (fun _ kept => kept) fun result later ended => ?_)
  cases result with
  | ok value => exact .inl ⟨rfl, ended⟩
  | error code => exact .inr ended

/-- Every run of the tool, also one that is stopped, writes the identity that the request
stands for, in order, or nothing: without `-bootstrap` a seed that is not the one of the
pinned certificate or key changes no file and prints nothing. The exit code tells whether
all of it is written, and printed as far as standard output takes it. -/
theorem signing_runs_follow_pins [DecidableEq Point] {args : List Text}
    {rest : Program (SignOp Point) SignAnswer Nat} {history : History SignAnswer}
    (parsed : parseArgs args = some request) (run : Runs (generateKeystore kit args) history rest)
    (carries : Carries (signEffects kit) history start machine) :
    FollowsPin kit start request machine ∧ ∀ code, rest = .done code →
      Verdict kit start request code machine := by
  obtain ⟨kept, after⟩ := (generateKeystore_holds parsed).runs (.inl ⟨rfl, .inl rfl⟩) run carries
  refine ⟨kept, ?_⟩
  rintro code rfl
  exact after

end

def smoothly : (op : SignOp Nat) → Machine → SignAnswer op × Machine
  | .mint _ priv, machine =>
      if priv.pub < 256 then (.ok [UInt8.ofNat priv.pub], machine)
      else (.error (.text "key"), machine.fault)
  | .mkdirAll _ _, machine => (none, machine)
  | .readFile path, machine =>
      match machine.disk path with
      | some contents => (.ok contents, machine)
      | none => (.error (.text "no such file or directory"), machine.fault)
  | .create path _, machine => (none, machine.put path [])
  | .append path s, machine => (none, machine.put path ((machine.disk path).getD [] ++ s))
  | .stdout s, machine => (none, { machine with stdout := machine.stdout ++ s })
  | .stderr _, machine => ((), machine)

theorem smoothly_sound (op : SignOp Nat) (machine : Machine) :
    signEffects sampleKit op (smoothly op machine).1 machine (smoothly op machine).2 := by
  cases op with
  | mint template priv =>
      simp only [smoothly]
      split
      · next small =>
          refine ⟨?_, rfl⟩
          change Except.ok (some (UInt8.ofNat priv.pub).toNat) = _
          rw [UInt8.toNat_ofNat', Nat.mod_eq_of_lt small]
      · rfl
  | mkdirAll path mode => rfl
  | readFile path =>
      simp only [smoothly]
      split
      · next contents found => exact ⟨found, rfl⟩
      · rfl
  | create path mode => rfl
  | append path s => rfl
  | stdout s => rfl
  | stderr s => rfl

def emptyMachine : Machine := { disk := fun _ => none, stdout := [], failed := false }

/-- The machine after the role `app` was pinned with the seed `s`. -/
def pinnedApp : Nat × Machine :=
  (play smoothly (generateKeystore sampleKit [text "-bootstrap", text "s", text "app"]) emptyMachine).2

theorem another_seed_refused :
    let run := play smoothly (generateKeystore sampleKit [text "t", text "app"]) pinnedApp.2
    run.2.1 = 1 ∧ Verdict sampleKit pinnedApp.2 ⟨false, text "t", text "app"⟩ 1 run.2.2 := by
  have code : (play smoothly (generateKeystore sampleKit [text "t", text "app"]) pinnedApp.2).2.1 =
      1 := by decide
  exact ⟨code,
    (signing_runs_follow_pins rfl (play_runs _ _ _) (play_carries smoothly_sound _ _)).2 1 (by rw [code])⟩

end SyncthingSocket
