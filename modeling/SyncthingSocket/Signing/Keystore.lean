import SyncthingSocket.Effect.Crash
import SyncthingSocket.Signing.Derive

/-!
`generate_keystore`: derives the signing identity of a role, compares it with the one that
is pinned under signing/ or pins it, and writes it to the working directory.
-/

namespace SyncthingSocket

open Framing OpenPGP Effect Effect.Program

structure CertTemplate where
  serialNumber : Nat
  commonName : Text
  organization : List Text
  notBefore : Nat
  notAfter : Nat
  digitalSignature : Bool
  codeSigning : Bool
  basicConstraintsValid : Bool
  deriving DecidableEq, Repr

def certNotBefore : Nat := 1704067200

def certNotAfter : Nat := 2840140800

def certTemplate (role : Text) : CertTemplate :=
  { serialNumber := 1
    commonName := text "Syncthing LUKS " ++ role
    organization := [text "Syncthing LUKS"]
    notBefore := certNotBefore
    notAfter := certNotAfter
    digitalSignature := true
    codeSigning := true
    basicConstraintsValid := true }

/-- What the tool asks of the system. `mint` is `x509.CreateCertificate`, which draws
random numbers; a file is opened by `create`, emptied, and written by `append`. -/
inductive SignOp (Point : Type)
  | mint (template : CertTemplate) (priv : ECPrivateKey Point)
  | mkdirAll (path : Text) (mode : Nat)
  | readFile (path : Text)
  | create (path : Text) (mode : Nat)
  | append (path s : Text)
  | stdout (s : Text)
  | stderr (s : Text)

def SignAnswer {Point : Type} : SignOp Point → Type
  | .mint _ _ => Except Err Bytes
  | .mkdirAll _ _ => Option Err
  | .readFile _ => Except Err Text
  | .create _ _ => Option Err
  | .append _ _ => Option Err
  | .stdout _ => Option Err
  | .stderr _ => Unit

abbrev Signing (Point α : Type) := ExceptT Nat (Program (SignOp Point) SignAnswer) α

def hexText (digits : String) (data : Bytes) : Text :=
  data.flatMap fun octet =>
    [.char (digits.toList.getD (octet.toNat / 16) '0'), .char (digits.toList.getD (octet.toNat % 16) '0')]

/-- `%x` and `%X`. -/
def lowerHex : Bytes → Text := hexText "0123456789abcdef"

def upperHex : Bytes → Text := hexText "0123456789ABCDEF"

/-- What a program has written to a `strings.Builder`, which never fails. -/
def builder {α : Type} : Printing α → Text × α
  | .done value => ([], value)
  | .ask s next => (s ++ (builder (next none)).1, (builder (next none)).2)

section

variable {Point α : Type}

def signAsk (op : SignOp Point) : Signing Point (SignAnswer op) := ExceptT.lift (Program.perform op)

def toStderr (s : Text) : Signing Point Unit := signAsk (.stderr s)

/-- The error of `fmt.Println` and `fmt.Printf` is dropped. -/
def toStdout (s : Text) : Signing Point Unit := do
  let _ ← signAsk (.stdout s)

def mkdirAll (path : Text) (mode : Nat) : Signing Point (Option Err) :=
  signAsk (.mkdirAll path mode)

def readFile (path : Text) : Signing Point (Except Err Text) := signAsk (.readFile path)

def create (path : Text) (mode : Nat) : Signing Point (Option Err) := signAsk (.create path mode)

def append (path s : Text) : Signing Point (Option Err) := signAsk (.append path s)

def fail (message : Text) : Signing Point α := do
  toStderr (text "generate_keystore: " ++ message ++ text "\n")
  throw 1

variable (kit : SigningKit Point)

def bootstrapCert (role : Text) (priv : ECPrivateKey Point) : Signing Point (Except Err Bytes) :=
  signAsk (.mint (certTemplate role) priv)

def pinnedCertPath (role : Text) : Text := kit.join (text "signing") (role ++ text "-cert.pem")

def writePEM (path blockType : Text) (der : Bytes) : Signing Point (Option Err) := do
  match ← create path 0o666 with
  | some err => return some err
  | none => append path (kit.pemEncode blockType der)

def writeFile (path contents : Text) (mode : Nat) : Signing Point (Option Err) := do
  match ← create path mode with
  | some err => return some err
  | none => append path contents

/-- The branch of `main` for `-bootstrap`. -/
def mintCert (role : Text) (priv : ECPrivateKey Point) : Signing Point Bytes := do
  match ← bootstrapCert role priv with
  | .error err => fail (text "minting the " ++ role ++ text " certificate: " ++ text err.message)
  | .ok certDER =>
      match ← mkdirAll (text "signing") 0o755 with
      | some err => fail (text "creating signing/: " ++ text err.message)
      | none =>
          match ← writePEM kit (pinnedCertPath kit role) (text "CERTIFICATE") certDER with
          | some err => fail (text "writing " ++ pinnedCertPath kit role ++ text ": " ++ text err.message)
          | none =>
              toStderr (text "wrote " ++ pinnedCertPath kit role ++
                text "; commit it, and never bootstrap this role again\n")
              return certDER

def checkPinned [DecidableEq Point] (role : Text) (priv : ECPrivateKey Point) (pemBytes : Text) :
    Except Text Bytes :=
  match kit.pemDecode pemBytes with
  | none => .error (pinnedCertPath kit role ++ text " is not PEM")
  | some (_, certDER) =>
      match kit.parseCertificate certDER with
      | .error err => .error (text "parsing " ++ pinnedCertPath kit role ++ text ": " ++ text err.message)
      | .ok none => .error (pinnedCertPath kit role ++ text " does not hold an ECDSA public key")
      | .ok (some pinned) =>
          if pinned = priv.pub then .ok certDER
          else
            .error (text "the seed does not match the committed certificate " ++
              pinnedCertPath kit role ++
              text (".\n  Either MASTER_SECRET is wrong, or the certificate belongs to a different seed.\n" ++
                "  Signing with a mismatched identity would break every existing install."))

def pinnedCert [DecidableEq Point] (role : Text) (priv : ECPrivateKey Point) :
    Signing Point Bytes := do
  match ← readFile (pinnedCertPath kit role) with
  | .error err =>
      fail (text "reading the pinned certificate " ++ pinnedCertPath kit role ++ text ": " ++
        text err.message ++
        text "\n  Run with -bootstrap once to create it, then commit it.")
  | .ok pemBytes =>
      match checkPinned kit role priv pemBytes with
      | .error message => fail message
      | .ok certDER => return certDER

def keyPath (role : Text) : Text := text "key_" ++ role ++ text ".pem"

def certPath (role : Text) : Text := text "cert_" ++ role ++ text ".pem"

/-- The end of `main`, with the certificate that was minted or found. -/
def writeIdentity (seed role : Text) (priv : ECPrivateKey Point) (certDER : Bytes) :
    Signing Point Unit := do
  match kit.marshalECPrivateKey priv with
  | .error err => fail (text "marshalling the " ++ role ++ text " key: " ++ text err.message)
  | .ok privDER =>
      match ← writePEM kit (keyPath role) (text "EC PRIVATE KEY") privDER with
      | some err => fail (text "writing key_" ++ role ++ text ".pem: " ++ text err.message)
      | none =>
          match ← writePEM kit (certPath role) (text "CERTIFICATE") certDER with
          | some err => fail (text "writing cert_" ++ role ++ text ".pem: " ++ text err.message)
          | none =>
              match derivePassphrase kit seed role with
              | .error err =>
                  fail (text "deriving the " ++ role ++ text " passphrase: " ++ text err.message)
              | .ok pass =>
                  toStdout (pass.map Rune.char ++ text "\n")
                  toStderr (role ++ text " certificate sha256: " ++
                    lowerHex (kit.crypto.sha256 certDER) ++ text "\n")

/-- What `main` does for an X.509 role. -/
def runX509 [DecidableEq Point] (seed role : Text) (bootstrap : Bool) : Signing Point Unit := do
  match deriveECKey kit seed role with
  | .error err => fail (text "deriving the " ++ role ++ text " key: " ++ text err.message)
  | .ok priv =>
      let certDER ← if bootstrap then mintCert kit role priv else pinnedCert kit role priv
      writeIdentity kit seed role priv certDER

def pinnedKeyPath (role : Text) : Text := kit.join (text "signing") (role ++ text "-pub.asc")

def secretPath (role : Text) : Text := text "secret_" ++ role ++ text ".asc"

def pubPath (role : Text) : Text := text "pub_" ++ role ++ text ".asc"

/-- The branches of `runOpenPGP` that pin the public key and that compare it. -/
def pinKey (role pubArmor : Text) : Signing Point Unit := do
  match ← mkdirAll (text "signing") 0o755 with
  | some err => fail (text "creating signing/: " ++ text err.message)
  | none =>
      match ← writeFile (pinnedKeyPath kit role) pubArmor 0o644 with
      | some err => fail (text "writing " ++ pinnedKeyPath kit role ++ text ": " ++ text err.message)
      | none => toStderr (text "wrote " ++ pinnedKeyPath kit role ++ text "; commit it\n")

def checkKey (role pubArmor : Text) : Signing Point Unit := do
  match ← readFile (pinnedKeyPath kit role) with
  | .error err =>
      fail (text "reading the pinned public key " ++ pinnedKeyPath kit role ++ text ": " ++
        text err.message ++
        text "\n  Run with -bootstrap once to create it, then commit it.")
  | .ok want =>
      if want.trimSpace ≠ pubArmor.trimSpace then
        fail (text "the seed does not reproduce the committed public key " ++ pinnedKeyPath kit role ++
          text (".\n  Either MASTER_SECRET is wrong, or the key belongs to a different seed.\n" ++
            "  Signing packages with an unknown key would strand every apt client."))

def publicBlock : Text := text "PGP PUBLIC KEY BLOCK"

def privateBlock : Text := text "PGP PRIVATE KEY BLOCK"

def appendTo (path s : Text) : Program (SignOp Point) SignAnswer (Option Err) :=
  Program.perform (SignOp.append path s)

/-- `armor` with a file as its writer. -/
def armorTo (path blockType : Text) (data : Bytes) : Signing Point (Option Err) :=
  ExceptT.lift (interpret (appendTo path) (armor blockType data))

/-- The end of `runOpenPGP`. -/
def writeOpenPGP (role : Text) (priv : PrivateKey) (pubArmor : Text) : Signing Point Unit := do
  match ← create (secretPath role) 0o600 with
  | some err => fail (text "writing " ++ secretPath role ++ text ": " ++ text err.message)
  | none =>
      match ← armorTo (secretPath role) privateBlock (transferableSecretKey kit.crypto priv) with
      | some err => fail (text "armouring the " ++ role ++ text " secret key: " ++ text err.message)
      | none =>
          match ← writeFile (pubPath role) pubArmor 0o644 with
          | some err => fail (text "writing pub_" ++ role ++ text ".asc: " ++ text err.message)
          | none =>
              toStdout (upperHex (fingerprint kit.crypto priv.pub) ++ text "\n")
              toStderr (role ++ text " OpenPGP fingerprint: " ++
                upperHex (fingerprint kit.crypto priv.pub) ++ text "\n")

def runOpenPGP (seed role : Text) (bootstrap : Bool) : Signing Point Unit := do
  match deriveEd25519Key kit seed role with
  | .error err => fail (text "deriving the " ++ role ++ text " key: " ++ text err.message)
  | .ok priv =>
      match builder (armor publicBlock (transferablePublicKey kit.crypto priv)) with
      | (_, some err) => fail (text "armouring the " ++ role ++ text " public key: " ++ text err.message)
      | (pubArmor, none) =>
          if bootstrap then pinKey kit role pubArmor else checkKey kit role pubArmor
          writeOpenPGP kit role priv pubArmor

structure SignRequest where
  bootstrap : Bool
  seed : Text
  role : Text
  deriving DecidableEq, Repr

def parseArgs (args : List Text) : Option SignRequest :=
  let bootstrap := args.head? = some (text "-bootstrap")
  match if bootstrap then args.tail else args with
  | [seed, role] => some { bootstrap := bootstrap, seed := seed, role := role }
  | _ => none

def debianRole : Text := text "debian"

def runRequest [DecidableEq Point] (request : SignRequest) : Signing Point Unit :=
  if request.seed = [] then
    fail (text ("the master seed is empty; refusing to produce a signing identity.\n" ++
      "  Set the MASTER_SECRET repository secret. Falling back to a throwaway key would\n" ++
      "  publish artefacts nobody can reproduce or upgrade across."))
  else if request.role = debianRole then runOpenPGP kit request.seed request.role request.bootstrap
  else runX509 kit request.seed request.role request.bootstrap

def generateKeystore [DecidableEq Point] (args : List Text) :
    Program (SignOp Point) SignAnswer Nat := do
  match parseArgs args with
  | none =>
      Program.ask (.stderr (text "Usage: generate_keystore [-bootstrap] <master_seed> <role>\n"))
        fun _ => return 2
  | some request =>
      match ← (runRequest kit request).run with
      | .error code => return code
      | .ok () => return 0

end

/-- The files and what is captured of standard output; `failed` records that some operation
has answered with an error. -/
structure Machine where
  disk : Disk Text Rune
  stdout : Text
  failed : Bool

def Machine.put (machine : Machine) (path contents : Text) : Machine :=
  { machine with disk := machine.disk.put path contents }

def Machine.fault (machine : Machine) : Machine := { machine with failed := true }

/-- What the operations do. A write that fails may have written a part; a certificate that
is minted holds the key it was minted for. -/
def signEffects {Point : Type} (kit : SigningKit Point) :
    (op : SignOp Point) → SignAnswer op → Machine → Machine → Prop
  | .mint _ priv, .ok der, before, after =>
      kit.parseCertificate der = .ok (some priv.pub) ∧ after = before
  | .mint _ _, .error _, before, after => after = before.fault
  | .mkdirAll _ _, none, before, after => after = before
  | .mkdirAll _ _, some _, before, after => after = before.fault
  | .readFile path, .ok contents, before, after => before.disk path = some contents ∧ after = before
  | .readFile _, .error _, before, after => after = before.fault
  | .create path _, none, before, after => after = before.put path []
  | .create _ _, some _, before, after => after = before.fault
  | .append path s, none, before, after => after = before.put path ((before.disk path).getD [] ++ s)
  | .append path s, some _, before, after =>
      ∃ kept, kept <+: s ∧ after = (before.put path ((before.disk path).getD [] ++ kept)).fault
  | .stdout s, none, before, after => after = { before with stdout := before.stdout ++ s }
  | .stdout s, some _, before, after =>
      ∃ kept, kept <+: s ∧ after = { before with stdout := before.stdout ++ kept }.fault
  | .stderr _, (), before, after => after = before

end SyncthingSocket
