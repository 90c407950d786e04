import SyncthingSocket.Luks.Token

/-!
`scanDevicesForConfig` of `luks_agent.go`: every device is dumped, every token of our
type that the dump lists is exported, and the first that can be used decides.
-/

namespace SyncthingSocket

/-- `commandRunner.run`: what a command line prints, or how it fails. -/
abbrev CommandRunner := List Text → Except Err Text

/-- `strconv.Atoi`. -/
def atoi (s : Text) : Option Int :=
  match s with
  | .char '+' :: digits => signedDigits false digits
  | s => parseInt s

def itoa (n : Int) : Text := text (toString n)

/-- The loop of `tokenIDsFromDump` over the lines. -/
def tokenIDsFrom (tokenType : Text) : Bool → List Text → List Int
  | _, [] => []
  | inTokens, line :: rest =>
      if ¬ text " " <+: line ∧ ¬ text "\t" <+: line then
        tokenIDsFrom tokenType (decide (text "Tokens:" <+: line)) rest
      else if inTokens = false then tokenIDsFrom tokenType inTokens rest
      else
        match line.trimSpace.cut ':' with
        | none => tokenIDsFrom tokenType inTokens rest
        | some (idPart, typePart) =>
            if typePart.trimSpace ≠ tokenType then tokenIDsFrom tokenType inTokens rest
            else (atoi idPart.trimSpace).toList ++ tokenIDsFrom tokenType inTokens rest

def tokenIDsFromDump (dump tokenType : Text) : List Int :=
  tokenIDsFrom tokenType false (dump.splitOn (.char '\n'))

section

variable (quote : Text → String) (runner : CommandRunner)

def luksDump (device : Text) : Except Err Text :=
  runner [text "cryptsetup", text "luksDump", device]

def exportToken (device : Text) (id : Int) : Except Err Text :=
  runner [text "cryptsetup", text "token", text "export", text "--token-id", itoa id, device]

def scanTokens (device : Text) : List Int → Option LuksConfig
  | [] => none
  | id :: rest =>
      match exportToken runner device id with
      | .error _ => scanTokens device rest
      | .ok raw =>
          match parseLUKSToken quote raw with
          | .error _ => scanTokens device rest
          | .ok none => scanTokens device rest
          | .ok (some cfg) => some { cfg with device := device }

def scanDevicesForConfig : List Text → Except Err (Option LuksConfig)
  | [] => .ok none
  | device :: rest =>
      match luksDump runner device with
      | .error _ => scanDevicesForConfig rest
      | .ok dump =>
          match scanTokens quote runner device (tokenIDsFromDump dump luksTokenType) with
          | some cfg => .ok (some cfg)
          | none => scanDevicesForConfig rest

/-! What it looks for. -/

def candidates (devices : List Text) : List (Text × Int) :=
  devices.flatMap fun device =>
    match luksDump runner device with
    | .error _ => []
    | .ok dump => (tokenIDsFromDump dump luksTokenType).map fun id => (device, id)

def AcceptedAs (token : Text × Int) (cfg : LuksConfig) : Prop :=
  ∃ raw, exportToken runner token.1 token.2 = .ok raw ∧ parseLUKSToken quote raw = .ok (some cfg)

def tokenConfig (token : Text × Int) : Option LuksConfig :=
  match exportToken runner token.1 token.2 with
  | .error _ => none
  | .ok raw =>
      match parseLUKSToken quote raw with
      | .ok (some cfg) => some cfg
      | _ => none

variable {quote runner}

theorem tokenConfig_eq_some {token : Text × Int} {cfg : LuksConfig} :
    tokenConfig quote runner token = some cfg ↔ AcceptedAs quote runner token cfg := by
  rw [tokenConfig, AcceptedAs]
  cases exported : exportToken runner token.1 token.2 with
  | error err => simp
  | ok raw =>
      cases parsed : parseLUKSToken quote raw with
      | error err => simp [parsed]
      | ok found => cases found <;> simp [parsed]

theorem tokenConfig_eq_none {token : Text × Int} :
    tokenConfig quote runner token = none ↔ ∀ cfg, ¬ AcceptedAs quote runner token cfg := by
  rw [Option.eq_none_iff_forall_ne_some]
  simp only [ne_eq, tokenConfig_eq_some]

theorem scanTokens_eq (device : Text) (ids : List Int) :
    scanTokens quote runner device ids = (ids.map fun id => (device, id)).findSome? fun token =>
      (tokenConfig quote runner token).map fun cfg => { cfg with device := token.1 } := by
  induction ids with
  | nil => rfl
  | cons id ids ih =>
      rw [scanTokens, List.map_cons, List.findSome?_cons, tokenConfig]
      cases exportToken runner device id with
      | error err => exact ih
      | ok raw =>
          simp only
          cases parseLUKSToken quote raw with
          | error err => exact ih
          | ok found =>
              cases found with
              | none => exact ih
              | some cfg => rfl

theorem scanDevicesForConfig_eq (devices : List Text) :
    scanDevicesForConfig quote runner devices = .ok ((candidates runner devices).findSome? fun token =>
      (tokenConfig quote runner token).map fun cfg => { cfg with device := token.1 }) := by
  induction devices with
  | nil => rfl
  | cons device devices ih =>
      rw [scanDevicesForConfig, candidates, List.flatMap_cons]
      cases luksDump runner device with
      | error err => exact ih
      | ok dump =>
          simp only
          rw [List.findSome?_append, ← scanTokens_eq]
          cases scanTokens quote runner device (tokenIDsFromDump dump luksTokenType) with
          | some cfg => rfl
          | none => exact ih

end

def FirstUsable (quote : Text → String) (runner : CommandRunner) (devices : List Text)
    (token : Text × Int) (cfg : LuksConfig) : Prop :=
  ∃ before after, candidates runner devices = before ++ token :: after ∧
    (∀ earlier ∈ before, ∀ cfg, ¬ AcceptedAs quote runner earlier cfg) ∧ AcceptedAs quote runner token cfg

theorem scan_found_iff {quote : Text → String} {runner : CommandRunner} {devices : List Text}
    {result : LuksConfig} :
    scanDevicesForConfig quote runner devices = .ok (some result) ↔
      ∃ token cfg, FirstUsable quote runner devices token cfg ∧
        result = { cfg with device := token.1 } := by
  rw [scanDevicesForConfig_eq, Except.ok.injEq, List.findSome?_eq_some_iff]
  constructor
  · rintro ⟨before, token, after, split, here, earlier⟩
    obtain ⟨cfg, accepted, rfl⟩ := Option.map_eq_some_iff.mp here
    refine ⟨token, cfg, ⟨before, after, split, ?_, tokenConfig_eq_some.mp accepted⟩, rfl⟩
    intro other member
    exact tokenConfig_eq_none.mp (Option.map_eq_none_iff.mp (earlier other member))
  · rintro ⟨token, cfg, ⟨before, after, split, earlier, accepted⟩, rfl⟩
    refine ⟨before, token, after, split, ?_, ?_⟩
    · rw [tokenConfig_eq_some.mpr accepted, Option.map_some]
    · intro other member
      rw [tokenConfig_eq_none.mpr (earlier other member), Option.map_none]

theorem scan_nothing_iff {quote : Text → String} {runner : CommandRunner} {devices : List Text} :
    scanDevicesForConfig quote runner devices = .ok none ↔
      ∀ token ∈ candidates runner devices, ∀ cfg, ¬ AcceptedAs quote runner token cfg := by
  rw [scanDevicesForConfig_eq, Except.ok.injEq, List.findSome?_eq_none_iff]
  constructor
  · intro none token member
    exact tokenConfig_eq_none.mp (Option.map_eq_none_iff.mp (none token member))
  · intro none token member
    rw [tokenConfig_eq_none.mpr (none token member), Option.map_none]

/-- The first token that can be used decides, and nothing that is passed over before it
makes a difference. -/
theorem first_usable_token_wins (quote : Text → String) (runner : CommandRunner)
    (devices : List Text) :
    (∀ result, scanDevicesForConfig quote runner devices = .ok (some result) ↔
      ∃ token cfg, FirstUsable quote runner devices token cfg ∧ result = { cfg with device := token.1 }) ∧
    (scanDevicesForConfig quote runner devices = .ok none ↔
      ∀ token ∈ candidates runner devices, ∀ cfg, ¬ AcceptedAs quote runner token cfg) ∧
    (∀ err, scanDevicesForConfig quote runner devices ≠ .error err) ∧
    (∀ (other : CommandRunner) (elsewhere : List Text) (token : Text × Int) (cfg : LuksConfig),
      FirstUsable quote runner devices token cfg → FirstUsable quote other elsewhere token cfg →
      scanDevicesForConfig quote runner devices = scanDevicesForConfig quote other elsewhere) := by
  refine ⟨fun result => scan_found_iff, scan_nothing_iff, ?_, ?_⟩
  · intro err
    rw [scanDevicesForConfig_eq]
    simp
  · intro other elsewhere token cfg here there
    rw [scan_found_iff.mpr ⟨token, cfg, here, rfl⟩, scan_found_iff.mpr ⟨token, cfg, there, rfl⟩]

def threeDisks : CommandRunner := fun words =>
  if words = [text "cryptsetup", text "luksDump", text "/dev/sdb"] then
    .ok (text "Tokens:\n  0: clevis\n  1: syncthing-socket\nDigests:\n  2: syncthing-socket\n")
  else if words = [text "cryptsetup", text "luksDump", text "/dev/sdc"] then
    .ok (text "Tokens:\n  3: syncthing-socket\n")
  else if words = [text "cryptsetup", text "token", text "export", text "--token-id", text "1", text "/dev/sdb"] then
    .ok (text "\x7b\"type\":\"syncthing-socket\"\x7d")
  else if words = [text "cryptsetup", text "token", text "export", text "--token-id", text "3", text "/dev/sdc"] then
    .ok (text "\x7b\"type\":\"syncthing-socket\",\"version\":1,\"p2p_key_seed\":\"s\"\x7d")
  else .error (.text "exit status 1")

theorem third_disk_wins : ∃ token cfg,
    FirstUsable (fun _ => "") threeDisks [text "/dev/sda", text "/dev/sdb", text "/dev/sdc"] token cfg ∧
    (⟨text "/dev/sdc", text "s", [], text "client"⟩ : LuksConfig) = { cfg with device := token.1 } :=
  ((first_usable_token_wins (fun _ => "") threeDisks [text "/dev/sda", text "/dev/sdb",
    text "/dev/sdc"]).1 _).mp
    (by decide +kernel)

end SyncthingSocket
