import SyncthingSocket.Luks.Patterns

/-!
When the agent and the initramfs-tools script choose the same configuration from one
header, whatever JSON documents it holds: the one reads the members of the outermost
object, the other the keys of all objects.
-/

namespace SyncthingSocket

open Json

/-- What a configuration comes down to. -/
structure Choice where
  seed : Text
  keyHolderDeviceID : Text
  server : Bool
  deriving DecidableEq, Repr

def LuksConfig.choice (cfg : LuksConfig) : Choice :=
  ⟨cfg.seed, cfg.keyHolderDeviceID, cfg.role = text "server"⟩

def ShellConfig.choice (vars : ShellConfig) : Choice :=
  ⟨vars.seed, vars.keyHolderDeviceID, vars.role = text "server"⟩

/-- What a token offers by the members of its outermost object, as they are decoded. -/
def offered (token : Token) : Option Choice :=
  match unmarshalToken token.document with
  | none => none
  | some tok =>
      if token.type = luksTokenType ∧ tok.type = luksTokenType ∧ tok.version = luksTokenVersion ∧
          tok.seed ≠ [] ∧ (tok.role = [] ∨ tok.role = text "client" ∨ tok.role = text "server") then
        some ⟨tok.seed, tok.keyHolderDeviceID, tok.role = text "server"⟩
      else none

/-- The value, as it is written, of the last key in the document that ends as the name
and has a value of that kind. -/
def lastValue (name : String) (kind : Text → Option Text) (document : Text) : Text :=
  ((keys document).filterMap (taken (text name) kind)).getLast?.getD []

/-- What a token shows by the keys of all its objects, as they are written. -/
def shown (role : Text) (token : Token) : Option Choice :=
  if mentionsType token.document = true ∧
      lastValue "version" leadingDigits token.document = text "1" then
    let own := lastValue "unlock_role" leadingString token.document
    some ⟨lastValue "p2p_key_seed" leadingString token.document,
      lastValue "key_holder_device_id" leadingString token.document,
      (if own ≠ [] then own else role) = text "server"⟩
  else none

variable {quote : Text → String} {token : Token} {tokens : List Token} {choice : Choice}
  {role : Text} {conf : Option LuksConf} {device : Text} {header : Header}

/-! One token. -/

theorem readLines_no_seed {lines : List Text}
    (unset : ∀ line ∈ lines, ∀ cfg : LuksConfig, (cfg.readLine line).seed = cfg.seed)
    (cfg : LuksConfig) : (lines.foldl LuksConfig.readLine cfg).seed = cfg.seed := by
  induction lines generalizing cfg with
  | nil => rfl
  | cons line lines ih =>
      rw [List.foldl_cons, ih fun other member => unset other (List.mem_cons_of_mem _ member)]
      exact unset line List.mem_cons_self cfg

theorem LuksConf.parsed (conf : LuksConf) (quote : Text → String) :
    parseLuksConf quote conf.file = match conf.file.scanLines.2 with
      | some err => .error err
      | none => .ok none := by
  have unseeded := readLines_no_seed conf.no_seed_line ⟨[], [], [], text "client"⟩
  rw [parseLuksConf]
  cases conf.file.scanLines.2 with
  | some err => rfl
  | none => exact if_pos unseeded

end SyncthingSocket
