import SyncthingSocket.Luks.Rebind

/-!
The two readers of a header. The agent of `luks_agent.go` decodes the tokens that
`cryptsetup luksDump` lists under our type; `read_config` of the initramfs-tools
script goes through all ids with a pattern and a few calls of `sed`.
-/

namespace SyncthingSocket

open Json

/-- The variables of `read_config`. -/
structure ShellConfig where
  seed : Text
  keyHolderDeviceID : Text
  role : Text
  deriving DecidableEq, Repr

/-- A `luks.conf` that sets no seed: the file as the agent reads it, and the variables
after the script has sourced it. -/
structure LuksConf where
  file : FileRead
  sourced : ShellConfig
  no_seed_line : ∀ line ∈ file.scanLines.1, ∀ cfg : LuksConfig, (cfg.readLine line).seed = cfg.seed
  no_seed : sourced.seed = []

/-! The agent. -/

def tokenIDs (header : Header) (tokenType : Text) : List Nat :=
  (header.dump.filter fun entry => entry.2 = tokenType).map Prod.fst

def scanDevice (quote : Text → String) (device : Text) (header : Header) : Option LuksConfig :=
  (tokenIDs header luksTokenType).findSome? fun id =>
    match header.slot id with
    | none => none
    | some token =>
        match parseLUKSToken quote token.document with
        | .error _ => none
        | .ok cfg => cfg.map fun cfg => { cfg with device := device }

def findLUKSConfig (quote : Text → String) (conf : Option LuksConf) (device : Text)
    (header : Header) :
    Except Err (Option LuksConfig) :=
  match conf with
  | none => .ok (scanDevice quote device header)
  | some conf =>
      match parseLuksConf quote conf.file with
      | .error err => .error err
      | .ok (some cfg) => .ok (some cfg)
      | .ok none => .ok (scanDevice quote device header)

/-! The script. -/

/-- `[[:space:]]*`. -/
def skipSpace (s : Text) : Text :=
  s.dropWhile fun rune => rune ∈ text " \t\n\x0b\x0c\r"

/-- What follows `[[:space:]]*:[[:space:]]*`. -/
def skipColon (s : Text) : Option Text :=
  match skipSpace s with
  | .char ':' :: rest => some (skipSpace rest)
  | _ => none

/-- What follows `"name"[[:space:]]*:[[:space:]]*`, if the text begins with that. -/
def afterColon (name : Text) (s : Text) : Option Text :=
  if (.char '"' :: (name ++ [.char '"'])).isPrefixOf s then skipColon (s.drop (name.length + 2)) else none

/-- `\([0-9]*\)`. -/
def leadingDigits (s : Text) : Option Text := some (s.takeWhile isDigitRune)

/-- `"\([^"]*\)"`. -/
def leadingString (s : Text) : Option Text :=
  match s with
  | .char '"' :: rest =>
      if .char '"' ∈ rest then some (rest.takeWhile (· ≠ .char '"')) else none
  | _ => none

def matchesOf (name : Text) (capture : Text → Option Text) (line : Text) : List Text :=
  line.tails.filterMap fun s => (afterColon name s).bind capture

/-- `sed -n 's/.*"name"[[:space:]]*:[[:space:]]*….*/\1/p'`: the leading `.*` takes as
much as it can, so the last match counts, and without one nothing is printed. -/
def sed (name : Text) (capture : Text → Option Text) (line : Text) : Text :=
  (matchesOf name capture line).getLast?.getD []

def scriptTakes (document : Text) : Bool :=
  mentionsType document && sed (text "version") leadingDigits document = text "1"

def ShellConfig.take (vars : ShellConfig) (document : Text) : ShellConfig where
  seed := sed (text "p2p_key_seed") leadingString document
  keyHolderDeviceID := sed (text "key_holder_device_id") leadingString document
  role :=
    let role := sed (text "unlock_role") leadingString document
    if role ≠ [] then role else vars.role

def readTokens (header : Header) : Nat → Nat → ShellConfig → ShellConfig
  | 0, _, vars => vars
  | left + 1, id, vars =>
      let tokenJSON := ((header.slot id).map Token.document).getD []
      if scriptTakes tokenJSON then vars.take tokenJSON else readTokens header left (id + 1) vars

/-- The variables before the loop: the defaults, or what `luks.conf` made of them. -/
def sourcedConfig (conf : Option LuksConf) : ShellConfig :=
  (conf.map LuksConf.sourced).getD ⟨[], [], text "client"⟩

def readConfig (conf : Option LuksConf) (header : Header) : Option ShellConfig :=
  let vars := sourcedConfig conf
  if vars.seed ≠ [] then some vars
  else
    let vars := readTokens header 32 0 vars
    if vars.seed ≠ [] then some vars else none

def Header.tokens (header : Header) : List Token := (List.range 32).filterMap header.slot

section

variable {header : Header}

/-- The token in the lowest slot that a reader takes. -/
theorem Header.tokens_first {α : Type} {f : Token → Option α} {found : α} {id : Nat} {token : Token}
    (stored : header.slot id = some token) (here : f token = some found)
    (skips : ∀ other token, other < id → header.slot other = some token → f token = none) :
    header.tokens.findSome? f = some found := by
  have bound : id < 32 := by
    by_contra beyond
    rw [header.bounded id (by omega)] at stored
    simp at stored
  rw [tokens]
  induction 32, (show id + 1 ≤ 32 from bound) using Nat.le_induction with
  | base =>
      have none : ((List.range id).filterMap header.slot).findSome? f = none := by
        rw [List.findSome?_eq_none_iff]
        intro earlier listed
        obtain ⟨other, below, held⟩ := List.mem_filterMap.mp listed
        exact skips other earlier (List.mem_range.mp below) held
      simp [List.range_succ, List.findSome?_append, none, stored, here]
  | succ count _ ih =>
      rw [List.range_succ, List.filterMap_append, List.findSome?_append, ih]
      rfl

end

def agentReads (quote : Text → String) (token : Token) : Option LuksConfig :=
  if token.type = luksTokenType then
    match parseLUKSToken quote token.document with
    | .error _ => none
    | .ok cfg => cfg
  else none

theorem scanDevice_eq (quote : Text → String) (device : Text) (header : Header) :
    scanDevice quote device header =
      (header.tokens.findSome? (agentReads quote)).map fun cfg => { cfg with device := device } := by
  rw [scanDevice, tokenIDs, Header.dump, Header.tokens]
  generalize List.range 32 = ids
  induction ids with
  | nil => rfl
  | cons id ids ih =>
      cases stored : header.slot id with
      | none =>
          simp only [List.filterMap_cons, stored, Option.map_none]
          exact ih
      | some token =>
          simp only [List.filterMap_cons, stored, Option.map_some, List.findSome?_cons, agentReads]
          by_cases ours : token.type = luksTokenType
          · simp only [ours, List.filter_cons, decide_true, ↓reduceIte, List.map_cons,
              List.findSome?_cons, stored, ih]
            cases parseLUKSToken quote token.document with
            | error err => rfl
            | ok cfg => cases cfg <;> rfl
          · simp only [ours, List.filter_cons, decide_false, Bool.false_eq_true, ↓reduceIte]
            exact ih

theorem sourcedConfig_no_seed (conf : Option LuksConf) : (sourcedConfig conf).seed = [] := by
  cases conf with
  | none => rfl
  | some conf => exact conf.no_seed

theorem readConfig_eq (conf : Option LuksConf) (header : Header) :
    readConfig conf header =
      if (readTokens header 32 0 (sourcedConfig conf)).seed = [] then none
      else some (readTokens header 32 0 (sourcedConfig conf)) := by
  simp [readConfig, sourcedConfig_no_seed]

def scriptReads (vars : ShellConfig) (token : Token) : Option ShellConfig :=
  if scriptTakes token.document then some (vars.take token.document) else none

theorem readTokens_eq (header : Header) (vars : ShellConfig) :
    readTokens header 32 0 vars = (header.tokens.findSome? (scriptReads vars)).getD vars := by
  rw [Header.tokens, List.range_eq_range']
  generalize 32 = left, 0 = first
  induction left generalizing first with
  | zero => rfl
  | succ left ih =>
      rw [readTokens, List.range'_succ, List.filterMap_cons]
      cases stored : header.slot first with
      | none => exact ih (first + 1)
      | some token =>
          simp only [Option.map_some, Option.getD_some, List.findSome?_cons, scriptReads]
          split
          · rfl
          · exact ih (first + 1)

end SyncthingSocket
