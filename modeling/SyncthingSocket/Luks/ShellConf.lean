import SyncthingSocket.Lines
import SyncthingSocket.Luks.Classify
import SyncthingSocket.Luks.Readers

/-!
`luks.conf` has two readers: `/bin/sh` sources it in the initramfs-tools script, and
`parseLuksConf` takes it apart line by line.
-/

namespace SyncthingSocket

/-! The files, as far as a shell reads nothing but assignments in them. -/

inductive Quoting
  | bare
  | single
  | double
  deriving DecidableEq, Repr

def Quoting.allows : Quoting → Rune → Bool
  | bare, .char c => c.isAlphanum || c ∈ ['-', '_', '+', '/', '=', '.', '@', ':']
  | bare, .invalid _ => false
  | single, rune => rune ∉ [.char '\'', .char '\n']
  | double, rune => rune ∉ [.char '"', .char '$', .char '`', .char '\\', .char '\n']

structure Word where
  quoting : Quoting
  value : Text
  allowed : ∀ rune ∈ value, quoting.allows rune = true

def Word.written (word : Word) : Text :=
  match word.quoting with
  | .bare => word.value
  | .single => .char '\'' :: (word.value ++ [.char '\''])
  | .double => .char '"' :: (word.value ++ [.char '"'])

def isNameRune : Rune → Bool
  | .char c => c.isAlphanum || c = '_'
  | .invalid _ => false

structure ShellName where
  name : Text
  nonempty : name ≠ []
  valid : ∀ rune ∈ name, isNameRune rune = true

inductive ConfLine
  | blank (spaces : Text) (only : ∀ rune ∈ spaces, rune = .char ' ' ∨ rune = .char '\t')
  | comment (body : Text)
  | assignment (key : ShellName) (word : Word)

def ConfLine.written : ConfLine → Text
  | blank spaces _ => spaces
  | comment body => .char '#' :: body
  | assignment key word => key.name ++ .char '=' :: word.written

/-! The shell. -/

def ShellConfig.assign (vars : ShellConfig) (key value : Text) : ShellConfig :=
  if key = text "P2P_KEY_SEED" then { vars with seed := value }
  else if key = text "KEY_HOLDER_DEVICE_ID" then { vars with keyHolderDeviceID := value }
  else if key = text "UNLOCK_ROLE" then { vars with role := value }
  else vars

def Text.withoutNul (s : Text) : Text := s.filter (· ≠ .char '\x00')

def ShellConfig.source (vars : ShellConfig) : ConfLine → ShellConfig
  | .assignment key word => vars.assign key.name word.value.withoutNul
  | _ => vars

/-- The variables after `read_config` has set its defaults and sourced the file. -/
def sourcedLines (lines : List ConfLine) : ShellConfig :=
  lines.foldl ShellConfig.source ⟨[], [], text "client"⟩

/-! The same values as they stand in the file. -/

def ShellConfig.note (vars : ShellConfig) : ConfLine → ShellConfig
  | .assignment key word => vars.assign key.name word.value
  | _ => vars

def writtenLines (lines : List ConfLine) : ShellConfig :=
  lines.foldl ShellConfig.note ⟨[], [], text "client"⟩

def ShellConfig.withoutNul (vars : ShellConfig) : ShellConfig where
  seed := vars.seed.withoutNul
  keyHolderDeviceID := vars.keyHolderDeviceID.withoutNul
  role := vars.role.withoutNul

theorem source_withoutNul (vars : ShellConfig) (line : ConfLine) :
    vars.withoutNul.source line = (vars.note line).withoutNul := by
  cases line with
  | blank spaces only => rfl
  | comment body => rfl
  | assignment key word =>
      simp only [ShellConfig.source, ShellConfig.note, ShellConfig.assign]
      split_ifs <;> rfl

theorem sourcedLines_eq (lines : List ConfLine) :
    sourcedLines lines = (writtenLines lines).withoutNul := by
  have fold : ∀ vars : ShellConfig, lines.foldl ShellConfig.source vars.withoutNul =
      (lines.foldl ShellConfig.note vars).withoutNul := by
    induction lines with
    | nil =>
        intro vars
        rfl
    | cons line rest ih =>
        intro vars
        rw [List.foldl_cons, source_withoutNul, ih, List.foldl_cons]
  have defaults : (⟨[], [], text "client"⟩ : ShellConfig).withoutNul = ⟨[], [], text "client"⟩ := by
    decide
  rw [sourcedLines, ← defaults, fold, writtenLines]

theorem sourcedLines_fields (lines : List ConfLine) :
    (sourcedLines lines).seed = (writtenLines lines).seed.withoutNul ∧
    (sourcedLines lines).keyHolderDeviceID = (writtenLines lines).keyHolderDeviceID.withoutNul ∧
    (sourcedLines lines).role = (writtenLines lines).role.withoutNul := by
  rw [sourcedLines_eq]
  exact ⟨rfl, rfl, rfl⟩

/-! The agent, on a line of such a file. -/

theorem alphanum_toNat {c : Char} (valid : c.isAlphanum = true) : 48 ≤ c.toNat ∧ c.toNat ≤ 122 := by
  have parts : ((decide (c.val ≥ 'A'.val ∧ c.val ≤ 'Z'.val) ||
      decide (c.val ≥ 'a'.val) && decide (c.val ≤ 'z'.val)) || c.isDigit) = true := valid
  simp only [Bool.or_eq_true, Bool.and_eq_true, decide_eq_true_eq] at parts
  rcases parts with (⟨least, most⟩ | ⟨least, most⟩) | digit
  · have lower : 65 ≤ c.toNat := least
    have upper : c.toNat ≤ 90 := most
    omega
  · have lower : 97 ≤ c.toNat := least
    have upper : c.toNat ≤ 122 := most
    omega
  · have bounds := digit_toNat digit
    omega

theorem isQuote_toNat {c : Char} (quoted : isQuote (.char c) = true) :
    c.toNat = 34 ∨ c.toNat = 39 := by
  simp only [isQuote, Bool.or_eq_true, decide_eq_true_eq, Rune.char.injEq] at quoted
  rcases quoted with rfl | rfl
  · exact Or.inl rfl
  · exact Or.inr rfl

theorem bare_visible {rune : Rune} (allowed : Quoting.bare.allows rune = true) :
    rune.isSpace = false ∧ isQuote rune = false := by
  cases rune with
  | invalid byte => simp [Quoting.allows] at allowed
  | char c =>
      simp only [Quoting.allows, Bool.or_eq_true, decide_eq_true_eq] at allowed
      rcases allowed with alphanum | mark
      · obtain ⟨lower, upper⟩ := alphanum_toNat alphanum
        refine ⟨isSpace_printable (by omega) (by omega), ?_⟩
        rw [Bool.eq_false_iff]
        intro quoted
        rcases isQuote_toNat quoted with code | code <;> omega
      · simp only [List.mem_cons, List.not_mem_nil, or_false] at mark
        rcases mark with rfl | rfl | rfl | rfl | rfl | rfl | rfl | rfl <;> decide

theorem name_visible {rune : Rune} (valid : isNameRune rune = true) :
    rune.isSpace = false ∧ rune ≠ .char '=' ∧ rune ≠ .char '#' := by
  cases rune with
  | invalid byte => simp [isNameRune] at valid
  | char c =>
      simp only [isNameRune, Bool.or_eq_true, decide_eq_true_eq] at valid
      rcases valid with alphanum | rfl
      · obtain ⟨lower, upper⟩ := alphanum_toNat alphanum
        refine ⟨isSpace_printable (by omega) (by omega), ?_, ?_⟩
        · rintro ⟨⟩
          exact absurd alphanum (by decide)
        · rintro ⟨⟩
          exact absurd alphanum (by decide)
      · decide

theorem trimFunc_sublist (p : Rune → Bool) (s : Text) : (s.trimFunc p).Sublist s := by
  have front : (s.dropWhile p).Sublist s := (List.dropWhile_suffix p).sublist
  have back := (List.dropWhile_suffix (l := (s.dropWhile p).reverse) p).sublist
  rw [← List.reverse_sublist, List.reverse_reverse] at back
  exact back.trans front

theorem trimFunc_of_countP {p : Rune → Bool} {s : Text}
    (counted : (s.trimFunc p).countP p = s.countP p) : s.trimFunc p = s := by
  refine Text.trimFunc_self ?_ ?_
  · intro rune first
    by_contra trimmed
    rw [Bool.not_eq_false] at trimmed
    obtain ⟨rest, rfl⟩ := List.head?_eq_some_iff.mp first
    have fewer := (trimFunc_sublist p rest).countP_le (p := p)
    rw [Text.trimFunc_cons trimmed, List.countP_cons_of_pos trimmed] at counted
    omega
  · intro rune last
    by_contra trimmed
    rw [Bool.not_eq_false] at trimmed
    obtain ⟨rest, rfl⟩ := List.getLast?_eq_some_iff.mp last
    have fewer := (trimFunc_sublist p rest).countP_le (p := p)
    rw [Text.trimFunc_concat trimmed, List.countP_append] at counted
    simp only [List.countP_singleton, trimmed, ↓reduceIte] at counted
    omega

theorem trimFunc_between {p : Rune → Bool} {quote : Rune} (kept : p quote = false) (s : Text) :
    Text.trimFunc p (quote :: (s ++ [quote])) = quote :: (s ++ [quote]) := by
  refine Text.trimFunc_self ?_ ?_
  · rintro rune ⟨⟩
    exact kept
  · intro rune last
    rw [← List.cons_append, List.getLast?_concat] at last
    cases last
    exact kept

theorem Word.written_clean (word : Word) : word.written.trimSpace = word.written := by
  obtain ⟨quoting, value, allowed⟩ := word
  cases quoting with
  | bare => exact Text.trimFunc_none fun rune member => (bare_visible (allowed rune member)).1
  | single => exact trimFunc_between (by decide) value
  | double => exact trimFunc_between (by decide) value

theorem Word.written_unquoted (word : Word) :
    word.written.trimFunc isQuote = word.value.trimFunc isQuote := by
  -- Trimming takes the quotes off, and with them those the value begins or ends with.
  obtain ⟨quoting, value, allowed⟩ := word
  cases quoting with
  | bare => rfl
  | single => rw [Word.written, Text.trimFunc_cons (by decide), Text.trimFunc_concat (by decide)]
  | double => rw [Word.written, Text.trimFunc_cons (by decide), Text.trimFunc_concat (by decide)]

def LuksConfig.assign (cfg : LuksConfig) (key value : Text) : LuksConfig :=
  if key = text "P2P_KEY_SEED" then { cfg with seed := value }
  else if key = text "KEY_HOLDER_DEVICE_ID" then { cfg with keyHolderDeviceID := value }
  else if key = text "UNLOCK_ROLE" then if value ≠ [] then { cfg with role := value } else cfg
  else cfg

def LuksConfig.take (cfg : LuksConfig) : ConfLine → LuksConfig
  | .assignment key word => cfg.assign key.name (word.value.trimFunc isQuote)
  | _ => cfg

theorem readLine_written (cfg : LuksConfig) (line : ConfLine) :
    cfg.readLine line.written = cfg.take line := by
  cases line with
  | blank spaces only =>
      have blank : spaces.trimSpace = [] := by
        rw [trimSpace_eq_nil_iff]
        intro rune member
        rcases only rune member with rfl | rfl <;> decide
      simp [LuksConfig.readLine, LuksConfig.take, ConfLine.written, blank]
  | comment body =>
      have starts : text "#" <+: Text.trimSpace (.char '#' :: body) := by
        rw [Text.trimSpace, show (.char '#' :: body : Text) = [] ++ .char '#' :: body from rfl,
          Text.trimFunc_middle (by decide)]
        exact List.prefix_append _ _
      simp [LuksConfig.readLine, LuksConfig.take, ConfLine.written, starts]
  | assignment key word =>
      obtain ⟨name, nonempty, valid⟩ := key
      obtain ⟨first, rest, rfl⟩ := List.exists_cons_of_ne_nil nonempty
      have unseparated : .char '=' ∉ first :: rest :=
        fun member => (name_visible (valid _ member)).2.1 rfl
      have trimmed : Text.trimSpace (first :: rest) = first :: rest :=
        Text.trimFunc_none fun rune member => (name_visible (valid rune member)).1
      have clean : Text.trimSpace (first :: rest ++ .char '=' :: word.written) =
          first :: rest ++ .char '=' :: word.written := by
        rw [Text.trimSpace, Text.trimFunc_middle (by decide), Text.rdropWhile_trimmed word.written_clean,
          List.dropWhile_cons_of_neg (by simp [(name_visible (valid first List.mem_cons_self)).1])]
      have kept : ¬ (first :: rest ++ .char '=' :: word.written = [] ∨
          text "#" <+: first :: rest ++ .char '=' :: word.written) := by
        have noComment := (name_visible (valid first List.mem_cons_self)).2.2
        rw [show text "#" = [.char '#'] from rfl, List.cons_append, List.cons_prefix_cons]
        simp [noComment.symm]
      simp only [LuksConfig.readLine, ConfLine.written, clean]
      rw [if_neg kept, Text.cut_key unseparated]
      simp only [trimmed, word.written_clean, word.written_unquoted]
      rfl

/-! What both make of a whole file. -/

def roleValues (lines : List ConfLine) : List Text :=
  lines.filterMap fun
    | .assignment key word => if key.name = text "UNLOCK_ROLE" then some word.value else none
    | _ => none

def keptRole (lines : List ConfLine) : Text :=
  (((roleValues lines).map (Text.trimFunc isQuote)).filter (· ≠ [])).getLast?.getD (text "client")

def gathered (lines : List ConfLine) : LuksConfig where
  device := []
  seed := (writtenLines lines).seed.trimFunc isQuote
  keyHolderDeviceID := (writtenLines lines).keyHolderDeviceID.trimFunc isQuote
  role := keptRole lines

theorem writtenLines_concat (lines : List ConfLine) (line : ConfLine) :
    writtenLines (lines ++ [line]) = (writtenLines lines).note line := by
  simp [writtenLines]

theorem keptRole_assignment (lines : List ConfLine) (key : ShellName) (word : Word) :
    keptRole (lines ++ [.assignment key word]) =
      if key.name = text "UNLOCK_ROLE" ∧ word.value.trimFunc isQuote ≠ [] then word.value.trimFunc isQuote
      else keptRole lines := by
  have values : roleValues (lines ++ [.assignment key word]) =
      roleValues lines ++ if key.name = text "UNLOCK_ROLE" then [word.value] else [] := by
    rw [roleValues, List.filterMap_append]
    congr 1
    by_cases named : key.name = text "UNLOCK_ROLE" <;> simp [named]
  rw [keptRole, values]
  by_cases named : key.name = text "UNLOCK_ROLE"
  · by_cases empty : word.value.trimFunc isQuote = []
    · simp [named, empty, keptRole]
    · simp [named, empty]
  · simp [named, keptRole]

theorem lines_gathered (lines : List ConfLine) :
    lines.foldl LuksConfig.take ⟨[], [], [], text "client"⟩ = gathered lines := by
  induction lines using List.reverseRecOn with
  | nil => rfl
  | append_singleton lines line ih =>
      rw [List.foldl_append, ih, List.foldl_cons, List.foldl_nil]
      cases line with
      | blank spaces only =>
          simp [gathered, LuksConfig.take, writtenLines, ShellConfig.note, keptRole, roleValues]
      | comment body =>
          simp [gathered, LuksConfig.take, writtenLines, ShellConfig.note, keptRole, roleValues]
      | assignment key word =>
          simp only [gathered, LuksConfig.take, writtenLines_concat, ShellConfig.note,
            keptRole_assignment]
          by_cases seed : key.name = text "P2P_KEY_SEED"
          · simp [LuksConfig.assign, ShellConfig.assign, seed,
              show text "P2P_KEY_SEED" ≠ text "UNLOCK_ROLE" by decide]
          · by_cases holder : key.name = text "KEY_HOLDER_DEVICE_ID"
            · simp [LuksConfig.assign, ShellConfig.assign, holder,
                show text "KEY_HOLDER_DEVICE_ID" ≠ text "P2P_KEY_SEED" by decide,
                show text "KEY_HOLDER_DEVICE_ID" ≠ text "UNLOCK_ROLE" by decide]
            · by_cases role : key.name = text "UNLOCK_ROLE"
              · by_cases empty : word.value.trimFunc isQuote = []
                · simp [LuksConfig.assign, ShellConfig.assign, role, empty,
                    show text "UNLOCK_ROLE" ≠ text "P2P_KEY_SEED" by decide,
                    show text "UNLOCK_ROLE" ≠ text "KEY_HOLDER_DEVICE_ID" by decide]
                · simp [LuksConfig.assign, ShellConfig.assign, role, empty,
                    show text "UNLOCK_ROLE" ≠ text "P2P_KEY_SEED" by decide,
                    show text "UNLOCK_ROLE" ≠ text "KEY_HOLDER_DEVICE_ID" by decide]
              · simp [LuksConfig.assign, ShellConfig.assign, seed, holder, role]

theorem keptRole_last {lines : List ConfLine}
    (shown : (writtenLines lines).role.trimFunc isQuote ≠ []) :
    keptRole lines = (writtenLines lines).role.trimFunc isQuote := by
  induction lines using List.reverseRecOn with
  | nil => decide
  | append_singleton lines line ih =>
      rw [writtenLines_concat] at shown ⊢
      cases line with
      | blank spaces only => simpa [keptRole, roleValues, ShellConfig.note] using ih shown
      | comment body => simpa [keptRole, roleValues, ShellConfig.note] using ih shown
      | assignment key word =>
          rw [keptRole_assignment]
          simp only [ShellConfig.note, ShellConfig.assign] at shown ⊢
          by_cases role : key.name = text "UNLOCK_ROLE"
          · have others : text "UNLOCK_ROLE" ≠ text "P2P_KEY_SEED" ∧
              text "UNLOCK_ROLE" ≠ text "KEY_HOLDER_DEVICE_ID" := by decide
            simp only [role, others, ↓reduceIte] at shown ⊢
            simp [shown]
          · rw [if_neg fun named => role named.1]
            split_ifs at shown ⊢ <;> exact ih shown

variable {file : FileRead} {lines : List ConfLine} {value : Text}

theorem foldl_scanned (short : ∀ line ∈ file.pieces, Text.size line < maxScanTokenSize)
    (cfg : LuksConfig) :
    file.scanLines.1.foldl LuksConfig.readLine cfg = file.pieces.foldl LuksConfig.readLine cfg ∧
      file.scanLines.2 = file.err := by
  have returns : ∀ (cfg : LuksConfig) (line : Text), cfg.readLine (dropCR line) = cfg.readLine line := by
    intro cfg line
    rw [LuksConfig.readLine, LuksConfig.readLine, trimSpace_dropCR]
  obtain ⟨lines, scanned, split⟩ := scanLines_short short
  rw [scanned]
  refine ⟨?_, rfl⟩
  simp only [List.foldl_map, returns]
  rcases split with same | blank
  · rw [same]
  · rw [blank, List.foldl_append]
    rfl

structure ConfFile (file : FileRead) (lines : List ConfLine) : Prop where
  read : file.err = none
  pieces : file.pieces = lines.map ConfLine.written

def ShortLines (lines : List ConfLine) : Prop :=
  ∀ line ∈ lines, Text.size line.written < maxScanTokenSize

theorem parseLuksConf_short {quote : Text → String}
    (conf : ConfFile file lines) (short : ShortLines lines) : parseLuksConf quote file =
      if (gathered lines).seed = [] then .ok none
      else if (gathered lines).role ≠ text "client" ∧ (gathered lines).role ≠ text "server" then
        .error (.text ("unknown UNLOCK_ROLE " ++ quote (gathered lines).role))
      else .ok (some (gathered lines)) := by
  have fits : ∀ line ∈ file.pieces, Text.size line < maxScanTokenSize := by
    rw [conf.pieces]
    intro line member
    obtain ⟨source, listed, rfl⟩ := List.mem_map.mp member
    exact short source listed
  obtain ⟨folded, ended⟩ := foldl_scanned fits ⟨[], [], [], text "client"⟩
  have all : file.pieces.foldl LuksConfig.readLine ⟨[], [], [], text "client"⟩ = gathered lines := by
    rw [conf.pieces, List.foldl_map, ← lines_gathered]
    simp only [readLine_written]
  rw [parseLuksConf, folded, all, ended, conf.read]

theorem parseLuksConf_long (quote : Text → String)
    (conf : ConfFile file lines) (long : ¬ ShortLines lines) :
    ∃ err, parseLuksConf quote file = .error err := by
  simp only [ShortLines, not_forall, Nat.not_lt] at long
  obtain ⟨line, member, size⟩ := long
  have listed : line.written ∈ file.pieces := by
    rw [conf.pieces]
    exact List.mem_map_of_mem member
  rw [parseLuksConf, scanLines_long listed size]
  exact ⟨_, rfl⟩

/-- `parseLuksConf` finds what the shell has in its variables. -/
structure SameAsShell (quote : Text → String) (file : FileRead) (vars : ShellConfig) : Prop where
  unset : vars.seed = [] → parseLuksConf quote file = .ok none
  refused : vars.seed ≠ [] → ¬ KnownRole vars.role → ∃ err, parseLuksConf quote file = .error err
  taken : vars.seed ≠ [] → KnownRole vars.role → parseLuksConf quote file =
    .ok (some ⟨[], vars.seed, vars.keyHolderDeviceID,
      if vars.role = [] then text "client" else vars.role⟩)

def BareEnds (value : Text) : Prop := value.trimFunc isQuote = value

def NulFree (value : Text) : Prop := .char '\x00' ∉ value

theorem withoutNul_eq_self : value.withoutNul = value ↔ NulFree value := by
  rw [Text.withoutNul, List.filter_eq_self, NulFree]
  constructor
  · intro kept nul
    exact absurd (kept _ nul) (by decide)
  · intro free rune member
    simp only [ne_eq, decide_not, Bool.not_eq_true', decide_eq_false_iff_not]
    rintro rfl
    exact free member

theorem countP_withoutNul (value : Text) :
    value.withoutNul.countP isQuote = value.countP isQuote := by
  rw [Text.withoutNul, List.countP_filter]
  refine List.countP_congr fun rune _ => ?_
  simp only [ne_eq, decide_not, Bool.and_eq_true, Bool.not_eq_true', decide_eq_false_iff_not,
    and_iff_left_iff_imp]
  rintro quote rfl
  exact absurd quote (by decide)

/-- The agent drops quotes and the shell drops NUL bytes, so they agree on a value only
where neither drops anything. -/
theorem trim_eq_withoutNul :
    value.trimFunc isQuote = value.withoutNul ↔ NulFree value ∧ BareEnds value := by
  constructor
  · intro same
    have counted : (value.trimFunc isQuote).countP isQuote = value.countP isQuote := by
      rw [same, countP_withoutNul]
    have bare : BareEnds value := trimFunc_of_countP counted
    exact ⟨withoutNul_eq_self.mp (same.symm.trans bare), bare⟩
  · rintro ⟨free, bare⟩
    rw [withoutNul_eq_self.mpr free]
    exact bare

theorem nulFree_of_withoutNul (dropped : value.withoutNul = [])
    (trimmed : value.trimFunc isQuote = []) : NulFree value :=
  (trim_eq_withoutNul.mp (trimmed.trans dropped.symm)).1

theorem known_bareEnds {role : Text} (known : KnownRole role.withoutNul) : BareEnds role := by
  have unquoted : role.withoutNul.countP isQuote = 0 := by
    rcases known with empty | client | server
    · rw [empty]
      rfl
    · rw [client]
      decide
    · rw [server]
      decide
  rw [countP_withoutNul, List.countP_eq_zero] at unquoted
  exact Text.trimFunc_none fun rune member => Bool.eq_false_iff.mpr (unquoted rune member)

theorem keptRole_known (known : KnownRole (sourcedLines lines).role)
    (given : (sourcedLines lines).role ≠ []) : keptRole lines = (writtenLines lines).role := by
  rw [sourcedLines_eq] at known given
  have plain := known_bareEnds known
  have shown : (writtenLines lines).role.trimFunc isQuote ≠ [] := by
    rw [plain]
    rintro empty
    exact given (by simp [ShellConfig.withoutNul, empty, Text.withoutNul])
  rw [keptRole_last shown, plain]

/-- The files on which the two readers cannot differ: every line fits the scanner, the
values hold no NUL byte, the seed and the key holder neither begin nor end with a quote,
and a role that is unset again was the client's before. Where the shell's role is one that
nobody knows, what the agent keeps of it has to be unknown too. -/
structure ReadAlike (lines : List ConfLine) : Prop where
  unset : (sourcedLines lines).seed = [] → ShortLines lines ∧ NulFree (writtenLines lines).seed
  known : (sourcedLines lines).seed ≠ [] → KnownRole (sourcedLines lines).role →
    ShortLines lines ∧
      (NulFree (writtenLines lines).seed ∧ BareEnds (writtenLines lines).seed) ∧
      (NulFree (writtenLines lines).keyHolderDeviceID ∧
        BareEnds (writtenLines lines).keyHolderDeviceID) ∧
      ((sourcedLines lines).role ≠ [] → NulFree (writtenLines lines).role) ∧
      ((sourcedLines lines).role = [] → keptRole lines = text "client")
  unknown : (sourcedLines lines).seed ≠ [] → ¬ KnownRole (sourcedLines lines).role →
    ShortLines lines →
      (writtenLines lines).seed.trimFunc isQuote ≠ [] ∧ ¬ KnownRole (keptRole lines)

theorem keptRole_ne_nil (lines : List ConfLine) : keptRole lines ≠ [] := by
  rw [keptRole]
  cases last : (((roleValues lines).map (Text.trimFunc isQuote)).filter (· ≠ [])).getLast? with
  | none => decide
  | some role => simpa using (List.mem_filter.mp (List.mem_of_getLast? last)).2

theorem known_of_kept :
    KnownRole (keptRole lines) ↔ keptRole lines = text "client" ∨ keptRole lines = text "server" := by
  simp [KnownRole, keptRole_ne_nil]

theorem parseLuksConf_cases (quote : Text → String)
    (conf : ConfFile file lines) (short : ShortLines lines) :
    ((gathered lines).seed = [] ∧ parseLuksConf quote file = .ok none) ∨
    ((gathered lines).seed ≠ [] ∧ ¬ KnownRole (keptRole lines) ∧
      ∃ err, parseLuksConf quote file = .error err) ∨
    ((gathered lines).seed ≠ [] ∧ KnownRole (keptRole lines) ∧
      parseLuksConf quote file = .ok (some (gathered lines))) := by
  rw [parseLuksConf_short conf short, known_of_kept]
  split_ifs with empty unknown
  · exact Or.inl ⟨empty, rfl⟩
  · exact Or.inr (Or.inl ⟨empty, not_or.mpr unknown, _, rfl⟩)
  · refine Or.inr (Or.inr ⟨empty, ?_, rfl⟩)
    by_contra neither
    exact unknown (not_or.mp neither)

theorem SameAsShell.alike {quote : Text → String}
    (conf : ConfFile file lines) (same : SameAsShell quote file (sourcedLines lines)) :
    ReadAlike lines := by
  obtain ⟨seeds, holders, roles⟩ := sourcedLines_fields lines
  obtain ⟨unset, refused, taken⟩ := same
  refine ⟨?_, ?_, ?_⟩
  · intro empty
    have result := unset empty
    have short : ShortLines lines := by
      by_contra long
      obtain ⟨err, failed⟩ := parseLuksConf_long quote conf long
      simp [failed] at result
    refine ⟨short, ?_⟩
    rcases parseLuksConf_cases quote conf short with
      ⟨trimmed, _⟩ | ⟨_, _, err, parsed⟩ | ⟨_, _, parsed⟩
    · exact nulFree_of_withoutNul (seeds.symm.trans empty) trimmed
    · simp [parsed] at result
    · simp [parsed] at result
  · intro given known
    have result := taken given known
    have short : ShortLines lines := by
      by_contra long
      obtain ⟨err, failed⟩ := parseLuksConf_long quote conf long
      simp [failed] at result
    refine ⟨short, ?_⟩
    rcases parseLuksConf_cases quote conf short with
      ⟨_, parsed⟩ | ⟨_, _, err, parsed⟩ | ⟨_, _, parsed⟩
    · simp [parsed] at result
    · simp [parsed] at result
    · rw [parsed, Except.ok.injEq, Option.some.injEq] at result
      injection result with _ seed holder role
      refine ⟨trim_eq_withoutNul.mp (seed.trans seeds), trim_eq_withoutNul.mp (holder.trans holders),
        fun shown => ?_, fun empty => ?_⟩
      · have kept : (writtenLines lines).role = (writtenLines lines).role.withoutNul := by
          rw [← roles, ← keptRole_known known shown]
          simpa [gathered, shown] using role
        exact withoutNul_eq_self.mp kept.symm
      · simpa [gathered, empty] using role
  · intro given unknown short
    obtain ⟨err, failed⟩ := refused given unknown
    rcases parseLuksConf_cases quote conf short with
      ⟨_, parsed⟩ | ⟨seed, role, _⟩ | ⟨_, _, parsed⟩
    · simp [parsed] at failed
    · exact ⟨seed, role⟩
    · simp [parsed] at failed

theorem ReadAlike.same (alike : ReadAlike lines)
    (quote : Text → String) (conf : ConfFile file lines) :
    SameAsShell quote file (sourcedLines lines) := by
  obtain ⟨seeds, holders, roles⟩ := sourcedLines_fields lines
  have trimmedSeed : (gathered lines).seed = (writtenLines lines).seed.trimFunc isQuote := rfl
  obtain ⟨unset, known, unknown⟩ := alike
  refine ⟨?_, ?_, ?_⟩
  · intro empty
    obtain ⟨short, free⟩ := unset empty
    have blank : (gathered lines).seed = [] := by
      rw [seeds, withoutNul_eq_self.mpr free] at empty
      rw [trimmedSeed, empty]
      rfl
    rw [parseLuksConf_short conf short, if_pos blank]
  · intro given isUnknown
    -- a line too long for the scanner is an error as well
    by_cases short : ShortLines lines
    · obtain ⟨seed, role⟩ := unknown given isUnknown short
      rcases parseLuksConf_cases quote conf short with
        ⟨empty, _⟩ | ⟨_, _, failed⟩ | ⟨_, kept, _⟩
      · exact absurd empty seed
      · exact failed
      · exact absurd kept role
    · exact parseLuksConf_long quote conf short
  · intro given isKnown
    obtain ⟨short, seed, holder, shownRole, unsetRole⟩ := known given isKnown
    have kept : keptRole lines =
        if (sourcedLines lines).role = [] then text "client" else (sourcedLines lines).role := by
      split
      · next empty => exact unsetRole empty
      · next shown =>
          rw [keptRole_known isKnown shown, roles, withoutNul_eq_self.mpr (shownRole shown)]
    have same : gathered lines =
        ⟨[], (sourcedLines lines).seed, (sourcedLines lines).keyHolderDeviceID,
          if (sourcedLines lines).role = [] then text "client" else (sourcedLines lines).role⟩ := by
      rw [gathered, trim_eq_withoutNul.mpr seed, trim_eq_withoutNul.mpr holder, kept, seeds, holders]
    rcases parseLuksConf_cases quote conf short with
      ⟨empty, _⟩ | ⟨_, isUnknown, _⟩ | ⟨_, _, parsed⟩
    · rw [same] at empty
      exact absurd empty given
    · refine absurd ?_ isUnknown
      rw [kept]
      split
      · exact Or.inr (Or.inl rfl)
      · exact isKnown
    · rw [parsed, same]

theorem luks_conf_read_alike_iff (quote : Text → String) {file : FileRead} {lines : List ConfLine}
    (conf : ConfFile file lines) : SameAsShell quote file (sourcedLines lines) ↔ ReadAlike lines :=
  ⟨fun same => same.alike conf, fun alike => alike.same quote conf⟩

theorem seedName_valid : ∀ rune ∈ text "P2P_KEY_SEED", isNameRune rune = true := by decide

theorem seedName_nonempty : text "P2P_KEY_SEED" ≠ [] := by decide

theorem roleName_valid : ∀ rune ∈ text "UNLOCK_ROLE", isNameRune rune = true := by decide

theorem roleName_nonempty : text "UNLOCK_ROLE" ≠ [] := by decide

def setSeed (word : Word) : ConfLine :=
  .assignment ⟨text "P2P_KEY_SEED", seedName_nonempty, seedName_valid⟩ word

def setRole (word : Word) : ConfLine :=
  .assignment ⟨text "UNLOCK_ROLE", roleName_nonempty, roleName_valid⟩ word

theorem spaced_allowed : ∀ rune ∈ text " s=", Quoting.single.allows rune = true := by decide

theorem server_allowed : ∀ rune ∈ text "server", Quoting.bare.allows rune = true := by decide

def spacedConf : List ConfLine :=
  [.comment (text " luks"), setRole ⟨.bare, text "server", server_allowed⟩,
    setSeed ⟨.single, text " s=", spaced_allowed⟩]

theorem spaced_conf_read_alike : SameAsShell (fun _ => "")
    ⟨text "# luks\nUNLOCK_ROLE=server\nP2P_KEY_SEED=' s='", none⟩ (sourcedLines spacedConf) := by
  have conf : ConfFile ⟨text "# luks\nUNLOCK_ROLE=server\nP2P_KEY_SEED=' s='", none⟩ spacedConf :=
    ⟨rfl, by decide⟩
  refine (luks_conf_read_alike_iff (fun _ => "") conf).mpr ⟨?_, ?_, ?_⟩
  · intro empty
    exact absurd empty (by decide)
  · intro _ _
    unfold ShortLines BareEnds NulFree
    decide
  · intro _ unknown
    exact absurd (Or.inr (Or.inr (by decide))) unknown

theorem inner_allowed : ∀ rune ∈ text "'a'", Quoting.double.allows rune = true := by decide

theorem empty_allowed : ∀ rune ∈ text "", Quoting.bare.allows rune = true := by decide

theorem letter_allowed : ∀ rune ∈ text "s", Quoting.bare.allows rune = true := by decide

theorem nul_allowed : ∀ rune ∈ text "a\x00b", Quoting.single.allows rune = true := by decide

def quotedConf : List ConfLine := [setSeed ⟨.double, text "'a'", inner_allowed⟩]

def unsetConf : List ConfLine := [setSeed ⟨.bare, text "s", letter_allowed⟩,
  setRole ⟨.bare, text "server", server_allowed⟩, setRole ⟨.bare, text "", empty_allowed⟩]

def nulConf : List ConfLine := [setSeed ⟨.single, text "a\x00b", nul_allowed⟩]

theorem quotes_and_roles_differ :
    (ConfFile ⟨text "P2P_KEY_SEED=\"'a'\"", none⟩ quotedConf ∧
      ¬ SameAsShell (fun _ => "") ⟨text "P2P_KEY_SEED=\"'a'\"", none⟩ (sourcedLines quotedConf)) ∧
    (ConfFile ⟨text "P2P_KEY_SEED=s\nUNLOCK_ROLE=server\nUNLOCK_ROLE=", none⟩ unsetConf ∧
      ¬ SameAsShell (fun _ => "") ⟨text "P2P_KEY_SEED=s\nUNLOCK_ROLE=server\nUNLOCK_ROLE=", none⟩
        (sourcedLines unsetConf)) ∧
    (ConfFile ⟨text "P2P_KEY_SEED='a\x00b'", none⟩ nulConf ∧
      ¬ SameAsShell (fun _ => "") ⟨text "P2P_KEY_SEED='a\x00b'", none⟩ (sourcedLines nulConf)) := by
  refine ⟨⟨⟨rfl, by decide⟩, fun same => ?_⟩, ⟨⟨rfl, by decide⟩, fun same => ?_⟩,
    ⟨⟨rfl, by decide⟩, fun same => ?_⟩⟩
  · exact absurd (same.taken (by decide) (Or.inr (Or.inl (by decide)))) (by decide)
  · exact absurd (same.taken (by decide) (Or.inl (by decide))) (by decide)
  · exact absurd (same.taken (by decide) (Or.inr (Or.inl (by decide)))) (by decide)

end SyncthingSocket
