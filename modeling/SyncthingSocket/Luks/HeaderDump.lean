import SyncthingSocket.Lines
import SyncthingSocket.Luks.DeviceScan
import SyncthingSocket.Luks.Readers

/-!
The header behind the commands: `cryptsetup luksDump` lists the tokens by id and type,
and `cryptsetup token export` prints one. Over these two commands the agent's scan of a
device is the scan of its header.
-/

namespace SyncthingSocket

/-- A line of the section `Tokens:`. -/
def dumpLine (entry : Nat × Text) : Text :=
  text "  " ++ itoa entry.1 ++ .char ':' :: .char ' ' :: entry.2

def Header.printed (header : Header) : Text :=
  unlines (text "Tokens:" :: header.dump.map dumpLine)

def Header.runner (header : Header) (device : Text) : CommandRunner
  | [program, command, source] =>
      if [program, command, source] = [text "cryptsetup", text "luksDump", device] then .ok header.printed
      else .error (.text "exit status 1")
  | [program, command, action, option, number, source] =>
      if [program, command, action, option, source] =
          [text "cryptsetup", text "token", text "export", text "--token-id", device] then
        match (atoi number).bind fun id => header.slot id.toNat with
        | some token => .ok token.document
        | none => .error (.text "exit status 1")
      else .error (.text "exit status 1")
  | _ => .error (.text "exit status 1")

/-- Types as `luksDump` can show them. -/
def Header.Printable (header : Header) : Prop :=
  ∀ id token, header.slot id = some token → .char '\n' ∉ token.type ∧ token.type.trimSpace = token.type

variable {header : Header} {entries : List (Nat × Text)} {id : Nat}

/-- What the agent's reading of a line needs of its number. -/
structure Numeral (id : Nat) : Prop where
  read : atoi (itoa id) = some (id : Int)
  trimmed : (itoa id).trimSpace = itoa id
  indented : (text "  " ++ itoa id).dropWhile Rune.isSpace = itoa id
  one : .char ':' ∉ itoa id ∧ .char '\n' ∉ itoa id

theorem numeral (bound : id < 32) : Numeral id := by
  have every : ∀ id : Fin 32, atoi (itoa id.val) = some (id.val : Int) ∧
      (itoa id.val).trimSpace = itoa id.val ∧
      (text "  " ++ itoa id.val).dropWhile Rune.isSpace = itoa id.val ∧
      .char ':' ∉ itoa id.val ∧ .char '\n' ∉ itoa id.val := by
    decide +kernel
  obtain ⟨read, trimmed, indented, one⟩ := every ⟨id, bound⟩
  exact ⟨read, trimmed, indented, one⟩

theorem dumpLine_cut {entry : Nat × Text} (numeral : Numeral entry.1) :
    (dumpLine entry).trimSpace.cut ':' =
      some (itoa entry.1, (.char ' ' :: entry.2 : Text).rdropWhile Rune.isSpace) := by
  rw [dumpLine, Text.trimSpace, Text.trimFunc_middle rfl, numeral.indented, Text.cut_key numeral.one.1]

theorem tokenIDsFrom_dump (tokenType : Text) (numerals : ∀ entry ∈ entries, Numeral entry.1)
    (trimmed : ∀ entry ∈ entries, entry.2.trimSpace = entry.2) :
    tokenIDsFrom tokenType true (entries.map dumpLine ++ [[]]) =
      ((entries.filter fun entry => entry.2 = tokenType).map Prod.fst).map Int.ofNat := by
  induction entries with
  | nil => rfl
  | cons entry entries ih =>
      have rest := ih (fun other member => numerals other (List.mem_cons_of_mem _ member))
        fun other member => trimmed other (List.mem_cons_of_mem _ member)
      have numeral := numerals entry List.mem_cons_self
      have typed : Text.trimSpace ((.char ' ' :: entry.2 : Text).rdropWhile Rune.isSpace) = entry.2 := by
        rw [Text.trimSpace, Text.trimFunc_rdropWhile, Text.trimFunc_cons rfl]
        exact trimmed entry List.mem_cons_self
      have blank : text " " <+: dumpLine entry := ⟨_, rfl⟩
      rw [List.map_cons, List.cons_append, tokenIDsFrom, if_neg fun unblank => unblank.1 blank]
      simp only [dumpLine_cut numeral, typed, numeral.trimmed, numeral.read, rest, List.filter_cons]
      by_cases ours : entry.2 = tokenType <;> simp [ours]

theorem dump_entry {entry : Nat × Text} (listed : entry ∈ header.dump) :
    entry.1 < 32 ∧ ∃ token, header.slot entry.1 = some token ∧ token.type = entry.2 := by
  obtain ⟨id, below, held⟩ := List.mem_filterMap.mp listed
  obtain ⟨token, stored, rfl⟩ := Option.map_eq_some_iff.mp held
  exact ⟨List.mem_range.mp below, token, stored, rfl⟩

theorem tokenIDsFromDump_printed (printable : header.Printable) (tokenType : Text) :
    tokenIDsFromDump header.printed tokenType = (tokenIDs header tokenType).map Int.ofNat := by
  have numerals : ∀ entry ∈ header.dump, Numeral entry.1 :=
    fun entry listed => numeral (dump_entry listed).1
  have typed : ∀ entry ∈ header.dump, .char '\n' ∉ entry.2 ∧ entry.2.trimSpace = entry.2 := by
    intro entry listed
    obtain ⟨_, token, stored, same⟩ := dump_entry listed
    exact same ▸ printable entry.1 token stored
  have lines : header.printed.splitOn (.char '\n') =
      text "Tokens:" :: (header.dump.map dumpLine ++ [[]]) := by
    refine unlines_splitOn ?_
    rintro line (_ | ⟨_, listed⟩)
    · decide
    · obtain ⟨entry, inside, rfl⟩ := List.mem_map.mp listed
      simp [dumpLine, text, (numerals entry inside).one.2, (typed entry inside).1]
  rw [tokenIDsFromDump, lines, tokenIDsFrom, if_pos (by decide), tokenIDs]
  exact tokenIDsFrom_dump tokenType numerals fun entry listed => (typed entry listed).2

theorem exportToken_runner {token : Token} (device : Text) (stored : header.slot id = some token)
    (bound : id < 32) :
    exportToken (header.runner device) device (Int.ofNat id) = .ok token.document := by
  have read : atoi (itoa (Int.ofNat id)) = some (Int.ofNat id) := (numeral bound).read
  rw [exportToken, Header.runner, if_pos rfl, read]
  simp [stored]

/-- The agent's scan over the commands is its scan of the header. -/
theorem scanDevicesForConfig_header (quote : Text → String) (device : Text)
    (printable : header.Printable) :
    scanDevicesForConfig quote (header.runner device) [device] =
      .ok (scanDevice quote device header) := by
  have dumped : luksDump (header.runner device) device = .ok header.printed := if_pos rfl
  have listed : ∀ id ∈ tokenIDs header luksTokenType, id < 32 ∧ ∃ token, header.slot id = some token := by
    intro id member
    obtain ⟨entry, kept, rfl⟩ := List.mem_map.mp member
    obtain ⟨bound, token, stored, _⟩ := dump_entry (List.mem_of_mem_filter kept)
    exact ⟨bound, token, stored⟩
  simp only [scanDevicesForConfig, dumped, tokenIDsFromDump_printed printable, scanDevice]
  generalize tokenIDs header luksTokenType = ids at listed
  induction ids with
  | nil => rfl
  | cons id ids ih =>
      have rest := ih fun other member => listed other (List.mem_cons_of_mem _ member)
      obtain ⟨bound, token, stored⟩ := listed id List.mem_cons_self
      simp only [List.map_cons, scanTokens, exportToken_runner device stored bound,
        List.findSome?_cons, stored]
      cases parseLUKSToken quote token.document with
      | error err => exact rest
      | ok found =>
          cases found with
          | none => exact rest
          | some cfg => rfl

end SyncthingSocket
