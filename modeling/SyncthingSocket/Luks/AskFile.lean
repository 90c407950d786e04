import SyncthingSocket.Lines
import SyncthingSocket.Luks.Agent

/-!
What `parseAskFile` reads out of a password request: of every key the last value, and
an error for a deadline that is no number and for a request without a socket.
-/

namespace SyncthingSocket

/-! Decimal numbers. -/

def digitValue : Rune → Nat
  | .char c => c.toNat - '0'.toNat
  | .invalid _ => 0

def decimalFrom (n : Nat) (s : Text) : Nat := s.foldl (fun n rune => n * 10 + digitValue rune) n

def IsNumeral (s : Text) : Prop :=
  s ≠ [] ∧ (∀ rune ∈ s, isDigitRune rune = true) ∧ decimalFrom 0 s < 0x10000000000000000

theorem decimalFrom_ge (n : Nat) (s : Text) : n ≤ decimalFrom n s := by
  induction s generalizing n with
  | nil => exact Nat.le_refl n
  | cons rune s ih =>
      have later := ih (n * 10 + digitValue rune)
      rw [decimalFrom, List.foldl_cons]
      rw [decimalFrom] at later
      omega

theorem parseDigits_ok_iff {n m : Nat} (small : n < 0x10000000000000000) (s : Text) :
    Text.parseDigits n s = .ok m ↔
      (∀ rune ∈ s, isDigitRune rune = true) ∧ decimalFrom n s < 0x10000000000000000 ∧
        decimalFrom n s = m := by
  -- The loop stops at the first character that is no digit and at the first value that is too
  -- large; values only grow.
  induction s generalizing n with
  | nil => simp [Text.parseDigits, decimalFrom, small]
  | cons rune s ih =>
      cases rune with
      | invalid byte => simp [Text.parseDigits, isDigitRune]
      | char c =>
          have unfolded : decimalFrom n (.char c :: s) =
              decimalFrom (n * 10 + (c.toNat - '0'.toNat)) s := rfl
          rw [Text.parseDigits, List.forall_mem_cons, unfolded]
          by_cases digit : c.isDigit = true
          · simp only [digit, ↓reduceIte, isDigitRune, true_and]
            split
            · next fits => exact ih fits
            · next overflows =>
                have grows := decimalFrom_ge (n * 10 + (c.toNat - '0'.toNat)) s
                simp only [reduceCtorEq, false_iff, not_and]
                intro _ fits
                omega
          · simp [digit, isDigitRune]

theorem parseUint_numeral {quote : Text → String} {s : Text} (numeral : IsNumeral s) :
    Text.parseUint quote s = .ok (UInt64.ofNat (decimalFrom 0 s)) := by
  obtain ⟨nonempty, digits, small⟩ := numeral
  rw [Text.parseUint, if_neg nonempty, (parseDigits_ok_iff (by decide) s).mpr ⟨digits, small, rfl⟩]

theorem parseUint_error {quote : Text → String} {s : Text} (wrong : ¬ IsNumeral s) :
    ∃ err, Text.parseUint quote s = .error err := by
  rw [Text.parseUint]
  by_cases empty : s = []
  · rw [if_pos empty]
    exact ⟨_, rfl⟩
  · rw [if_neg empty]
    cases parsed : Text.parseDigits 0 s with
    | error why => exact ⟨_, rfl⟩
    | ok n =>
        obtain ⟨digits, small, _⟩ := (parseDigits_ok_iff (by decide) s).mp parsed
        exact absurd ⟨empty, digits, small⟩ wrong

theorem numeral_toDigits {n : Nat} (small : n < 0x10000000000000000) :
    IsNumeral ((Nat.toDigits 10 n).map Rune.char) ∧
      decimalFrom 0 ((Nat.toDigits 10 n).map Rune.char) = n := by
  have value : decimalFrom 0 ((Nat.toDigits 10 n).map Rune.char) = n := by
    rw [decimalFrom, List.foldl_map]
    have printed := Nat.ofDigitChars_toDigits (b := 10) (n := n) (by omega) (by omega)
    simpa [Nat.ofDigitChars, digitValue, Nat.mul_comm] using printed
  refine ⟨⟨by simp, ?_, by omega⟩, value⟩
  intro rune member
  obtain ⟨c, listed, rfl⟩ := List.mem_map.mp member
  exact Nat.isDigit_of_mem_toDigits (by omega) (by omega) listed

/-! The lines. -/

def assignment (line : Text) : Option (Text × Text) :=
  let line := line.trimSpace
  if line = [] ∨ text "#" <+: line ∨ text "[" <+: line then none
  else (line.cut '=').map fun parts => (parts.1.trimSpace, parts.2.trimSpace)

def assigned (key : Text) (lines : List Text) : List Text :=
  lines.filterMap fun line => ((assignment line).filter (·.1 = key)).map Prod.snd

def requestOf (lines : List Text) : AskRequest where
  socket := (assigned (text "Socket") lines).getLast?.getD []
  id := (assigned (text "Id") lines).getLast?.getD []
  message := (assigned (text "Message") lines).getLast?.getD []
  notAfter := UInt64.ofNat (decimalFrom 0 ((assigned (text "NotAfter") lines).getLast?.getD []))

def AskRequest.assign (req : AskRequest) (key value : Text) : AskRequest :=
  if key = text "Socket" then { req with socket := value }
  else if key = text "Id" then { req with id := value }
  else if key = text "Message" then { req with message := value }
  else if key = text "NotAfter" then { req with notAfter := UInt64.ofNat (decimalFrom 0 value) }
  else req

variable {req : AskRequest} {file : FileRead} {key line numeral : Text} {value : Text} {lines : List Text}
  {quote : Text → String}

theorem assignment_some (assigns : assignment line = some (key, value)) :
    ¬ (line.trimSpace = [] ∨ text "#" <+: line.trimSpace ∨ text "[" <+: line.trimSpace) ∧
      ∃ left right, line.trimSpace.cut '=' = some (left, right) ∧ left.trimSpace = key ∧
        right.trimSpace = value := by
  simp only [assignment] at assigns
  split at assigns
  · simp at assigns
  · next kept =>
      obtain ⟨⟨left, right⟩, found, same⟩ := Option.map_eq_some_iff.mp assigns
      injection same with keyEq valueEq
      exact ⟨kept, left, right, found, keyEq, valueEq⟩

theorem readLine_skips (skipped : assignment line = none) :
    req.readLine quote line = .ok req := by
  simp only [assignment] at skipped
  simp only [AskRequest.readLine]
  split
  · rfl
  · next kept =>
      rw [if_neg kept, Option.map_eq_none_iff] at skipped
      rw [skipped]

theorem readLine_assigns (assigns : assignment line = some (key, value))
    (numeral : key = text "NotAfter" → IsNumeral value) :
    req.readLine quote line = .ok (req.assign key value) := by
  obtain ⟨kept, left, right, found, rfl, rfl⟩ := assignment_some assigns
  simp only [AskRequest.readLine, kept, ↓reduceIte, found, AskRequest.assign]
  split
  · rfl
  · split
    · rfl
    · split
      · rfl
      · split
        · next isDeadline => rw [parseUint_numeral (numeral isDeadline)]
        · rfl

theorem readLine_malformed
    (assigns : assignment line = some (text "NotAfter", value)) (wrong : ¬ IsNumeral value) :
    ∃ err, req.readLine quote line = .error err := by
  obtain ⟨kept, left, right, found, key, rfl⟩ := assignment_some assigns
  obtain ⟨err, failed⟩ : ∃ err, Text.parseUint quote right.trimSpace = .error err := parseUint_error wrong
  simp only [AskRequest.readLine, kept, ↓reduceIte, found, key, failed]
  exact ⟨_, rfl⟩

/-! Whole files. -/

theorem assigned_concat (key : Text) (lines : List Text) (line : Text) :
    assigned key (lines ++ [line]) =
      assigned key lines ++ (((assignment line).filter (·.1 = key)).map Prod.snd).toList := by
  rw [assigned, List.filterMap_append]
  congr 1

theorem requestOf_skips (lines : List Text) (skipped : assignment line = none) :
    requestOf (lines ++ [line]) = requestOf lines := by
  simp [requestOf, assigned_concat, skipped]

theorem requestOf_assigns (lines : List Text) (assigns : assignment line = some (key, value)) :
    requestOf (lines ++ [line]) = (requestOf lines).assign key value := by
  have keys : text "Socket" ≠ text "Id" ∧ text "Socket" ≠ text "Message" ∧
      text "Socket" ≠ text "NotAfter" ∧
    text "Id" ≠ text "Message" ∧ text "Id" ≠ text "NotAfter" ∧
      text "Message" ≠ text "NotAfter" := by decide
  obtain ⟨one, two, three, four, five, six⟩ := keys
  have filtered : ∀ wanted, ((assignment line).filter (·.1 = wanted)).map Prod.snd =
      if key = wanted then some value else none := by
    intro wanted
    rw [assigns, Option.filter_some]
    split <;> simp_all
  simp only [requestOf, assigned_concat, filtered, AskRequest.assign]
  by_cases socket : key = text "Socket"
  · simp [socket, one, two, three]
  · by_cases id : key = text "Id"
    · simp [id, one.symm, four, five]
    · by_cases message : key = text "Message"
      · simp [message, two.symm, four.symm, six]
      · by_cases deadline : key = text "NotAfter"
        · simp [deadline, three.symm, five.symm, six.symm]
        · simp [socket, id, message, deadline]

theorem readLines_ok (numerals : ∀ value ∈ assigned (text "NotAfter") lines, IsNumeral value) :
    lines.foldlM (AskRequest.readLine quote) {} = .ok (requestOf lines) := by
  induction lines using List.reverseRecOn with
  | nil => rfl
  | append_singleton lines line ih =>
      rw [assigned_concat] at numerals
      have earlier := ih fun value member => numerals value (List.mem_append_left _ member)
      rw [List.foldlM_append, earlier]
      simp only [List.foldlM_cons, List.foldlM_nil, bind_pure]
      cases assigns : assignment line with
      | none =>
          rw [requestOf_skips lines assigns]
          exact readLine_skips assigns
      | some parts =>
          obtain ⟨key, value⟩ := parts
          rw [requestOf_assigns lines assigns]
          refine readLine_assigns assigns fun isDeadline => numerals value (List.mem_append_right _ ?_)
          simp [assigns, isDeadline, Option.filter_some]

theorem readLines_error
    (member : value ∈ assigned (text "NotAfter") lines) (wrong : ¬ IsNumeral value) :
    ∃ err, lines.foldlM (AskRequest.readLine quote) {} = .error err := by
  induction lines using List.reverseRecOn with
  | nil => simp [assigned] at member
  | append_singleton lines line ih =>
      rw [List.foldlM_append]
      simp only [List.foldlM_cons, List.foldlM_nil, bind_pure]
      cases earlier : lines.foldlM (AskRequest.readLine quote) {} with
      | error err => exact ⟨err, rfl⟩
      | ok req =>
          rw [assigned_concat, List.mem_append] at member
          rcases member with member | last
          · obtain ⟨err, failed⟩ := ih member
            rw [earlier] at failed
            simp at failed
          · have assigns : assignment line = some (text "NotAfter", value) := by
              cases found : assignment line with
              | none => simp [found] at last
              | some parts =>
                  obtain ⟨key, other⟩ := parts
                  rw [found, Option.filter_some] at last
                  split at last
                  · next same =>
                      simp only [decide_eq_true_eq] at same
                      simp only [Option.map_some, Option.toList_some, List.mem_singleton] at last
                      rw [same, last]
                  · simp at last
            exact readLine_malformed assigns wrong

theorem assignment_dropCR (line : Text) : assignment (dropCR line) = assignment line := by
  -- The lines of a file as `parseAskFile` takes them; a carriage return before the newline is
  -- trimmed like any other space.
  rw [assignment, assignment, trimSpace_dropCR]

theorem assigned_dropCR (key : Text) (lines : List Text) :
    assigned key (lines.map dropCR) = assigned key lines := by
  rw [assigned, List.filterMap_map, assigned]
  simp only [Function.comp_def, assignment_dropCR]

theorem assigned_scanned (split : file.pieces = lines ∨ file.pieces = lines ++ [[]]) (key : Text) :
    assigned key (lines.map dropCR) = assigned key file.pieces := by
  rw [assigned_dropCR]
  rcases split with same | blank
  · rw [same]
  · rw [blank, assigned_concat]
    simp [show assignment [] = none from rfl]

theorem requestOf_congr {lines others : List Text}
    (same : ∀ key, assigned key lines = assigned key others) :
    requestOf lines = requestOf others := by
  simp only [requestOf, same]

theorem scanned_request (short : ∀ line ∈ file.pieces, Text.size line < maxScanTokenSize)
    (numerals : ∀ value ∈ assigned (text "NotAfter") file.pieces, IsNumeral value) :
    file.scanLines.1.foldlM (AskRequest.readLine quote) {} = .ok (requestOf file.pieces) ∧
      file.scanLines.2 = file.err := by
  obtain ⟨lines, scanned, split⟩ := scanLines_short short
  have same := assigned_scanned split
  rw [scanned, ← requestOf_congr same]
  exact ⟨readLines_ok (by rwa [same]), rfl⟩

theorem parseAskFile_long (long : ¬ ∀ line ∈ file.pieces, Text.size line < maxScanTokenSize) :
    ∃ err, parseAskFile quote file = .error err := by
  simp only [not_forall, Nat.not_lt] at long
  obtain ⟨line, member, size⟩ := long
  rw [parseAskFile, scanLines_long member size]
  cases file.scanLines.1.foldlM (AskRequest.readLine quote) {} with
  | error err => exact ⟨err, rfl⟩
  | ok req => exact ⟨_, rfl⟩

theorem parseAskFile_lines (read : file.err = none)
    (short : ∀ line ∈ file.pieces, Text.size line < maxScanTokenSize)
    (numerals : ∀ value ∈ assigned (text "NotAfter") file.pieces, IsNumeral value)
    (socket : (requestOf file.pieces).socket ≠ []) :
    parseAskFile quote file = .ok (requestOf file.pieces) := by
  obtain ⟨parsed, ended⟩ := scanned_request short numerals
  rw [parseAskFile, parsed, ended, read]
  exact if_neg socket

theorem parseAskFile_deadline
    (member : value ∈ assigned (text "NotAfter") file.pieces) (wrong : ¬ IsNumeral value) :
    ∃ err, parseAskFile quote file = .error err := by
  by_cases short : ∀ line ∈ file.pieces, Text.size line < maxScanTokenSize
  · obtain ⟨lines, scanned, split⟩ := scanLines_short short
    rw [← assigned_scanned split] at member
    obtain ⟨err, failed⟩ : ∃ err, (lines.map dropCR).foldlM (AskRequest.readLine quote) {} = .error err :=
      readLines_error member wrong
    refine ⟨err, ?_⟩
    rw [parseAskFile, scanned, failed]
    rfl
  · exact parseAskFile_long short

theorem parseAskFile_socket (unset : (assigned (text "Socket") file.pieces).getLast?.getD [] = []) :
    ∃ err, parseAskFile quote file = .error err := by
  by_cases numerals : ∀ value ∈ assigned (text "NotAfter") file.pieces, IsNumeral value
  · by_cases short : ∀ line ∈ file.pieces, Text.size line < maxScanTokenSize
    · obtain ⟨parsed, ended⟩ := scanned_request short numerals
      rw [parseAskFile, parsed, ended]
      cases file.err with
      | some err => exact ⟨err, rfl⟩
      | none => exact ⟨_, if_pos unset⟩
    · exact parseAskFile_long short
  · simp only [not_forall] at numerals
    obtain ⟨value, member, wrong⟩ := numerals
    exact parseAskFile_deadline member wrong

/-! Lines as systemd writes them. -/

def keyLine (key : String) (value : Text) : Text := text key ++ .char '=' :: value

theorem trimSpace_keyed (key value : Text) : Text.trimSpace (key ++ .char '=' :: value) =
    key.dropWhile Rune.isSpace ++ .char '=' :: value.rdropWhile Rune.isSpace :=
  Text.trimFunc_middle (by decide) key value

theorem assignment_keyed (unseparated : .char '=' ∉ key) (value : Text) :
    assignment (key ++ .char '=' :: value) = none ∨
      assignment (key ++ .char '=' :: value) = some (key.trimSpace, value.trimSpace) := by
  have kept : .char '=' ∉ key.dropWhile Rune.isSpace :=
    fun member => unseparated ((List.dropWhile_sublist _).subset member)
  simp only [assignment, trimSpace_keyed]
  split
  · exact Or.inl rfl
  · rw [Text.cut_key kept, Option.map_some]
    exact Or.inr (congrArg some (Prod.ext (Text.trimFunc_dropWhile key) (Text.trimFunc_rdropWhile value)))

inductive Filler (line : Text) : Prop
  | blank : (∀ rune ∈ line, rune.isSpace = true) → Filler line
  | comment : text "#" <+: line.trimSpace → Filler line
  | header : text "[" <+: line.trimSpace → Filler line
  | bare : .char '=' ∉ line → Filler line
  | other {key value : Text} : line = key ++ .char '=' :: value → .char '=' ∉ key →
      key.trimSpace ∉ [text "Socket", text "Id", text "Message", text "NotAfter"] → Filler line

theorem Filler.unassigned (filler : Filler line) (assigns : assignment line = some (key, value)) :
    key ∉ [text "Socket", text "Id", text "Message", text "NotAfter"] := by
  obtain ⟨kept, left, right, found, _⟩ := assignment_some assigns
  cases filler with
  | blank spaces => exact absurd (Or.inl ((trimSpace_eq_nil_iff line).mpr spaces)) kept
  | comment starts => exact absurd (Or.inr (Or.inl starts)) kept
  | header starts => exact absurd (Or.inr (Or.inr starts)) kept
  | bare unseparated =>
      have trimmed : .char '=' ∉ line.trimSpace := fun member =>
        unseparated ((List.dropWhile_sublist _).subset ((List.rdropWhile_prefix _ _).subset member))
      rw [Text.cut, if_neg trimmed] at found
      simp at found
  | other split unseparated different =>
      rw [split] at assigns
      rcases assignment_keyed unseparated _ with none | some
      · rw [none] at assigns
        simp at assigns
      · rw [some, Option.some.injEq, Prod.mk.injEq] at assigns
        exact assigns.1 ▸ different

structure PlainKey (key : Text) : Prop where
  inside : ∀ rune ∈ key, rune ≠ .char '=' ∧ rune.isSpace = false
  first : ∃ rune rest, key = rune :: rest ∧ rune ≠ .char '#' ∧ rune ≠ .char '['

theorem assignment_keyLine {key : String} (plain : PlainKey (text key))
    (clean : value.trimSpace = value) :
    assignment (keyLine key value) = some (text key, value) := by
  have unseparated : .char '=' ∉ text key := fun member => (plain.inside _ member).1 rfl
  have trimmed : (text key).trimSpace = text key :=
    Text.trimFunc_self (fun rune first => (plain.inside rune (List.mem_of_mem_head? first)).2)
      fun rune last => (plain.inside rune (List.mem_of_getLast? last)).2
  rcases assignment_keyed unseparated value with none | some
  · -- The line is neither blank nor a comment nor a header, and it has a `=`.
    obtain ⟨rune, rest, starts, noComment, noHeader⟩ := plain.first
    have visible : (text key).dropWhile Rune.isSpace = text key := by
      rw [starts, List.dropWhile_cons_of_neg]
      simpa using (plain.inside rune (by simp [starts])).2
    simp only [assignment, trimSpace_keyed, visible] at none
    rw [if_neg, Text.cut_key unseparated] at none
    · simp at none
    · rw [starts, show text "#" = [.char '#'] from rfl, show text "[" = [.char '['] from rfl]
      simp [List.cons_prefix_cons, noComment.symm, noHeader.symm]
  · rw [keyLine, some, trimmed, clean]

theorem askKeys_plain :
    PlainKey (text "Socket") ∧ PlainKey (text "Id") ∧ PlainKey (text "Message") ∧
    PlainKey (text "NotAfter") :=
  ⟨⟨by decide, _, _, rfl, by decide, by decide⟩, ⟨by decide, _, _, rfl, by decide, by decide⟩,
    ⟨by decide, _, _, rfl, by decide, by decide⟩, ⟨by decide, _, _, rfl, by decide, by decide⟩⟩

theorem mem_assigned :
    value ∈ assigned key lines ↔ ∃ line ∈ lines, assignment line = some (key, value) := by
  rw [assigned, List.mem_filterMap]
  constructor
  · rintro ⟨line, member, found⟩
    refine ⟨line, member, ?_⟩
    obtain ⟨parts, kept, rfl⟩ := Option.map_eq_some_iff.mp found
    obtain ⟨assigns, same⟩ := Option.filter_eq_some_iff.mp kept
    rw [assigns, ← of_decide_eq_true same]
  · rintro ⟨line, member, assigns⟩
    refine ⟨line, member, ?_⟩
    simp [assigns, Option.filter_some]

theorem getLast?_of_all {α : Type} {l : List α} {a : α} (all : ∀ other ∈ l, other = a)
    (member : a ∈ l) :
    l.getLast? = some a := by
  cases last : l.getLast? with
  | none =>
      rw [List.getLast?_eq_none_iff.mp last] at member
      simp at member
  | some other => rw [all other (List.mem_of_getLast? last)]

structure AskFile (file : FileRead) (socket id message numeral : Text) : Prop where
  read : file.err = none
  short : ∀ line ∈ file.pieces, Text.size line < maxScanTokenSize
  nonempty : socket ≠ [] ∧ id ≠ [] ∧ message ≠ []
  clean : socket.trimSpace = socket ∧ id.trimSpace = id ∧ message.trimSpace = message
  lines : ∀ line ∈ file.pieces, Filler line ∨ line = keyLine "Socket" socket ∨ line = keyLine "Id" id ∨
    line = keyLine "Message" message ∨ line = keyLine "NotAfter" numeral
  socket : keyLine "Socket" socket ∈ file.pieces
  id : keyLine "Id" id ∈ file.pieces
  message : keyLine "Message" message ∈ file.pieces

theorem numeral_clean (valid : IsNumeral numeral) : numeral.trimSpace = numeral := by
  have visible : ∀ rune ∈ numeral, rune.isSpace = false := by
    intro rune member
    have digit := valid.2.1 rune member
    cases rune with
    | invalid byte => rfl
    | char c =>
        obtain ⟨lower, upper⟩ := digit_toNat digit
        exact isSpace_printable (by omega) (by omega)
  exact Text.trimFunc_self (fun rune first => visible rune (List.mem_of_mem_head? first))
    fun rune last => visible rune (List.mem_of_getLast? last)

theorem AskFile.assigns {socket id message : Text}
    (ask : AskFile file socket id message numeral) (valid : IsNumeral numeral)
    (member : line ∈ file.pieces) (assigns : assignment line = some (key, value)) :
    (key = text "Socket" → value = socket) ∧ (key = text "Id" → value = id) ∧
      (key = text "Message" → value = message) ∧
      (key = text "NotAfter" → value = numeral ∧ line = keyLine "NotAfter" numeral) := by
  obtain ⟨socketKey, idKey, messageKey, deadlineKey⟩ := askKeys_plain
  rcases ask.lines line member with filler | rfl | rfl | rfl | rfl
  · have different := filler.unassigned assigns
    simp only [List.mem_cons, List.not_mem_nil, or_false, not_or] at different
    simp [different]
  · rw [assignment_keyLine socketKey ask.clean.1] at assigns
    cases assigns
    refine ⟨fun _ => rfl, ?_, ?_, ?_⟩ <;> intro same <;> exact absurd same (by decide)
  · rw [assignment_keyLine idKey ask.clean.2.1] at assigns
    cases assigns
    refine ⟨?_, fun _ => rfl, ?_, ?_⟩ <;> intro same <;> exact absurd same (by decide)
  · rw [assignment_keyLine messageKey ask.clean.2.2] at assigns
    cases assigns
    refine ⟨?_, ?_, fun _ => rfl, ?_⟩ <;> intro same <;> exact absurd same (by decide)
  · rw [assignment_keyLine deadlineKey (numeral_clean valid)] at assigns
    cases assigns
    refine ⟨?_, ?_, ?_, fun _ => ⟨rfl, rfl⟩⟩ <;> intro same <;> exact absurd same (by decide)

theorem assigned_last (member : line ∈ lines) (assigns : assignment line = some (key, value))
    (only : ∀ other ∈ lines, ∀ value', assignment other = some (key, value') → value' = value) :
    (assigned key lines).getLast? = some value := by
  refine getLast?_of_all ?_ (mem_assigned.mpr ⟨line, member, assigns⟩)
  intro value' found
  obtain ⟨other, listed, assigns'⟩ := mem_assigned.mp found
  exact only other listed value' assigns'

theorem AskFile.parsed {socket id message : Text} (ask : AskFile file socket id message numeral)
    (valid : IsNumeral numeral) (quote : Text → String) (deadline : Text)
    (last : (assigned (text "NotAfter") file.pieces).getLast?.getD [] = deadline) :
    parseAskFile quote file = .ok ⟨[], socket, id, message, UInt64.ofNat (decimalFrom 0 deadline)⟩ := by
  obtain ⟨socketKey, idKey, messageKey, _⟩ := askKeys_plain
  have socketLast : (assigned (text "Socket") file.pieces).getLast? = some socket :=
    assigned_last ask.socket (assignment_keyLine socketKey ask.clean.1)
      fun other listed value assigns => (ask.assigns valid listed assigns).1 rfl
  have idLast : (assigned (text "Id") file.pieces).getLast? = some id :=
    assigned_last ask.id (assignment_keyLine idKey ask.clean.2.1)
      fun other listed value assigns => (ask.assigns valid listed assigns).2.1 rfl
  have messageLast : (assigned (text "Message") file.pieces).getLast? = some message :=
    assigned_last ask.message (assignment_keyLine messageKey ask.clean.2.2)
      fun other listed value assigns => (ask.assigns valid listed assigns).2.2.1 rfl
  have numerals : ∀ value ∈ assigned (text "NotAfter") file.pieces, IsNumeral value := by
    intro value member
    obtain ⟨line, listed, assigns⟩ := mem_assigned.mp member
    rw [((ask.assigns valid listed assigns).2.2.2 rfl).1]
    exact valid
  have request :
      requestOf file.pieces = ⟨[], socket, id, message, UInt64.ofNat (decimalFrom 0 deadline)⟩ := by
    simp [requestOf, socketLast, idLast, messageLast, last]
  rw [parseAskFile_lines ask.read ask.short numerals, request]
  rw [request]
  exact ask.nonempty.1

/-- What systemd wrote is what is read, in whatever order and among whatever other
lines; and a malformed deadline or a missing socket is an error in every file. -/
theorem ask_file_parsed (quote : Text → String) :
    (∀ (file : FileRead) (socket id message numeral : Text) (notAfter : UInt64),
      AskFile file socket id message numeral → IsNumeral numeral →
        decimalFrom 0 numeral = notAfter.toNat →
      (keyLine "NotAfter" numeral ∈ file.pieces →
        parseAskFile quote file = .ok ⟨[], socket, id, message, notAfter⟩) ∧
      (keyLine "NotAfter" numeral ∉ file.pieces →
        parseAskFile quote file = .ok ⟨[], socket, id, message, 0⟩)) ∧
    (∀ (file : FileRead) (value : Text), value ∈ assigned (text "NotAfter") file.pieces →
      ¬ IsNumeral value →
      ∃ err, parseAskFile quote file = .error err) ∧
    (∀ file : FileRead, (assigned (text "Socket") file.pieces).getLast?.getD [] = [] →
      ∃ err, parseAskFile quote file = .error err) := by
  refine ⟨?_, fun file value => parseAskFile_deadline, fun file => parseAskFile_socket⟩
  intro file socket id message numeral notAfter ask valid number
  obtain ⟨_, _, _, deadlineKey⟩ := askKeys_plain
  refine ⟨fun present => ?_, fun absent => ?_⟩
  · have last : (assigned (text "NotAfter") file.pieces).getLast? = some numeral :=
      assigned_last present (assignment_keyLine deadlineKey (numeral_clean valid))
        fun other listed value assigns => ((ask.assigns valid listed assigns).2.2.2 rfl).1
    rw [ask.parsed valid quote numeral (by rw [last]; rfl), number, UInt64.ofNat_toNat]
  · have none : assigned (text "NotAfter") file.pieces = [] := by
      rw [List.eq_nil_iff_forall_not_mem]
      intro value member
      obtain ⟨line, listed, assigns⟩ := mem_assigned.mp member
      exact absent (((ask.assigns valid listed assigns).2.2.2 rfl).2 ▸ listed)
    rw [ask.parsed valid quote [] (by rw [none]; rfl)]
    rfl

def sampleAskFile : FileRead :=
  ⟨text "[Ask]\nPID=412\nNotAfter=7\nSocket=/run/a=b\n# Id=none\nMessage=m #1\nId=cryptsetup:x\n", none⟩

theorem sampleAskFile_pieces :
    sampleAskFile.pieces = [text "[Ask]", text "PID=412", keyLine "NotAfter" (text "7"),
    keyLine "Socket" (text "/run/a=b"), text "# Id=none", keyLine "Message" (text "m #1"),
    keyLine "Id" (text "cryptsetup:x"), []] := by decide

theorem sample_ask_file_parsed : parseAskFile (fun _ => "") sampleAskFile =
    .ok ⟨[], text "/run/a=b", text "cryptsetup:x", text "m #1", 7⟩ := by
  have ask : AskFile sampleAskFile (text "/run/a=b") (text "cryptsetup:x") (text "m #1") (text "7") := by
    refine ⟨rfl, ?_, by decide, by decide, ?_, ?_, ?_, ?_⟩ <;> rw [sampleAskFile_pieces]
    · decide
    · intro line member
      simp only [List.mem_cons, List.not_mem_nil, or_false] at member
      rcases member with rfl | rfl | rfl | rfl | rfl | rfl | rfl | rfl
      · exact Or.inl (.header (by decide))
      · have split : text "PID=412" = text "PID" ++ .char '=' :: text "412" := rfl
        exact Or.inl (.other split (by decide) (by decide))
      · simp
      · simp
      · exact Or.inl (.comment (by decide))
      · simp
      · simp
      · exact Or.inl (.blank (by simp))
    · decide
    · decide
    · decide
  obtain ⟨valid, value⟩ := numeral_toDigits (n := 7) (by decide)
  have present : keyLine "NotAfter" (text "7") ∈ sampleAskFile.pieces := by
    rw [sampleAskFile_pieces]
    decide
  exact ((ask_file_parsed (fun _ => "")).1 sampleAskFile _ _ _ (text "7") 7 ask valid value).1 present

end SyncthingSocket
