import SyncthingSocket.Luks.AskFile
import SyncthingSocket.Luks.DeviceScan

/-!
Which token ids `tokenIDsFromDump` finds in what `cryptsetup luksDump` prints: headings
at the margin, and under each of them lines that are indented.
-/

namespace SyncthingSocket

def Indented (line : Text) : Prop := text " " <+: line ∨ text "\t" <+: line

instance (line : Text) : Decidable (Indented line) := inferInstanceAs (Decidable (_ ∨ _))

structure DumpSection where
  heading : Text
  details : List Text
  nonempty : heading ≠ []
  unindented : ¬ Indented heading
  indented : ∀ line ∈ details, Indented line

namespace DumpSection

def lines (part : DumpSection) : List Text := part.heading :: part.details

def isTokens (part : DumpSection) : Bool := decide (text "Tokens:" <+: part.heading)

end DumpSection

def Shaped (dump : Text) (sections : List DumpSection) : Prop :=
  dump.splitOn (.char '\n') = sections.flatMap DumpSection.lines ∨
    dump.splitOn (.char '\n') = sections.flatMap DumpSection.lines ++ [[]]

def tokenLines (sections : List DumpSection) : List Text :=
  (sections.filter DumpSection.isTokens).flatMap DumpSection.details

inductive Spells (n : Int) : Text → Prop
  | plain {digits : Text} (nonempty : digits ≠ []) (decimal : ∀ rune ∈ digits, isDigitRune rune = true)
      (value : n = decimalFrom 0 digits) (fits : decimalFrom 0 digits < 0x8000000000000000) :
        Spells n digits
  | plus {digits : Text} (nonempty : digits ≠ []) (decimal : ∀ rune ∈ digits, isDigitRune rune = true)
      (value : n = decimalFrom 0 digits) (fits : decimalFrom 0 digits < 0x8000000000000000) :
      Spells n (.char '+' :: digits)
  | minus {digits : Text} (nonempty : digits ≠ []) (decimal : ∀ rune ∈ digits, isDigitRune rune = true)
      (value : n = -decimalFrom 0 digits) (fits : decimalFrom 0 digits ≤ 0x8000000000000000) :
      Spells n (.char '-' :: digits)

def NamesToken (tokenType line : Text) (n : Int) : Prop :=
  ∃ idPart typePart : Text, line.trimSpace = idPart ++ .char ':' :: typePart ∧ Spells n idPart.trimSpace ∧
    typePart.trimSpace = tokenType

/-! Numbers. -/

theorem signedDigits_iff {negative : Bool} {digits : Text} {n : Int} :
    signedDigits negative digits = some n ↔ digits ≠ [] ∧ (∀ rune ∈ digits, isDigitRune rune = true) ∧
      (if negative then n = -decimalFrom 0 digits ∧ decimalFrom 0 digits ≤ 0x8000000000000000
        else n = decimalFrom 0 digits ∧ decimalFrom 0 digits < 0x8000000000000000) := by
  have read := @parseDigits_ok_iff 0 (decimalFrom 0 digits) (by decide) digits
  rw [signedDigits]
  by_cases empty : digits = []
  · simp [empty]
  rw [if_neg empty]
  cases parsed : Text.parseDigits 0 digits with
  | error why =>
      rw [parsed] at read
      have wrong :
          ¬ ((∀ rune ∈ digits, isDigitRune rune = true) ∧ decimalFrom 0 digits < 0x10000000000000000) := by
        intro both
        exact absurd (read.mpr ⟨both.1, both.2, rfl⟩) (by simp)
      simp only [reduceCtorEq, false_iff]
      rintro ⟨_, decimal, value⟩
      refine wrong ⟨decimal, ?_⟩
      cases negative with
      | false =>
          have fits := value.2
          omega
      | true =>
          have fits := value.2
          omega
  | ok m =>
      obtain ⟨decimal, _, same⟩ := (parseDigits_ok_iff (by decide) digits).mp parsed
      subst same
      cases negative with
      | false =>
          simp only [Bool.false_eq_true, ↓reduceIte]
          by_cases fits : decimalFrom 0 digits < 0x8000000000000000
          · rw [if_pos fits, Option.some.injEq]
            exact ⟨fun same => ⟨empty, decimal, same.symm, fits⟩, fun all => all.2.2.1.symm⟩
          · rw [if_neg fits]
            exact ⟨fun none => absurd none (by simp), fun all => absurd all.2.2.2 fits⟩
      | true =>
          simp only [↓reduceIte]
          by_cases fits : decimalFrom 0 digits ≤ 0x8000000000000000
          · rw [if_pos fits, Option.some.injEq, Int.negOfNat_eq]
            exact ⟨fun same => ⟨empty, decimal, same.symm, fits⟩, fun all => all.2.2.1.symm⟩
          · rw [if_neg fits]
            exact ⟨fun none => absurd none (by simp), fun all => absurd all.2.2.2 fits⟩

theorem atoi_iff {s : Text} {n : Int} : atoi s = some n ↔ Spells n s := by
  constructor
  · intro parsed
    unfold atoi parseInt at parsed
    split at parsed
    · obtain ⟨nonempty, decimal, value⟩ := signedDigits_iff.mp parsed
      exact .plus nonempty decimal value.1 value.2
    · split at parsed
      · obtain ⟨nonempty, decimal, value⟩ := signedDigits_iff.mp parsed
        exact .minus nonempty decimal value.1 value.2
      · obtain ⟨nonempty, decimal, value⟩ := signedDigits_iff.mp parsed
        exact .plain nonempty decimal value.1 value.2
  · intro spelled
    cases spelled with
    | plus nonempty decimal value fits => exact signedDigits_iff.mpr ⟨nonempty, decimal, value, fits⟩
    | minus nonempty decimal value fits => exact signedDigits_iff.mpr ⟨nonempty, decimal, value, fits⟩
    | plain nonempty decimal value fits =>
        have digits :=
          signedDigits_iff.mpr ⟨nonempty, decimal, (show if false then _ else _ from ⟨value, fits⟩)⟩
        unfold atoi parseInt
        split
        · exact absurd (decimal _ (List.mem_cons_self ..)) (by decide)
        · split
          · exact absurd (decimal _ (List.mem_cons_self ..)) (by decide)
          · exact digits

theorem Spells.uncut {n : Int} {s : Text} (spelled : Spells n s) : .char ':' ∉ s := by
  have digits : ∀ digits : Text, (∀ rune ∈ digits, isDigitRune rune = true) → .char ':' ∉ digits := by
    intro digits decimal member
    exact absurd (decimal _ member) (by decide)
  cases spelled with
  | plain _ decimal _ _ => exact digits _ decimal
  | plus _ decimal _ _ => simpa using digits _ decimal
  | minus _ decimal _ _ => simpa using digits _ decimal

/-! One line. -/

def namedToken (tokenType line : Text) : Option Int :=
  match line.trimSpace.cut ':' with
  | none => none
  | some (idPart, typePart) => if typePart.trimSpace ≠ tokenType then none else atoi idPart.trimSpace

theorem namedToken_iff {tokenType line : Text} {n : Int} :
    namedToken tokenType line = some n ↔ NamesToken tokenType line n := by
  rw [namedToken]
  constructor
  · intro found
    cases parts : line.trimSpace.cut ':' with
    | none => simp [parts] at found
    | some pair =>
        obtain ⟨idPart, typePart⟩ := pair
        simp only [parts, ne_eq, ite_not] at found
        split at found
        · next same => exact ⟨idPart, typePart, Text.cut_some parts, atoi_iff.mp found, same⟩
        · simp at found
  · rintro ⟨idPart, typePart, split, spelled, same⟩
    have uncut : .char ':' ∉ idPart := fun member => spelled.uncut (Text.mem_trimSpace member (by decide))
    rw [split, Text.cut_key uncut]
    simp only [same, ne_eq, not_true_eq_false, ↓reduceIte]
    exact atoi_iff.mpr spelled

/-! The sections. -/

theorem tokenIDsFrom_indented (tokenType : Text) (inTokens : Bool) {line : Text}
    (indented : Indented line) (rest : List Text) :
    tokenIDsFrom tokenType inTokens (line :: rest) =
      (if inTokens then (namedToken tokenType line).toList else []) ++
        tokenIDsFrom tokenType inTokens rest := by
  have inside : ¬ (¬ text " " <+: line ∧ ¬ text "\t" <+: line) := by
    rw [← not_or]
    exact not_not.mpr indented
  rw [tokenIDsFrom, if_neg inside, namedToken]
  cases inTokens with
  | false => rfl
  | true =>
      rw [if_neg (by decide), if_pos rfl]
      cases parts : line.trimSpace.cut ':' with
      | none => rfl
      | some pair =>
          simp only
          split <;> rfl

theorem tokenIDsFrom_details (tokenType : Text) (inTokens : Bool) {details : List Text}
    (indented : ∀ line ∈ details, Indented line) (rest : List Text) :
    tokenIDsFrom tokenType inTokens (details ++ rest) =
      (if inTokens then details.filterMap (namedToken tokenType) else []) ++
        tokenIDsFrom tokenType inTokens rest := by
  induction details with
  | nil => simp
  | cons line details ih =>
      have later := ih fun other member => indented other (List.mem_cons_of_mem _ member)
      rw [List.cons_append,
        tokenIDsFrom_indented tokenType inTokens (indented line (List.mem_cons_self ..)), later]
      cases inTokens with
      | false => rfl
      | true => cases found : namedToken tokenType line <;> simp [found]

theorem tokenIDsFrom_section (tokenType : Text) (inTokens : Bool) (part : DumpSection)
    (rest : List Text) :
    tokenIDsFrom tokenType inTokens (part.lines ++ rest) =
      (if part.isTokens then part.details.filterMap (namedToken tokenType) else []) ++
        tokenIDsFrom tokenType part.isTokens rest := by
  have outside : ¬ text " " <+: part.heading ∧ ¬ text "\t" <+: part.heading := by
    rw [← not_or]
    exact part.unindented
  rw [DumpSection.lines, List.cons_append, tokenIDsFrom, if_pos outside, ← DumpSection.isTokens,
    tokenIDsFrom_details tokenType part.isTokens part.indented]

theorem tokenIDsFrom_sections (tokenType : Text) (inTokens : Bool) (sections : List DumpSection)
    (rest : List Text) (ended : ∀ inTokens, tokenIDsFrom tokenType inTokens rest = []) :
    tokenIDsFrom tokenType inTokens (sections.flatMap DumpSection.lines ++ rest) =
      (tokenLines sections).filterMap (namedToken tokenType) := by
  induction sections generalizing inTokens with
  | nil => exact ended inTokens
  | cons part sections ih =>
      rw [List.flatMap_cons, List.append_assoc, tokenIDsFrom_section, ih, tokenLines, tokenLines,
        List.filter_cons]
      cases part.isTokens with
      | false => rfl
      | true => simp

theorem tokenIDsFromDump_eq {dump tokenType : Text} {sections : List DumpSection}
    (shaped : Shaped dump sections) :
    tokenIDsFromDump dump tokenType = (tokenLines sections).filterMap (namedToken tokenType) := by
  rw [tokenIDsFromDump]
  rcases shaped with lines | lines
  · rw [lines, ← tokenIDsFrom_sections tokenType false sections [] (fun _ => rfl), List.append_nil]
  · rw [lines, tokenIDsFrom_sections tokenType false sections [[]]]
    intro inTokens
    have outside : ¬ text " " <+: [] ∧ ¬ text "\t" <+: [] := by decide
    rw [tokenIDsFrom, if_pos outside, tokenIDsFrom]

/-- The ids are those of the token lines of this type under the right headings, one for
each line and in their order. Nothing else in the dump matters. -/
theorem token_ids_from_tokens_sections (dump tokenType : Text) (sections : List DumpSection)
    (shaped : Shaped dump sections) :
    (∃ named : Text → Option Int, (∀ line n, named line = some n ↔ NamesToken tokenType line n) ∧
      tokenIDsFromDump dump tokenType = (tokenLines sections).filterMap named) ∧
    (∀ n, n ∈ tokenIDsFromDump dump tokenType ↔
      ∃ part ∈ sections, text "Tokens:" <+: part.heading ∧
        ∃ line ∈ part.details, NamesToken tokenType line n) ∧
    (∀ other others, Shaped other others →
      others.filter DumpSection.isTokens = sections.filter DumpSection.isTokens →
      tokenIDsFromDump other tokenType = tokenIDsFromDump dump tokenType) ∧
    ∀ other before part after longer first inserted last, Shaped other (before ++ longer :: after) →
      sections = before ++ part :: after → longer.heading = part.heading → part.details = first ++ last →
      longer.details = first ++ inserted ++ last →
        (∀ line ∈ inserted, ∀ n, ¬ NamesToken tokenType line n) →
      tokenIDsFromDump other tokenType = tokenIDsFromDump dump tokenType := by
  refine ⟨⟨namedToken tokenType, fun line n => namedToken_iff, tokenIDsFromDump_eq shaped⟩, ?_, ?_, ?_⟩
  · intro n
    rw [tokenIDsFromDump_eq shaped, List.mem_filterMap, tokenLines]
    simp only [List.mem_flatMap, List.mem_filter, DumpSection.isTokens, decide_eq_true_eq, namedToken_iff]
    constructor
    · rintro ⟨line, ⟨part, ⟨member, heading⟩, inside⟩, names⟩
      exact ⟨part, member, heading, line, inside, names⟩
    · rintro ⟨part, member, heading, line, inside, names⟩
      exact ⟨line, ⟨part, ⟨member, heading⟩, inside⟩, names⟩
  · intro other others shapedToo same
    rw [tokenIDsFromDump_eq shaped, tokenIDsFromDump_eq shapedToo, tokenLines, tokenLines, same]
  · rintro other before part after longer first inserted last shapedToo rfl heading short long foreign
    have nothing : inserted.filterMap (namedToken tokenType) = [] := by
      rw [List.filterMap_eq_nil_iff]
      intro line member
      rw [Option.eq_none_iff_forall_ne_some]
      intro n named
      exact foreign line member n (namedToken_iff.mp named)
    have kind : longer.isTokens = part.isTokens := by
      rw [DumpSection.isTokens, heading, DumpSection.isTokens]
    rw [tokenIDsFromDump_eq shaped, tokenIDsFromDump_eq shapedToo, tokenLines, tokenLines]
    simp only [List.filter_append, List.filter_cons, kind, List.flatMap_append, List.filterMap_append]
    cases part.isTokens with
    | false => rfl
    | true => simp [short, long, nothing]

def sampleSections : List DumpSection :=
  [⟨text "Keyslots:", [text "  0: luks2", text "\tKey:        512 bits"], by decide,
    by decide, by decide⟩,
    ⟨text "Tokens:", [text "  0: clevis", text "  2: syncthing-socket"], by decide, by decide, by decide⟩,
    ⟨text "Digests:", [text "  3: syncthing-socket"], by decide, by decide, by decide⟩]

def sampleDump : Text := unlines (sampleSections.flatMap DumpSection.lines)

theorem sample_token_found : tokenIDsFromDump sampleDump (text "syncthing-socket") = [2] ∧
    ∃ part ∈ sampleSections, text "Tokens:" <+: part.heading ∧
      ∃ line ∈ part.details, NamesToken (text "syncthing-socket") line 2 := by
  have shaped : Shaped sampleDump sampleSections := Or.inr (by decide +kernel)
  have ids : tokenIDsFromDump sampleDump (text "syncthing-socket") = [2] := by decide +kernel
  refine ⟨ids, ?_⟩
  refine ((token_ids_from_tokens_sections sampleDump
    (text "syncthing-socket") sampleSections shaped).2.1 2).mp ?_
  rw [ids]
  simp

end SyncthingSocket
