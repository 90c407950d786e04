import Mathlib.Data.List.Basic
import Mathlib.Tactic.SplitIfs

/-!
JSON texts as RFC 8259 has them, and nothing besides: a reader that refuses what the grammar does
not derive. Strings are sequences of UTF-16 code units, since an escape can write a lone
surrogate; numbers stay as written.
-/

namespace Rfc8259

def utf16Char (c : Char) : List UInt16 :=
  if c.toNat < 0x10000 then [UInt16.ofNat c.toNat]
  else
    [UInt16.ofNat (0xD800 + (c.toNat - 0x10000) / 0x400),
      UInt16.ofNat (0xDC00 + (c.toNat - 0x10000) % 0x400)]

def utf16 (chars : List Char) : List UInt16 := chars.flatMap utf16Char

inductive Value
  | null
  | bool (b : Bool)
  | number (raw : List Char)
  | string (units : List UInt16)
  | array (items : List Value)
  | object (members : List (List UInt16 × Value))

def isBlank (c : Char) : Bool := c = ' ' || c = '\t' || c = '\n' || c = '\r'

def skip (text : List Char) : List Char := text.dropWhile isBlank

def hexValue (c : Char) : Option Nat :=
  if '0' ≤ c ∧ c ≤ '9' then some (c.toNat - '0'.toNat)
  else if 'a' ≤ c ∧ c ≤ 'f' then some (c.toNat - 'a'.toNat + 10)
  else if 'A' ≤ c ∧ c ≤ 'F' then some (c.toNat - 'A'.toNat + 10)
  else none

def hexUnit (a b c d : Char) : Option UInt16 := do
  let a ← hexValue a
  let b ← hexValue b
  let c ← hexValue c
  let d ← hexValue d
  some (UInt16.ofNat (a * 4096 + b * 256 + c * 16 + d))

def escaped (c : Char) : Option UInt16 :=
  if c = '"' ∨ c = '\\' ∨ c = '/' then some (UInt16.ofNat c.toNat)
  else if c = 'b' then some 0x08
  else if c = 'f' then some 0x0C
  else if c = 'n' then some 0x0A
  else if c = 'r' then some 0x0D
  else if c = 't' then some 0x09
  else none

def extend {α β : Type} (build : α → β) (parsed : Option (α × List Char)) :
    Option (β × List Char) :=
  parsed.map fun (value, rest) => (build value, rest)

def readChars : List Char → Option (List UInt16 × List Char)
  | [] => none
  | '"' :: rest => some ([], rest)
  | '\\' :: 'u' :: a :: b :: c :: d :: rest => do
      let unit ← hexUnit a b c d
      extend (unit :: ·) (readChars rest)
  | '\\' :: c :: rest => do
      let unit ← escaped c
      extend (unit :: ·) (readChars rest)
  | c :: rest => if c.toNat < 0x20 then none else extend (utf16Char c ++ ·) (readChars rest)

def readDigits (text : List Char) : Option (List Char × List Char) :=
  if text.takeWhile Char.isDigit = [] then none
  else some (text.takeWhile Char.isDigit, text.dropWhile Char.isDigit)

def readInteger : List Char → Option (List Char × List Char)
  | '0' :: rest => some (['0'], rest)
  | text => readDigits text

def readFraction : List Char → Option (List Char × List Char)
  | '.' :: rest => extend ('.' :: ·) (readDigits rest)
  | text => some ([], text)

def readSign : List Char → List Char × List Char
  | '+' :: rest => (['+'], rest)
  | '-' :: rest => (['-'], rest)
  | text => ([], text)

def readExponent : List Char → Option (List Char × List Char)
  | [] => some ([], [])
  | c :: rest =>
      if c = 'e' ∨ c = 'E' then extend (c :: (readSign rest).1 ++ ·) (readDigits (readSign rest).2)
      else some ([], c :: rest)

def readUnsigned (text : List Char) : Option (List Char × List Char) := do
  let (integer, text) ← readInteger text
  let (fraction, text) ← readFraction text
  extend (integer ++ fraction ++ ·) (readExponent text)

def readNumber : List Char → Option (List Char × List Char)
  | '-' :: rest => extend ('-' :: ·) (readUnsigned rest)
  | text => readUnsigned text

def readName : List Char → Option (List UInt16 × List Char)
  | '"' :: rest => do
      let (name, rest) ← readChars rest
      match skip rest with
      | ':' :: rest => some (name, rest)
      | _ => none
  | _ => none

def readEnclosed {α : Type} (close : Char) (readItems : List Char → Option (List α × List Char))
    (text : List Char) :
    Option (List α × List Char) :=
  if (skip text).head? = some close then some ([], (skip text).tail) else readItems (skip text)

def readFurther {α : Type} (close : Char) (readItems : List Char → Option (List α × List Char))
    (first : α) :
    List Char → Option (List α × List Char)
  | [] => none
  | c :: rest =>
      if c = ',' then extend (first :: ·) (readItems (skip rest))
      else if c = close then some ([first], rest)
      else none

mutual

def readValue : Nat → List Char → Option (Value × List Char)
  | 0, _ => none
  | fuel + 1, text =>
      match text with
      | 'n' :: 'u' :: 'l' :: 'l' :: rest => some (.null, rest)
      | 't' :: 'r' :: 'u' :: 'e' :: rest => some (.bool true, rest)
      | 'f' :: 'a' :: 'l' :: 's' :: 'e' :: rest => some (.bool false, rest)
      | '"' :: rest => extend .string (readChars rest)
      | '[' :: rest => extend .array (readEnclosed ']' (readElements fuel) rest)
      | '{' :: rest => extend .object (readEnclosed '}' (readMembers fuel) rest)
      | text => extend .number (readNumber text)

def readElements : Nat → List Char → Option (List Value × List Char)
  | 0, _ => none
  | fuel + 1, text => do
      let (first, rest) ← readValue fuel text
      readFurther ']' (readElements fuel) first (skip rest)

def readMembers : Nat → List Char → Option (List (List UInt16 × Value) × List Char)
  | 0, _ => none
  | fuel + 1, text => do
      let (name, rest) ← readName text
      let (value, rest) ← readValue fuel (skip rest)
      readFurther '}' (readMembers fuel) (name, value) (skip rest)

end

def read (text : List Char) : Option Value := do
  let (value, rest) ← readValue (2 * text.length) (skip text)
  if skip rest = [] then some value else none

variable {c : Char} {rest text digits : List Char} {fuel : Nat}

theorem extend_eq_some {α β : Type} {build : α → β} {parsed : Option (α × List Char)} {value : β} :
    extend build parsed = some (value, rest) ↔ ∃ inner, parsed = some (inner, rest) ∧
      build inner = value := by
  simp [extend, Prod.ext_iff]

theorem skip_length (text : List Char) : (skip text).length ≤ text.length :=
  (List.dropWhile_sublist isBlank).length_le

theorem skip_cons (other : isBlank c = false) :
    skip (c :: text) = c :: text := by
  rw [skip, List.dropWhile_cons_of_neg (by simp [other])]

/-! Whatever is read, less of the text is left. -/

theorem readChars_shorter {units : List UInt16} (found : readChars text = some (units, rest)) :
    rest.length < text.length := by
  induction text using readChars.induct generalizing units with
  | case1 => simp [readChars] at found
  | case2 text =>
      simp only [readChars, Option.some.injEq, Prod.mk.injEq] at found
      simp [found.2]
  | case3 a b c d text ih =>
      simp only [readChars, Option.bind_eq_bind, Option.bind_eq_some_iff, extend_eq_some] at found
      obtain ⟨unit, _, units, inner, _⟩ := found
      have shorter := ih inner
      simp only [List.length_cons]
      omega
  | case4 c text different ih =>
      rw [readChars.eq_4 _ _ different, Option.bind_eq_bind, Option.bind_eq_some_iff] at found
      obtain ⟨unit, _, found⟩ := found
      obtain ⟨units, inner, _⟩ := extend_eq_some.mp found
      have shorter := ih inner
      simp only [List.length_cons]
      omega
  | case5 c text notQuote notUnicode notEscape control =>
      rw [readChars.eq_5 _ _ notQuote notUnicode notEscape, if_pos control] at found
      exact absurd found (by simp)
  | case6 c text notQuote notUnicode notEscape control ih =>
      rw [readChars.eq_5 _ _ notQuote notUnicode notEscape, if_neg control] at found
      obtain ⟨units, inner, _⟩ := extend_eq_some.mp found
      have shorter := ih inner
      simp only [List.length_cons]
      omega

theorem readDigits_shorter (found : readDigits text = some (digits, rest)) :
    rest.length < text.length := by
  have whole := congrArg List.length (List.takeWhile_append_dropWhile (p := Char.isDigit) (l := text))
  rw [readDigits] at found
  split_ifs at found with none
  have positive := List.length_pos_of_ne_nil none
  simp only [Option.some.injEq, Prod.mk.injEq] at found
  rw [List.length_append, found.2] at whole
  omega

theorem readInteger_shorter (found : readInteger text = some (digits, rest)) :
    rest.length < text.length := by
  rw [readInteger.eq_def] at found
  split at found
  · simp only [Option.some.injEq, Prod.mk.injEq] at found
    simp [found.2]
  · exact readDigits_shorter found

theorem readFraction_length (found : readFraction text = some (digits, rest)) :
    rest.length ≤ text.length := by
  rw [readFraction.eq_def] at found
  split at found
  · obtain ⟨_, inner, _⟩ := extend_eq_some.mp found
    have shorter := readDigits_shorter inner
    simp only [List.length_cons]
    omega
  · simp only [Option.some.injEq, Prod.mk.injEq] at found
    simp [found.2]

theorem readSign_length (text : List Char) : (readSign text).2.length ≤ text.length := by
  rw [readSign.eq_def]
  split <;> simp

theorem readExponent_length (found : readExponent text = some (digits, rest)) :
    rest.length ≤ text.length := by
  rw [readExponent.eq_def] at found
  split at found
  · simp only [Option.some.injEq, Prod.mk.injEq] at found
    simp [← found.2]
  · rename_i c text
    split_ifs at found
    · obtain ⟨_, inner, _⟩ := extend_eq_some.mp found
      have shorter := readDigits_shorter inner
      have sign := readSign_length text
      simp only [List.length_cons]
      omega
    · simp only [Option.some.injEq, Prod.mk.injEq] at found
      simp [← found.2]

theorem readUnsigned_shorter (found : readUnsigned text = some (digits, rest)) :
    rest.length < text.length := by
  simp only [readUnsigned, Option.bind_eq_bind, Option.bind_eq_some_iff, extend_eq_some,
    Prod.exists] at found
  obtain ⟨integer, afterInteger, integerRead, fraction, afterFraction, fractionRead, exponent,
    exponentRead, _⟩ := found
  have first := readInteger_shorter integerRead
  have second := readFraction_length fractionRead
  have third := readExponent_length exponentRead
  omega

theorem readNumber_shorter (found : readNumber text = some (digits, rest)) :
    rest.length < text.length := by
  rw [readNumber.eq_def] at found
  split at found
  · obtain ⟨_, inner, _⟩ := extend_eq_some.mp found
    have shorter := readUnsigned_shorter inner
    simp only [List.length_cons]
    omega
  · exact readUnsigned_shorter found

theorem readName_shorter {name : List UInt16} (found : readName text = some (name, rest)) :
    rest.length + 1 < text.length := by
  rw [readName.eq_def] at found
  split at found
  · rename_i text
    simp only [Option.bind_eq_bind, Option.bind_eq_some_iff, Prod.exists] at found
    obtain ⟨units, after, inner, found⟩ := found
    have shorter := readChars_shorter inner
    have skipped := skip_length after
    split at found
    · rename_i colon
      simp only [Option.some.injEq, Prod.mk.injEq] at found
      rw [colon] at skipped
      simp only [List.length_cons, found.2] at skipped ⊢
      omega
    · exact absurd found (by simp)
  · exact absurd found (by simp)


/-- Where the reader succeeds with this fuel, any other fuel will do that has two for each
character read, up to `spare`: an array takes one for itself and one for its first element. -/
def Stable {α : Type} (reader : Nat → List Char → Option (α × List Char)) (spare fuel : Nat) :
    Prop :=
  ∀ text value rest, reader fuel text = some (value, rest) → rest.length < text.length ∧
    ∀ more, 2 * (text.length - rest.length) ≤ more + spare → reader more text = some (value, rest)

theorem Stable.of_succ {α : Type} {reader : Nat → List Char → Option (α × List Char)} {spare : Nat}
    (small : spare ≤ 1) (again : ∀ text value rest, reader fuel text = some (value, rest) →
      rest.length < text.length ∧ ∀ more, 2 * (text.length - rest.length) ≤ more + 1 + spare →
        reader (more + 1) text = some (value, rest)) : Stable reader spare fuel := by
  intro text value rest found
  obtain ⟨shorter, enough⟩ := again _ _ _ found
  refine ⟨shorter, fun more bound => ?_⟩
  cases more with
  | zero => omega
  | succ more => exact enough more bound

theorem readEnclosed_stable {α : Type} {close : Char}
    {readItems : Nat → List Char → Option (List α × List Char)} (stable : Stable readItems 1 fuel)
    {items : List α} (found : readEnclosed close (readItems fuel) text = some (items, rest)) :
    rest.length < text.length ∧
      ∀ more, 2 * (text.length - rest.length) ≤ more + 1 →
        readEnclosed close (readItems more) text = some (items, rest) := by
  have skipped := skip_length text
  rw [readEnclosed] at found
  split_ifs at found with closed
  · obtain ⟨tail, cons⟩ := List.head?_eq_some_iff.mp closed
    simp only [cons, List.tail_cons, Option.some.injEq, Prod.mk.injEq] at found
    rw [cons, List.length_cons, found.2] at skipped
    refine ⟨skipped, fun more _ => ?_⟩
    simp [readEnclosed, cons, found.1, found.2]
  · obtain ⟨shorter, enough⟩ := stable _ _ _ found
    refine ⟨by omega, fun more bound => ?_⟩
    rw [readEnclosed, if_neg closed]
    exact enough more (by omega)

theorem readFurther_stable {α : Type} {close : Char}
    {readItems : Nat → List Char → Option (List α × List Char)} (stable : Stable readItems 1 fuel)
    {first : α} {items : List α}
    (found : readFurther close (readItems fuel) first text = some (items, rest)) :
    rest.length < text.length ∧
      ∀ more, 2 * (text.length - rest.length) ≤ more + 1 →
        readFurther close (readItems more) first text = some (items, rest) := by
  cases text with
  | nil => exact absurd found (by simp [readFurther])
  | cons c text =>
      have skipped := skip_length text
      simp only [readFurther] at found ⊢
      split_ifs at found ⊢ with comma closed
      · obtain ⟨others, inner, same⟩ := extend_eq_some.mp found
        obtain ⟨shorter, enough⟩ := stable _ _ _ inner
        simp only [List.length_cons]
        refine ⟨by omega, fun more bound => extend_eq_some.mpr ⟨others, enough more (by omega), same⟩⟩
      · refine ⟨?_, fun _ _ => found⟩
        simp only [Option.some.injEq, Prod.mk.injEq] at found
        simp [found.2]

theorem readValue_stable (elements : Stable readElements 1 fuel)
    (members : Stable readMembers 1 fuel) :
    Stable readValue 0 (fuel + 1) := by
  refine .of_succ (by omega) fun text value rest found => ?_
  rw [readValue.eq_def] at found
  dsimp only at found
  split at found
  case h_1 | h_2 | h_3 =>
    cases found
    exact ⟨by simp only [List.length_cons]; omega, fun _ _ => rfl⟩
  case h_4 =>
    obtain ⟨units, inner, rfl⟩ := extend_eq_some.mp found
    have shorter := readChars_shorter inner
    refine ⟨by simp only [List.length_cons]; omega, fun more _ => ?_⟩
    rw [readValue, inner]
    rfl
  case h_5 =>
    obtain ⟨items, inner, rfl⟩ := extend_eq_some.mp found
    obtain ⟨shorter, enough⟩ := readEnclosed_stable elements inner
    simp only [List.length_cons]
    refine ⟨by omega, fun more bound => ?_⟩
    rw [readValue, enough more (by omega)]
    rfl
  case h_6 =>
    obtain ⟨items, inner, rfl⟩ := extend_eq_some.mp found
    obtain ⟨shorter, enough⟩ := readEnclosed_stable members inner
    simp only [List.length_cons]
    refine ⟨by omega, fun more bound => ?_⟩
    rw [readValue, enough more (by omega)]
    rfl
  case h_7 =>
    -- what begins like no other value is a number
    obtain ⟨raw, inner, rfl⟩ := extend_eq_some.mp found
    refine ⟨readNumber_shorter inner, fun more _ => ?_⟩
    rw [readValue]
    · exact found
    all_goals assumption

theorem readElements_stable (values : Stable readValue 0 fuel)
    (elements : Stable readElements 1 fuel) :
    Stable readElements 1 (fuel + 1) := by
  refine .of_succ (by omega) fun text items rest found => ?_
  simp only [readElements, Option.bind_eq_bind, Option.bind_eq_some_iff, Prod.exists] at found ⊢
  obtain ⟨first, after, firstRead, furtherRead⟩ := found
  obtain ⟨firstShorter, firstAgain⟩ := values _ _ _ firstRead
  obtain ⟨furtherShorter, furtherAgain⟩ := readFurther_stable elements furtherRead
  have skipped := skip_length after
  exact ⟨by omega,
    fun more bound => ⟨first, after, firstAgain more (by omega), furtherAgain more (by omega)⟩⟩

theorem readMembers_stable (values : Stable readValue 0 fuel)
    (members : Stable readMembers 1 fuel) :
    Stable readMembers 1 (fuel + 1) := by
  refine .of_succ (by omega) fun text items rest found => ?_
  simp only [readMembers, Option.bind_eq_bind, Option.bind_eq_some_iff, Prod.exists] at found ⊢
  obtain ⟨name, afterName, nameRead, value, after, valueRead, furtherRead⟩ := found
  have nameShorter := readName_shorter nameRead
  obtain ⟨valueShorter, valueAgain⟩ := values _ _ _ valueRead
  obtain ⟨furtherShorter, furtherAgain⟩ := readFurther_stable members furtherRead
  have beforeValue := skip_length afterName
  have afterValue := skip_length after
  exact ⟨by omega, fun more bound =>
    ⟨name, afterName, nameRead, value, after, valueAgain more (by omega), furtherAgain more (by omega)⟩⟩

theorem readers_stable (fuel : Nat) :
    Stable readValue 0 fuel ∧ Stable readElements 1 fuel ∧ Stable readMembers 1 fuel := by
  induction fuel with
  | zero =>
      refine ⟨?_, ?_, ?_⟩
      all_goals
        intro text value rest found
        exact absurd found (by simp [readValue, readElements, readMembers])
  | succ fuel ih =>
      obtain ⟨values, elements, members⟩ := ih
      exact ⟨readValue_stable elements members, readElements_stable values elements,
        readMembers_stable values members⟩

/-- Any fuel will do that is enough for the length of the text. -/
theorem read_iff {value : Value} (enough : 2 * text.length ≤ fuel) :
    read text = some value ↔ ∃ rest, readValue fuel (skip text) = some (value, rest) ∧
      skip rest = [] := by
  have skipped := skip_length text
  -- a success with some fuel is one with all fuel that is enough
  have again : ∀ {first second rest}, 2 * text.length ≤ second →
      readValue first (skip text) = some (value, rest) →
      readValue second (skip text) = some (value, rest) := by
    intro first second rest bound found
    exact ((readers_stable first).1 _ _ _ found).2 second (by omega)
  simp only [read, Option.bind_eq_bind, Option.bind_eq_some_iff, Prod.exists]
  constructor
  · rintro ⟨found, rest, inner, ended⟩
    split_ifs at ended with blank
    cases ended
    exact ⟨rest, again enough inner, blank⟩
  · rintro ⟨rest, inner, blank⟩
    exact ⟨value, rest, again (Nat.le_refl _) inner, by rw [if_pos blank]⟩

/-! The characters of a string. -/

theorem readChars_control (control : c.toNat < 0x20) (rest : List Char) :
    readChars (c :: rest) = none := by
  have notQuote : c ≠ '"' := by
    rintro rfl
    exact absurd control (by decide)
  have notBackslash : c ≠ '\\' := by
    rintro rfl
    exact absurd control (by decide)
  rw [readChars, if_pos control]
  · simp [notQuote]
  · simp [notBackslash]
  · simp [notBackslash]

theorem readChars_plain (notQuote : c ≠ '"') (notBackslash : c ≠ '\\') (printing : 0x20 ≤ c.toNat)
    (rest : List Char) : readChars (c :: rest) = extend (utf16Char c ++ ·) (readChars rest) := by
  rw [readChars, if_neg (by omega)]
  · simp [notQuote]
  · simp [notBackslash]
  · simp [notBackslash]

theorem readChars_escaped_quote (rest : List Char) :
    readChars ('\\' :: '"' :: rest) = extend (utf16Char '"' ++ ·) (readChars rest) := rfl

theorem readChars_escaped_backslash (rest : List Char) :
    readChars ('\\' :: '\\' :: rest) = extend (utf16Char '\\' ++ ·) (readChars rest) := rfl

def Plain (c : Char) : Prop := c ≠ '"' ∧ c ≠ '\\' ∧ 0x20 ≤ c.toNat

instance (c : Char) : Decidable (Plain c) := inferInstanceAs (Decidable (_ ∧ _))

theorem readChars_string {chars : List Char} (plain : ∀ c ∈ chars, Plain c) (rest : List Char) :
    readChars (chars ++ '"' :: rest) = some (utf16 chars, rest) := by
  induction chars with
  | nil => rfl
  | cons c chars ih =>
      obtain ⟨notQuote, notBackslash, printing⟩ := plain c (by simp)
      rw [List.cons_append, readChars_plain notQuote notBackslash printing,
        ih fun d member => plain d (by simp [member])]
      rfl

theorem readName_plain {name : List Char} (plain : ∀ c ∈ name, Plain c) (rest : List Char) :
    readName ('"' :: (name ++ '"' :: ':' :: rest)) = some (utf16 name, rest) := by
  rw [readName, readChars_string plain]
  rfl

theorem readMembers_string {name : List Char} (plain : ∀ c ∈ name, Plain c) (fuel : Nat)
    (text : List Char) :
    readMembers (fuel + 2) ('"' :: (name ++ '"' :: ':' :: '"' :: text)) =
      (readChars text).bind fun (units, rest) =>
        readFurther '}' (readMembers (fuel + 1)) (utf16 name, .string units) (skip rest) := by
  rw [readMembers, readName_plain plain, Option.bind_eq_bind, Option.bind_some]
  have quoted : readValue (fuel + 1) (skip ('"' :: text)) = extend .string (readChars text) := rfl
  simp only [quoted]
  cases readChars text with
  | none => rfl
  | some found => rfl

end Rfc8259
