import SyncthingSocket.Json.Encode

/-!
A reader for the documents the encoder writes. Whatever follows a document, the
reader returns the value that was written and what follows, so no document is the
beginning of another.
-/

namespace Json

inductive Value
  | null
  | number (n : Nat)
  | string (s : String)
  | array (items : List Value)
  | object (members : List (String × Value))

mutual

def render : Value → List Char
  | .null => ['n', 'u', 'l', 'l']
  | .number n => Nat.toDigits 10 n
  | .string s => quote s
  | .array items => '[' :: (renderItems items ++ [']'])
  | .object members => '{' :: (renderMembers members ++ ['}'])

def renderItems : List Value → List Char
  | [] => []
  | [only] => render only
  | first :: second :: rest => render first ++ ',' :: renderItems (second :: rest)

def renderMembers : List (String × Value) → List Char
  | [] => []
  | [(name, value)] => quote name ++ ':' :: render value
  | (name, value) :: second :: rest =>
      quote name ++ ':' :: (render value ++ ',' :: renderMembers (second :: rest))

end

@[simp] theorem render_string (s : String) : render (.string s) = quote s := rfl

theorem renderItems_eq (items : List Value) :
    renderItems items = commaSeparated (items.map render) := by
  induction items with
  | nil => rfl
  | cons first items ih =>
      cases items with
      | nil => rfl
      | cons second rest =>
          rw [renderItems, ih]
          rfl

theorem renderMembers_eq (members : List (String × Value)) :
    renderMembers members =
      commaSeparated (members.map fun member => quote member.1 ++ ':' :: render member.2) := by
  induction members with
  | nil => rfl
  | cons first members ih =>
      cases members with
      | nil => rfl
      | cons second rest =>
          rw [renderMembers, ih]
          simp [commaSeparated]

theorem render_array (items : List Value) : render (.array items) = array (items.map render) := by
  rw [render, renderItems_eq, array]

theorem render_object (members : List (String × Value)) :
    render (.object members) = object (members.map fun member => (member.1, render member.2)) := by
  rw [render, renderMembers_eq, object, List.map_map]
  rfl

def unhex (c : Char) : Nat :=
  if c.toNat < 58 then c.toNat - 48 else c.toNat - 87

def unescape (c : Char) : Char :=
  if c = 'b' then '\x08'
  else if c = 'f' then '\x0c'
  else if c = 'n' then '\n'
  else if c = 'r' then '\r'
  else if c = 't' then '\t'
  else c

def readChars : List Char → Option (List Char × List Char)
  | [] => none
  | '"' :: rest => some ([], rest)
  | '\\' :: 'u' :: a :: b :: c :: d :: rest =>
      (readChars rest).map fun (chars, after) =>
        (Char.ofNat (unhex a * 4096 + unhex b * 256 + unhex c * 16 + unhex d) :: chars, after)
  | '\\' :: c :: rest => (readChars rest).map fun (chars, after) => (unescape c :: chars, after)
  | c :: rest => (readChars rest).map fun (chars, after) => (c :: chars, after)

theorem unhex_hexDigit {n : Nat} (small : n < 16) : unhex (hexDigit n) = n := by
  have table : ∀ digit < 16, unhex (hexDigit digit) = digit := by decide
  exact table n small

theorem ofNat_hexDigits {c : Char} (small : c.toNat < 65536) :
    Char.ofNat (unhex (hexDigit (c.toNat / 4096 % 16)) * 4096 +
      unhex (hexDigit (c.toNat / 256 % 16)) * 256 + unhex (hexDigit (c.toNat / 16 % 16)) * 16 +
      unhex (hexDigit (c.toNat % 16))) = c := by
  have digits : c.toNat / 4096 % 16 * 4096 + c.toNat / 256 % 16 * 256 + c.toNat / 16 % 16 * 16 +
      c.toNat % 16 = c.toNat := by omega
  rw [unhex_hexDigit (Nat.mod_lt _ (by omega)), unhex_hexDigit (Nat.mod_lt _ (by omega)),
    unhex_hexDigit (Nat.mod_lt _ (by omega)), unhex_hexDigit (Nat.mod_lt _ (by omega)), digits]
  exact Char.ofNat_toNat c

theorem readChars_escapeChar (c : Char) (rest : List Char) :
    readChars (escapeChar c ++ rest) =
      (readChars rest).map fun (chars, after) => (c :: chars, after) := by
  rw [escapeChar]
  split_ifs with isQuote isBackslash isBackspace isFormFeed isNewline isReturn isTab escaped
  · rw [isQuote]
    rfl
  · rw [isBackslash]
    rfl
  · rw [isBackspace]
    rfl
  · rw [isFormFeed]
    rfl
  · rw [isNewline]
    rfl
  · rw [isReturn]
    rfl
  · rw [isTab]
    rfl
  · have small : c.toNat < 65536 := by
      rcases escaped with control | rfl | rfl | rfl | rfl | rfl
      · omega
      all_goals decide
    simp only [unicodeEscape, List.cons_append, List.nil_append, readChars, ofNat_hexDigits small]
  · rw [List.singleton_append, readChars.eq_def]
    split <;> simp_all

theorem readChars_quote (s : String) (rest : List Char) :
    readChars (s.toList.flatMap escapeChar ++ '"' :: rest) = some (s.toList, rest) := by
  induction s.toList with
  | nil => rfl
  | cons c chars ih =>
      rw [List.flatMap_cons, List.append_assoc, readChars_escapeChar, ih, Option.map_some]

def readNumber (text : List Char) : Option (Nat × List Char) :=
  if text.takeWhile Char.isDigit = [] then none
  else some (Nat.ofDigitChars 10 (text.takeWhile Char.isDigit) 0, text.dropWhile Char.isDigit)

def Delimited (rest : List Char) : Prop := ∀ c tail, rest = c :: tail → c.isDigit = false

theorem delimited_cons {c : Char} {rest : List Char} (other : c.isDigit = false) :
    Delimited (c :: rest) := by
  intro first tail same
  rw [← (List.cons.inj same).1]
  exact other

theorem readNumber_toDigits (n : Nat) {rest : List Char} (delimited : Delimited rest) :
    readNumber (Nat.toDigits 10 n ++ rest) = some (n, rest) := by
  have digits : ∀ c ∈ Nat.toDigits 10 n, c.isDigit = true :=
    fun c member => Nat.isDigit_of_mem_toDigits (by omega) (by omega) member
  have stops : rest.takeWhile Char.isDigit = [] ∧ rest.dropWhile Char.isDigit = rest := by
    cases rest with
    | nil => exact ⟨rfl, rfl⟩
    | cons c tail => simp [delimited c tail rfl]
  rw [readNumber, List.takeWhile_append_of_pos digits, List.dropWhile_append_of_pos digits, stops.1,
    stops.2, List.append_nil, if_neg Nat.toDigits_ne_nil, Nat.ofDigitChars_toDigits (by omega) (by omega)]

mutual

def parseValue : Nat → List Char → Option (Value × List Char)
  | 0, _ => none
  | fuel + 1, text =>
      match text with
      | 'n' :: 'u' :: 'l' :: 'l' :: rest => some (.null, rest)
      | '"' :: rest => (readChars rest).map fun (chars, after) => (.string (String.ofList chars), after)
      | '[' :: ']' :: rest => some (.array [], rest)
      | '[' :: rest => (parseItems fuel rest).map fun (items, after) => (.array items, after)
      | '{' :: '}' :: rest => some (.object [], rest)
      | '{' :: rest => (parseMembers fuel rest).map fun (members, after) => (.object members, after)
      | rest => (readNumber rest).map fun (n, after) => (.number n, after)

def parseItems : Nat → List Char → Option (List Value × List Char)
  | 0, _ => none
  | fuel + 1, text => do
      let (first, rest) ← parseValue fuel text
      match rest with
      | ',' :: rest => (parseItems fuel rest).map fun (items, after) => (first :: items, after)
      | ']' :: rest => some ([first], rest)
      | _ => none

def parseMembers : Nat → List Char → Option (List (String × Value) × List Char)
  | 0, _ => none
  | fuel + 1, text =>
      match text with
      | '"' :: text => do
          let (name, rest) ← readChars text
          match rest with
          | ':' :: rest => do
              let (value, rest) ← parseValue fuel rest
              match rest with
              | ',' :: rest => (parseMembers fuel rest).map fun (members, after) =>
                  ((String.ofList name, value) :: members, after)
              | '}' :: rest => some ([(String.ofList name, value)], rest)
              | _ => none
          | _ => none
      | _ => none

end

theorem render_head (value : Value) : ∃ c tail, render value = c :: tail ∧ c ≠ ']' := by
  cases value with
  | null => exact ⟨_, _, rfl, by decide⟩
  | string s => exact ⟨_, _, rfl, by decide⟩
  | array items => exact ⟨_, _, rfl, by decide⟩
  | object members => exact ⟨_, _, rfl, by decide⟩
  | number n =>
      cases digits : Nat.toDigits 10 n with
      | nil => exact absurd digits Nat.toDigits_ne_nil
      | cons c tail =>
          refine ⟨c, tail, digits, ?_⟩
          rintro rfl
          have isDigit := Nat.isDigit_of_mem_toDigits (b := 10) (n := n) (c := ']') (by omega) (by omega)
            (by simp [digits])
          simp at isDigit

theorem renderItems_head (first : Value) (items : List Value) :
    ∃ c tail, renderItems (first :: items) = c :: tail ∧ c ≠ ']' := by
  obtain ⟨c, tail, text, different⟩ := render_head first
  cases items with
  | nil => exact ⟨c, tail, text, different⟩
  | cons second rest =>
      exact ⟨c, tail ++ ',' :: renderItems (second :: rest), by simp [renderItems, text], different⟩

theorem renderMembers_head (first : String × Value) (members : List (String × Value)) :
    ∃ tail, renderMembers (first :: members) = '"' :: tail := by
  cases members with
  | nil => exact ⟨_, rfl⟩
  | cons second rest => exact ⟨_, rfl⟩

theorem parseValue_number (fuel n : Nat) {rest : List Char} (delimited : Delimited rest) :
    parseValue (fuel + 1) (render (.number n) ++ rest) = some (.number n, rest) := by
  have number := readNumber_toDigits n delimited
  simp only [render]
  cases digits : Nat.toDigits 10 n with
  | nil => exact absurd digits Nat.toDigits_ne_nil
  | cons c tail =>
      have isDigit : c.isDigit = true :=
        Nat.isDigit_of_mem_toDigits (b := 10) (n := n) (by omega) (by omega) (by simp [digits])
      rw [digits] at number
      rw [List.cons_append] at number ⊢
      rw [parseValue]
      · rw [number, Option.map_some]
      all_goals
        intro _ same
        rw [(List.cons.inj same).1] at isDigit
        exact absurd isDigit (by decide)

theorem parse_render (fuel : Nat) :
    (∀ value rest, (render value).length ≤ fuel → (∀ n, value = .number n → Delimited rest) →
      parseValue fuel (render value ++ rest) = some (value, rest)) ∧
    (∀ first items rest, (renderItems (first :: items)).length < fuel →
      parseItems fuel (renderItems (first :: items) ++ ']' :: rest) = some (first :: items, rest)) ∧
    (∀ first members rest, (renderMembers (first :: members)).length < fuel →
      parseMembers fuel (renderMembers (first :: members) ++ '}' :: rest) =
        some (first :: members, rest)) := by
  induction fuel with
  | zero =>
      refine ⟨?_, by omega, by omega⟩
      intro value rest bound _
      obtain ⟨c, tail, text, _⟩ := render_head value
      rw [text] at bound
      simp at bound
  | succ fuel ih =>
      obtain ⟨values, items, members⟩ := ih
      refine ⟨?_, ?_, ?_⟩
      · intro value rest bound delimited
        cases value with
        | null => rfl
        | number n => exact parseValue_number fuel n (delimited n rfl)
        | string s => simp [render, quote, parseValue, readChars_quote]
        | array list =>
            cases list with
            | nil => rfl
            | cons first list =>
                -- no element begins with the bracket that would close an empty array
                obtain ⟨c, tail, text, different⟩ := renderItems_head first list
                have inner := items first list rest (by simp [render] at bound; omega)
                rw [text] at inner
                simp only [render, text, List.cons_append, List.append_assoc, List.nil_append] at inner ⊢
                rw [parseValue]
                · rw [inner, Option.map_some]
                · exact fun _ same => different (List.cons.inj same).1
        | object list =>
            cases list with
            | nil => rfl
            | cons first list =>
                obtain ⟨tail, text⟩ := renderMembers_head first list
                have inner := members first list rest (by simp [render] at bound; omega)
                rw [text] at inner
                simp only [render, text, List.cons_append, List.append_assoc, List.nil_append] at inner ⊢
                rw [parseValue]
                · rw [inner, Option.map_some]
                · simp
      · intro first list rest bound
        cases list with
        | nil =>
            have inner := values first (']' :: rest) (by simp [renderItems] at bound; omega)
              (fun _ _ => delimited_cons rfl)
            simp [renderItems, parseItems, inner]
        | cons second list =>
            simp only [renderItems, List.length_append, List.length_cons] at bound
            have inner := values first (',' :: (renderItems (second :: list) ++ ']' :: rest))
              (by omega) (fun _ _ => delimited_cons rfl)
            have following := items second list rest (by omega)
            simp [renderItems, parseItems, inner, following]
      · intro first list rest bound
        obtain ⟨name, value⟩ := first
        cases list with
        | nil =>
            have inner := values value ('}' :: rest)
              (by simp [renderMembers] at bound; omega) (fun _ _ => delimited_cons rfl)
            simp [renderMembers, quote, parseMembers, readChars_quote, inner]
        | cons second list =>
            simp only [renderMembers, List.length_append, List.length_cons] at bound
            have inner := values value (',' :: (renderMembers (second :: list) ++ '}' :: rest))
              (by omega) (fun _ _ => delimited_cons rfl)
            have following := members second list rest (by omega)
            simp [renderMembers, quote, parseMembers, readChars_quote, inner, following]

def decodeUtf8 : Nat → List UInt8 → List Char
  | 0, _ => []
  | fuel + 1, bytes =>
      match bytes.toByteArray.utf8DecodeChar? 0 with
      | some c => c :: decodeUtf8 fuel (bytes.drop (String.utf8EncodeChar c).length)
      | none => []

theorem decodeUtf8_utf8 (fuel : Nat) (text : List Char) (rest : List UInt8) :
    decodeUtf8 (text.length + fuel) (utf8 text ++ rest) = text ++ decodeUtf8 fuel rest := by
  induction text with
  | nil => simp [utf8]
  | cons c text ih =>
      have decoded : (utf8 (c :: text) ++ rest).toByteArray.utf8DecodeChar? 0 = some c := by
        simp only [utf8, List.flatMap_cons, List.append_assoc, List.toByteArray_append]
        exact ByteArray.utf8DecodeChar?_utf8EncodeChar_append
      have count : (c :: text).length + fuel = text.length + fuel + 1 := by
        simp only [List.length_cons]
        omega
      rw [count, decodeUtf8, decoded]
      simp only [utf8, List.flatMap_cons, List.append_assoc, List.drop_left, List.cons_append]
      exact congrArg (c :: ·) ih

theorem utf8_length (text : List Char) : text.length ≤ (utf8 text).length := by
  induction text with
  | nil => simp [utf8]
  | cons c text ih =>
      have positive : 0 < (String.utf8EncodeChar c).length :=
        List.length_pos_of_ne_nil String.utf8EncodeChar_ne_nil
      simp only [utf8, List.flatMap_cons, List.length_append, List.length_cons] at ih ⊢
      omega

def parse (bytes : List UInt8) : Option Value :=
  (parseValue (bytes.length + 1) (decodeUtf8 bytes.length bytes)).map Prod.fst

theorem parse_utf8_render (members : List (String × Value)) (rest : List UInt8) :
    parse (utf8 (render (.object members)) ++ rest) = some (.object members) := by
  have short := utf8_length (render (.object members))
  have split : (utf8 (render (.object members)) ++ rest).length = (render (.object members)).length +
      ((utf8 (render (.object members)) ++ rest).length - (render (.object members)).length) := by
    rw [List.length_append]
    omega
  rw [parse]
  nth_rewrite 2 [split]
  rw [decodeUtf8_utf8, (parse_render _).1 _ _ (by rw [List.length_append]; omega)
    (fun _ different => absurd different (by simp))]
  rfl

end Json
