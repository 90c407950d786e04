import Mathlib.Data.List.Basic

/-!
The text `json.Marshal` writes: strings are escaped for HTML as well as for
JSON, members appear in declaration order, and the text is stored as UTF-8.
-/

namespace Json

def hexDigit (n : Nat) : Char :=
  if n < 10 then Char.ofNat (48 + n) else Char.ofNat (87 + n)

def unicodeEscape (c : Char) : List Char :=
  ['\\', 'u', hexDigit (c.toNat / 4096 % 16), hexDigit (c.toNat / 256 % 16),
    hexDigit (c.toNat / 16 % 16), hexDigit (c.toNat % 16)]

def escapeChar (c : Char) : List Char :=
  if c = '"' then ['\\', '"']
  else if c = '\\' then ['\\', '\\']
  else if c = '\x08' then ['\\', 'b']
  else if c = '\x0c' then ['\\', 'f']
  else if c = '\n' then ['\\', 'n']
  else if c = '\r' then ['\\', 'r']
  else if c = '\t' then ['\\', 't']
  else if c.toNat < 32 ∨ c = '<' ∨ c = '>' ∨ c = '&' ∨ c = '\u2028' ∨ c = '\u2029' then
    unicodeEscape c
  else [c]

def quote (s : String) : List Char :=
  '"' :: (s.toList.flatMap escapeChar ++ ['"'])

def commaSeparated : List (List Char) → List Char
  | [] => []
  | [only] => only
  | first :: second :: rest => first ++ ',' :: commaSeparated (second :: rest)

def array (values : List (List Char)) : List Char :=
  '[' :: (commaSeparated values ++ [']'])

def object (members : List (String × List Char)) : List Char :=
  '{' :: (commaSeparated (members.map fun member => quote member.1 ++ ':' :: member.2) ++ ['}'])

/-- A member whose tag has `omitempty`. -/
def omitEmpty (name value : String) : List (String × List Char) :=
  if value = "" then [] else [(name, quote value)]

def orNull (value : Option (List Char)) : List Char :=
  value.getD ['n', 'u', 'l', 'l']

def utf8 (text : List Char) : List UInt8 :=
  text.flatMap String.utf8EncodeChar

theorem utf8_object (members : List (String × List Char)) :
    ∃ rest, utf8 (object members) = 123 :: rest := by
  refine ⟨utf8 (commaSeparated (members.map fun member => quote member.1 ++ ':' :: member.2) ++
    ['}']), ?_⟩
  have brace : String.utf8EncodeChar '{' = [123] := by decide
  simp [utf8, object, brace]

def octetOf (c : Char) : UInt8 := UInt8.ofNat c.toNat

theorem utf8_ascii {chars : List Char} (ascii : ∀ c ∈ chars, c.toNat < 128) :
    utf8 chars = chars.map octetOf := by
  induction chars with
  | nil => rfl
  | cons c chars ih =>
      have short : c.utf8Size = 1 := Char.utf8Size_eq_one_iff.mpr (by
        have below := ascii c List.mem_cons_self
        rw [UInt32.le_iff_toNat_le]
        change c.toNat ≤ 127
        omega)
      rw [utf8, List.flatMap_cons, String.utf8EncodeChar_eq_singleton short, List.map_cons]
      exact congrArg _ (ih fun other member => ascii other (List.mem_cons_of_mem _ member))

end Json
