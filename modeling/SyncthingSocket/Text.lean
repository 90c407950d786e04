import SyncthingSocket.Platform

/-!
Go strings, as a range loop goes through them: code points, and bytes that are no part of a valid
encoding as themselves; with the functions of `strings`, `strconv` and `bufio` that the program
uses.
-/

namespace SyncthingSocket

inductive Rune
  | char (c : Char)
  | invalid (byte : UInt8)
  deriving DecidableEq, Repr

abbrev Text := List Rune

def text (s : String) : Text := s.toList.map Rune.char

def Rune.size : Rune → Nat
  | char c => c.utf8Size
  | invalid _ => 1

def Rune.isSpace : Rune → Bool
  | char c => SyncthingSocket.isSpace c
  | invalid _ => false

def isDigitRune : Rune → Bool
  | .char c => c.isDigit
  | .invalid _ => false

namespace Text

def trimFunc (p : Rune → Bool) (s : Text) : Text :=
  ((s.dropWhile p).reverse.dropWhile p).reverse

def trimSpace (s : Text) : Text := s.trimFunc Rune.isSpace

/-- `strings.Cut` at one character. -/
def cut (separator : Char) (s : Text) : Option (Text × Text) :=
  if .char separator ∈ s then
    some (s.takeWhile (· ≠ .char separator), (s.dropWhile (· ≠ .char separator)).tail)
  else none

def size (s : Text) : Nat := s.foldl (fun total rune => total + rune.size) 0

/-- The loop of `strconv.ParseUint(s, 10, 64)`, with the digits read so far. -/
def parseDigits (n : Nat) : Text → Except String Nat
  | [] => .ok n
  | .char c :: rest =>
      if c.isDigit then
        let n := n * 10 + (c.toNat - '0'.toNat)
        if n < 0x10000000000000000 then parseDigits n rest else .error "value out of range"
      else .error "invalid syntax"
  | .invalid _ :: _ => .error "invalid syntax"

/-- `quote` is the formatting of `%q`. -/
def parseUint (quote : Text → String) (s : Text) : Except Err UInt64 :=
  match if s = [] then .error "invalid syntax" else parseDigits 0 s with
  | .ok n => .ok (UInt64.ofNat n)
  | .error why => .error (.text ("strconv.ParseUint: parsing " ++ quote s ++ ": " ++ why))

end Text

theorem digit_toNat {c : Char} (digit : c.isDigit = true) : 48 ≤ c.toNat ∧ c.toNat ≤ 57 := by
  simp only [Char.isDigit, Bool.and_eq_true, decide_eq_true_eq] at digit
  exact digit

theorem Text.parseDigits_ge {n m : Nat} {digits : Text}
    (parsed : Text.parseDigits n digits = .ok m) :
    n ≤ m ∧ (digits ≠ [] → 10 * n ≤ m) := by
  induction digits generalizing n with
  | nil =>
      cases parsed
      simp
  | cons rune digits ih =>
      cases rune with
      | invalid byte => simp [Text.parseDigits] at parsed
      | char c =>
          simp only [Text.parseDigits] at parsed
          split at parsed
          · split at parsed
            · have later := (ih parsed).1
              exact ⟨by omega, fun _ => by omega⟩
            · simp at parsed
          · simp at parsed

structure FileRead where
  content : Text
  err : Option Err
  deriving DecidableEq, Repr

def maxScanTokenSize : Nat := 64 * 1024

def dropCR (line : Text) : Text :=
  if line.getLast? = some (.char '\r') then line.dropLast else line

/-- The lines a `bufio.Scanner` yields, and its error. -/
def FileRead.scanLines (file : FileRead) : List Text × Option Err :=
  let pieces := file.content.splitOn (.char '\n')
  let lines := if pieces.getLast? = some [] then pieces.dropLast else pieces
  let short := lines.takeWhile fun line => Text.size line < maxScanTokenSize
  (short.map dropCR,
    if short.length < lines.length then some (.text "bufio.Scanner: token too long") else file.err)

end SyncthingSocket
