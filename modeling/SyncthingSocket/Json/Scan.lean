import SyncthingSocket.Text

/-!
The scanner of `encoding/json`, one character at a time: its steps, the stack of
arrays and objects it is in, and what it has found directly in the outermost object,
which is all that decoding into a flat struct looks at.
-/

namespace Json

open SyncthingSocket

/-- A value, as far as a field of basic type can tell. Numbers and strings are kept as
they are written. -/
inductive Datum
  | null
  | bool
  | number (raw : Text)
  | string (raw : Text)
  | object
  | array
  deriving DecidableEq, Repr

inductive Frame
  | objectKey
  | objectValue
  | arrayValue
  deriving DecidableEq, Repr

inductive NumberStep
  | neg
  | zero
  | int
  | dot
  | frac
  | exp
  | expSign
  | expDigits
  deriving DecidableEq, Repr

inductive LiteralStep
  | t
  | tr
  | tru
  | f
  | fa
  | fal
  | fals
  | n
  | nu
  | nul
  deriving DecidableEq, Repr

inductive Step
  | beginValue
  | beginValueOrEmpty
  | beginString
  | beginStringOrEmpty
  | endValue
  | endTop
  | inString (raw : Text)
  | inStringEsc (raw : Text)
  | inStringEscU (left : Nat) (raw : Text)
  | number (place : NumberStep) (raw : Text)
  | literal (place : LiteralStep)
  deriving DecidableEq, Repr

structure Scan where
  step : Step := .beginValue
  stack : List Frame := []
  key : Text := []
  members : List (Text × Datum) := []
  top : Option Datum := none
  deriving DecidableEq, Repr

def isBlank (c : Char) : Bool := c ∈ [' ', '\t', '\r', '\n']

def isHex (c : Char) : Bool := c.isDigit || ('a' ≤ c && c ≤ 'f') || ('A' ≤ c && c ≤ 'F')

def maxNestingDepth : Nat := 10000

def NumberStep.next (place : NumberStep) (c : Char) : Option NumberStep :=
  match place with
  | neg => if c = '0' then some zero else if c.isDigit then some int else none
  | zero => if c = '.' then some dot else if c = 'e' ∨ c = 'E' then some exp else none
  | int => if c.isDigit then some int else if c = '.' then some dot else if c = 'e' ∨ c = 'E' then some exp else none
  | dot => if c.isDigit then some frac else none
  | frac => if c.isDigit then some frac else if c = 'e' ∨ c = 'E' then some exp else none
  | exp => if c = '+' ∨ c = '-' then some expSign else if c.isDigit then some expDigits else none
  | expSign => if c.isDigit then some expDigits else none
  | expDigits => if c.isDigit then some expDigits else none

def NumberStep.final (place : NumberStep) : Bool := place ∈ [zero, int, frac, expDigits]

def LiteralStep.expects : LiteralStep → Char
  | t => 'r'
  | tr => 'u'
  | tru => 'e'
  | f => 'a'
  | fa => 'l'
  | fal => 's'
  | fals => 'e'
  | n => 'u'
  | nu => 'l'
  | nul => 'l'

def LiteralStep.next : LiteralStep → Option LiteralStep
  | t => some tr
  | tr => some tru
  | f => some fa
  | fa => some fal
  | fal => some fals
  | n => some nu
  | nu => some nul
  | _ => none

def LiteralStep.datum (place : LiteralStep) : Datum := if place ∈ [n, nu, nul] then .null else .bool

namespace Scan

/-- A value begins or has been read: it is the document, a member of the outermost
object, or somewhere deeper. -/
def record (scan : Scan) (datum : Datum) : Scan :=
  match scan.stack with
  | [] => { scan with top := some datum }
  | [.objectValue] => { scan with members := scan.members ++ [(scan.key, datum)] }
  | _ => scan

def closeString (scan : Scan) (raw : Text) : Scan :=
  match scan.stack with
  | [.objectKey] => { scan with key := raw, step := .endValue }
  | .objectKey :: _ => { scan with step := .endValue }
  | _ => { scan.record (.string raw) with step := .endValue }

def push (scan : Scan) (frame : Frame) (step : Step) : Option Scan :=
  if scan.stack.length <
    maxNestingDepth then some { scan with stack := frame :: scan.stack, step := step }
  else none

def pop (scan : Scan) : Scan :=
  { scan with stack := scan.stack.tail, step := if scan.stack.tail = [] then .endTop else .endValue }

def endValue (scan : Scan) (c : Char) : Option Scan :=
  match scan.stack with
  | [] => if isBlank c then some { scan with step := .endTop } else none
  | frame :: below =>
      if isBlank c then some { scan with step := .endValue }
      else
        match frame with
        | .objectKey =>
            if c = ':' then some { scan with stack := .objectValue :: below, step := .beginValue }
            else none
        | .objectValue =>
            if c = ',' then some { scan with stack := .objectKey :: below, step := .beginString }
            else if c = '}' then some scan.pop else none
        | .arrayValue =>
            if c = ',' then some { scan with step := .beginValue }
            else if c = ']' then some scan.pop else none

inductive Ended (scan : Scan) (c : Char) : Scan → Prop
  | blank (blank : isBlank c = true) (step : Step)
      (waits : step = .endValue ∨ step = .endTop ∧ scan.stack = []) : Ended scan c { scan with step }
  | colon {below : List Frame} (stack : scan.stack = .objectKey :: below) (colon : c = ':') :
      Ended scan c { scan with stack := .objectValue :: below, step := .beginValue }
  | member {below : List Frame} (stack : scan.stack = .objectValue :: below) (comma : c = ',') :
      Ended scan c { scan with stack := .objectKey :: below, step := .beginString }
  | element (comma : c = ',') : Ended scan c { scan with step := .beginValue }
  | close (closes : c = '}' ∨ c = ']') : Ended scan c scan.pop

theorem endValue_cases {scan after : Scan} {c : Char} (ended : scan.endValue c = some after) :
    Ended scan c after := by
  rw [endValue] at ended
  split at ended
  · next stack =>
      split_ifs at ended with blank
      exact Option.some.inj ended ▸ .blank blank _ (.inr ⟨rfl, stack⟩)
  · next frame below stack =>
      by_cases blank : isBlank c = true
      · rw [if_pos blank] at ended
        exact Option.some.inj ended ▸ .blank blank _ (.inl rfl)
      rw [if_neg blank] at ended
      cases frame with
      | objectKey =>
          simp only at ended
          split_ifs at ended with colon
          exact Option.some.inj ended ▸ .colon stack colon
      | objectValue =>
          simp only at ended
          split_ifs at ended with comma brace
          · exact Option.some.inj ended ▸ .member stack comma
          · exact Option.some.inj ended ▸ .close (.inl brace)
      | arrayValue =>
          simp only at ended
          split_ifs at ended with comma bracket
          · exact Option.some.inj ended ▸ .element comma
          · exact Option.some.inj ended ▸ .close (.inr bracket)

def beginString (scan : Scan) (c : Char) : Option Scan :=
  if isBlank c then some scan else if c = '"' then some { scan with step := .inString [] } else none

def beginValue (scan : Scan) (c : Char) : Option Scan :=
  if isBlank c then some scan
  else if c = '{' then (scan.record .object).push .objectKey .beginStringOrEmpty
  else if c = '[' then (scan.record .array).push .arrayValue .beginValueOrEmpty
  else if c = '"' then some { scan with step := .inString [] }
  else if c = '-' then some { scan with step := .number .neg [.char c] }
  else if c = '0' then some { scan with step := .number .zero [.char c] }
  else if c.isDigit then some { scan with step := .number .int [.char c] }
  else if c = 't' then some { scan with step := .literal .t }
  else if c = 'f' then some { scan with step := .literal .f }
  else if c = 'n' then some { scan with step := .literal .n }
  else none

inductive Begun (scan : Scan) (c : Char) (after : Scan) : Prop
  | blank (same : scan = after)
  | object (pushed : (scan.record .object).push .objectKey .beginStringOrEmpty = some after)
  | array (pushed : (scan.record .array).push .arrayValue .beginValueOrEmpty = some after)
  | string (quote : c = '"') (same : { scan with step := .inString [] } = after)
  | minus (sign : c = '-') (same : { scan with step := .number .neg [.char c] } = after)
  | zero (zero : c = '0') (same : { scan with step := .number .zero [.char c] } = after)
  | digit (nonzero : c ≠ '0') (digit : c.isDigit = true)
      (same : { scan with step := .number .int [.char c] } = after)
  | literal (place : LiteralStep) (same : { scan with step := .literal place } = after)

theorem beginValue_cases {scan after : Scan} {c : Char} (begun : scan.beginValue c = some after) :
    Begun scan c after := by
  rw [beginValue] at begun
  by_cases blank : isBlank c = true
  · rw [if_pos blank] at begun
    exact .blank (Option.some.inj begun)
  rw [if_neg blank] at begun
  by_cases brace : c = '{'
  · rw [if_pos brace] at begun
    exact .object begun
  rw [if_neg brace] at begun
  by_cases bracket : c = '['
  · rw [if_pos bracket] at begun
    exact .array begun
  rw [if_neg bracket] at begun
  by_cases quote : c = '"'
  · rw [if_pos quote] at begun
    exact .string quote (Option.some.inj begun)
  rw [if_neg quote] at begun
  by_cases sign : c = '-'
  · rw [if_pos sign] at begun
    exact .minus sign (Option.some.inj begun)
  rw [if_neg sign] at begun
  by_cases zero : c = '0'
  · rw [if_pos zero] at begun
    exact .zero zero (Option.some.inj begun)
  rw [if_neg zero] at begun
  by_cases digit : c.isDigit = true
  · rw [if_pos digit] at begun
    exact .digit zero digit (Option.some.inj begun)
  rw [if_neg digit] at begun
  by_cases truth : c = 't'
  · rw [if_pos truth] at begun
    exact .literal .t (Option.some.inj begun)
  rw [if_neg truth] at begun
  by_cases falsity : c = 'f'
  · rw [if_pos falsity] at begun
    exact .literal .f (Option.some.inj begun)
  rw [if_neg falsity] at begun
  by_cases null : c = 'n'
  · rw [if_pos null] at begun
    exact .literal .n (Option.some.inj begun)
  rw [if_neg null] at begun
  contradiction

def feedChar (scan : Scan) (c : Char) : Option Scan :=
  match scan.step with
  | .beginValue => scan.beginValue c
  | .beginValueOrEmpty => if c = ']' then some scan.pop else scan.beginValue c
  | .beginString => scan.beginString c
  | .beginStringOrEmpty => if c = '}' then some scan.pop else scan.beginString c
  | .endValue => scan.endValue c
  | .endTop => if isBlank c then some scan else none
  | .inString raw =>
      if c = '"' then some (scan.closeString raw)
      else if c = '\\' then some { scan with step := .inStringEsc (raw ++ [.char c]) }
      else if c.toNat < 0x20 then none
      else some { scan with step := .inString (raw ++ [.char c]) }
  | .inStringEsc raw =>
      if c ∈ ['b', 'f', 'n', 'r', 't', '\\', '/', '"'] then some { scan with
        step := .inString (raw ++ [.char c]) }
      else if c = 'u' then some { scan with step := .inStringEscU 3 (raw ++ [.char c]) }
      else none
  | .inStringEscU left raw =>
      if isHex c then
        match left with
        | 0 => some { scan with step := .inString (raw ++ [.char c]) }
        | left + 1 => some { scan with step := .inStringEscU left (raw ++ [.char c]) }
      else none
  | .number place raw =>
      match place.next c with
      | some place => some { scan with step := .number place (raw ++ [.char c]) }
      | none => if place.final then (scan.record (.number raw)).endValue c else none
  | .literal place =>
      if c = place.expects then
        match place.next with
        | some place => some { scan with step := .literal place }
        | none => some { scan.record place.datum with step := .endValue }
      else none

def feed (scan : Scan) : Rune → Option Scan
  | .char c => scan.feedChar c
  | .invalid byte =>
      match scan.step with
      | .inString raw => some { scan with step := .inString (raw ++ [.invalid byte]) }
      | _ => none

end Scan

/-- What `checkValid` and the decoder make of a whole document. -/
def scan (document : Text) : Option Scan := do
  let scanned ← document.foldlM Scan.feed {}
  let ended ← scanned.feedChar ' '
  if ended.step = .endTop then some ended else none

/-! The characters of a string literal, as `unquote` gives them. -/

def hexValue (c : Char) : Nat :=
  if c.isDigit then c.toNat - '0'.toNat else if 'a' ≤ c then c.toNat - 'a'.toNat + 10
  else c.toNat - 'A'.toNat + 10

def escapeValue (c : Char) : Char :=
  match c with
  | 'b' => '\x08'
  | 'f' => '\x0c'
  | 'n' => '\n'
  | 'r' => '\r'
  | 't' => '\t'
  | c => c

inductive UnquoteMode
  | plain
  | escape
  | hex (left value : Nat)
  deriving DecidableEq, Repr

/-- `high` is a first half of a surrogate pair whose second half may follow. -/
structure Unquote where
  out : List Char := []
  high : Option Nat := none
  mode : UnquoteMode := .plain
  deriving DecidableEq, Repr

namespace Unquote

def flush (state : Unquote) : List Char :=
  if state.high = none then state.out else state.out ++ ['\uFFFD']

def emit (state : Unquote) (c : Char) : Unquote := { out := state.flush ++ [c] }

def unit (state : Unquote) (value : Nat) : Unquote :=
  match state.high with
  | some high =>
      if 0xdc00 ≤ value ∧ value < 0xe000 then
        { out := state.out ++ [Char.ofNat ((high - 0xd800) * 0x400 + (value - 0xdc00) + 0x10000)] }
      else if 0xd800 ≤ value ∧ value < 0xdc00 then { out := state.flush, high := some value }
      else state.emit (Char.ofNat value)
  | none =>
      if 0xd800 ≤ value ∧ value < 0xdc00 then { out := state.out, high := some value }
      else if 0xdc00 ≤ value ∧ value < 0xe000 then state.emit '\uFFFD'
      else state.emit (Char.ofNat value)

def feed (state : Unquote) : Rune → Unquote
  | .invalid _ => state.emit '\uFFFD'
  | .char c =>
      match state.mode with
      | .plain => if c = '\\' then { state with mode := .escape } else state.emit c
      | .escape => if c = 'u' then { state with mode := .hex 3 0 } else state.emit (escapeValue c)
      | .hex left value =>
          match left with
          | 0 => state.unit (value * 16 + hexValue c)
          | left + 1 => { state with mode := .hex left (value * 16 + hexValue c) }

end Unquote

def unquote (raw : Text) : List Char := (raw.foldl Unquote.feed {}).flush

/-- `foldName`, as far as names in ASCII can tell. -/
def foldChar (c : Char) : Char :=
  if 'a' ≤ c ∧ c ≤ 'z' then Char.ofNat (c.toNat - 32)
  else if c = '\u017f' then 'S'
  else if c = '\u212a' then 'K'
  else c

def foldName (name : List Char) : List Char := name.map foldChar

/-! Text that stands for itself between quotes. -/

def isPlain : Rune → Bool
  | .char c => c ≠ '"' && c ≠ '\\' && 0x20 ≤ c.toNat
  | .invalid _ => false

theorem isPlain_char {rune : Rune} (plain : isPlain rune = true) :
    ∃ c, rune = .char c ∧ c ≠ '"' ∧ c ≠ '\\' ∧ ¬ c.toNat < 0x20 := by
  cases rune with
  | invalid byte => simp [isPlain] at plain
  | char c =>
      simp only [isPlain, Bool.and_eq_true, decide_eq_true_eq] at plain
      exact ⟨c, rfl, plain.1.1, plain.1.2, by omega⟩

theorem Scan.feed_plain {scan : Scan} {raw w : Text} (inside : scan.step = .inString raw)
    (plain : ∀ rune ∈ w, isPlain rune = true) :
    w.foldlM Scan.feed scan = some { scan with step := .inString (raw ++ w) } := by
  induction w generalizing scan raw with
  | nil => simp [← inside]
  | cons rune w ih =>
      obtain ⟨c, rfl, unquoted, unescaped, visible⟩ := isPlain_char (plain rune List.mem_cons_self)
      have fed : scan.feed (.char c) = some { scan with step := .inString (raw ++ [.char c]) } := by
        simp [feed, feedChar, inside, unquoted, unescaped, visible]
      have rest : w.foldlM Scan.feed { scan with step := .inString (raw ++ [.char c]) } =
          some { scan with step := .inString (raw ++ [.char c] ++ w) } :=
        ih rfl fun other member => plain other (List.mem_cons_of_mem _ member)
      rw [List.foldlM_cons, fed]
      simpa using rest

namespace Unquote

theorem feed_plain {state : Unquote} {w : Text} (mode : state.mode = .plain)
    (high : state.high = none) (plain : ∀ rune ∈ w, isPlain rune = true) :
    ((w.foldl feed state).flush).map Rune.char = state.out.map Rune.char ++ w := by
  induction w generalizing state with
  | nil => simp [flush, high]
  | cons rune w ih =>
      obtain ⟨c, rfl, unquoted, unescaped, visible⟩ := isPlain_char (plain rune List.mem_cons_self)
      have fed : state.feed (.char c) = { out := state.out ++ [c] } := by
        simp [feed, emit, flush, mode, high, unescaped]
      rw [List.foldl_cons, fed,
        ih rfl rfl fun other member => plain other (List.mem_cons_of_mem _ member)]
      simp

@[simp] theorem flush_emit (state : Unquote) (c : Char) :
    (state.emit c).flush = state.flush ++ [c] := by
  simp [emit, flush]

theorem flush_unit_le (state : Unquote) (value : Nat) :
    (state.unit value).flush.length ≤ state.flush.length + 1 := by
  rw [unit]
  cases high : state.high with
  | none =>
      simp only
      split
      · simp [flush, high]
      · split <;> simp
  | some first =>
      simp only
      split
      · simp [flush, high]
      · split
        · simp [flush, high]
        · simp

theorem flush_feed_le (state : Unquote) (rune : Rune) :
    (state.feed rune).flush.length ≤ state.flush.length + 1 := by
  cases rune with
  | invalid byte => simp [feed]
  | char c =>
      simp only [feed]
      cases state.mode with
      | plain =>
          simp only
          split
          · simp [flush]
          · simp
      | escape =>
          simp only
          split
          · simp [flush]
          · simp
      | hex left value =>
          cases left with
          | zero => exact state.flush_unit_le _
          | succ left => simp [flush]

theorem flush_foldl_le (state : Unquote) (w : Text) :
    (w.foldl feed state).flush.length ≤ state.flush.length + w.length := by
  induction w generalizing state with
  | nil => simp
  | cons rune w ih =>
      have step := state.flush_feed_le rune
      have rest := ih (state.feed rune)
      simp only [List.foldl_cons, List.length_cons]
      omega

theorem flush_foldl_lt {state : Unquote} {w : Text} (mode : state.mode = .plain)
    (escaped : .char '\\' ∈ w) :
    (w.foldl feed state).flush.length < state.flush.length + w.length := by
  induction w generalizing state with
  | nil => simp at escaped
  | cons rune w ih =>
      simp only [List.foldl_cons, List.length_cons]
      by_cases first : rune = .char '\\'
      · have started : (state.feed rune).flush = state.flush := by
          simp [first, feed, mode, flush]
        have rest := flush_foldl_le (state.feed rune) w
        rw [started] at rest
        omega
      · have plain : (state.feed rune).mode = .plain := by
          cases rune with
          | invalid byte => rfl
          | char c =>
              have other : c ≠ '\\' := fun same => first (by rw [same])
              simp [feed, mode, other, emit]
        have step := state.flush_feed_le rune
        have later : .char '\\' ∈ w := (List.mem_cons.mp escaped).resolve_left (Ne.symm first)
        have rest := ih plain later
        omega

end Unquote

theorem unquote_plain {w : Text} (plain : ∀ rune ∈ w, isPlain rune = true) :
    (unquote w).map Rune.char = w :=
  Unquote.feed_plain rfl rfl plain

theorem unquote_length_le (w : Text) : (unquote w).length ≤ w.length := by
  have bound : (unquote w).length ≤ ([] : List Char).length + w.length := Unquote.flush_foldl_le {} w
  simpa using bound

theorem unquote_length_lt {w : Text} (escaped : .char '\\' ∈ w) :
    (unquote w).length < w.length := by
  have bound : (unquote w).length < ([] : List Char).length + w.length :=
    Unquote.flush_foldl_lt rfl escaped
  simpa using bound

example : unquote (text "a\\u00e9\\ud83d\\ude00\\ud83d\\n") = ['a', 'é', '😀', '\uFFFD', '\n'] := by decide

end Json
