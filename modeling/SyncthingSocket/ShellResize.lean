import SyncthingSocket.Bufio.Scanner
import SyncthingSocket.Effect.Transition
import SyncthingSocket.Json.Decode
import SyncthingSocket.Json.Torn
import SyncthingSocket.Luks.AskFile
import SyncthingSocket.Luks.Token

/-!
How the shell of `--shell` learns the size of the terminal: the client reports it on the control
stream, one line of JSON each, and a goroutine of `runShellServer` scans the stream and resizes
the PTY.
-/

namespace SyncthingSocket

open Effect Bufio Json

structure Winsize where
  rows : UInt16 := 0
  cols : UInt16 := 0
  deriving DecidableEq, Repr

/-! What is written. -/

/-- `term.GetSize` gives the columns first. -/
def resizeLine (size : Winsize) : List Char :=
  "\x7b\"cols\": ".toList ++ Nat.toDigits 10 size.cols.toNat ++ ", \"rows\": ".toList ++
    Nat.toDigits 10 size.rows.toNat ++ "\x7d".toList

def resizeMessage (size : Winsize) : List UInt8 := utf8 (resizeLine size) ++ [newline]

/-! What is read. -/

/-- Storing a number in a field of type `uint16`. -/
def storeUint16 (field : UInt16) : Datum → Option UInt16
  | .null => some field
  | .number raw =>
      match Text.parseDigits 0 raw with
      | .ok n => if n < 0x10000 then some (UInt16.ofNat n) else none
      | .error _ => none
  | _ => none

def Winsize.store (size : Winsize) (member : Text × Datum) : Option Winsize :=
  if nameMatches member.1 "rows" then (storeUint16 size.rows member.2).map fun value =>
    { size with rows := value }
  else if nameMatches member.1 "cols" then
    (storeUint16 size.cols member.2).map fun value => { size with cols := value }
  else some size

/-- `json.Unmarshal` into a `winsize`; which of its errors it is, is left open. -/
def unmarshalWinsize (raw : Text) : Option Winsize :=
  match scan raw with
  | none => none
  | some scanned =>
      match scanned.top with
      | some .object => scanned.members.foldlM Winsize.store {}
      | some .null => some {}
      | _ => none

def runesFrom : Nat → List UInt8 → Text
  | 0, _ => []
  | _ + 1, [] => []
  | fuel + 1, byte :: rest =>
      match (byte :: rest).toByteArray.utf8DecodeChar? 0 with
      | some c => .char c :: runesFrom fuel ((byte :: rest).drop (String.utf8EncodeChar c).length)
      | none => .invalid byte :: runesFrom fuel rest

def readResize (line : List UInt8) : Option Winsize := unmarshalWinsize (runesFrom line.length line)

/-! What is written is read back. -/

theorem toDigits_chars (n : Nat) : ∀ c ∈ Nat.toDigits 10 n, c.isDigit = true :=
  fun _ member => Nat.isDigit_of_mem_toDigits (by omega) (by omega) member

theorem storeUint16_toDigits (field value : UInt16) :
    storeUint16 field (.number ((Nat.toDigits 10 value.toNat).map .char)) = some value := by
  have small : value.toNat < 0x10000 := value.toNat_lt
  obtain ⟨⟨-, digits, below⟩, decimal⟩ := @numeral_toDigits value.toNat (by omega)
  have parsed := (parseDigits_ok_iff (by decide) _).mpr ⟨digits, below, decimal⟩
  simp only [storeUint16, parsed, small, ↓reduceIte]
  rw [UInt16.ofNat_toNat]

def awaiting (key : String) (members : List (Text × Datum)) : Scan :=
  { step := .beginValue, stack := [.objectValue], key := text key, members, top := some .object }

variable {c : Char} {label : ResizeLabel} {after before state : ResizeState}

theorem feed_number {key : String} {members : List (Text × Datum)} (n : Nat) {rest : Text}
    (ends : c = ',' ∨ c = '}') :
    ((Nat.toDigits 10 n).map Rune.char ++ .char c :: rest).foldlM Scan.feed (awaiting key members) =
      ((awaiting key (members ++ [(text key, .number ((Nat.toDigits 10 n).map .char))])).endValue c).bind
        fun scan => rest.foldlM Scan.feed scan := by
  obtain ⟨place, whole, -, fed⟩ := @Scan.feed_toDigits (awaiting key members) rfl n
  rw [List.foldlM_append, fed, Option.bind_eq_bind, Option.bind_some, List.foldlM_cons]
  rcases whole with rfl | rfl <;> rcases ends with rfl | rfl <;> rfl

def behind (members : List (Text × Datum)) : Scan :=
  { step := .endTop, stack := [], key := text "rows", members, top := some .object }

theorem feed_members (cols rows : Nat) :
    (text "\x7b\"cols\": " ++
      ((Nat.toDigits 10 cols).map Rune.char ++ Rune.char ',' :: (text " \"rows\": " ++
        ((Nat.toDigits 10 rows).map Rune.char ++ [Rune.char '}'])))).foldlM Scan.feed {} =
      some (behind [(text "cols", .number ((Nat.toDigits 10 cols).map .char)),
        (text "rows", .number ((Nat.toDigits 10 rows).map .char))]) := by
  have opened : ∀ rest, (text "\x7b\"cols\": " ++ rest).foldlM Scan.feed {} =
      rest.foldlM Scan.feed (awaiting "cols" []) := fun rest => rfl
  have next : ∀ members rest, (((awaiting "cols" members).endValue ',').bind fun scan =>
      (text " \"rows\": " ++ rest).foldlM Scan.feed scan) =
        rest.foldlM Scan.feed (awaiting "rows" members) :=
    fun members rest => rfl
  have closed : ∀ members, (((awaiting "rows" members).endValue '}').bind fun scan =>
      ([] : Text).foldlM Scan.feed scan) = some (behind members) := fun members => rfl
  rw [opened, feed_number _ (Or.inl rfl), next, feed_number _ (Or.inr rfl), closed]
  rfl

theorem map_pieces (cols rows : List Char) :
    ("\x7b\"cols\": ".toList ++ cols ++ ", \"rows\": ".toList ++ rows ++ "\x7d".toList).map Rune.char =
      text "\x7b\"cols\": " ++ (cols.map Rune.char ++ Rune.char ',' :: (text " \"rows\": " ++
        (rows.map Rune.char ++ [Rune.char '}']))) := by
  simp only [List.map_append, List.append_assoc]
  rfl

theorem scan_of_fed {document : Text} {members : List (Text × Datum)}
    (fed : document.foldlM Scan.feed {} = some (behind members)) :
    scan document = some (behind members) := by
  rw [scan, fed]
  rfl

theorem scan_resizeLine (size : Winsize) :
    scan ((resizeLine size).map .char) = some (behind
      [(text "cols", .number ((Nat.toDigits 10 size.cols.toNat).map .char)),
        (text "rows", .number ((Nat.toDigits 10 size.rows.toNat).map .char))]) := by
  have fed := feed_members size.cols.toNat size.rows.toNat
  rw [← map_pieces] at fed
  exact scan_of_fed fed

theorem unmarshal_resizeLine (size : Winsize) :
    unmarshalWinsize ((resizeLine size).map .char) = some size := by
  have cols : nameMatches (text "cols") "rows" = false ∧
      nameMatches (text "cols") "cols" = true := by decide
  have rows : nameMatches (text "rows") "rows" = true := by decide
  rw [unmarshalWinsize, scan_resizeLine]
  simp only [behind, List.foldlM_cons, List.foldlM_nil, Winsize.store, cols, rows,
    Bool.false_eq_true, ↓reduceIte, storeUint16_toDigits, Option.map_some, Option.bind_eq_bind,
    Option.bind_some]
  rfl

def resizeBody (cols rows : List Char) : List Char :=
  "\"cols\": ".toList ++ cols ++ ", \"rows\": ".toList ++ rows

theorem resizeLine_eq (size : Winsize) : resizeLine size =
    '{' :: (resizeBody (Nat.toDigits 10 size.cols.toNat)
      (Nat.toDigits 10 size.rows.toNat) ++ ['}']) := rfl

def isInner (c : Char) : Bool :=
  decide (32 ≤ c.toNat) && decide (c.toNat < 127) && c != '}' && c != ']'

theorem isInner_digit (digit : c.isDigit = true) : isInner c = true := by
  have bounds := digit_toNat digit
  have brace : c ≠ '}' := by
    rintro rfl
    exact absurd digit (by decide)
  have bracket : c ≠ ']' := by
    rintro rfl
    exact absurd digit (by decide)
  simp only [isInner, Bool.and_eq_true, decide_eq_true_eq, bne_iff_ne]
  exact ⟨⟨⟨by omega, by omega⟩, brace⟩, bracket⟩

theorem resizeBody_chars {cols rows : List Char} (first : ∀ c ∈ cols, c.isDigit = true)
    (second : ∀ c ∈ rows, c.isDigit = true) : ∀ c ∈ resizeBody cols rows, isInner c = true := by
  have labels : ("\"cols\": ".toList.all isInner) = true ∧
      (", \"rows\": ".toList.all isInner) = true := by decide
  intro c member
  rcases List.mem_append.mp member with front | digit
  · rcases List.mem_append.mp front with front | label
    · rcases List.mem_append.mp front with label | digit
      · exact List.all_eq_true.mp labels.1 c label
      · exact isInner_digit (first c digit)
    · exact List.all_eq_true.mp labels.2 c label
  · exact isInner_digit (second c digit)

theorem unmarshal_torn {size : Winsize} {front back : List Char}
    (split : resizeLine size = front ++ back) (torn : back ≠ []) :
    unmarshalWinsize (front.map .char) = none := by
  obtain ⟨most, last, rfl⟩ := (List.eq_nil_or_concat' back).resolve_left torn
  rw [resizeLine_eq, ← List.cons_append, ← List.append_assoc] at split
  obtain ⟨inside, -⟩ := List.append_inj' split rfl
  cases front with
  | nil => rfl
  | cons c front =>
      rw [List.cons_append] at inside
      obtain ⟨rfl, body⟩ := List.cons.inj inside
      have chars := resizeBody_chars (toDigits_chars size.cols.toNat) (toDigits_chars size.rows.toNat)
      rw [body] at chars
      have unclosed : ∀ c ∈ front, c ≠ '}' ∧ c ≠ ']' := by
        intro c member
        have inner := chars c (List.mem_append_left _ member)
        simp only [isInner, Bool.and_eq_true, bne_iff_ne] at inner
        exact ⟨inner.1.2, inner.2⟩
      have refused : scan (.char '{' :: front.map .char) = none := by
        refine scan_unclosed ?_ ?_ <;> intro member <;> obtain ⟨c, inner, same⟩ := List.mem_map.mp member
        · exact (unclosed c inner).1 (Rune.char.inj same)
        · exact (unclosed c inner).2 (Rune.char.inj same)
      rw [List.map_cons, unmarshalWinsize, refused]

/-! The bytes of a line. -/

theorem isInner_bounds (inner : isInner c = true) : 32 ≤ c.toNat ∧ c.toNat < 127 := by
  simp only [isInner, Bool.and_eq_true, decide_eq_true_eq] at inner
  exact inner.1.1

theorem resizeLine_bounds (size : Winsize) :
    ∀ c ∈ resizeLine size, 32 ≤ c.toNat ∧ c.toNat < 127 := by
  have body := resizeBody_chars (toDigits_chars size.cols.toNat) (toDigits_chars size.rows.toNat)
  intro c member
  rw [resizeLine_eq] at member
  rcases List.mem_cons.mp member with rfl | member
  · decide
  · rcases List.mem_append.mp member with inside | last
    · exact isInner_bounds (body c inside)
    · obtain rfl := List.mem_singleton.mp last
      decide

theorem octetOf_toNat (ascii : c.toNat < 128) : (octetOf c).toNat = c.toNat := by
  rw [octetOf, UInt8.toNat_ofNat']
  omega

theorem runesFrom_utf8 (chars : List Char) (fuel : Nat) :
    runesFrom (chars.length + fuel) (utf8 chars) = chars.map .char := by
  induction chars with
  | nil =>
      cases fuel <;> rfl
  | cons c chars ih =>
      have decoded : (utf8 (c :: chars)).toByteArray.utf8DecodeChar? 0 = some c := by
        simp only [utf8, List.flatMap_cons, List.toByteArray_append]
        exact ByteArray.utf8DecodeChar?_utf8EncodeChar_append
      have rest : (utf8 (c :: chars)).drop (String.utf8EncodeChar c).length = utf8 chars := by
        simp [utf8]
      have count : (c :: chars).length + fuel = chars.length + fuel + 1 := by
        simp only [List.length_cons]
        omega
      cases bytes : utf8 (c :: chars) with
      | nil =>
          rw [utf8, List.flatMap_cons] at bytes
          exact absurd (List.append_eq_nil_iff.mp bytes).1 String.utf8EncodeChar_ne_nil
      | cons byte others =>
          rw [bytes] at decoded rest
          rw [count, runesFrom, decoded]
          simp only [rest, ih, List.map_cons]

theorem readResize_utf8 (chars : List Char) :
    readResize (utf8 chars) = unmarshalWinsize (chars.map .char) := by
  have enough := utf8_length chars
  have fuel : (utf8 chars).length = chars.length + ((utf8 chars).length - chars.length) := by omega
  rw [readResize, fuel, runesFrom_utf8]

/-- What a scanner finds at the front of a report: all of it, or a piece that says nothing. -/
theorem readResize_front {size : Winsize} {data back : List UInt8}
    (split : utf8 (resizeLine size) = data ++ back) :
    newline ∉ data ∧ readResize (Bufio.dropCR data) = if back = [] then some size else none := by
  have bounds := resizeLine_bounds size
  have ascii : ∀ c ∈ resizeLine size, c.toNat < 128 :=
    fun c member => Nat.lt_succ_of_lt (bounds c member).2
  rw [utf8_ascii ascii] at split
  obtain ⟨front, tail, line, rfl, rfl⟩ := List.map_eq_append_iff.mp split
  have visible : ∀ byte ∈ front.map octetOf, 32 ≤ byte.toNat := by
    intro byte member
    obtain ⟨c, inside, rfl⟩ := List.mem_map.mp member
    have listed : c ∈ resizeLine size := line ▸ List.mem_append_left _ inside
    rw [octetOf_toNat (ascii c listed)]
    exact (bounds c listed).1
  have unbroken : newline ∉ front.map octetOf := fun member => absurd (visible _ member) (by decide)
  have kept : Bufio.dropCR (front.map octetOf) = front.map octetOf := by
    rw [Bufio.dropCR, if_neg]
    intro last
    exact absurd (visible _ (List.mem_of_getLast? last)) (by decide)
  have bytes : front.map octetOf = utf8 front :=
    (utf8_ascii fun c member => ascii c (line ▸ List.mem_append_left _ member)).symm
  refine ⟨unbroken, ?_⟩
  rw [kept, bytes, readResize_utf8]
  by_cases whole : tail = []
  · subst whole
    rw [List.append_nil] at line
    rw [← line, unmarshal_resizeLine]
    rfl
  · rw [unmarshal_torn line whole, if_neg (by simpa using whole)]

/-! The two ends of the control stream. -/

/-- The terminal of the client with what `handleTerminalResize` is at, the stream, and the
goroutine of the server. Before the signals are asked for, `handling` is the first report. -/
structure ResizeState where
  terminal : Winsize
  listening : Bool
  signal : Bool
  handling : Bool
  reported : List Winsize
  toWrite : List UInt8
  closed : Bool
  wire : List UInt8
  scanner : Scanner maxScanTokenSize
  resized : List Winsize
  stopped : Bool

def ResizeState.start (terminal : Winsize) : ResizeState where
  terminal := terminal
  listening := false
  signal := false
  handling := true
  reported := []
  toWrite := []
  closed := false
  wire := []
  scanner := Scanner.new maxScanTokenSize
  resized := []
  stopped := false

inductive ResizeLabel
  | resize (size : Winsize)
  | notify
  | wake
  | report
  | unsized
  | write (chunk : List UInt8)
  | close
  | read (chunk : List UInt8)
  | eof
  | scan (line : List UInt8)
  | stop
  deriving DecidableEq, Repr

/-- A signal that nobody has asked for is lost, and `sigChan` holds one. A report is
written before the next one is begun. -/
inductive ResizeStep : ResizeState → ResizeLabel → ResizeState → Prop
  | resize {state : ResizeState} (size : Winsize) :
      ResizeStep state (.resize size) { state with
        terminal := size, signal := state.signal || state.listening }
  | notify {state : ResizeState} (unasked : state.listening = false) (idle : state.handling = false)
      (written : state.toWrite = []) : ResizeStep state .notify { state with listening := true }
  | wake {state : ResizeState} (signalled : state.signal = true) (idle : state.handling = false)
      (written : state.toWrite = []) : ResizeStep state .wake { state with
        signal := false, handling := true }
  | report {state : ResizeState} (handling : state.handling = true) (isOpen : state.closed = false) :
      ResizeStep state .report
        { state with
          handling := false
          reported := state.reported ++ [state.terminal]
          toWrite := resizeMessage state.terminal }
  | unsized {state : ResizeState} (handling : state.handling = true) :
      ResizeStep state .unsized { state with handling := false }
  | write {state : ResizeState} {chunk rest : List UInt8} (isOpen : state.closed = false)
      (pending : state.toWrite = chunk ++ rest) (nonempty : chunk ≠ []) :
      ResizeStep state (.write chunk) { state with toWrite := rest, wire := state.wire ++ chunk }
  | close {state : ResizeState} (isOpen : state.closed = false) : ResizeStep state .close
    { state with closed := true }
  | read {state : ResizeState} {later : Scanner maxScanTokenSize} {chunk rest : List UInt8}
      (running : state.stopped = false) (wants : state.scanner.scan = .read later)
      (available : state.wire = chunk ++ rest) (nonempty : chunk ≠ [])
        (fits : chunk.length ≤ later.free) :
      ResizeStep state (.read chunk) { state with wire := rest, scanner := later.receive chunk fits }
  | eof {state : ResizeState} {later : Scanner maxScanTokenSize} (running : state.stopped = false)
      (wants : state.scanner.scan = .read later) (empty : state.wire = [])
        (isClosed : state.closed = true) :
      ResizeStep state .eof { state with scanner := later.ended }
  | scan {state : ResizeState} {line : List UInt8} {later : Scanner maxScanTokenSize}
      (running : state.stopped = false) (yields : state.scanner.scan = .token line later) :
      ResizeStep state (.scan line)
        { state with scanner := later, resized := state.resized ++ (readResize line).toList }
  | stop {state : ResizeState} (running : state.stopped = false)
      (stops : state.scanner.scan = .finished ∨ state.scanner.scan = .tooLong) :
      ResizeStep state .stop { state with stopped := true }

/-! What holds throughout. -/

/-- The reports that the server has acted on, and what is on its way of the others. At the
end of the stream the last of them may be torn. -/
structure ResizeSound (state : ResizeState) : Prop where
  idle : state.handling = true → state.toWrite = []
  ended : state.scanner.atEOF = true → state.closed = true ∧ state.wire = []
  split : ∃ rest, state.reported = state.resized ++ rest ∧
    (rest.flatMap resizeMessage = state.scanner.data ++ state.wire ++ state.toWrite ∨
      state.scanner.atEOF = true ∧ state.scanner.data = [])

theorem resize_start (terminal : Winsize) : ResizeSound (.start terminal) where
  idle _ := rfl
  ended atEOF := by cases atEOF
  split := ⟨[], rfl, Or.inl rfl⟩

theorem unbroken_front {data beyond : List UInt8} {size : Winsize} {others : List Winsize}
    (unbroken : newline ∉ data) (stream : (size :: others).flatMap resizeMessage = data ++ beyond) :
    ∃ back, utf8 (resizeLine size) = data ++ back := by
  rw [List.flatMap_cons, resizeMessage, List.append_assoc, List.singleton_append] at stream
  rcases List.append_eq_append_iff.mp stream with ⟨more, front, after⟩ | ⟨back, front, -⟩
  · cases more with
    | nil => exact ⟨[], by rw [front, List.append_nil, List.append_nil]⟩
    | cons byte more =>
        rw [front, (List.cons.inj after).1] at unbroken
        exact absurd (List.mem_append_right _ List.mem_cons_self) unbroken
  · exact ⟨back, front⟩

theorem scan_next {limit : Nat} {scanner later : Scanner limit} {line beyond : List UInt8}
    {rest : List Winsize} (yields : scanner.scan = .token line later)
    (stream : rest.flatMap resizeMessage = scanner.data ++ beyond) :
    ∃ size others, rest = size :: others ∧
      (readResize line = some size ∧ others.flatMap resizeMessage = later.data ++ beyond ∧
          later.atEOF = scanner.atEOF ∨
        later.atEOF = true ∧ later.data = [] ∧
          (readResize line = some size ∨ readResize line = none)) := by
  have round := scanner.scan_round
  rw [yields] at round
  cases round with
  | @token _ piece _ split nonempty same ends =>
      have something : scanner.data ≠ [] := by
        rw [split]
        exact fun empty => nonempty (List.append_eq_nil_iff.mp empty).1
      cases rest with
      | nil => exact absurd (List.append_eq_nil_iff.mp stream.symm).1 something
      | cons size others =>
          refine ⟨size, others, rfl, ?_⟩
          obtain ⟨unbroken, whole⟩ := readResize_front (List.append_nil (utf8 (resizeLine size))).symm
          by_cases broken : newline ∈ scanner.data
          · obtain ⟨front, back, data, first⟩ := List.eq_append_cons_of_mem broken
            rw [List.flatMap_cons, resizeMessage, List.append_assoc, List.singleton_append, data,
              List.append_assoc, List.cons_append] at stream
            obtain ⟨rfl, after⟩ := first_line_unique unbroken first stream
            obtain ⟨next, token, rest, atEOF⟩ := Scanner.scan_line data unbroken
            rw [yields] at token
            injection token with line next
            subst line next
            refine Or.inl ⟨whole, ?_, atEOF⟩
            rw [after, rest]
          · have atEOF : scanner.atEOF = true := by
              refine ends.resolve_left fun last => broken ?_
              rw [split]
              exact List.mem_append_left _ (List.mem_of_getLast? last)
            obtain ⟨next, token, rest, ended⟩ := Scanner.scan_tail broken something atEOF
            rw [yields] at token
            injection token with line next
            subst line next
            obtain ⟨back, torn⟩ := unbroken_front broken stream
            refine Or.inr ⟨ended, rest, ?_⟩
            rw [(readResize_front torn).2]
            split
            · exact Or.inl rfl
            · exact Or.inr rfl

theorem resize_scan {line : List UInt8} {later : Scanner maxScanTokenSize}
    (sound : ResizeSound before) (yields : before.scanner.scan = .token line later) :
    ResizeSound { before with
      scanner := later, resized := before.resized ++ (readResize line).toList } := by
  have round := before.scanner.scan_round
  rw [yields] at round
  obtain ⟨rest, reported, stream | ⟨atEOF, empty⟩⟩ := sound.split
  · rw [List.append_assoc] at stream
    obtain ⟨size, others, rfl, ⟨read, after, same⟩ | ⟨ended, empty, read⟩⟩ := scan_next yields stream
    · refine ⟨sound.idle, fun atEOF => sound.ended (same ▸ atEOF), others, ?_, Or.inl ?_⟩
      · rw [read, reported]
        simp
      · rw [after, ← List.append_assoc]
    · cases round with
      | token split nonempty same ends =>
          have atEOF : before.scanner.atEOF = true := same ▸ ended
          rcases read with read | read
          · refine ⟨sound.idle, fun _ => sound.ended atEOF, others, ?_, Or.inr ⟨ended, empty⟩⟩
            rw [read, reported]
            simp
          · refine ⟨sound.idle, fun _ => sound.ended atEOF, size :: others, ?_, Or.inr ⟨ended, empty⟩⟩
            rw [read, reported]
            simp
  · cases round with
    | token split nonempty =>
        rw [empty] at split
        exact absurd (List.append_eq_nil_iff.mp split.symm).1 nonempty

theorem resize_step (sound : ResizeSound before)
    (step : ResizeStep before label after) : ResizeSound after := by
  cases step with
  | resize size => exact ⟨sound.idle, sound.ended, sound.split⟩
  | notify _ _ written => exact ⟨sound.idle, sound.ended, sound.split⟩
  | wake _ _ written => exact ⟨fun _ => written, sound.ended, sound.split⟩
  | report handling isOpen =>
      obtain ⟨rest, reported, stream | ⟨atEOF, -⟩⟩ := sound.split
      · refine ⟨fun handling => (by cases handling), sound.ended, rest ++ [before.terminal],
          ?_, Or.inl ?_⟩
        · rw [reported, List.append_assoc]
        · rw [List.flatMap_append, stream, sound.idle handling]
          simp
      · rw [(sound.ended atEOF).1] at isOpen
        cases isOpen
  | unsized handling => exact ⟨fun _ => sound.idle handling, sound.ended, sound.split⟩
  | @write chunk rest isOpen pending nonempty =>
      have notEnded : before.scanner.atEOF ≠ true := by
        intro atEOF
        rw [(sound.ended atEOF).1] at isOpen
        cases isOpen
      refine ⟨?_, fun atEOF => absurd atEOF notEnded, ?_⟩
      · intro handling
        have empty := sound.idle handling
        rw [pending] at empty
        exact (List.append_eq_nil_iff.mp empty).2
      · obtain ⟨others, reported, stream | ⟨atEOF, -⟩⟩ := sound.split
        · refine ⟨others, reported, Or.inl ?_⟩
          rw [stream, pending]
          simp
        · exact absurd atEOF notEnded
  | close isOpen => exact ⟨sound.idle, fun atEOF => ⟨rfl, (sound.ended atEOF).2⟩, sound.split⟩
  | @read later chunk rest running wants available nonempty fits =>
      have round := before.scanner.scan_round
      rw [wants] at round
      cases round with
      | read notEOF data same space =>
          have notEnded : (later.receive chunk fits).atEOF ≠ true := by
            rw [show (later.receive chunk fits).atEOF = before.scanner.atEOF from same, notEOF]
            simp
          refine ⟨sound.idle, fun atEOF => absurd atEOF notEnded, ?_⟩
          obtain ⟨others, reported, stream | ⟨atEOF, -⟩⟩ := sound.split
          · refine ⟨others, reported, Or.inl ?_⟩
            rw [stream, available, ← data]
            simp [Scanner.receive]
          · rw [notEOF] at atEOF
            cases atEOF
  | @eof later running wants empty isClosed =>
      have round := before.scanner.scan_round
      rw [wants] at round
      cases round with
      | read notEOF data same space =>
          refine ⟨sound.idle, fun _ => ⟨isClosed, empty⟩, ?_⟩
          obtain ⟨others, reported, stream | ⟨atEOF, -⟩⟩ := sound.split
          · refine ⟨others, reported, Or.inl ?_⟩
            rw [stream, ← data]
            rfl
          · rw [notEOF] at atEOF
            cases atEOF
  | scan running yields => exact resize_scan sound yields
  | stop running stops => exact ⟨sound.idle, sound.ended, sound.split⟩

theorem resize_sound {terminal : Winsize} {allowed : ResizeState → ResizeLabel → Prop}
    (reached : Reach ResizeStep allowed (.start terminal) state) : ResizeSound state :=
  reached.invariant (resize_start terminal) fun _ _ _ sound _ step => resize_step sound step

/-- In every run, torn at whatever byte, the PTY has been given the sizes that were
reported, in that order, as far as it got. -/
theorem resizes_applied_in_order {terminal : Winsize} {state : ResizeState}
    (reached : Reach ResizeStep anyStep (.start terminal) state) :
    state.resized <+: state.reported := by
  obtain ⟨rest, reported, -⟩ := (resize_sound reached).split
  exact ⟨rest, reported.symm⟩

theorem torn_report_unapplied :
    ∃ state, Reach ResizeStep anyStep (.start ⟨24, 80⟩) state ∧ state.closed = true ∧
    state.reported = [⟨24, 80⟩] ∧ state.resized <+: state.reported := by
  obtain ⟨byte, rest, message⟩ : ∃ byte rest, resizeMessage ⟨24, 80⟩ = byte :: rest := by
    refine List.exists_cons_of_ne_nil ?_
    simp [resizeMessage]
  have reported : Reach ResizeStep anyStep (.start ⟨24, 80⟩) _ :=
    Reach.here.take .report trivial (.report rfl rfl)
  have begun := reported.take (.write [byte]) trivial (.write rfl message (by simp))
  have torn := begun.take .close trivial (.close rfl)
  exact ⟨_, torn, rfl, rfl, resizes_applied_in_order torn⟩

/-! A terminal whose signals are heard. -/

/-- `term.GetSize` works, the stream stays open, and the terminal is not resized between
the first report and `signal.Notify`. -/
def Attended (state : ResizeState) : ResizeLabel → Prop
  | .resize _ => state.listening = true ∨ state.handling = true
  | .unsized => False
  | .close => False
  | _ => True

structure ResizeFollows (state : ResizeState) : Prop where
  isOpen : state.closed = false
  running : state.stopped = false
  known : state.handling = true ∨ state.signal = true ∨ state.reported.getLast? = some state.terminal

theorem labelled_length {label second cols rows : List Char} (one : label.length = 8)
    (two : second.length = 10) :
    (label ++ cols ++ second ++ rows).length = 18 + cols.length + rows.length := by
  simp only [List.length_append]
  omega

theorem resizeBody_length (cols rows : List Char) :
    (resizeBody cols rows).length = 18 + cols.length + rows.length :=
  labelled_length (by decide) (by decide)

theorem utf8_resizeLine_length (size : Winsize) :
    (utf8 (resizeLine size)).length < maxScanTokenSize := by
  have short : ∀ value : UInt16, (Nat.toDigits 10 value.toNat).length ≤ 5 := by
    intro value
    have small : value.toNat < 0x10000 := value.toNat_lt
    exact (Nat.length_toDigits_le_iff (by decide) (by decide)).mpr (by omega)
  have cols := short size.cols
  have rows := short size.rows
  have bounds := resizeLine_bounds size
  rw [utf8_ascii fun c member => Nat.lt_succ_of_lt (bounds c member).2, List.length_map,
    resizeLine_eq, List.length_cons, List.length_append, resizeBody_length, List.length_singleton,
    maxScanTokenSize]
  omega

theorem ResizeSound.scans (sound : ResizeSound state) : state.scanner.scan ≠ .tooLong := by
  intro tooLong
  have round := state.scanner.scan_round
  rw [tooLong] at round
  cases round with
  | tooLong notEOF full unbroken =>
      obtain ⟨rest, -, stream | ⟨atEOF, -⟩⟩ := sound.split
      · cases rest with
        | nil =>
            rw [List.append_assoc] at stream
            rw [(List.append_eq_nil_iff.mp stream.symm).1] at full
            cases full
        | cons size others =>
            rw [List.append_assoc] at stream
            obtain ⟨back, front⟩ := unbroken_front unbroken stream
            have short := utf8_resizeLine_length size
            rw [front, List.length_append] at short
            omega
      · rw [notEOF] at atEOF
        cases atEOF

theorem follows_start (terminal : Winsize) :
    ResizeFollows (.start terminal) := ⟨rfl, rfl, Or.inl rfl⟩

theorem follows_step (sound : ResizeSound before) (follows : ResizeFollows before)
    (attended : Attended before label) (step : ResizeStep before label after) :
    ResizeFollows after := by
  obtain ⟨isOpen, running, known⟩ := follows
  cases step with
  | resize size =>
      refine ⟨isOpen, running, ?_⟩
      rcases attended with listening | handling
      · exact Or.inr (Or.inl (by simp [listening]))
      · exact Or.inl handling
  | notify => exact ⟨isOpen, running, known⟩
  | wake => exact ⟨isOpen, running, Or.inl rfl⟩
  | report => exact ⟨isOpen, running, Or.inr (Or.inr (by simp))⟩
  | unsized => exact absurd attended id
  | write => exact ⟨isOpen, running, known⟩
  | close => exact absurd attended id
  | read => exact ⟨isOpen, running, known⟩
  | eof _ _ _ isClosed =>
      rw [isOpen] at isClosed
      cases isClosed
  | scan => exact ⟨isOpen, running, known⟩
  | stop _ stops =>
      rcases stops with finished | tooLong
      · have round := before.scanner.scan_round
        rw [finished] at round
        cases round with
        | finished atEOF =>
            rw [(sound.ended atEOF).1] at isOpen
            cases isOpen
      · exact absurd tooLong sound.scans

theorem follows_of_reach {terminal : Winsize}
    (reached : Reach ResizeStep Attended (.start terminal) state) : ResizeFollows state := by
  induction reached with
  | here => exact follows_start terminal
  | next reached attended step ih => exact follows_step (resize_sound reached) ih attended step

def Unaided (state : ResizeState) (label : ResizeLabel) : Prop :=
  Attended state label ∧ ∀ size, label ≠ .resize size

def Settled (state : ResizeState) : Prop :=
  ∀ label later, Unaided state label → ¬ ResizeStep state label later

theorem Settled.client (settled : Settled state) (follows : ResizeFollows state) :
    state.toWrite = [] ∧ state.reported.getLast? = some state.terminal := by
  have idle : state.handling = false := by
    by_contra handling
    exact settled .report _ ⟨trivial, by simp⟩ (.report (by simpa using handling) follows.isOpen)
  have written : state.toWrite = [] := by
    cases pending : state.toWrite with
    | nil => rfl
    | cons byte rest =>
        exact absurd (.write follows.isOpen pending (by simp))
          (settled (.write [byte]) _ ⟨trivial, by simp⟩)
  refine ⟨written, ?_⟩
  rcases follows.known with handling | signalled | last
  · rw [idle] at handling
    cases handling
  · exact absurd (.wake signalled idle written) (settled .wake _ ⟨trivial, by simp⟩)
  · exact last

theorem Settled.server (settled : Settled state) (sound : ResizeSound state)
    (follows : ResizeFollows state) (written : state.toWrite = []) :
    state.resized = state.reported := by
  have running := follows.running
  have round := state.scanner.scan_round
  cases found : state.scanner.scan with
  | token line later =>
      exact absurd (.scan running found) (settled (.scan line) _ ⟨trivial, by simp⟩)
  | finished =>
      exact absurd (.stop running (Or.inl found)) (settled .stop _ ⟨trivial, by simp⟩)
  | tooLong => exact absurd found sound.scans
  | read later =>
      rw [found] at round
      cases round with
      | read notEOF data same space =>
          have empty : state.wire = [] := by
            cases content : state.wire with
            | nil => rfl
            | cons byte rest =>
                have fits : [byte].length ≤ later.free := space
                exact absurd (.read running found content (by simp) fits)
                  (settled (.read [byte]) _ ⟨trivial, by simp⟩)
          have unbroken : newline ∉ state.scanner.data := by
            intro broken
            obtain ⟨front, back, data, first⟩ := List.eq_append_cons_of_mem broken
            obtain ⟨next, token, -⟩ := Scanner.scan_line data first
            rw [found] at token
            cases token
          obtain ⟨rest, reported, stream | ⟨atEOF, -⟩⟩ := sound.split
          · rw [empty, written, List.append_nil, List.append_nil] at stream
            cases rest with
            | nil => rw [reported, List.append_nil]
            | cons size others =>
                rw [← stream, List.flatMap_cons, resizeMessage] at unbroken
                simp at unbroken
          · rw [notEOF] at atEOF
            cases atEOF

def ResizeState.todo (state : ResizeState) : Nat :=
  (if state.signal then 4 * maxScanTokenSize else 0) +
    (if state.handling then 3 * maxScanTokenSize + 3 else 0) +
    (if state.listening then 0 else 1) + 3 * state.toWrite.length + (if state.closed then 0 else 1) +
    2 * state.wire.length + state.scanner.data.length + (if state.scanner.atEOF then 0 else 1) +
    (if state.stopped then 0 else 1)

theorem resizeMessage_length (size : Winsize) : (resizeMessage size).length ≤ maxScanTokenSize := by
  have short := utf8_resizeLine_length size
  rw [resizeMessage, List.length_append, List.length_singleton]
  omega

theorem resize_todo (sound : ResizeSound before) (unaided : Unaided before label)
    (step : ResizeStep before label after) : after.todo < before.todo := by
  cases step with
  | resize size => exact absurd rfl (unaided.2 size)
  | notify unasked =>
      simp only [ResizeState.todo, unasked, ↓reduceIte, Bool.false_eq_true]
      omega
  | wake signalled idle =>
      simp only [ResizeState.todo, signalled, idle, ↓reduceIte, Bool.false_eq_true, maxScanTokenSize]
      omega
  | report handling =>
      have short := resizeMessage_length before.terminal
      simp only [ResizeState.todo, handling, sound.idle handling, ↓reduceIte, Bool.false_eq_true,
        List.length_nil]
      omega
  | unsized => exact absurd unaided.1 id
  | @write chunk rest isOpen pending nonempty =>
      have positive := List.length_pos_iff.mpr nonempty
      simp only [ResizeState.todo, pending, List.length_append]
      omega
  | close => exact absurd unaided.1 id
  | @read later chunk rest running wants available nonempty fits =>
      have positive := List.length_pos_iff.mpr nonempty
      have round := before.scanner.scan_round
      rw [wants] at round
      cases round with
      | read notEOF data same space =>
          simp only [ResizeState.todo, available, Scanner.receive, data, same, List.length_append]
          omega
  | @eof later running wants empty isClosed =>
      have round := before.scanner.scan_round
      rw [wants] at round
      cases round with
      | read notEOF data same space =>
          simp only [ResizeState.todo, Scanner.ended, data, notEOF, ↓reduceIte, Bool.false_eq_true]
          omega
  | @scan line later running yields =>
      have round := before.scanner.scan_round
      rw [yields] at round
      cases round with
      | @token _ piece _ split nonempty same ends =>
          have positive := List.length_pos_iff.mpr nonempty
          simp only [ResizeState.todo, split, same, List.length_append]
          omega
  | stop running stops =>
      simp only [ResizeState.todo, running, ↓reduceIte, Bool.false_eq_true]
      omega

/-- Without the user everything comes to rest, and at rest the PTY has the size of the
terminal. -/
theorem shell_follows_terminal {terminal : Winsize} {state : ResizeState}
    (reached : Reach ResizeStep Attended (.start terminal) state) :
    Terminates ResizeStep Unaided state ∧
      (Settled state → state.resized.getLast? = some state.terminal) := by
  have sound := resize_sound reached
  refine ⟨?_, fun settled => ?_⟩
  · exact terminates_of_measure ResizeState.todo (fun _ _ _ sound _ step => resize_step sound step)
      (fun _ _ _ sound unaided step => resize_todo sound unaided step) sound
  · have follows := follows_of_reach reached
    obtain ⟨written, last⟩ := settled.client follows
    rw [settled.server sound follows written, last]

theorem sample_shell_settles :
    ∃ state, Reach ResizeStep Attended (.start ⟨24, 80⟩) state ∧ Settled state ∧
    state.resized.getLast? = some state.terminal := by
  obtain ⟨state, run, final⟩ :=
    (shell_follows_terminal (.here : Reach ResizeStep Attended (.start ⟨24, 80⟩) _)).1.stuck
  have reached : Reach ResizeStep Attended (.start ⟨24, 80⟩) state :=
    run.mono fun _ _ unaided => unaided.1
  exact ⟨state, reached, final, (shell_follows_terminal reached).2 final⟩

end SyncthingSocket
