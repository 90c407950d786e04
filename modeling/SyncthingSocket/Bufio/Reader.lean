import Mathlib.Data.List.Basic

/-!
A `bufio.Reader` over a stream that arrives in pieces: what its clients have consumed, what
stands in its buffer and what is still to come make up the stream.
-/

namespace Bufio

/-- What is still to come: `cut` tells how much one `Read` finds when so much is left, and
`stop` what `Read` returns after the last of it. -/
structure Wire (ε : Type) where
  left : List UInt8
  cut : Nat → Nat
  stop : ε

def Wire.read {ε : Type} (wire : Wire ε) (size : Nat) : Except ε (List UInt8) × Wire ε :=
  if wire.left = [] then (.error wire.stop, wire)
  else
    let n := min (wire.cut wire.left.length + 1) size
    (.ok (wire.left.take n), { wire with left := wire.left.drop n })

/-- `failed` is the error that the next read of an empty buffer returns; there is one only
once the stream has stopped. -/
structure Reader (ε : Type) where
  wire : Wire ε
  buffer : List UInt8
  failed : Option ε
  stopped : ∀ err, failed = some err → wire.left = [] ∧ err = wire.stop

variable {ε : Type}

def Reader.holding (wire : Wire ε) (buffer : List UInt8) : Reader ε :=
  ⟨wire, buffer, none, fun _ none => by cases none⟩

/-- `NewReader`. -/
def Reader.new (wire : Wire ε) : Reader ε := .holding wire []

def Reader.unread (reader : Reader ε) : List UInt8 := reader.buffer ++ reader.wire.left

/-- How a read ends: with bytes off the front, or with `stop` when there are none. -/
inductive Got (stop : ε) (size : Nat) (before : List UInt8) : Except ε (List UInt8) → List UInt8 → Prop
  | bytes {chunk after : List UInt8} : chunk ≠ [] → chunk.length ≤ size → before = chunk ++ after →
      Got stop size before (.ok chunk) after
  | stopped : before = [] → Got stop size before (.error stop) []

theorem Wire.read_got {wire after : Wire ε} {size : Nat} {result : Except ε (List UInt8)}
    (read : wire.read size = (result, after)) (asked : 0 < size) :
    Got wire.stop size wire.left result after.left ∧ after.stop = wire.stop := by
  rw [Wire.read] at read
  split at read
  · next ended =>
      cases read
      refine ⟨?_, rfl⟩
      rw [ended]
      exact .stopped rfl
  · next more =>
      cases read
      refine ⟨.bytes ?_ ?_ (List.take_append_drop _ _).symm, rfl⟩
      · intro none
        rcases List.take_eq_nil_iff.mp none with zero | ended
        · omega
        · exact more ended
      · rw [List.length_take]
        omega

theorem Got.ended {stop err : ε} {size : Nat} {before after : List UInt8}
    (got : Got stop size before (.error err) after) :
    before = [] ∧ after = [] ∧ err = stop := by
  cases got with
  | stopped ended => exact ⟨ended, rfl, rfl⟩

namespace Reader

/-- `fill`: one read into the room behind the buffered bytes. -/
def fill (reader : Reader ε) (room : Nat) (asked : 0 < room) : Reader ε :=
  match read : reader.wire.read room with
  | (.ok chunk, wire) => .holding wire (reader.buffer ++ chunk)
  | (.error err, wire) => ⟨wire, reader.buffer, some err, by
      obtain ⟨got, stop⟩ := Wire.read_got read asked
      obtain ⟨_, ended, same⟩ := got.ended
      rintro _ ⟨⟩
      exact ⟨ended, same.trans stop.symm⟩⟩

def advance (reader : Reader ε) (n : Nat) : Reader ε :=
  { reader with buffer := reader.buffer.drop n }

def unreadByte (reader : Reader ε) (byte : UInt8) : Reader ε :=
  { reader with buffer := byte :: reader.buffer }

/-- A client of the reader, from one state to another, and the bytes it has kept. Whatever
`Peek`, `ReadByte`, `ReadSlice` and `ReadLine` do to the reader is made of these steps. -/
inductive Uses (start : Reader ε) : List UInt8 → Reader ε → Prop
  | start : Uses start [] start
  | filled {taken : List UInt8} {reader : Reader ε} (room : Nat) (asked : 0 < room) : Uses start
    taken reader →
      reader.failed = none → Uses start taken (reader.fill room asked)
  | advanced {taken : List UInt8} {reader : Reader ε} (n : Nat) : Uses start taken reader →
      Uses start (taken ++ reader.buffer.take n) (reader.advance n)
  | putBack {taken : List UInt8} {byte : UInt8} {reader : Reader ε} : Uses start
    (taken ++ [byte]) reader →
      Uses start taken (reader.unreadByte byte)

theorem fill_unread (reader : Reader ε) {room : Nat} (asked : 0 < room) :
    (reader.fill room asked).unread = reader.unread ∧
      (reader.fill room asked).wire.stop = reader.wire.stop := by
  rw [fill]
  split
  · next chunk wire read =>
      obtain ⟨got, stop⟩ := Wire.read_got read asked
      cases got with
      | bytes _ _ split => exact ⟨by simp only [unread, holding, split, List.append_assoc], stop⟩
  · next err wire read =>
      obtain ⟨got, stop⟩ := Wire.read_got read asked
      obtain ⟨before, after, _⟩ := got.ended
      have same : wire.left = reader.wire.left := after.trans before.symm
      exact ⟨by simp only [unread, same], stop⟩

theorem Uses.conserved {start reader : Reader ε} {taken : List UInt8}
    (uses : Uses start taken reader) :
    start.unread = taken ++ reader.unread ∧ reader.wire.stop = start.wire.stop := by
  induction uses with
  | start => exact ⟨rfl, rfl⟩
  | filled room asked _ _ ih =>
      obtain ⟨same, stop⟩ := fill_unread _ asked
      exact ⟨ih.1.trans (by rw [same]), stop.trans ih.2⟩
  | @advanced taken reader n _ ih =>
      refine ⟨ih.1.trans ?_, ih.2⟩
      rw [unread, unread, advance, List.append_assoc, ← List.append_assoc (reader.buffer.take n),
        List.take_append_drop]
  | putBack _ ih =>
      refine ⟨ih.1.trans ?_, ih.2⟩
      rw [unread, unread, unreadByte, List.append_assoc]
      rfl

/-- `Read` with a buffer of its own of `size` bytes: a large read goes past it. -/
def read (size : Nat) (reader : Reader ε) (n : Nat) : Except ε (List UInt8) × Reader ε :=
  if reader.buffer = [] then
    match reader.failed with
    | some err => (.error err, .holding reader.wire [])
    | none =>
        if size ≤ n then ((reader.wire.read n).1, .holding (reader.wire.read n).2 [])
        else
          match reader.wire.read size with
          | (.ok chunk, wire) => (.ok (chunk.take n), .holding wire (chunk.drop n))
          | (.error err, wire) => (.error err, .holding wire [])
  else (.ok (reader.buffer.take n), reader.advance n)

theorem take_got {stop : ε} {n : Nat} {bytes rest : List UInt8} (asked : 0 < n)
    (some : bytes ≠ []) :
    Got stop n (bytes ++ rest) (.ok (bytes.take n)) (bytes.drop n ++ rest) := by
  refine .bytes ?_ ?_ ?_
  · intro none
    rcases List.take_eq_nil_iff.mp none with zero | ended
    · omega
    · exact some ended
  · rw [List.length_take]
    omega
  · rw [← List.append_assoc, List.take_append_drop]

theorem read_got {reader after : Reader ε} {size n : Nat} {result : Except ε (List UInt8)}
    (returned : reader.read size n = (result, after)) (room : 0 < size) (asked : 0 < n) :
    Got reader.wire.stop n reader.unread result after.unread ∧ after.wire.stop = reader.wire.stop := by
  rw [read] at returned
  split at returned
  · next empty =>
      have waiting : reader.unread = reader.wire.left := by rw [unread, empty, List.nil_append]
      rw [waiting]
      split at returned
      · next err failed =>
          obtain ⟨ended, rfl⟩ := reader.stopped err failed
          cases returned
          have nothing : (holding reader.wire []).unread = [] := ended
          rw [nothing]
          exact ⟨.stopped ended, rfl⟩
      · split at returned
        · cases returned
          exact Wire.read_got rfl asked
        · split at returned
          · next chunk wire read =>
              obtain ⟨got, stop⟩ := Wire.read_got read room
              cases returned
              cases got with
              | bytes some _ split =>
                  rw [split]
                  exact ⟨take_got asked some, stop⟩
          · next err wire read =>
              obtain ⟨got, stop⟩ := Wire.read_got read room
              obtain ⟨before, nothing, rfl⟩ := got.ended
              cases returned
              have rest : (holding wire []).unread = [] := nothing
              rw [rest]
              exact ⟨.stopped before, stop⟩
  · next some =>
      cases returned
      exact ⟨take_got asked some, rfl⟩

end Reader

end Bufio
