import Mathlib.Data.List.Basic

/-!
A `bufio.Scanner` that splits at newlines. `Scanner.scan` is one round of the loop in
`Scan`: it yields a line, stops, or makes room in the buffer and asks for more input.
-/

namespace Bufio

def newline : UInt8 := 10

def carriageReturn : UInt8 := 13

def dropCR (data : List UInt8) : List UInt8 :=
  if data.getLast? = some carriageReturn then data.dropLast else data

def scanLines (data : List UInt8) (atEOF : Bool) : Nat × Option (List UInt8) :=
  if atEOF = true ∧ data = [] then (0, none)
  else match data.idxOf? newline with
    | some i => (i + 1, some (dropCR (data.take i)))
    | none => if atEOF then (data.length, some (dropCR data)) else (0, none)

/-- `size` is the length of the buffer, `data` what stands in it from `start` on. -/
structure Scanner (limit : Nat) where
  size : Nat
  start : Nat
  data : List UInt8
  atEOF : Bool
  room : start + data.length ≤ size
  bounded : size ≤ limit

namespace Scanner

variable {limit : Nat}

def new (limit : Nat) : Scanner limit := ⟨0, 0, [], false, Nat.le_refl 0, Nat.zero_le limit⟩

def free (s : Scanner limit) : Nat := s.size - (s.start + s.data.length)

def advance (s : Scanner limit) (n : Nat) (inside : n ≤ s.data.length) : Scanner limit where
  size := s.size
  start := s.start + n
  data := s.data.drop n
  atEOF := s.atEOF
  room := by
    have before := s.room
    rw [List.length_drop]
    omega
  bounded := s.bounded

/-- Data goes to the front of the buffer if there is lots of empty space before it, or if
the space is needed. -/
def shifted (s : Scanner limit) : Scanner limit :=
  if 0 < s.start ∧ (s.start + s.data.length = s.size ∨ s.size / 2 < s.start) then
    ⟨s.size, 0, s.data, s.atEOF, by have before := s.room; omega, s.bounded⟩
  else s

def startBufSize : Nat := 4096

def newSize (size : Nat) : Nat := if size * 2 = 0 then startBufSize else size * 2

def grown (s : Scanner limit) : Option (Scanner limit) :=
  if full : s.start + s.data.length = s.size then
    if atLimit : limit ≤ s.size then none
    else some ⟨min (newSize s.size) limit, 0, s.data, s.atEOF,
      by simp only [newSize, startBufSize]; split <;> omega, Nat.min_le_right _ _⟩
  else some s

inductive Next (limit : Nat)
  | token (line : List UInt8) (s : Scanner limit)
  | finished
  | tooLong
  | read (s : Scanner limit)

def makeRoom (s : Scanner limit) : Next limit :=
  match s.shifted.grown with
  | none => .tooLong
  | some s => .read s

variable {atEOF : Bool} {data line rest stream : List UInt8} {limit : Nat}

theorem advance_inside : (scanLines data atEOF).1 ≤ data.length := by
  rw [scanLines]
  split
  · exact Nat.zero_le _
  · split
    · next i found => exact (List.idxOf?_eq_some_iff.mp found).1
    · split
      · exact Nat.le_refl _
      · exact Nat.zero_le _

def scan (s : Scanner limit) : Next limit :=
  if s.data ≠ [] ∨ s.atEOF = true then
    match (scanLines s.data s.atEOF).2 with
    | some line => .token line (s.advance (scanLines s.data s.atEOF).1 advance_inside)
    | none => if s.atEOF then .finished else s.makeRoom
  else s.makeRoom

def receive (s : Scanner limit) (chunk : List UInt8) (fits : chunk.length ≤ s.free) :
    Scanner limit where
  size := s.size
  start := s.start
  data := s.data ++ chunk
  atEOF := s.atEOF
  room := by
    have before := s.room
    rw [free] at fits
    rw [List.length_append]
    omega
  bounded := s.bounded

def ended (s : Scanner limit) : Scanner limit := { s with atEOF := true }

end Scanner

/-! What a round of `Scan` can do. -/

theorem scanLines_token (found : (scanLines data atEOF).2 = some line) :
    0 < (scanLines data atEOF).1 ∧
      ((data.take (scanLines data atEOF).1).getLast? = some newline ∨ atEOF = true) := by
  rw [scanLines] at found ⊢
  split at found
  · cases found
  next something =>
  rw [if_neg something]
  cases position : data.idxOf? newline with
  | some i =>
      obtain ⟨inside, here, -⟩ := List.idxOf?_eq_some_iff.mp position
      refine ⟨Nat.succ_pos i, Or.inl ?_⟩
      simp only
      rw [List.take_succ_eq_append_getElem inside, List.getLast?_append]
      simpa using here
  | none =>
      cases atEOF with
      | false => simp [position] at found
      | true =>
          have nonempty : data ≠ [] := by simpa using something
          simpa using List.length_pos_iff.mpr nonempty

theorem scanLines_none (missing : (scanLines data atEOF).2 = none) :
    newline ∉ data ∧ (atEOF = true → data = []) := by
  rw [scanLines] at missing
  split at missing
  · next nothing => simp [nothing.2]
  · cases position : data.idxOf? newline with
    | some i => simp [position] at missing
    | none =>
        cases atEOF with
        | false => exact ⟨List.idxOf?_eq_none_iff.mp position, by simp⟩
        | true => simp [position] at missing

/-- A stream has one first line. -/
theorem first_line_unique {other more : List UInt8} (unbroken : newline ∉ line)
    (whole : newline ∉ other) (same : line ++ newline :: rest = other ++ newline :: more) :
    line = other ∧ rest = more := by
  induction line generalizing other with
  | nil =>
      cases other with
      | nil => exact ⟨rfl, (List.cons.inj same).2⟩
      | cons byte other => exact absurd (List.mem_cons.mpr (Or.inl (List.cons.inj same).1)) whole
  | cons byte line ih =>
      cases other with
      | nil => exact absurd (List.mem_cons.mpr (Or.inl (List.cons.inj same).1.symm)) unbroken
      | cons first other =>
          obtain ⟨rfl, tail⟩ := List.cons.inj same
          rw [List.mem_cons, not_or] at unbroken whole
          obtain ⟨rfl, rfl⟩ := ih unbroken.2 whole.2 tail
          exact ⟨rfl, rfl⟩

theorem scanLines_line (unbroken : newline ∉ line) (rest : List UInt8) (atEOF : Bool) :
    scanLines (line ++ newline :: rest) atEOF = (line.length + 1, some (dropCR line)) := by
  have position : (line ++ newline :: rest).idxOf? newline = some line.length := by
    rw [List.idxOf?_eq_some_iff]
    refine ⟨by simp, by simp, ?_⟩
    intro i before
    rw [List.getElem_append_left before]
    exact fun here => unbroken (here ▸ List.getElem_mem before)
  rw [scanLines, if_neg (by simp), position]
  simp

theorem scanLines_tail (unbroken : newline ∉ data) (nonempty : data ≠ []) :
    scanLines data true = (data.length, some (dropCR data)) := by
  rw [scanLines, if_neg (by simp [nonempty]), List.idxOf?_eq_none_iff.mpr unbroken]
  rfl

namespace Scanner

variable {limit : Nat}

@[simp] theorem shifted_data (s : Scanner limit) : s.shifted.data = s.data := by
  rw [shifted]
  split <;> rfl

@[simp] theorem shifted_atEOF (s : Scanner limit) : s.shifted.atEOF = s.atEOF := by
  rw [shifted]
  split <;> rfl

theorem shifted_full (s : Scanner limit)
    (full : s.shifted.start + s.shifted.data.length = s.shifted.size) :
    s.shifted.start = 0 := by
  rw [shifted] at full ⊢
  split at full
  · next moved => rw [if_pos moved]
  · next still =>
      rw [if_neg still]
      omega

theorem newSize_gt (size : Nat) : size < newSize size := by
  rw [newSize, startBufSize]
  split <;> omega

/-- Whatever a round of `Scan` does, seen from the data in the buffer. -/
inductive Round (s : Scanner limit) : Next limit → Prop
  | token {line piece : List UInt8} {later : Scanner limit} (split : s.data = piece ++ later.data)
      (nonempty : piece ≠ []) (same : later.atEOF = s.atEOF)
      (ends : piece.getLast? = some newline ∨ s.atEOF = true) : Round s (.token line later)
  | finished (atEOF : s.atEOF = true) (empty : s.data = []) : Round s .finished
  | tooLong (notEOF : s.atEOF = false) (full : s.data.length = limit) (unbroken : newline ∉ s.data) :
      Round s .tooLong
  | read {later : Scanner limit} (notEOF : s.atEOF = false) (data : later.data = s.data)
      (same : later.atEOF = s.atEOF) (space : 0 < later.free) : Round s (.read later)

theorem makeRoom_round (s : Scanner limit) (notEOF : s.atEOF = false)
    (unbroken : newline ∉ s.data) :
    Round s s.makeRoom := by
  rw [makeRoom, grown]
  split
  next refused =>
      split at refused
      · next full =>
          split at refused
          · next atLimit =>
              have front := s.shifted_full full
              have bounded := s.shifted.bounded
              have data := s.shifted_data
              refine .tooLong notEOF ?_ unbroken
              rw [← data]
              omega
          · cases refused
      · cases refused
  next later made =>
      split at made
      · next full =>
          split at made
          · cases made
          · next below =>
              injection made with made
              subst made
              have front := s.shifted_full full
              have larger := newSize_gt s.shifted.size
              refine .read notEOF s.shifted_data s.shifted_atEOF ?_
              simp only [free]
              omega
      · next spare =>
          injection made with made
          subst made
          have room := s.shifted.room
          refine .read notEOF s.shifted_data s.shifted_atEOF ?_
          rw [free]
          omega

theorem scan_round (s : Scanner limit) : Round s s.scan := by
  rw [scan]
  split
  · cases found : (scanLines s.data s.atEOF).2 with
    | some line =>
        obtain ⟨positive, ends⟩ := scanLines_token found
        have inside : (scanLines s.data s.atEOF).1 ≤ s.data.length := advance_inside
        refine .token (List.take_append_drop _ _).symm ?_ rfl ends
        intro empty
        have length := congrArg List.length empty
        rw [List.length_take, List.length_nil] at length
        omega
    | none =>
        obtain ⟨unbroken, empty⟩ := scanLines_none found
        simp only
        split
        · next atEOF => exact .finished atEOF (empty atEOF)
        · next notEOF => exact makeRoom_round s (Bool.not_eq_true _ ▸ notEOF) unbroken
  · next nothing =>
      rw [not_or, not_not, Bool.not_eq_true] at nothing
      refine makeRoom_round s nothing.2 ?_
      simp [nothing.1]

theorem scan_found {s : Scanner limit} (found : (scanLines s.data s.atEOF).2 = some line) :
    s.scan = .token line (s.advance (scanLines s.data s.atEOF).1 advance_inside) := by
  have something : s.data ≠ [] ∨ s.atEOF = true := by
    by_contra nothing
    rw [not_or, not_not, Bool.not_eq_true] at nothing
    rw [nothing.1, nothing.2] at found
    cases found
  rw [scan, if_pos something]
  simp only [found]

theorem scan_line {s : Scanner limit} (data : s.data = line ++ newline :: rest)
    (unbroken : newline ∉ line) :
    ∃ later, s.scan = .token (dropCR line) later ∧ later.data = rest ∧ later.atEOF = s.atEOF := by
  have scanned := scanLines_line unbroken rest s.atEOF
  rw [← data] at scanned
  refine ⟨_, scan_found (by rw [scanned]), ?_, rfl⟩
  change s.data.drop (scanLines s.data s.atEOF).1 = rest
  rw [scanned, data]
  simp

theorem scan_tail {s : Scanner limit} (unbroken : newline ∉ s.data) (nonempty : s.data ≠ [])
    (atEOF : s.atEOF = true) :
    ∃ later, s.scan = .token (dropCR s.data) later ∧ later.data = [] ∧ later.atEOF = true := by
  have scanned := scanLines_tail unbroken nonempty
  rw [← atEOF] at scanned
  refine ⟨_, scan_found (by rw [scanned]), ?_, atEOF⟩
  change s.data.drop (scanLines s.data s.atEOF).1 = []
  rw [scanned, List.drop_length]

end Scanner

/-! Streams on which a scanner never stops early. -/

/-- Wherever `limit` bytes in a row hold no newline, the stream is over. -/
def ShortLines (limit : Nat) (stream : List UInt8) : Prop :=
  ∀ before run after, stream = before ++ run ++ after → run.length = limit → newline ∉ run → after = []

theorem ShortLines.left (short : ShortLines limit (stream ++ rest)) :
    ShortLines limit stream := by
  intro before run after split length unbroken
  have whole := short before run (after ++ rest) (by rw [split]; simp) length unbroken
  exact (List.append_eq_nil_iff.mp whole).1

theorem shortLines_of_length (short : stream.length ≤ limit) :
    ShortLines limit stream := by
  rintro before run after rfl length -
  simp only [List.length_append] at short
  exact List.length_eq_zero_iff.mp (by omega)

theorem ShortLines.length_le (short : ShortLines limit stream)
    (unbroken : newline ∉ stream) : stream.length ≤ limit := by
  by_contra long
  have nothing := short [] (stream.take limit) (stream.drop limit) (by simp) (by simp; omega)
    fun member => unbroken (List.mem_of_mem_take member)
  have length := congrArg List.length nothing
  rw [List.length_drop, List.length_nil] at length
  omega

theorem ShortLines.append {lines : List UInt8} (short : ShortLines limit lines)
    (boundary : lines = [] ∨ lines.getLast? = some newline) (few : rest.length ≤ limit) :
    ShortLines limit (lines ++ rest) := by
  -- After a newline the count starts again.
  intro before run after split length unbroken
  by_contra more
  have positive := List.length_pos_iff.mpr more
  have tail : ∀ front back, lines = front ++ back → back ≠ [] → newline ∈ back := by
    rintro front back rfl nonempty
    rcases boundary with empty | last
    · exact absurd (List.append_eq_nil_iff.mp empty).2 nonempty
    · rw [List.getLast?_append_of_ne_nil _ nonempty] at last
      exact List.mem_of_getLast? last
  rw [List.append_assoc] at split
  rcases List.append_eq_append_iff.mp split with ⟨middle, rfl, rfl⟩ | ⟨back, rfl, rest⟩
  · simp only [List.length_append] at few
    omega
  · -- the run begins inside the lines: it ends there, or goes on past their last newline
    rcases List.append_eq_append_iff.mp rest with ⟨middle, rfl, rfl⟩ | ⟨middle, rfl, rfl⟩
    · have nothing : middle = [] := short before run middle (by simp) length unbroken
      subst nothing
      have empty : run = [] := by
        by_contra nonempty
        exact unbroken (tail before run (by simp) nonempty)
      rw [empty, List.length_nil] at length
      rw [List.nil_append] at positive
      omega
    · have empty : back = [] := by
        by_contra nonempty
        exact unbroken (List.mem_append_left _ (tail before back rfl nonempty))
      rw [empty, List.nil_append] at length
      rw [List.length_append] at few
      omega

end Bufio
