import Mathlib.Data.List.DropRight
import Mathlib.Data.List.TakeWhile
import SyncthingSocket.Text

/-!
Lines of text files: trimming them, cutting them at a character, and which of them a
`bufio.Scanner` yields.
-/

namespace SyncthingSocket

namespace Text

variable {p : Rune → Bool}

variable {rune : Rune} {s : Text}

theorem trimFunc_cons (trimmed : p rune = true) :
    trimFunc p (rune :: s) = s.trimFunc p := by
  rw [trimFunc, trimFunc, List.dropWhile_cons_of_pos trimmed]

theorem trimFunc_concat (trimmed : p rune = true) :
    trimFunc p (s ++ [rune]) = s.trimFunc p := by
  rw [trimFunc, trimFunc]
  by_cases all : ∀ other ∈ s, p other = true
  · rw [List.dropWhile_append_of_pos all, List.dropWhile_cons_of_pos trimmed, List.dropWhile_nil,
      List.dropWhile_eq_nil_iff.mpr all]
  · have rest : s.dropWhile p ≠ [] := fun empty => all (List.dropWhile_eq_nil_iff.mp empty)
    rw [List.dropWhile_append, if_neg (by simpa using rest), List.reverse_append, List.reverse_singleton,
      List.singleton_append, List.dropWhile_cons_of_pos trimmed]

theorem trimFunc_self (first : ∀ rune, s.head? = some rune → p rune = false)
    (last : ∀ rune, s.getLast? = some rune → p rune = false) : s.trimFunc p = s := by
  have front : s.dropWhile p = s := by
    cases s with
    | nil => rfl
    | cons rune s => rw [List.dropWhile_cons_of_neg (by simp [first rune rfl])]
  have back : s.reverse.dropWhile p = s.reverse := by
    cases reversed : s.reverse with
    | nil => rfl
    | cons rune rest =>
        have final : s.getLast? = some rune := by rw [← List.head?_reverse, reversed, List.head?_cons]
        rw [List.dropWhile_cons_of_neg (by simp [last rune final])]
  rw [trimFunc, front, back, List.reverse_reverse]

theorem trimFunc_none (none : ∀ rune ∈ s, p rune = false) : s.trimFunc p = s :=
  trimFunc_self (fun rune first => none rune (List.mem_of_mem_head? first))
    fun rune last => none rune (List.mem_of_getLast? last)

theorem trimFunc_getLast (last : (s.trimFunc p).getLast? = some rune) : p rune = false := by
  rw [trimFunc, List.getLast?_reverse] at last
  have stops := List.head?_dropWhile_not p (s.dropWhile p).reverse
  rw [last] at stops
  simpa using stops

theorem trimFunc_append {spaces : Text} (trimmed : ∀ rune ∈ spaces, p rune = true) :
    trimFunc p (s ++ spaces) = s.trimFunc p := by
  induction spaces using List.reverseRecOn with
  | nil => rw [List.append_nil]
  | append_singleton spaces rune ih =>
      rw [← List.append_assoc, trimFunc_concat (trimmed rune (by simp)),
        ih fun other member => trimmed other (List.mem_append_left _ member)]

theorem trimFunc_rdropWhile (s : Text) : trimFunc p (s.rdropWhile p) = s.trimFunc p := by
  have whole : s.rdropWhile p ++ (s.reverse.takeWhile p).reverse = s := by
    rw [List.rdropWhile, ← List.reverse_append, List.takeWhile_append_dropWhile, List.reverse_reverse]
  have spaces : ∀ rune ∈ (s.reverse.takeWhile p).reverse, p rune = true :=
    fun rune member => List.mem_takeWhile_imp (List.mem_reverse.mp member)
  rw [← trimFunc_append spaces, whole]

theorem trimFunc_dropWhile (s : Text) : trimFunc p (s.dropWhile p) = s.trimFunc p := by
  rw [trimFunc, trimFunc, List.dropWhile_idempotent]

theorem dropWhile_middle (kept : p rune = false) (left right : Text) :
    (left ++ rune :: right).dropWhile p = left.dropWhile p ++ rune :: right := by
  rw [List.dropWhile_append]
  split
  · next empty =>
      rw [List.isEmpty_iff] at empty
      rw [empty, List.dropWhile_cons_of_neg (by simp [kept]), List.nil_append]
  · rfl

theorem trimFunc_middle (kept : p rune = false) (left right : Text) :
    trimFunc p (left ++ rune :: right) = left.dropWhile p ++ rune :: right.rdropWhile p := by
  rw [trimFunc, dropWhile_middle kept]
  have turned : (left.dropWhile p ++ rune :: right).reverse =
      right.reverse ++ rune :: (left.dropWhile p).reverse := by simp
  rw [turned, dropWhile_middle kept, List.rdropWhile]
  simp

theorem rdropWhile_trimmed (trimmed : s.trimFunc p = s) : s.rdropWhile p = s := by
  rw [List.rdropWhile_eq_self_iff]
  intro nonempty
  have last : (s.trimFunc p).getLast? = some (s.getLast nonempty) := by
    rw [trimmed, List.getLast?_eq_getLast_of_ne_nil nonempty]
  simp [trimFunc_getLast last]

theorem cut_key {separator : Char} {key value : Text} (unseparated : .char separator ∉ key) :
    cut separator (key ++ .char separator :: value) = some (key, value) := by
  have before : ∀ rune ∈ key, decide (rune ≠ .char separator) = true := by
    intro rune member
    simp only [decide_eq_true_eq]
    rintro rfl
    exact unseparated member
  rw [cut, if_pos (by simp), List.takeWhile_append_of_pos before, List.dropWhile_append_of_pos before]
  simp

theorem cut_some {separator : Char} {left right : Text}
    (found : s.cut separator = some (left, right)) :
    s = left ++ .char separator :: right := by
  rw [cut] at found
  split at found
  · next member =>
      have stops := List.head?_dropWhile_not (fun rune => decide (rune ≠ .char separator)) s
      cases rest : s.dropWhile (fun rune => decide (rune ≠ .char separator)) with
      | nil =>
          have all := List.dropWhile_eq_nil_iff.mp rest _ member
          simp at all
      | cons rune after =>
          rw [rest] at found stops
          simp only [Option.some.injEq, Prod.mk.injEq, List.tail_cons] at found
          have separates : rune = .char separator := by simpa using stops
          have whole :=
            List.takeWhile_append_dropWhile (p := fun rune => decide (rune ≠ .char separator)) (l := s)
          rw [rest, found.1, found.2, separates] at whole
          exact whole.symm
  · simp at found

theorem mem_trimSpace (member : rune ∈ s) (kept : rune.isSpace = false) :
    rune ∈ s.trimSpace := by
  obtain ⟨left, right, rfl⟩ := List.append_of_mem member
  rw [trimSpace, trimFunc_middle kept]
  simp

end Text

theorem trimSpace_eq_nil_iff (s : Text) : s.trimSpace = [] ↔ ∀ rune ∈ s, rune.isSpace = true := by
  rw [Text.trimSpace, Text.trimFunc, List.reverse_eq_nil_iff, List.dropWhile_eq_nil_iff]
  constructor
  · intro spaces rune member
    by_cases early : rune ∈ s.takeWhile Rune.isSpace
    · exact List.mem_takeWhile_imp early
    · rw [← List.takeWhile_append_dropWhile (p := Rune.isSpace) (l := s)] at member
      have late := (List.mem_append.mp member).resolve_left early
      exact spaces rune (List.mem_reverse.mpr late)
  · intro spaces rune member
    exact spaces rune ((List.dropWhile_sublist _).subset (List.mem_reverse.mp member))

theorem trimSpace_dropCR (line : Text) : (dropCR line).trimSpace = line.trimSpace := by
  rw [dropCR]
  split
  · next ends =>
      obtain ⟨rest, rfl⟩ := List.getLast?_eq_some_iff.mp ends
      rw [List.dropLast_concat]
      exact (Text.trimFunc_concat (by decide)).symm
  · rfl

theorem isSpace_printable {c : Char} (lower : 32 < c.toNat) (upper : c.toNat < 127) :
    isSpace c = false := by
  rw [Bool.eq_false_iff]
  intro space
  simp only [isSpace, Bool.or_eq_true, Bool.and_eq_true, decide_eq_true_eq, List.mem_cons,
    List.not_mem_nil, or_false] at space
  rcases space with space | ⟨space, _⟩
  · have listed : c.toNat ∈ [9, 10, 11, 12, 13, 32, 133, 160, 5760, 8232, 8233, 8239, 8287, 12288] := by
      rcases space with
        rfl | rfl | rfl | rfl | rfl | rfl | rfl | rfl | rfl | rfl | rfl | rfl | rfl | rfl <;> decide
    simp only [List.mem_cons, List.not_mem_nil, or_false] at listed
    omega
  · have far : 8192 ≤ c.toNat := space
    omega

/-! The lines of a file. -/

def unlines (lines : List Text) : Text := (lines.map (· ++ text "\n")).flatten

theorem unlines_append (lines more : List Text) :
    unlines (lines ++ more) = unlines lines ++ unlines more := by
  rw [unlines, List.map_append, List.flatten_append, unlines, unlines]

theorem unlines_splitOn {lines : List Text} (plain : ∀ line ∈ lines, .char '\n' ∉ line) :
    (unlines lines).splitOn (.char '\n') = lines ++ [[]] := by
  have joined : unlines lines = [.char '\n'].intercalate (lines ++ [[]]) := by
    clear plain
    induction lines with
    | nil => rfl
    | cons line lines ih =>
        rw [unlines, List.map_cons, List.flatten_cons, ← unlines, ih, List.cons_append,
          List.intercalate_cons_of_ne_nil (by simp)]
        rfl
  rw [joined, List.splitOn_intercalate]
  · intro line member
    rcases List.mem_append.mp member with inside | last
    · exact plain line inside
    · rw [List.mem_singleton.mp last]
      simp
  · simp

def FileRead.pieces (file : FileRead) : List Text := file.content.splitOn (.char '\n')

theorem scanLines_short {file : FileRead}
    (short : ∀ line ∈ file.pieces, Text.size line < maxScanTokenSize) :
    ∃ lines, file.scanLines = (lines.map dropCR, file.err) ∧
      (file.pieces = lines ∨ file.pieces = lines ++ [[]]) := by
  rw [FileRead.scanLines]
  simp only [FileRead.pieces] at short ⊢
  generalize file.content.splitOn (.char '\n') = pieces at short ⊢
  have whole : ∀ lines : List Text, (∀ line ∈ lines, Text.size line < maxScanTokenSize) →
      lines.takeWhile (fun line => decide (Text.size line < maxScanTokenSize)) = lines := by
    intro lines fits
    rw [List.takeWhile_eq_self_iff]
    intro line member
    simp [fits line member]
  by_cases ends : pieces.getLast? = some []
  · obtain ⟨lines, rfl⟩ := List.getLast?_eq_some_iff.mp ends
    have fits := whole lines fun line member => short line (List.mem_append_left _ member)
    refine ⟨lines, ?_, Or.inr rfl⟩
    simp [fits]
  · refine ⟨pieces, ?_, Or.inl rfl⟩
    simp [ends, whole pieces short]

theorem scanLines_long {file : FileRead} {line : Text} (member : line ∈ file.pieces)
    (long : maxScanTokenSize ≤ Text.size line) :
    file.scanLines.2 = some (.text "bufio.Scanner: token too long") := by
  rw [FileRead.scanLines]
  simp only [FileRead.pieces] at member ⊢
  generalize file.content.splitOn (.char '\n') = pieces at member ⊢
  have nonempty : line ≠ [] := by
    rintro rfl
    simp [Text.size, maxScanTokenSize] at long
  have kept : line ∈ if pieces.getLast? = some [] then pieces.dropLast else pieces := by
    split
    · next ends =>
        obtain ⟨lines, rfl⟩ := List.getLast?_eq_some_iff.mp ends
        rw [List.dropLast_concat]
        rcases List.mem_append.mp member with member | last
        · exact member
        · exact absurd (List.mem_singleton.mp last) nonempty
    · exact member
  generalize (if pieces.getLast? = some [] then pieces.dropLast else pieces) = lines at kept ⊢
  rw [if_pos]
  by_contra all
  have same : lines.takeWhile (fun line => decide (Text.size line < maxScanTokenSize)) = lines :=
    (List.takeWhile_prefix _).eq_of_length_le (by omega)
  rw [List.takeWhile_eq_self_iff] at same
  have short := same line kept
  simp only [decide_eq_true_eq] at short
  omega

end SyncthingSocket
