import SyncthingSocket.Json.Scan

/-!
Numbers on their way through the scanner, and documents that are cut off: what has been
opened must be closed.
-/

namespace Json

open SyncthingSocket

namespace Scan

/-! Decimal numbers. -/

def Whole (place : NumberStep) : Prop := place = .zero ∨ place = .int

theorem feed_toDigits {scan : Scan} (begins : scan.step = .beginValue) (n : Nat) :
    ∃ place, Whole place ∧ (0 < n → place = .int) ∧
      ((Nat.toDigits 10 n).map Rune.char).foldlM feed scan =
        some { scan with step := .number place ((Nat.toDigits 10 n).map Rune.char) } := by
  induction n using Nat.strongRecOn with
  | ind n ih =>
      by_cases small : n < 10
      · have single : ∀ digit : Fin 10, 0 < digit.val →
            isBlank (Nat.digitChar digit) = false ∧ (Nat.digitChar digit) ∉ ['{', '[', '"', '-', '0'] ∧
              (Nat.digitChar digit).isDigit = true := by decide
        rw [Nat.toDigits_of_lt_base small]
        rcases Nat.eq_zero_or_pos n with rfl | positive
        · refine ⟨.zero, Or.inl rfl, by simp, ?_⟩
          simp [feed, feedChar, begins, beginValue, Nat.digitChar, isBlank]
        · obtain ⟨visible, unusual, digit⟩ := single ⟨n, small⟩ positive
          simp only [List.mem_cons, List.not_mem_nil, not_or] at unusual
          refine ⟨.int, Or.inr rfl, fun _ => rfl, ?_⟩
          simp [feed, feedChar, begins, beginValue, visible, unusual, digit]
      · have large : 10 ≤ n := Nat.le_of_not_lt small
        obtain ⟨place, -, whole, fed⟩ := ih (n / 10) (by omega)
        obtain rfl := whole (by omega)
        have digit : ∀ digit : Fin 10, (Nat.digitChar digit).isDigit = true := by decide
        have last := digit ⟨n % 10, Nat.mod_lt _ (by decide)⟩
        refine ⟨.int, Or.inr rfl, fun _ => rfl, ?_⟩
        rw [Nat.toDigits_of_base_le (by decide) large, List.map_append, List.foldlM_append, fed]
        simp only [Option.bind_eq_bind, Option.bind_some, List.map_cons, List.map_nil,
          List.foldlM_cons, feed, feedChar, NumberStep.next, last, ↓reduceIte, List.foldlM_nil]
        rfl

/-! What has been opened. -/

structure Unclosed (scan : Scan) : Prop where
  nested : scan.stack ≠ []
  unfinished : scan.step ≠ .endTop

variable {scan after : Scan}

theorem Unclosed.record (unclosed : Unclosed scan) (datum : Datum) :
    Unclosed (scan.record datum) := by
  rw [Scan.record]
  split
  · exact ⟨unclosed.nested, unclosed.unfinished⟩
  · exact ⟨unclosed.nested, unclosed.unfinished⟩
  · exact unclosed

theorem Unclosed.goes (unclosed : Unclosed scan) {step : Step} (unfinished : step ≠ .endTop) :
    Unclosed { scan with step } := ⟨unclosed.nested, unfinished⟩

theorem push_unclosed {frame : Frame} {step : Step} (unfinished : step ≠ .endTop)
    (pushed : scan.push frame step = some after) : Unclosed after := by
  rw [Scan.push] at pushed
  split at pushed
  · cases pushed
    exact ⟨by simp, unfinished⟩
  · cases pushed

theorem Unclosed.endValue (unclosed : Unclosed scan) {c : Char} (brace : c ≠ '}') (bracket : c ≠ ']')
    (ended : scan.endValue c = some after) : Unclosed after := by
  cases endValue_cases ended with
  | blank _ step waits =>
      rcases waits with rfl | ⟨_, empty⟩
      · exact unclosed.goes (by simp)
      · exact absurd empty unclosed.nested
  | colon | member => exact ⟨by simp, by simp⟩
  | element => exact unclosed.goes (by simp)
  | close closes => exact (closes.elim brace bracket).elim

theorem Unclosed.beginString (unclosed : Unclosed scan) {c : Char}
    (begun : scan.beginString c = some after) :
    Unclosed after := by
  rw [Scan.beginString] at begun
  split_ifs at begun
  · cases begun
    exact unclosed
  · cases begun
    exact unclosed.goes (by simp)

theorem Unclosed.beginValue (unclosed : Unclosed scan) {c : Char}
    (begun : scan.beginValue c = some after) :
    Unclosed after := by
  cases beginValue_cases begun with
  | blank same => exact same ▸ unclosed
  | object pushed => exact push_unclosed (by simp) pushed
  | array pushed => exact push_unclosed (by simp) pushed
  | string _ same => exact same ▸ unclosed.goes (by simp)
  | minus _ same => exact same ▸ unclosed.goes (by simp)
  | zero _ same => exact same ▸ unclosed.goes (by simp)
  | digit _ _ same => exact same ▸ unclosed.goes (by simp)
  | literal place same => exact same ▸ unclosed.goes (by simp)

theorem Unclosed.closeString (unclosed : Unclosed scan) (raw : Text) :
    Unclosed (scan.closeString raw) := by
  rw [Scan.closeString]
  split
  · exact ⟨unclosed.nested, by simp⟩
  · exact ⟨unclosed.nested, by simp⟩
  · exact (unclosed.record _).goes (by simp)

theorem Unclosed.feedChar (unclosed : Unclosed scan) {c : Char} (brace : c ≠ '}') (bracket : c ≠ ']')
    (fed : scan.feedChar c = some after) : Unclosed after := by
  rw [Scan.feedChar] at fed
  split at fed
  · exact unclosed.beginValue fed
  · rw [if_neg bracket] at fed
    exact unclosed.beginValue fed
  · exact unclosed.beginString fed
  · rw [if_neg brace] at fed
    exact unclosed.beginString fed
  · exact unclosed.endValue brace bracket fed
  · next finished => exact absurd finished unclosed.unfinished
  · split_ifs at fed <;> cases fed
    · exact unclosed.closeString _
    · exact unclosed.goes (by simp)
    · exact unclosed.goes (by simp)
  · split_ifs at fed <;> cases fed
    · exact unclosed.goes (by simp)
    · exact unclosed.goes (by simp)
  · split_ifs at fed
    split at fed <;> cases fed
    · exact unclosed.goes (by simp)
    · exact unclosed.goes (by simp)
  · split at fed
    · cases fed
      exact unclosed.goes (by simp)
    · split_ifs at fed
      exact (unclosed.record _).endValue brace bracket fed
  · split_ifs at fed
    split at fed <;> cases fed
    · exact unclosed.goes (by simp)
    · exact (unclosed.record _).goes (by simp)

theorem Unclosed.feed (unclosed : Unclosed scan) {rune : Rune}
    (brace : rune ≠ .char '}') (bracket : rune ≠ .char ']')
    (fed : scan.feed rune = some after) : Unclosed after := by
  cases rune with
  | char c => exact unclosed.feedChar (by simpa using brace) (by simpa using bracket) fed
  | invalid byte =>
      simp only [Scan.feed] at fed
      split at fed
      · cases fed
        exact unclosed.goes (by simp)
      · cases fed

theorem Unclosed.foldlM (unclosed : Unclosed scan) {document : Text} (brace : .char '}' ∉ document)
    (bracket : .char ']' ∉ document) (fed : document.foldlM Scan.feed scan = some after) :
      Unclosed after := by
  induction document generalizing scan with
  | nil =>
      cases fed
      exact unclosed
  | cons rune document ih =>
      rw [List.foldlM_cons] at fed
      obtain ⟨middle, first, rest⟩ := Option.bind_eq_some_iff.mp fed
      rw [List.mem_cons, not_or] at brace bracket
      exact ih (unclosed.feed (Ne.symm brace.1) (Ne.symm bracket.1) first) brace.2 bracket.2 rest

end Scan

theorem scan_unclosed {document : Text} (brace : .char '}' ∉ document) (bracket : .char ']' ∉ document) :
    scan (.char '{' :: document) = none := by
  cases accepted : scan (.char '{' :: document) with
  | none => rfl
  | some scanned =>
      obtain ⟨read, fed, rest⟩ := Option.bind_eq_some_iff.mp accepted
      obtain ⟨ended, last, final⟩ := Option.bind_eq_some_iff.mp rest
      rw [List.foldlM_cons] at fed
      obtain ⟨opened, first, inside⟩ := Option.bind_eq_some_iff.mp fed
      have unclosed : opened.Unclosed := by
        cases first
        exact ⟨by simp, by simp⟩
      have still := (unclosed.foldlM brace bracket inside).feedChar (by decide) (by decide) last
      rw [if_neg still.unfinished] at final
      cases final

end Json
