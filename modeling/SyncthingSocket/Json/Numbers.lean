import SyncthingSocket.Json.Scan

/-!
How the numbers are spelled that the scanner finds, in documents of any depth: the
scanner of `encoding/json` gives up where a document is nested too deeply, `scanDeep`
goes on.
-/

namespace Json

open SyncthingSocket

def NumberStep.Spelled : NumberStep → Text → Prop
  | neg, raw => raw = [.char '-']
  | zero, raw => raw = [.char '0'] ∨ raw = [.char '-', .char '0']
  | int, raw =>
      ∃ sign c digits, raw = sign ++ .char c :: digits ∧
        (sign = [] ∨ sign = [.char '-']) ∧ c ≠ '0' ∧
      c.isDigit = true
  | _, raw => ∃ c, .char c ∈ raw ∧ (c = '.' ∨ c = 'e' ∨ c = 'E')

variable {c : Char} {next : Scan} {document : Text}

theorem NumberStep.spelled_next {place later : NumberStep} {raw : Text}
    (spelled : place.Spelled raw) (moves : place.next c = some later) :
    later.Spelled (raw ++ [.char c]) := by
  have keeps : ∀ d, .char d ∈ raw ∧ (d = '.' ∨ d = 'e' ∨ d = 'E') →
      ∃ d, .char d ∈ raw ++ [.char c] ∧ (d = '.' ∨ d = 'e' ∨ d = 'E') := by
    rintro d ⟨member, mark⟩
    exact ⟨d, List.mem_append_left _ member, mark⟩
  have marks : c = '.' ∨ c = 'e' ∨ c = 'E' →
      ∃ d, .char d ∈ raw ++ [.char c] ∧ (d = '.' ∨ d = 'e' ∨ d = 'E') :=
    fun mark => ⟨c, by simp, mark⟩
  cases place with
  | neg =>
      rw [Spelled] at spelled
      simp only [next] at moves
      split at moves
      · next isZero =>
          cases moves
          exact Or.inr (by rw [spelled, isZero, List.singleton_append])
      · next nonzero =>
          split at moves
          · next digit =>
              cases moves
              exact ⟨[.char '-'], c, [], by rw [spelled], Or.inr rfl, nonzero, digit⟩
          · simp at moves
  | zero =>
      simp only [next] at moves
      split at moves
      · next isDot =>
          cases moves
          exact marks (Or.inl isDot)
      · split at moves
        · next isExp =>
            cases moves
            exact marks (Or.inr isExp)
        · simp at moves
  | int =>
      simp only [next] at moves
      split at moves
      · cases moves
        obtain ⟨sign, first, digits, rfl, signed, nonzero, digit⟩ := spelled
        exact ⟨sign, first, digits ++ [.char c], by simp, signed, nonzero, digit⟩
      · split at moves
        · next isDot =>
            cases moves
            exact marks (Or.inl isDot)
        · split at moves
          · next isExp =>
              cases moves
              exact marks (Or.inr isExp)
          · simp at moves
  | dot | frac | exp | expSign | expDigits =>
      obtain ⟨d, found⟩ := spelled
      simp only [next] at moves
      split_ifs at moves <;> cases moves <;> exact keeps d found

structure NumbersSpelled (scan : Scan) : Prop where
  current : ∀ place raw, scan.step = .number place raw → place.Spelled raw
  members : ∀ key raw, (key, Datum.number raw) ∈ scan.members →
    ∃ place : NumberStep, place.final = true ∧ place.Spelled raw

namespace Scan

theorem record_members (scan : Scan) (datum : Datum) :
    (scan.record datum).members = scan.members ∨
      (scan.record datum).members = scan.members ++ [(scan.key, datum)] := by
  rw [record]
  split <;> simp

theorem pop_step (scan : Scan) (place : NumberStep) (raw : Text) :
    scan.pop.step ≠ .number place raw := by
  rw [pop]
  simp only
  split <;> simp

theorem endValue_quiet {scan : Scan} (ended : scan.endValue c = some next) :
    next.members = scan.members ∧ ∀ place raw, next.step ≠ .number place raw := by
  cases endValue_cases ended with
  | blank _ step waits => exact ⟨rfl, by rcases waits with rfl | ⟨rfl, _⟩ <;> simp⟩
  | close => exact ⟨rfl, scan.pop_step⟩
  | _ => exact ⟨rfl, by simp⟩

theorem beginString_cases {scan : Scan} (begun : scan.beginString c = some next) :
    next.members = scan.members ∧ (next.step = scan.step ∨ next.step = .inString []) := by
  rw [beginString] at begun
  split_ifs at begun <;> cases begun
  · exact ⟨rfl, Or.inl rfl⟩
  · exact ⟨rfl, Or.inr rfl⟩

theorem push_cases {scan : Scan} {frame : Frame} {step : Step}
    (pushed : scan.push frame step = some next) :
    next.members = scan.members ∧ next.step = step := by
  rw [push] at pushed
  split_ifs at pushed
  cases pushed
  exact ⟨rfl, rfl⟩

end Scan

namespace NumbersSpelled

variable {scan next : Scan}

theorem quiet (spelled : NumbersSpelled scan) (members : next.members = scan.members)
    (step : ∀ place raw, next.step ≠ .number place raw) : NumbersSpelled next := by
  refine ⟨?_, ?_⟩
  · intro place raw here
    exact absurd here (step place raw)
  · rw [members]
    exact spelled.members

theorem recorded (spelled : NumbersSpelled scan) {datum : Datum}
    (number : ∀ raw, datum = .number raw → ∃ place : NumberStep, place.final = true ∧ place.Spelled raw)
    (members : next.members = (scan.record datum).members)
    (step : ∀ place raw, next.step ≠ .number place raw) :
    NumbersSpelled next := by
  refine ⟨?_, ?_⟩
  · intro place raw here
    exact absurd here (step place raw)
  · intro key raw member
    rw [members] at member
    rcases scan.record_members datum with same | more
    · exact spelled.members key raw (same ▸ member)
    · rw [more, List.mem_append, List.mem_singleton] at member
      rcases member with member | last
      · exact spelled.members key raw member
      · injection last with _ last
        exact number raw last.symm

theorem started (spelled : NumbersSpelled scan) {place : NumberStep} {raw : Text}
    (here : place.Spelled raw) :
    NumbersSpelled { scan with step := .number place raw } := by
  refine ⟨?_, spelled.members⟩
  intro place' raw' same
  cases same
  exact here

theorem beginValue (spelled : NumbersSpelled scan) (begun : scan.beginValue c = some next) :
    NumbersSpelled next := by
  cases Scan.beginValue_cases begun with
  | blank same =>
      subst same
      exact spelled
  | object pushed | array pushed =>
      obtain ⟨members, step⟩ := Scan.push_cases pushed
      exact spelled.recorded (by simp) members (by simp [step])
  | string _ same | literal _ same =>
      subst same
      exact spelled.quiet rfl (by simp)
  | minus sign same =>
      subst same
      exact spelled.started (by rw [sign]; rfl)
  | zero zero same =>
      subst same
      exact spelled.started (Or.inl (by rw [zero]))
  | digit nonzero digit same =>
      subst same
      exact spelled.started ⟨[], c, [], rfl, Or.inl rfl, nonzero, digit⟩

theorem closeString (spelled : NumbersSpelled scan) (raw : Text) :
    NumbersSpelled (scan.closeString raw) := by
  rw [Scan.closeString]
  split
  · exact spelled.quiet rfl (by simp)
  · exact spelled.quiet rfl (by simp)
  · exact spelled.recorded (by simp) rfl (by simp)

theorem feedChar (spelled : NumbersSpelled scan) (fed : scan.feedChar c = some next) :
    NumbersSpelled next := by
  rw [Scan.feedChar] at fed
  split at fed
  · exact spelled.beginValue fed
  · split_ifs at fed
    · cases fed
      exact spelled.quiet rfl scan.pop_step
    · exact spelled.beginValue fed
  · next step =>
      obtain ⟨members, moved⟩ := Scan.beginString_cases fed
      refine spelled.quiet members fun place raw number => ?_
      rcases moved with moved | moved <;> simp [moved, step] at number
  · next step =>
      split_ifs at fed
      · cases fed
        exact spelled.quiet rfl scan.pop_step
      · obtain ⟨members, moved⟩ := Scan.beginString_cases fed
        refine spelled.quiet members fun place raw number => ?_
        rcases moved with moved | moved <;> simp [moved, step] at number
  · obtain ⟨members, moved⟩ := Scan.endValue_quiet fed
    exact spelled.quiet members moved
  · split_ifs at fed
    cases fed
    exact spelled
  · next raw _ =>
      split_ifs at fed <;> cases fed
      · exact spelled.closeString raw
      · exact spelled.quiet rfl (by simp)
      · exact spelled.quiet rfl (by simp)
  · split_ifs at fed <;> cases fed
    · exact spelled.quiet rfl (by simp)
    · exact spelled.quiet rfl (by simp)
  · next left _ _ =>
      split_ifs at fed
      cases left <;> cases fed <;> exact spelled.quiet rfl (by simp)
  · next place raw step =>
      have here := spelled.current place raw step
      split at fed
      · next moves =>
          cases fed
          exact spelled.started (NumberStep.spelled_next here moves)
      · split_ifs at fed with final
        obtain ⟨members, moved⟩ := Scan.endValue_quiet fed
        refine spelled.recorded (fun raw' same => ?_) members moved
        cases same
        exact ⟨place, final, here⟩
  · next place _ =>
      split_ifs at fed
      split at fed
      · cases fed
        exact spelled.quiet rfl (by simp)
      · cases fed
        refine spelled.recorded (fun raw same => ?_) rfl (by simp)
        rw [LiteralStep.datum] at same
        split_ifs at same

theorem feed (spelled : NumbersSpelled scan) {rune : Rune} (fed : scan.feed rune = some next) :
    NumbersSpelled next := by
  cases rune with
  | char c => exact spelled.feedChar fed
  | invalid byte =>
      simp only [Scan.feed] at fed
      split at fed
      · cases fed
        exact spelled.quiet rfl (by simp)
      · simp at fed

end NumbersSpelled

/-! Documents of any depth. -/

/-- The scanner, going on where `push` has refused another level. -/
def Scan.feedDeep (scan : Scan) (rune : Rune) : Option Scan :=
  match scan.feed rune with
  | some next => some next
  | none =>
      if scan.step = .beginValue ∨ scan.step = .beginValueOrEmpty then
        if rune = .char '{' then
          some { scan.record .object with stack := .objectKey :: scan.stack, step := .beginStringOrEmpty }
        else if rune = .char '[' then
          some { scan.record .array with stack := .arrayValue :: scan.stack, step := .beginValueOrEmpty }
        else none
      else none

def scanDeep (document : Text) : Option Scan := do
  let scanned ← document.foldlM Scan.feedDeep {}
  let ended ← scanned.feedChar ' '
  if ended.step = .endTop then some ended else none

theorem foldlM_feedDeep {scan : Scan} (fed : document.foldlM Scan.feed scan = some next) :
    document.foldlM Scan.feedDeep scan = some next := by
  induction document generalizing scan with
  | nil => exact fed
  | cons rune document ih =>
      rw [List.foldlM_cons] at fed ⊢
      obtain ⟨middle, first, rest⟩ := Option.bind_eq_some_iff.mp fed
      rw [Scan.feedDeep, first]
      exact ih rest

theorem scanDeep_of_scan {scanned : Scan} (accepted : scan document = some scanned) :
    scanDeep document = some scanned := by
  obtain ⟨read, fed, rest⟩ := Option.bind_eq_some_iff.mp accepted
  rw [scanDeep, foldlM_feedDeep fed]
  exact rest

theorem NumbersSpelled.feedDeep {scan : Scan} {rune : Rune} (spelled : NumbersSpelled scan)
    (fed : scan.feedDeep rune = some next) : NumbersSpelled next := by
  rw [Scan.feedDeep] at fed
  cases shallow : scan.feed rune with
  | some found =>
      simp only [shallow, Option.some.injEq] at fed
      exact fed ▸ spelled.feed shallow
  | none =>
      simp only [shallow] at fed
      split_ifs at fed <;> cases fed
      · exact spelled.recorded (by simp) rfl (by simp)
      · exact spelled.recorded (by simp) rfl (by simp)

theorem NumbersSpelled.foldlM {scan : Scan} (spelled : NumbersSpelled scan)
    (fed : document.foldlM Scan.feedDeep scan = some next) : NumbersSpelled next := by
  induction document generalizing scan with
  | nil =>
      cases fed
      exact spelled
  | cons rune document ih =>
      rw [List.foldlM_cons] at fed
      obtain ⟨middle, first, rest⟩ := Option.bind_eq_some_iff.mp fed
      exact ih (spelled.feedDeep first) rest

theorem scanDeep_spelled {scanned : Scan} (accepted : scanDeep document = some scanned) :
    NumbersSpelled scanned := by
  obtain ⟨read, fed, rest⟩ := Option.bind_eq_some_iff.mp accepted
  obtain ⟨ended, last, final⟩ := Option.bind_eq_some_iff.mp rest
  split_ifs at final
  cases final
  have start : NumbersSpelled {} := ⟨by simp, by simp⟩
  exact (start.foldlM fed).feedChar last

end Json
