import SyncthingSocket.Json.Scan
import Mathlib.Data.List.Induction

/-!
Documents that are put together from pieces, some of which may be any text at all:
where such a piece can leave the scanner, and how long the strings can be that are
found in it.
-/

namespace Json

open SyncthingSocket

/-! How long the strings found in a stretch of text can be. -/

def Datum.Short (n : Nat) : Datum → Prop
  | .string raw => raw.length < n
  | _ => True

def Step.Short (n : Nat) : Step → Prop
  | .inString raw => raw.length < n
  | .inStringEsc raw => raw.length < n
  | .inStringEscU _ raw => raw.length < n
  | _ => True

def Grown (n : Nat) (before after : List (Text × Datum)) : Prop :=
  ∃ found, after = before ++ found ∧ ∀ member ∈ found, member.2.Short n

variable {c : Char} {members : List (Text × Datum)} {n : Nat} {rune : Rune} {scan after : Scan}
  {name w : Text}

theorem Datum.Short.mono {m : Nat} {datum : Datum} (short : datum.Short n) (le : n ≤ m) :
    datum.Short m := by
  cases datum with
  | string raw => exact Nat.lt_of_lt_of_le short le
  | _ => trivial

theorem Grown.refl (n : Nat) (members : List (Text × Datum)) :
    Grown n members members := ⟨[], by simp, by simp⟩

theorem Grown.mono {m : Nat} {before after : List (Text × Datum)} (grown : Grown n before after)
    (le : n ≤ m) :
    Grown m before after := by
  obtain ⟨found, same, short⟩ := grown
  exact ⟨found, same, fun member listed => (short member listed).mono le⟩

theorem Grown.trans {before middle after : List (Text × Datum)} (first : Grown n before middle)
    (second : Grown n middle after) : Grown n before after := by
  obtain ⟨found, rfl, short⟩ := first
  obtain ⟨more, rfl, also⟩ := second
  refine ⟨found ++ more, by simp, ?_⟩
  intro member listed
  rcases List.mem_append.mp listed with listed | listed
  · exact short member listed
  · exact also member listed

namespace Scan

theorem record_grown (scan : Scan) {datum : Datum} (short : datum.Short n) :
    Grown n scan.members (scan.record datum).members := by
  rw [record]
  split
  · exact Grown.refl _ _
  · exact ⟨[(scan.key, datum)], rfl, by simpa using short⟩
  · exact Grown.refl _ _

@[simp] theorem record_stack (scan : Scan) (datum : Datum) :
    (scan.record datum).stack = scan.stack := by
  rw [record]
  split <;> simp_all

theorem closeString_step (scan : Scan) (raw : Text) : (scan.closeString raw).step = .endValue := by
  rw [closeString]
  split <;> rfl

theorem closeString_grown (scan : Scan) {raw : Text} (short : raw.length < n) :
    Grown n scan.members (scan.closeString raw).members := by
  rw [closeString]
  split
  · exact Grown.refl _ _
  · exact Grown.refl _ _
  · exact scan.record_grown short

/-- The strings found in `n` characters, and the one under way, are shorter than `n`. -/
def Within (n : Nat) (members : List (Text × Datum)) (scan : Scan) : Prop :=
  scan.step.Short n ∧ Grown n members scan.members

theorem pop_within (n : Nat) (scan : Scan) : Within n scan.members scan.pop := by
  refine ⟨?_, Grown.refl _ _⟩
  simp only [pop]
  split <;> trivial

theorem push_within {frame : Frame} {step : Step}
    (pushed : scan.push frame step = some after) (short : step.Short n) :
    Within n scan.members after := by
  rw [push] at pushed
  split at pushed
  · cases pushed
    exact ⟨short, Grown.refl _ _⟩
  · simp at pushed

theorem endValue_within (n : Nat) (ended : scan.endValue c = some after) :
    Within n scan.members after := by
  cases endValue_cases ended with
  | blank _ step waits => exact ⟨by rcases waits with rfl | ⟨rfl, _⟩ <;> trivial, Grown.refl _ _⟩
  | close => exact scan.pop_within n
  | _ => exact ⟨trivial, Grown.refl _ _⟩

theorem beginString_within (begun : scan.beginString c = some after)
    (outside : scan.step.Short (n + 1)) : Within (n + 1) scan.members after := by
  rw [beginString] at begun
  split at begun
  · cases begun
    exact ⟨outside, Grown.refl _ _⟩
  · split at begun
    · cases begun
      exact ⟨Nat.succ_pos n, Grown.refl _ _⟩
    · simp at begun

theorem beginValue_within (begun : scan.beginValue c = some after)
    (outside : scan.step.Short (n + 1)) : Within (n + 1) scan.members after := by
  have opened (datum : Datum) (short : datum.Short (n + 1)) (frame : Frame) (step : Step)
      (outside : step.Short (n + 1)) (pushed : (scan.record datum).push frame step = some after) :
      Within (n + 1) scan.members after := by
    obtain ⟨first, second⟩ := push_within pushed outside
    exact ⟨first, (scan.record_grown short).trans second⟩
  have started (step : Step) (short : step.Short (n + 1)) :
      Within (n + 1) scan.members { scan with step := step } :=
    ⟨short, Grown.refl _ _⟩
  cases beginValue_cases begun with
  | blank same =>
      subst same
      exact ⟨outside, Grown.refl _ _⟩
  | object pushed => exact opened .object trivial .objectKey .beginStringOrEmpty trivial pushed
  | array pushed => exact opened .array trivial .arrayValue .beginValueOrEmpty trivial pushed
  | string _ same =>
      subst same
      exact started _ (Nat.succ_pos n)
  | minus _ same | zero _ same | digit _ _ same | literal _ same =>
      subst same
      exact started _ trivial

theorem feedChar_within (short : scan.step.Short n)
    (fed : scan.feedChar c = some after) : Within (n + 1) scan.members after := by
  -- inside a string, one character is kept for each one read
  have grows {raw : Text} (bound : raw.length < n) : (raw ++ [Rune.char c]).length < n + 1 := by
    simpa using bound
  rw [feedChar] at fed
  cases step : scan.step with
  | beginValue =>
      simp only [step] at fed
      exact beginValue_within fed (by rw [step]; trivial)
  | beginValueOrEmpty =>
      simp only [step] at fed
      split at fed
      · cases fed
        exact scan.pop_within _
      · exact beginValue_within fed (by rw [step]; trivial)
  | beginString =>
      simp only [step] at fed
      exact beginString_within fed (by rw [step]; trivial)
  | beginStringOrEmpty =>
      simp only [step] at fed
      split at fed
      · cases fed
        exact scan.pop_within _
      · exact beginString_within fed (by rw [step]; trivial)
  | endValue =>
      simp only [step] at fed
      exact endValue_within _ fed
  | endTop =>
      simp only [step] at fed
      split at fed
      · cases fed
        exact ⟨by rw [step]; trivial, Grown.refl _ _⟩
      · simp at fed
  | inString raw =>
      simp only [step, Step.Short] at fed short
      split at fed
      · cases fed
        exact ⟨by rw [closeString_step]; trivial, scan.closeString_grown (by omega)⟩
      · split at fed
        · cases fed
          exact ⟨grows short, Grown.refl _ _⟩
        · split at fed
          · simp at fed
          · cases fed
            exact ⟨grows short, Grown.refl _ _⟩
  | inStringEsc raw =>
      simp only [step, Step.Short] at fed short
      split at fed
      · cases fed
        exact ⟨grows short, Grown.refl _ _⟩
      · split at fed
        · cases fed
          exact ⟨grows short, Grown.refl _ _⟩
        · simp at fed
  | inStringEscU left raw =>
      simp only [step, Step.Short] at fed short
      split at fed
      · cases left with
        | zero =>
            cases fed
            exact ⟨grows short, Grown.refl _ _⟩
        | succ left =>
            cases fed
            exact ⟨grows short, Grown.refl _ _⟩
      · simp at fed
  | number place raw =>
      simp only [step] at fed
      split at fed
      · cases fed
        exact ⟨trivial, Grown.refl _ _⟩
      · split at fed
        · obtain ⟨outside, grown⟩ := endValue_within (n + 1) fed
          have recorded : (Datum.number raw).Short (n + 1) := trivial
          exact ⟨outside, (scan.record_grown recorded).trans grown⟩
        · simp at fed
  | literal place =>
      have recorded : place.datum.Short (n + 1) := by
        rw [LiteralStep.datum]
        split <;> trivial
      simp only [step] at fed
      split at fed
      · split at fed
        · cases fed
          exact ⟨trivial, Grown.refl _ _⟩
        · cases fed
          exact ⟨trivial, scan.record_grown recorded⟩
      · simp at fed

theorem feed_within (within : Within n members scan)
    (fed : scan.feed rune = some after) : Within (n + 1) members after := by
  obtain ⟨short, grown⟩ := within
  cases rune with
  | char c =>
      obtain ⟨later, more⟩ := feedChar_within short fed
      exact ⟨later, (grown.mono (Nat.le_succ n)).trans more⟩
  | invalid byte =>
      simp only [feed] at fed
      split at fed
      · next raw inside =>
          cases fed
          rw [inside] at short
          have bound : raw.length < n := short
          exact ⟨show (raw ++ [Rune.invalid byte]).length < n + 1 by simpa using bound,
            grown.mono (Nat.le_succ n)⟩
      · simp at fed

/-! A stretch of text that starts inside a string. -/

def Unescaped (w : Text) : Prop :=
  .char '\\' ∉ w → ∀ c, .char c ∈ w → isPlain (.char c) = true

theorem Unescaped.snoc (unescaped : Unescaped w)
    (next : ∀ c, rune = .char c → c ≠ '\\' → isPlain (.char c) = true) :
    Unescaped (w ++ [rune]) := by
  intro absent c member
  simp only [List.mem_append, List.mem_singleton, not_or] at absent
  rcases List.mem_append.mp member with member | member
  · exact unescaped absent.1 c member
  · have same : Rune.char c = rune := List.mem_singleton.mp member
    refine next c same.symm ?_
    rintro rfl
    exact absent.2 same

theorem unescaped_of_mem (escaped : .char '\\' ∈ w) :
    Unescaped w := fun absent => absurd escaped absent

def Inside (scan : Scan) (w : Text) (after : Scan) : Prop :=
  after = { scan with step := .inString w } ∧ Unescaped w ∨
    .char '\\' ∈ w ∧ (after = { scan with step := .inStringEsc w } ∨
      ∃ left, after = { scan with step := .inStringEscU left w })

theorem feed_inside {scan middle : Scan} (inside : Inside scan w middle)
    (fed : middle.feed rune = some after) :
    Inside scan (w ++ [rune]) after ∨ Within (w.length + 1) scan.members after := by
  have still (escaped : .char '\\' ∈ w) : .char '\\' ∈ w ++ [rune] := List.mem_append_left _ escaped
  cases rune with
  | invalid byte =>
      rcases inside with ⟨rfl, unescaped⟩ | ⟨_, rfl | ⟨left, rfl⟩⟩
      · cases fed
        exact Or.inl (Or.inl ⟨rfl, unescaped.snoc (by simp)⟩)
      · simp [feed] at fed
      · simp [feed] at fed
  | char c =>
      simp only [feed, feedChar] at fed
      rcases inside with ⟨rfl, unescaped⟩ | ⟨escaped, rfl | ⟨left, rfl⟩⟩
      · simp only at fed
        split at fed
        · cases fed
          refine Or.inr ⟨by rw [closeString_step]; trivial, ?_⟩
          exact closeString_grown { scan with step := .inString w } (Nat.lt_succ_self _)
        · next unquoted =>
            split at fed
            · next escape =>
                cases fed
                exact Or.inl (Or.inr ⟨by simp [escape], Or.inl rfl⟩)
            · split at fed
              · simp at fed
              · next visible =>
                  cases fed
                  refine Or.inl (Or.inl ⟨rfl, unescaped.snoc ?_⟩)
                  rintro _ ⟨⟩ other
                  simp only [isPlain, Bool.and_eq_true, decide_eq_true_eq]
                  exact ⟨⟨unquoted, other⟩, by omega⟩
      · simp only at fed
        split at fed
        · cases fed
          exact Or.inl (Or.inl ⟨rfl, unescaped_of_mem (still escaped)⟩)
        · split at fed
          · cases fed
            exact Or.inl (Or.inr ⟨still escaped, Or.inr ⟨3, rfl⟩⟩)
          · simp at fed
      · simp only at fed
        split at fed
        · cases left with
          | zero =>
              cases fed
              exact Or.inl (Or.inl ⟨rfl, unescaped_of_mem (still escaped)⟩)
          | succ left =>
              cases fed
              exact Or.inl (Or.inr ⟨still escaped, Or.inr ⟨left, rfl⟩⟩)
        · simp at fed

theorem foldlM_inside (inside : scan.step = .inString []) (fed : w.foldlM feed scan = some after) :
    Inside scan w after ∨ Within w.length scan.members after := by
  induction w using List.reverseRecOn generalizing after with
  | nil =>
      cases fed
      exact Or.inl (Or.inl ⟨by rw [← inside], fun _ c member => by simp at member⟩)
  | append_singleton w rune ih =>
      rw [List.foldlM_append] at fed
      obtain ⟨middle, early, late⟩ := Option.bind_eq_some_iff.mp fed
      have late : middle.feed rune = some after := by simpa using late
      rw [List.length_append, List.length_singleton]
      rcases ih early with still | within
      · exact feed_inside still late
      · exact Or.inr (feed_within within late)

/-! What may stand before a closing quote. -/

def Strays (c : Char) : Prop := isBlank c = false ∧ c ≠ ':' ∧ c ≠ ',' ∧ c ≠ '}' ∧ c ≠ ']'

theorem endValue_strays (strays : Strays c) (scan : Scan) : scan.endValue c = none := by
  obtain ⟨unblank, colon, comma, brace, bracket⟩ := strays
  rw [endValue]
  split
  · simp [unblank]
  · simp only [unblank, Bool.false_eq_true, ↓reduceIte, colon, comma, brace, bracket]
    split <;> rfl

theorem separator_inside (strays : Strays c)
    (fed : [.char '"', .char ',', .char '"', .char c].foldlM feed scan = some after) :
    ∃ raw, scan.step = .inString raw := by
  -- A quote, a comma and a quote are the end of one string and the beginning of the next only if
  -- they start inside a string: otherwise they are a string themselves, or an error.
  have taken (raw : Text) (scan : Scan) (inside : scan.step = .inString raw) :
      [.char ',', .char '"', .char c].foldlM feed scan = none := by
    have comma : scan.feedChar ',' = some { scan with step := .inString (raw ++ [.char ',']) } := by
      simp [feedChar, inside]
    simp only [List.foldlM_cons, feed, comma, Option.bind_eq_bind, Option.bind_some]
    simp [feedChar, closeString_step, endValue_strays strays]
  have quoteStrays : Strays '"' := by simp [Strays, isBlank]
  have begins : scan.beginValue '"' = some { scan with step := .inString [] } := by
    simp [beginValue, isBlank]
  have beginsKey : scan.beginString '"' = some { scan with step := .inString [] } := by
    simp [beginString, isBlank]
  rw [List.foldlM_cons] at fed
  obtain ⟨first, quoted, rest⟩ := Option.bind_eq_some_iff.mp fed
  have opened (raw : Text) (inside : first.step = .inString raw) : False := by
    rw [taken raw first inside] at rest
    simp at rest
  simp only [feed, feedChar] at quoted
  cases step : scan.step with
  | inString raw => exact ⟨raw, rfl⟩
  | beginValue =>
      simp only [step, begins] at quoted
      cases quoted
      exact (opened [] rfl).elim
  | beginValueOrEmpty =>
      simp only [step, begins, Char.reduceEq, ↓reduceIte] at quoted
      cases quoted
      exact (opened [] rfl).elim
  | beginString =>
      simp only [step, beginsKey] at quoted
      cases quoted
      exact (opened [] rfl).elim
  | beginStringOrEmpty =>
      simp only [step, beginsKey, Char.reduceEq, ↓reduceIte] at quoted
      cases quoted
      exact (opened [] rfl).elim
  | endValue => simp [step, endValue_strays quoteStrays] at quoted
  | endTop => simp [step, isBlank] at quoted
  | inStringEsc raw =>
      simp only [step, List.mem_cons, Char.reduceEq, or_true, true_or, ↓reduceIte] at quoted
      cases quoted
      exact (opened _ rfl).elim
  | inStringEscU left raw => simp [step, isHex] at quoted
  | number place raw =>
      have stops : place.next '"' = none := by cases place <;> simp [NumberStep.next]
      simp [step, stops, endValue_strays quoteStrays] at quoted
  | literal place =>
      have other : '"' ≠ place.expects := by cases place <;> decide
      simp [step, other] at quoted

def separator (name : Text) : Text :=
  [.char '"', .char ',', .char '"'] ++ name ++ [.char '"', .char ':', .char '"']

theorem separator_eq (plain : ∀ rune ∈ name, isPlain rune = true)
    {opened : Scan} (begun : [.char '"', .char ',', .char '"'].foldlM feed scan = some opened)
    (inside : opened.step = .inString []) :
    (separator name).foldlM feed scan =
      [.char '"', .char ':', .char '"'].foldlM feed { opened with step := .inString name } := by
  rw [separator, List.foldlM_append, List.foldlM_append, begun]
  have named : name.foldlM feed opened = some { opened with step := .inString name } :=
    feed_plain inside plain
  simp only [Option.bind_eq_bind, Option.bind_some, named]

theorem separator_next {raw : Text} (inside : scan.step = .inString raw)
    (plain : ∀ rune ∈ name, isPlain rune = true)
    (fed : (separator name).foldlM feed scan = some after) :
    ∃ below, scan.stack = .objectValue :: below ∧ after = { scan with
      step := .inString []
      members := if below = [] then scan.members ++ [(scan.key, .string raw)] else scan.members
      key := if below = [] then name else scan.key } := by
  obtain ⟨step, stack, key, members, top⟩ := scan
  obtain rfl : step = .inString raw := inside
  have unended (stack : List Frame)
      (ends : [.char '"', .char ','].foldlM feed ⟨.inString raw, stack, key, members, top⟩ = none) :
      (separator name).foldlM feed ⟨.inString raw, stack, key, members, top⟩ = none := by
    have split : separator name =
        [.char '"', .char ','] ++ (.char '"' :: name ++ [.char '"', .char ':', .char '"']) := by
          simp [separator]
    rw [split, List.foldlM_append, ends]
    rfl
  cases stack with
  | nil =>
      rw [unended [] rfl] at fed
      simp at fed
  | cons frame below =>
      cases frame with
      | objectKey =>
          have ends := unended (.objectKey :: below) (by cases below <;> rfl)
          rw [ends] at fed
          simp at fed
      | arrayValue =>
          -- the name would be an element of an array, and no colon follows an element
          have begun : [.char '"', .char ',', .char '"'].foldlM feed
              ⟨.inString raw, .arrayValue :: below, key, members, top⟩ =
                some ⟨.inString [], .arrayValue :: below, key, members, top⟩ := rfl
          rw [separator_eq plain begun rfl] at fed
          simp [feed, feedChar, closeString, record, endValue, isBlank] at fed
      | objectValue =>
          refine ⟨below, rfl, ?_⟩
          cases below with
          | nil =>
              have begun : [.char '"', .char ',', .char '"'].foldlM feed
                  ⟨.inString raw, [.objectValue], key, members, top⟩ =
                    some ⟨.inString [], [.objectKey], key, members ++ [(key, .string raw)], top⟩ := rfl
              rw [separator_eq plain begun rfl] at fed
              exact (Option.some.inj fed).symm
          | cons next below =>
              have begun : [.char '"', .char ',', .char '"'].foldlM feed
                  ⟨.inString raw, .objectValue :: next :: below, key, members, top⟩ =
                    some ⟨.inString [], .objectKey :: next :: below, key, members, top⟩ := rfl
              rw [separator_eq plain begun rfl] at fed
              exact (Option.some.inj fed).symm

theorem piece_member {key : Text} {top : Option Datum}
    (plainValue : ∀ rune ∈ w, isPlain rune = true)
    (plainName : ∀ rune ∈ name, isPlain rune = true) :
    (w ++ separator name).foldlM feed ⟨.inString [], [.objectValue], key, members, top⟩ =
      some ⟨.inString [], [.objectValue], name, members ++ [(key, .string w)], top⟩ := by
  have begun : [.char '"', .char ',', .char '"'].foldlM feed ⟨.inString w, [.objectValue], key,
    members, top⟩ =
      some ⟨.inString [], [.objectKey], key, members ++ [(key, .string w)], top⟩ := rfl
  rw [List.foldlM_append, feed_plain rfl plainValue, List.nil_append]
  exact (separator_eq plainName begun rfl).trans rfl

def closing : Text := [.char '"', .char '}', .char '\n']

theorem piece_closed {key : Text} {top : Option Datum} (plain : ∀ rune ∈ w, isPlain rune = true) :
    (w ++ closing).foldlM feed ⟨.inString [], [.objectValue], key, members, top⟩ =
      some ⟨.endTop, [], key, members ++ [(key, .string w)], top⟩ := by
  rw [List.foldlM_append, feed_plain rfl plain, List.nil_append]
  rfl

theorem closed_outermost {scan ended : Scan} {below : List Frame}
    (inside : scan.step = .inString []) (stack : scan.stack = .objectValue :: below)
    (plain : ∀ rune ∈ w, isPlain rune = true) (fed : (w ++ closing).foldlM feed scan = some after)
    (blank : after.feedChar ' ' = some ended) (finished : ended.step = .endTop) :
    below = [] ∧ ended.members = scan.members ++ [(scan.key, .string w)] := by
  obtain ⟨step, _, key, members, top⟩ := scan
  obtain rfl : step = .inString [] := inside
  obtain rfl := stack
  cases below with
  | nil =>
      rw [piece_closed plain] at fed
      cases fed
      cases blank
      exact ⟨rfl, rfl⟩
  | cons next below =>
      have left : (w ++ closing).foldlM feed ⟨.inString [], .objectValue :: next :: below, key,
        members, top⟩ =
          some ⟨.endValue, next :: below, key, members, top⟩ := by
        rw [List.foldlM_append, feed_plain rfl plain, List.nil_append]
        rfl
      rw [left] at fed
      cases fed
      cases blank
      simp at finished

theorem piece_value (inside : scan.step = .inString [])
    (plain : ∀ rune ∈ name, isPlain rune = true)
    (strays : ∃ c rest, name = .char c :: rest ∧ Strays c)
    (fed : (w ++ separator name).foldlM feed scan = some after) :
    after.step = .inString [] ∧ ∃ below, after.stack = .objectValue :: below ∧
      (below = [] → after.key = name) ∧
      (Grown w.length scan.members after.members ∨ Unescaped w ∧ scan.stack = .objectValue :: below ∧
        after.members = if below =
          [] then scan.members ++ [(scan.key, .string w)] else scan.members) := by
  rw [List.foldlM_append] at fed
  obtain ⟨middle, early, late⟩ := Option.bind_eq_some_iff.mp fed
  obtain ⟨raw, string⟩ : ∃ raw, middle.step = .inString raw := by
    obtain ⟨c, rest, rfl, strays⟩ := strays
    have split : separator (.char c :: rest) =
        [.char '"', .char ',', .char '"', .char c] ++ (rest ++ [.char '"', .char ':', .char '"']) := by
      simp [separator]
    rw [split, List.foldlM_append] at late
    obtain ⟨begun, first, _⟩ := Option.bind_eq_some_iff.mp late
    exact separator_inside strays first
  obtain ⟨below, stack, rfl⟩ := separator_next string plain late
  refine ⟨rfl, below, stack, fun outermost => by simp [outermost], ?_⟩
  rcases foldlM_inside inside early with whole | ⟨short, grown⟩
  · rcases whole with ⟨rfl, unescaped⟩ | ⟨_, rfl | ⟨left, rfl⟩⟩
    · obtain rfl : w = raw := by simpa using string
      exact Or.inr ⟨unescaped, stack, rfl⟩
    · simp at string
    · simp at string
  · rw [string] at short
    refine Or.inl ?_
    simp only
    split
    · refine grown.trans ⟨[(middle.key, .string raw)], rfl, ?_⟩
      intro member listed
      rw [List.mem_singleton.mp listed]
      exact short
    · exact grown

end Scan

end Json
