import SyncthingSocket.Json.Scan

/-!
Where the string literals of a document begin and end, and its keys: those of all its
objects, at whatever depth, as they are written, each with the text behind it.
-/

namespace Json

open SyncthingSocket

/-- The literal that the scanner is in, so far, and whether the next character is
escaped. -/
def Step.literal? : Step → Option (Bool × Text)
  | .inString raw => some (false, raw)
  | .inStringEsc raw => some (true, raw)
  | .inStringEscU _ raw => some (false, raw)
  | _ => none

def isKey : List Frame → Bool
  | .objectKey :: _ => true
  | _ => false

def keysFrom (scan : Scan) : Text → List (Text × Text)
  | [] => []
  | rune :: rest =>
      let ended :=
        match scan.step with
        | .inString raw => if rune = .char '"' ∧ isKey scan.stack = true then [(raw, rest)] else []
        | _ => []
      ended ++
        match scan.feed rune with
        | some next => keysFrom next rest
        | none => []

def keys (document : Text) : List (Text × Text) := keysFrom {} document

/-- Every quote in the text has a backslash before it. -/
def QuotesEscaped (escaped : Bool) : Text → Prop
  | [] => True
  | rune :: rest => (rune = .char '"' → escaped = true) ∧ QuotesEscaped (rune = .char '\\') rest

/-- What may stand right behind a literal. -/
def followers : List Char := [' ', '\t', '\r', '\n', ':', ',', '}', ']']

variable {scan next last : Scan} {rune : Rune} {c : Char} {raw s : Text} {escaped : Bool}

theorem QuotesEscaped.weaken (guarded : QuotesEscaped false s) (escaped : Bool) : QuotesEscaped escaped s := by
  cases s with
  | nil => trivial
  | cons rune s => exact ⟨fun quote => absurd (guarded.1 quote) (by decide), guarded.2⟩

/-! One character. -/

namespace Scan

theorem feed_literal (inside : scan.step.literal? = some (escaped, raw))
    (fed : scan.feed rune = some next) :
    rune = .char '"' ∧ scan.step = .inString raw ∧ next = scan.closeString raw ∨
      ∃ step later, next = { scan with step } ∧ step.literal? = some (later, raw ++ [rune]) ∧
        (rune = .char '"' → escaped = true) ∧ (later = true → rune = .char '\\') := by
  obtain ⟨step, stack, key, members, top⟩ := scan
  cases step with
  | inString text =>
      obtain ⟨rfl, rfl⟩ : false = escaped ∧ text = raw := by simpa [Step.literal?] using inside
      cases rune with
      | invalid byte =>
          cases fed
          exact .inr ⟨_, false, rfl, rfl, by simp, by simp⟩
      | char c =>
          simp only [feed, feedChar] at fed
          split_ifs at fed with quote backslash
          · subst quote
            exact .inl ⟨rfl, rfl, (Option.some.inj fed).symm⟩
          · cases fed
            exact .inr ⟨_, true, rfl, rfl, by simp [quote], by simp [backslash]⟩
          · cases fed
            exact .inr ⟨_, false, rfl, rfl, by simp [quote], by simp⟩
  | inStringEsc text =>
      obtain ⟨rfl, rfl⟩ : true = escaped ∧ text = raw := by simpa [Step.literal?] using inside
      cases rune with
      | invalid byte => contradiction
      | char c =>
          simp only [feed, feedChar] at fed
          split_ifs at fed
          all_goals
            cases fed
            exact .inr ⟨_, false, rfl, rfl, by simp, by simp⟩
  | inStringEscU left text =>
      obtain ⟨rfl, rfl⟩ : false = escaped ∧ text = raw := by simpa [Step.literal?] using inside
      cases rune with
      | invalid byte => contradiction
      | char c =>
          simp only [feed, feedChar] at fed
          split_ifs at fed with hex
          have unquoted : (.char c : Rune) ≠ .char '"' := by
            rintro ⟨⟩
            exact absurd hex (by decide)
          cases left with
          | zero =>
              cases fed
              exact .inr ⟨_, false, rfl, rfl, fun same => absurd same unquoted, by simp⟩
          | succ left =>
              cases fed
              exact .inr ⟨_, false, rfl, rfl, fun same => absurd same unquoted, by simp⟩
  | _ => simp [Step.literal?] at inside

theorem pop_outside : scan.pop.step.literal? = none := by
  rw [pop]
  simp only
  split <;> rfl

theorem endValue_outside (ended : scan.endValue c = some next) :
    c ∈ followers ∧ next.step.literal? = none := by
  cases endValue_cases ended with
  | blank blank step waits =>
      refine ⟨?_, by rcases waits with rfl | ⟨rfl, _⟩ <;> rfl⟩
      revert blank
      simp +contextual [isBlank, followers, or_imp]
  | colon _ same | member _ same | element same => exact ⟨by simp [same, followers], rfl⟩
  | close closes => exact ⟨by rcases closes with same | same <;> simp [same, followers], pop_outside⟩

theorem beginValue_outside (outside : scan.step.literal? = none) (other : c ≠ '"')
    (begun : scan.beginValue c = some next) : next.step.literal? = none := by
  cases beginValue_cases begun with
  | blank same => exact same ▸ outside
  | object pushed | array pushed =>
      rw [push] at pushed
      split_ifs at pushed
      exact Option.some.inj pushed ▸ rfl
  | string quote _ => exact absurd quote other
  | minus _ same | zero _ same | digit _ _ same | literal _ same => exact same ▸ rfl

theorem beginString_outside (outside : scan.step.literal? = none) (other : c ≠ '"')
    (begun : scan.beginString c = some next) : next.step.literal? = none := by
  rw [beginString, if_neg other] at begun
  split_ifs at begun
  exact Option.some.inj begun ▸ outside

theorem endValue_quote : scan.endValue '"' = none := by
  cases ended : scan.endValue '"' with
  | none => rfl
  | some next => exact absurd (endValue_outside ended).1 (by decide)

/-- Outside of a literal a quote, and nothing else, begins one. -/
theorem feed_outside (outside : scan.step.literal? = none) (fed : scan.feed rune = some next) :
    rune = .char '"' ∧ next = { scan with step := .inString [] } ∨
      rune ≠ .char '"' ∧ next.step.literal? = none := by
  obtain ⟨step, stack, key, members, top⟩ := scan
  cases rune with
  | invalid byte =>
      cases step with
      | inString raw => simp [Step.literal?] at outside
      | _ => contradiction
  | char c =>
      by_cases quote : c = '"'
      · subst quote
        refine .inl ⟨rfl, ?_⟩
        cases step with
        | beginValue | beginValueOrEmpty | beginString | beginStringOrEmpty =>
            exact (Option.some.inj fed).symm
        | endTop => contradiction
        | endValue => simp [feed, feedChar, endValue_quote] at fed
        | number place raw =>
            have stops : place.next '"' = none := by cases place <;> rfl
            simp [feed, feedChar, stops, endValue_quote] at fed
        | literal place => cases place <;> contradiction
        | inString raw | inStringEsc raw | inStringEscU left raw => simp [Step.literal?] at outside
      · refine .inr ⟨fun same => quote (Rune.char.inj same), ?_⟩
        simp only [feed, feedChar] at fed
        cases step with
        | beginValue => exact beginValue_outside outside quote fed
        | beginValueOrEmpty =>
            simp only at fed
            split_ifs at fed
            · exact Option.some.inj fed ▸ pop_outside
            · exact beginValue_outside outside quote fed
        | beginString => exact beginString_outside outside quote fed
        | beginStringOrEmpty =>
            simp only at fed
            split_ifs at fed
            · exact Option.some.inj fed ▸ pop_outside
            · exact beginString_outside outside quote fed
        | endTop =>
            simp only at fed
            split_ifs at fed
            exact Option.some.inj fed ▸ rfl
        | endValue => exact (endValue_outside fed).2
        | number place raw =>
            simp only at fed
            split at fed
            · exact Option.some.inj fed ▸ rfl
            · split_ifs at fed
              exact (endValue_outside fed).2
        | literal place =>
            simp only at fed
            split_ifs at fed
            split at fed <;> exact Option.some.inj fed ▸ rfl
        | inString raw | inStringEsc raw | inStringEscU left raw => simp [Step.literal?] at outside

theorem closeString_moved (scan : Scan) (step : Step) (raw : Text) :
    ({ scan with step } : Scan).closeString raw = scan.closeString raw := by
  obtain ⟨_, stack, key, members, top⟩ := scan
  rcases stack with _ | ⟨frame, _ | ⟨second, below⟩⟩
  · rfl
  · cases frame <;> rfl
  · cases frame <;> rfl

theorem closeString_fields (scan : Scan) (raw : Text) :
    (scan.closeString raw).step = .endValue ∧ (scan.closeString raw).stack = scan.stack := by
  obtain ⟨_, stack, key, members, top⟩ := scan
  rcases stack with _ | ⟨frame, _ | ⟨second, below⟩⟩
  · exact ⟨rfl, rfl⟩
  · cases frame <;> exact ⟨rfl, rfl⟩
  · cases frame <;> exact ⟨rfl, rfl⟩

end Scan

/-! A whole literal. -/

/-- A literal that is begun is closed, and of all its quotes only the last one is not escaped. -/
theorem literal_closed (inside : scan.step.literal? = some (escaped, raw))
    (read : s.foldlM Scan.feed scan = some last) (outside : last.step.literal? = none) :
    ∃ body after, s = body ++ .char '"' :: after ∧ QuotesEscaped escaped body ∧
      after.foldlM Scan.feed (scan.closeString (raw ++ body)) = some last ∧
      keysFrom scan s = (if isKey scan.stack = true then [(raw ++ body, after)] else []) ++
        keysFrom (scan.closeString (raw ++ body)) after := by
  induction s generalizing scan raw escaped with
  | nil =>
      cases read
      simp [inside] at outside
  | cons rune s ih =>
      rw [List.foldlM_cons] at read
      obtain ⟨next, fed, later⟩ := Option.bind_eq_some_iff.mp read
      rcases Scan.feed_literal inside fed with
        ⟨rfl, step, rfl⟩ | ⟨step, goes, rfl, within, quote, backslash⟩
      · exact ⟨[], s, rfl, trivial, by simpa using later, by simp [keysFrom, step, fed]⟩
      · obtain ⟨body, after, rfl, guarded, rest, listed⟩ := ih within later
        rw [Scan.closeString_moved, List.append_assoc, List.singleton_append] at rest listed
        refine ⟨rune :: body, after, rfl, ⟨quote, ?_⟩, rest, ?_⟩
        · cases goes with
          | false => exact guarded.weaken _
          | true => simpa [backslash rfl] using guarded
        · rw [keysFrom, fed]
          simp only [listed]
          split
          · next text step =>
              rw [step] at inside
              cases inside
              rw [if_neg fun ended => absurd (quote ended.1) (by decide)]
              rfl
          · rfl

theorem followed (ended : scan.step = .endValue) (read : s.foldlM Scan.feed scan = some last) :
    s = [] ∨ ∃ c rest, s = .char c :: rest ∧ c ∈ followers := by
  cases s with
  | nil => exact .inl rfl
  | cons rune rest =>
      obtain ⟨next, fed, _⟩ := Option.bind_eq_some_iff.mp ((List.foldlM_cons ..).symm.trans read)
      cases rune with
      | invalid byte => simp [Scan.feed, ended] at fed
      | char c =>
          rw [Scan.feed, Scan.feedChar, ended] at fed
          exact .inr ⟨c, rest, rfl, (Scan.endValue_outside fed).1⟩

/-- A document that is read to its end is not left inside of a literal. -/
theorem scan_read {document : Text} (accepted : (Json.scan document).isSome = true) :
    ∃ last, document.foldlM Scan.feed {} = some last ∧ last.step.literal? = none := by
  obtain ⟨result, found⟩ := Option.isSome_iff_exists.mp accepted
  obtain ⟨last, read, rest⟩ := Option.bind_eq_some_iff.mp found
  obtain ⟨ended, fed, checked⟩ := Option.bind_eq_some_iff.mp rest
  refine ⟨last, read, ?_⟩
  cases inside : last.step.literal? with
  | none => rfl
  | some literal =>
      split_ifs at checked with finished
      rcases Scan.feed_literal inside (show last.feed (.char ' ') = some ended from fed) with
        ⟨quote, _⟩ | ⟨step, later, rfl, within, _⟩
      · exact absurd quote (by decide)
      · simp only at finished
        simp [finished, Step.literal?] at within

/-! The keys of a text that is read in pieces. -/

theorem keysFrom_append {w : Text} (read : w.foldlM Scan.feed scan = some next) (s : Text) :
    keysFrom scan (w ++ s) =
      (keysFrom scan w).map (fun key => (key.1, key.2 ++ s)) ++ keysFrom next s := by
  induction w generalizing scan with
  | nil =>
      cases read
      rfl
  | cons rune w ih =>
      obtain ⟨middle, fed, later⟩ := Option.bind_eq_some_iff.mp ((List.foldlM_cons ..).symm.trans read)
      rw [List.cons_append, keysFrom, keysFrom, fed]
      simp only [ih later, List.map_append, List.append_assoc]
      split
      · split_ifs <;> rfl
      · rfl

theorem keysFrom_plain {w : Text} (inside : scan.step = .inString raw)
    (plain : ∀ rune ∈ w, isPlain rune = true) : keysFrom scan w = [] := by
  induction w generalizing scan raw with
  | nil => rfl
  | cons rune w ih =>
      have here := plain rune List.mem_cons_self
      have fed : scan.feed rune = some { scan with step := .inString (raw ++ [rune]) } := by
        simpa using Scan.feed_plain inside (w := [rune]) (by simpa using here)
      have unquoted : rune ≠ .char '"' := by
        rintro rfl
        exact absurd here (by decide)
      have rest : keysFrom { scan with step := .inString (raw ++ [rune]) } w = [] :=
        ih rfl fun other member => plain other (List.mem_cons_of_mem _ member)
      rw [keysFrom, fed]
      simp [inside, unquoted, rest]

end Json
