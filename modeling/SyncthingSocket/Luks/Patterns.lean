import SyncthingSocket.Json.Literals
import SyncthingSocket.Luks.Readers

/-!
What `sed` finds in a JSON document: a name that it looks for can only be a key, of any
object in the document, or the end of one behind an escaped quote.
-/

namespace SyncthingSocket

open Json

def Unquoted (w : Text) : Prop := .char '"' ∉ w

/-- A name that `sed` looks for. -/
structure Sought (name : Text) : Prop where
  unquoted : Unquoted name
  unescaped : .char '\\' ∉ name
  starts : ∃ c rest, name = .char c :: rest ∧ c ∉ followers

def fieldNames : List String :=
  ["type", "version", "p2p_key_seed", "key_holder_device_id", "unlock_role"]

theorem sought_field {field : String} (known : field ∈ fieldNames) : Sought (text field) := by
  simp only [fieldNames, List.mem_cons, List.not_mem_nil, or_false] at known
  rcases known with rfl | rfl | rfl | rfl | rfl
  all_goals exact ⟨by unfold Unquoted; decide, by decide, _, _, rfl, by decide⟩

/-- The name is the literal, or what is left of it behind an escaped quote. -/
abbrev EndsAs (name raw : Text) : Prop := .char '"' :: name <:+ .char '"' :: raw

variable {name s w body after : Text} {capture : Text → Option Text}

theorem quoted_prefix_iff (sought : Unquoted name) (unescaped : .char '\\' ∉ name)
    (guarded : QuotesEscaped false body) :
    name ++ [.char '"'] <+: body ++ .char '"' :: s ↔ name = body := by
  constructor
  · intro begins
    induction name generalizing body with
    | nil =>
        cases body with
        | nil => rfl
        | cons first body =>
            obtain ⟨same, _⟩ := List.cons_prefix_cons.mp begins
            exact absurd (guarded.1 same.symm) (by decide)
    | cons rune name ih =>
        cases body with
        | nil =>
            obtain ⟨same, _⟩ := List.cons_prefix_cons.mp begins
            exact absurd (same ▸ List.mem_cons_self) sought
        | cons first body =>
            obtain ⟨rfl, rest⟩ := List.cons_prefix_cons.mp begins
            have plain : rune ≠ .char '\\' := fun same => unescaped (same ▸ List.mem_cons_self)
            rw [ih (fun member => sought (List.mem_cons_of_mem _ member))
              (fun member => unescaped (List.mem_cons_of_mem _ member))
              (by simpa [plain] using guarded.2) rest]
  · rintro rfl
    exact ⟨s, by simp⟩

theorem matchesOf_cons (rune : Rune) (s : Text) :
    matchesOf name capture (rune :: s) =
      ((afterColon name (rune :: s)).bind capture).toList ++ matchesOf name capture s := by
  rw [matchesOf, matchesOf, List.tails_cons, List.filterMap_cons]
  cases (afterColon name (rune :: s)).bind capture with
  | none => rfl
  | some found => rfl

theorem afterColon_other {rune : Rune} (other : rune ≠ .char '"') (s : Text) :
    afterColon name (rune :: s) = none := by
  refine if_neg ?_
  intro begins
  exact other (List.cons_prefix_cons.mp (List.isPrefixOf_iff_prefix.mp begins)).1.symm

theorem matchesOf_other {rune : Rune} (other : rune ≠ .char '"') (s : Text) :
    matchesOf name capture (rune :: s) = matchesOf name capture s := by
  rw [matchesOf_cons, afterColon_other other]
  rfl

theorem afterColon_quote (sought : Sought name) (guarded : QuotesEscaped false body) (s : Text) :
    afterColon name (.char '"' :: (body ++ .char '"' :: s)) =
      if name = body then skipColon s else none := by
  have begins : (.char '"' :: (name ++ [.char '"'])).isPrefixOf
      (.char '"' :: (body ++ .char '"' :: s)) = true ↔ name = body := by
    rw [List.isPrefixOf_iff_prefix, List.cons_prefix_cons,
      quoted_prefix_iff sought.unquoted sought.unescaped guarded]
    exact and_iff_right rfl
  rw [afterColon]
  by_cases same : name = body
  · rw [if_pos (begins.mpr same), if_pos same]
    have dropped : (Rune.char '"' :: (body ++ .char '"' :: s)).drop (name.length + 2) = s := by
      rw [same]
      simp
    rw [dropped]
  · rw [if_neg fun found => same (begins.mp found), if_neg same]

/-- The closing quote of a literal begins no match. -/
theorem matchesOf_closed (sought : Sought name)
    (follows : after = [] ∨ ∃ c rest, after = .char c :: rest ∧ c ∈ followers) :
    matchesOf name capture (.char '"' :: after) = matchesOf name capture after := by
  have none : afterColon name (.char '"' :: after) = none := by
    refine if_neg ?_
    intro begins
    obtain ⟨c, rest, rfl, other⟩ := sought.starts
    have later := (List.cons_prefix_cons.mp (List.isPrefixOf_iff_prefix.mp begins)).2
    rcases follows with rfl | ⟨d, rest, rfl, follower⟩
    · simp at later
    · have same : c = d := Rune.char.inj (List.cons_prefix_cons.mp later).1
      exact other (same ▸ follower)
  rw [matchesOf_cons, none]
  rfl

theorem matchesOf_body (sought : Sought name) {escaped : Bool} (guarded : QuotesEscaped escaped body)
    (follows : after = [] ∨ ∃ c rest, after = .char c :: rest ∧ c ∈ followers) :
    matchesOf name capture (body ++ .char '"' :: after) =
      (if .char '"' :: name <:+ body then (skipColon after).bind capture else none).toList ++
        matchesOf name capture after := by
  induction body generalizing escaped with
  | nil => simpa using matchesOf_closed sought follows
  | cons rune body ih =>
      have rest := ih guarded.2
      by_cases quote : rune = .char '"'
      · subst quote
        have inner : QuotesEscaped false body := by simpa using guarded.2
        rw [List.cons_append, matchesOf_cons, afterColon_quote sought inner, rest]
        by_cases same : name = body
        · subst same
          have outside : ¬ .char '"' :: name <:+ name :=
            fun within => sought.unquoted (within.subset List.mem_cons_self)
          simp [outside]
        · simp [List.suffix_cons_iff, same]
      · have other : ¬ (.char '"' :: name = rune :: body) := fun same => quote (List.cons.inj same).1.symm
        rw [List.cons_append, matchesOf_other quote, rest]
        simp [List.suffix_cons_iff, other]

theorem matchesOf_literal (sought : Sought name) (guarded : QuotesEscaped false body)
    (follows : after = [] ∨ ∃ c rest, after = .char c :: rest ∧ c ∈ followers) :
    matchesOf name capture (.char '"' :: (body ++ .char '"' :: after)) =
      (if EndsAs name body then (skipColon after).bind capture else none).toList ++
        matchesOf name capture after := by
  have whole : QuotesEscaped true (.char '"' :: body) := ⟨fun _ => rfl, by simpa using guarded⟩
  exact matchesOf_body sought whole follows

/-! A whole document. -/

variable {scan last : Scan}

theorem skipColon_blank {c : Char} (blank : isBlank c = true) (s : Text) :
    skipColon (.char c :: s) = skipColon s := by
  have skipped : skipSpace (.char c :: s) = skipSpace s := by
    refine List.dropWhile_cons_of_pos ?_
    revert blank
    simp +contextual [isBlank, text, or_imp]
  rw [skipColon, skipColon, skipped]

/-- No colon follows a literal that is not a key. -/
theorem skipColon_value (waits : scan.step = .endValue ∨ scan.step = .endTop)
    (value : isKey scan.stack = false) (read : s.foldlM Scan.feed scan = some last) :
    skipColon s = none := by
  induction s generalizing scan with
  | nil => rfl
  | cons rune s ih =>
      obtain ⟨next, fed, later⟩ := Option.bind_eq_some_iff.mp ((List.foldlM_cons ..).symm.trans read)
      cases rune with
      | invalid byte => rcases waits with step | step <;> simp [Scan.feed, step] at fed
      | char c =>
          rw [Scan.feed, Scan.feedChar] at fed
          rcases waits with step | step
          · rw [step] at fed
            cases Scan.endValue_cases fed with
            | blank blank step waits =>
                rw [skipColon_blank blank]
                refine ih ?_ ?_ later
                · exact waits.imp id And.left
                · exact value
            | colon stack => simp [stack, isKey] at value
            | member _ comma | element comma => rw [comma]; rfl
            | close closes => rcases closes with rfl | rfl <;> rfl
          · simp only [step] at fed
            split_ifs at fed with blank
            cases fed
            rw [skipColon_blank blank]
            exact ih (.inr step) value later

def taken (name : Text) (capture : Text → Option Text) (key : Text × Text) : Option Text :=
  if EndsAs name key.1 then (skipColon key.2).bind capture else none

theorem matchesOf_keysFrom (sought : Sought name) (read : s.foldlM Scan.feed scan = some last)
    (ends : last.step.literal? = none) (outside : scan.step.literal? = none) :
    matchesOf name capture s = (keysFrom scan s).filterMap (taken name capture) := by
  -- A literal is passed over in one step, so the induction is on the length that is left.
  induction length : s.length using Nat.strong_induction_on generalizing s scan with
  | h size ih =>
      cases s with
      | nil => rfl
      | cons rune s =>
          obtain ⟨next, fed, later⟩ := Option.bind_eq_some_iff.mp ((List.foldlM_cons ..).symm.trans read)
          have unnamed : keysFrom scan (rune :: s) = keysFrom next s := by
            rw [keysFrom, fed]
            split
            · next raw step => simp [step, Step.literal?] at outside
            · rfl
          rcases Scan.feed_outside outside fed with ⟨rfl, rfl⟩ | ⟨other, outside⟩
          · obtain ⟨body, after, rfl, guarded, rest, listed⟩ := literal_closed rfl later ends
            rw [Scan.closeString_moved, List.nil_append] at rest listed
            obtain ⟨step, stack⟩ := scan.closeString_fields body
            rw [unnamed, listed, matchesOf_literal sought guarded (followed step rest),
              List.filterMap_append,
              ← ih after.length (by simp at length; omega) rest (by simp [step, Step.literal?]) rfl]
            congr 1
            cases key : isKey scan.stack with
            | true =>
                change (taken name capture (body, after)).toList = List.filterMap _ [(body, after)]
                rw [List.filterMap_cons]
                cases taken name capture (body, after) <;> rfl
            | false =>
                rw [skipColon_value (.inl step) (stack ▸ key) rest]
                simp
          · rw [unnamed, matchesOf_other other]
            exact ih s.length (by simp at length; omega) later outside rfl

/-- The last key counts that ends as the name and has a value of the right kind. -/
theorem sed_keys (sought : Sought name) {document : Text}
    (accepted : (Json.scan document).isSome = true) :
    sed name capture document = ((keys document).filterMap (taken name capture)).getLast?.getD [] := by
  obtain ⟨last, read, ends⟩ := scan_read accepted
  rw [sed, matchesOf_keysFrom sought read ends rfl, keys]

end SyncthingSocket
