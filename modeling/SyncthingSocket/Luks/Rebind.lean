import SyncthingSocket.Luks.Bind
import SyncthingSocket.Sequence.Occurs

/-!
Binding a device that may be bound already: `syncthing-luks-bind` removes the tokens
it takes for its own from the LUKS2 header, one `cryptsetup token remove` at a time,
and then imports the new document.
-/

namespace SyncthingSocket

open Json

/-! The header. -/

/-- A token as `cryptsetup` shows it: its type, and its document as `token export`
prints it, on one line and with the type in it. -/
structure Token where
  type : Text
  document : Text
  shows_type : (∀ rune ∈ type, isPlain rune = true) →
    text "\"type\":\"" ++ type ++ text "\"" <:+: document

structure Header where
  slot : Nat → Option Token
  bounded : ∀ id, 32 ≤ id → slot id = none

def Text.contains (s part : Text) : Bool := Sequence.occurs s part

/-- The pattern by which both scripts recognise a token of ours, with anything before,
between and after the two words. -/
def mentionsType (document : Text) : Bool :=
  document.tails.any fun tail =>
    (text "\"type\"").isPrefixOf tail && Text.contains (tail.drop 6) (text "\"syncthing-socket\"")

namespace Header

@[ext] theorem ext {left right : Header} (same : ∀ id, left.slot id = right.slot id) :
    left = right := by
  cases left
  cases right
  congr
  exact funext same

theorem remove_bounded (header : Header) (id other : Nat) (beyond : 32 ≤ other) :
    (if other = id then none else header.slot other) = none := by
  split
  · rfl
  · exact header.bounded other beyond

theorem insert_bounded (header : Header) (id : Nat) (token : Token) (other : Nat)
    (beyond : 32 ≤ other) :
    (if other = id ∧ id < 32 then some token else header.slot other) = none := by
  split
  · omega
  · exact header.bounded other beyond

def remove (header : Header) (id : Nat) : Header :=
  ⟨fun other => if other = id then none else header.slot other, header.remove_bounded id⟩

def insert (header : Header) (id : Nat) (token : Token) : Header :=
  ⟨fun other => if other = id ∧ id < 32 then some token else header.slot other,
    header.insert_bounded id token⟩

def mentions (header : Header) (id : Nat) : Bool :=
  (header.slot id).any fun token => mentionsType token.document

theorem mentions_stored {header : Header} {id : Nat} (mentions : header.mentions id = true) :
    ∃ token, header.slot id = some token ∧ mentionsType token.document = true := by
  rw [Header.mentions, Option.any_eq_true] at mentions
  exact mentions

theorem mentions_lt {header : Header} {id : Nat} (mentions : header.mentions id = true) :
    id < 32 := by
  obtain ⟨token, stored, _⟩ := mentions_stored mentions
  by_contra beyond
  rw [header.bounded id (by omega)] at stored
  simp at stored

/-- The ids and types that `cryptsetup luksDump` lists. -/
def dump (header : Header) : List (Nat × Text) :=
  (List.range 32).filterMap fun id => (header.slot id).map fun token => (id, token.type)

end Header

/-! The script. Its calls of `cryptsetup isLuks`, `mktemp`, `chmod`, `token remove` and
`token import` can fail, and a failing one leaves the header as it is. -/

structure Faults where
  notLuks : Bool
  mktempFails : Bool
  chmodFails : Bool
  removeFails : Nat → Bool
  importFails : Bool

/-- The loop over the token ids. An error is the end of the script under `set -e`. -/
def removeFrom (faults : Faults) : Nat → Nat → Header → Except Header Header
  | 0, _, header => .ok header
  | left + 1, id, header =>
      match header.slot id with
      | none => removeFrom faults left (id + 1) header
      | some token =>
          if mentionsType token.document then
            if faults.removeFails id then .error header
            else removeFrom faults left (id + 1) (header.remove id)
          else removeFrom faults left (id + 1) header

/-- `cryptsetup token import`, which takes the lowest free id. What token it makes of a
document, if any, is `reads`. -/
def importToken (reads : Text → Option Token) (faults : Faults) (document : Text)
    (header : Header) :
    Except Header Header :=
  if faults.importFails then .error header
  else
    match reads document, (List.range 32).find? fun id => (header.slot id).isNone with
    | some token, some id => .ok (header.insert id token)
    | _, _ => .error header

def syncthingLuksBind (reads : Text → Option Token) (faults : Faults) (args : List Text)
    (header : Header) :
    Except Header Header :=
  match bindRequest args with
  | none => .error header
  | some request =>
      if faults.notLuks || faults.mktempFails || faults.chmodFails then .error header
      else removeFrom faults 32 0 header >>= importToken reads faults request.document

/-! The header without the tokens that the pattern matches. -/

theorem Header.without_bounded (header : Header) (first stop other : Nat) (beyond : 32 ≤ other) :
    (if first ≤ other ∧ other < stop ∧
      header.mentions other = true then none else header.slot other) = none := by
  split
  · rfl
  · exact header.bounded other beyond

def Header.without (header : Header) (first stop : Nat) : Header :=
  ⟨fun other => if first ≤ other ∧ other < stop ∧
    header.mentions other = true then none else header.slot other,
    header.without_bounded first stop⟩

theorem Header.without_eq_iff (header : Header) (first stop : Nat) :
    header.without first stop = header ↔
      ∀ id, first ≤ id → id < stop → header.mentions id = false := by
  constructor
  · intro same id lower upper
    by_contra matched
    have matched : header.mentions id = true := by simpa using matched
    obtain ⟨token, stored, _⟩ := mentions_stored matched
    have cleared : (header.without first stop).slot id = none := if_pos ⟨lower, upper, matched⟩
    rw [same, stored] at cleared
    simp at cleared
  · intro unmatched
    apply Header.ext
    intro id
    refine if_neg ?_
    rintro ⟨lower, upper, matched⟩
    simp [unmatched id lower upper] at matched

variable {header : Header} {first stop : Nat} {id : Nat} {token : Token}

theorem Header.without_next (unmatched : header.mentions first = false) :
    header.without (first + 1) stop = header.without first stop := by
  apply Header.ext
  intro id
  have range : (first + 1 ≤ id ∧ id < stop ∧ header.mentions id = true) ↔
      (first ≤ id ∧ id < stop ∧ header.mentions id = true) := by
    constructor
    · rintro ⟨lower, upper, matched⟩
      exact ⟨by omega, upper, matched⟩
    · rintro ⟨lower, upper, matched⟩
      refine ⟨?_, upper, matched⟩
      by_contra early
      obtain rfl : id = first := by omega
      simp [unmatched] at matched
  simp only [without, range]

theorem Header.mentions_remove {id other : Nat} (different : other ≠ id) :
    (header.remove id).mentions other = header.mentions other := by
  simp [mentions, remove, different]

theorem Header.without_remove (within : first < stop) (matched : header.mentions first = true) :
    (header.remove first).without (first + 1) stop = header.without first stop := by
  apply Header.ext
  intro id
  by_cases same : id = first
  · subst same
    have left : (header.without id stop).slot id = none := if_pos ⟨Nat.le_refl _, within, matched⟩
    have right : ((header.remove id).without (id + 1) stop).slot id = none := by
      simp [without, remove]
    rw [left, right]
  · have range : first + 1 ≤ id ↔ first ≤ id := by omega
    simp only [without, mentions_remove same, range]
    simp [remove, same]

/-- How the loop ends: with all matching tokens gone, or at the first one whose removal
fails. -/
inductive Swept (faults : Faults) (header : Header) (first stop : Nat) : Except Header Header → Prop
  | done : (∀ id, first ≤ id → id < stop → header.mentions id = true → faults.removeFails id = false) →
      Swept faults header first stop (.ok (header.without first stop))
  | stopped (id : Nat) : first ≤ id → id < stop → header.mentions id = true →
    faults.removeFails id = true →
      (∀ earlier, first ≤ earlier → earlier < id → header.mentions earlier = true →
        faults.removeFails earlier = false) →
      Swept faults header first stop (.error (header.without first id))

theorem Swept.skip {faults : Faults}
    {result : Except Header Header} (unmatched : header.mentions first = false)
    (swept : Swept faults header (first + 1) stop result) :
    Swept faults header first stop result := by
  have later {id : Nat} (lower : first ≤ id) (matched : header.mentions id = true) : first + 1 ≤ id := by
    by_contra early
    obtain rfl : id = first := by omega
    simp [unmatched] at matched
  cases swept with
  | done succeeds =>
      rw [Header.without_next unmatched]
      exact .done fun id lower upper matched => succeeds id (later lower matched) upper matched
  | stopped id lower upper matched fails succeeds =>
      rw [Header.without_next unmatched]
      refine .stopped id (by omega) upper matched fails ?_
      intro earlier lower upper matched
      exact succeeds earlier (later lower matched) upper matched

theorem Swept.removed {faults : Faults} {result : Except Header Header} (within : first < stop)
    (matched : header.mentions first = true) (removable : faults.removeFails first = false)
    (swept : Swept faults (header.remove first) (first + 1) stop result) :
    Swept faults header first stop result := by
  have later {id : Nat} (lower : first ≤ id) (different : id ≠ first)
    (mentioned : header.mentions id = true) :
      first + 1 ≤ id ∧ (header.remove first).mentions id = true := by
    rw [Header.mentions_remove different]
    exact ⟨by omega, mentioned⟩
  cases swept with
  | done succeeds =>
      rw [Header.without_remove within matched]
      refine .done ?_
      intro id lower upper mentioned
      by_cases same : id = first
      · rw [same]
        exact removable
      · obtain ⟨beyond, mentioned⟩ := later lower same mentioned
        exact succeeds id beyond upper mentioned
  | stopped id lower upper mentioned fails succeeds =>
      rw [Header.mentions_remove (by omega)] at mentioned
      rw [Header.without_remove (by omega) matched]
      refine .stopped id (by omega) upper mentioned fails ?_
      intro earlier lower upper mentioned
      by_cases same : earlier = first
      · rw [same]
        exact removable
      · obtain ⟨beyond, mentioned⟩ := later lower same mentioned
        exact succeeds earlier beyond upper mentioned

theorem removeFrom_swept (faults : Faults) (left first : Nat) (header : Header) :
    Swept faults header first (first + left) (removeFrom faults left first header) := by
  induction left generalizing first header with
  | zero =>
      have same : header.without first first = header :=
        (header.without_eq_iff first first).mpr fun id lower upper => by omega
      have done : Swept faults header first first (.ok (header.without first first)) :=
        .done fun id lower upper => by omega
      rw [same] at done
      exact done
  | succ left ih =>
      have rest (header : Header) : Swept faults header (first + 1) (first + (left + 1))
          (removeFrom faults left (first + 1) header) := by
        have swept := ih (first + 1) header
        rwa [show first + 1 + left = first + (left + 1) by omega] at swept
      rw [removeFrom]
      cases stored : header.slot first with
      | none =>
          have unmatched : header.mentions first = false := by simp [Header.mentions, stored]
          exact (rest header).skip unmatched
      | some token =>
          simp only
          have matched : header.mentions first = mentionsType token.document := by
            simp [Header.mentions, stored]
          split
          · next mentioned =>
              rw [mentioned] at matched
              split
              · next fails =>
                  have same : header.without first first = header :=
                    (header.without_eq_iff first first).mpr fun id lower upper => by omega
                  have stopped : Swept faults header first (first + (left + 1))
                    (.error (header.without first first)) :=
                    .stopped first (Nat.le_refl _) (by omega) matched fails fun earlier lower
                      upper => by omega
                  rw [same] at stopped
                  exact stopped
              · next removable =>
                  exact (rest (header.remove first)).removed (by omega) matched (by simpa using removable)
          · next other =>
              have unmatched : header.mentions first = false := by rw [matched]; simpa using other
              exact (rest header).skip unmatched

/-! The import. -/

inductive Imported (reads : Text → Option Token) (faults : Faults) (document : Text) (header : Header) :
    Except Header Header → Prop
  | done (id : Nat) (token : Token) : faults.importFails = false → reads document = some token → id < 32 →
      header.slot id = none → Imported reads faults document header (.ok (header.insert id token))
  | failed : faults.importFails = true ∨ reads document = none ∨ (∀ id, id < 32 → header.slot id ≠ none) →
      Imported reads faults document header (.error header)

theorem importToken_imported (reads : Text → Option Token) (faults : Faults) (document : Text)
    (header : Header) :
    Imported reads faults document header (importToken reads faults document header) := by
  rw [importToken]
  split
  · next fails => exact .failed (Or.inl fails)
  · next works =>
      cases accepted : reads document with
      | none => exact .failed (Or.inr (Or.inl accepted))
      | some token =>
          cases found : (List.range 32).find? fun id => (header.slot id).isNone with
          | none =>
              refine .failed (Or.inr (Or.inr ?_))
              intro id bound free
              have taken := List.find?_eq_none.mp found id (List.mem_range.mpr bound)
              simp [free] at taken
          | some id =>
              have free : (header.slot id).isNone = true := by simpa using List.find?_some found
              have bound : id < 32 := List.mem_range.mp (List.mem_of_find?_eq_some found)
              exact .done id token (by simpa using works) accepted bound
                (Option.isNone_iff_eq_none.mp free)

/-! Replacing. -/

theorem mentionsType_of_type (ours : token.type = luksTokenType) :
    mentionsType token.document = true := by
  have plain : ∀ rune ∈ luksTokenType, isPlain rune = true := by decide
  have shown := token.shows_type
  rw [ours] at shown
  obtain ⟨before, after, same⟩ := shown plain
  rw [mentionsType, List.any_eq_true]
  refine ⟨text "\"type\":\"" ++ luksTokenType ++ text "\"" ++ after, ?_, ?_⟩
  · rw [List.mem_tails]
    exact ⟨before, by rw [← same]; simp only [List.append_assoc]⟩
  · rw [Bool.and_eq_true]
    refine ⟨rfl, ?_⟩
    rw [Text.contains, Sequence.occurs_iff]
    exact ⟨[.char ':'], after, rfl⟩

/-- The outcome that the script is for: every token of another type stays, and the new
one is the only one of ours; or nothing changes. -/
def Replaced (reads : Text → Option Token) (args : List Text) (before : Header) :
    Except Header Header → Prop
  | .error after => after = before
  | .ok after =>
      (∀ id token, before.slot id = some token → token.type ≠ luksTokenType →
        after.slot id = some token) ∧
      ∃ request id token, bindRequest args = some request ∧ reads request.document = some token ∧
        token.type = luksTokenType ∧ after.slot id = some token ∧
        ∀ other found, after.slot other = some found → found.type = luksTokenType → other = id

def FailsAtOnce (reads : Text → Option Token) (faults : Faults) (document : Text)
    (before : Header) : Prop :=
  (∃ id, before.mentions id = true ∧ faults.removeFails id = true ∧
    ∀ earlier, earlier < id → before.mentions earlier = false) ∨
  (∀ id, before.mentions id = false) ∧
    (faults.importFails = true ∨ reads document = none ∨ ∀ id, id < 32 → before.slot id ≠ none)

/-- Nothing fails, the pattern matches no token of another type, and the new document
is read as one of ours. -/
def BindsCleanly (reads : Text → Option Token) (faults : Faults) (document : Text)
    (before : Header) : Prop :=
  (∀ id, before.mentions id = true → faults.removeFails id = false ∧
    ∀ token, before.slot id = some token → token.type = luksTokenType) ∧
  faults.importFails = false ∧ (∃ token, reads document = some token ∧ token.type = luksTokenType) ∧
  ∃ id, id < 32 ∧ (before.slot id = none ∨ before.mentions id = true)

section

variable {reads : Text → Option Token} {faults : Faults} {args : List Text}
  {request : BindRequest} {before : Header}

theorem Header.without_slot_none (bound : id < 32) :
    (before.without 0 32).slot id = none ↔ before.slot id = none ∨ before.mentions id = true := by
  simp only [without, Nat.zero_le, bound, true_and, ite_eq_left_iff]
  constructor
  · intro cleared
    by_cases matched : before.mentions id = true
    · exact Or.inr matched
    · exact Or.inl (cleared matched)
  · rintro (free | matched) unmatched
    · exact free
    · exact absurd matched unmatched

theorem Header.without_slot_some (stored : (before.without 0 32).slot id = some token) :
    before.slot id = some token ∧ before.mentions id = false := by
  have bound : id < 32 := by
    by_contra beyond
    rw [(before.without 0 32).bounded id (by omega)] at stored
    simp at stored
  cases matched : before.mentions id with
  | true =>
      rw [(without_slot_none bound).mpr (Or.inr matched)] at stored
      simp at stored
  | false =>
      simp only [without, matched, Bool.false_eq_true, and_false, ↓reduceIte] at stored
      exact ⟨stored, rfl⟩

theorem stopped_iff (matched : before.mentions id = true) (fails : faults.removeFails id = true)
    (succeeds : ∀ earlier, 0 ≤ earlier → earlier < id → before.mentions earlier = true →
      faults.removeFails earlier = false) :
    Replaced reads args before (.error (before.without 0 id)) ↔
      FailsAtOnce reads faults request.document before ∨
        BindsCleanly reads faults request.document before := by
  rw [Replaced, Header.without_eq_iff]
  constructor
  · intro unmatched
    exact Or.inl
      (Or.inl ⟨id, matched, fails, fun earlier upper => unmatched earlier (Nat.zero_le _) upper⟩)
  · rintro ((⟨first, mentioned, breaks, none⟩ | ⟨none, _⟩) | ⟨removable, _⟩) earlier lower upper
    · have same : first = id := by
        rcases Nat.lt_trichotomy first id with less | same | more
        · simp [succeeds first (Nat.zero_le _) less mentioned] at breaks
        · exact same
        · simp [none id more] at matched
      exact none earlier (same ▸ upper)
    · exact none earlier
    · simp [(removable id matched).1] at fails

theorem import_failed_iff
    (removable : ∀ id, 0 ≤ id → id < 32 → before.mentions id = true → faults.removeFails id = false)
    (why : faults.importFails = true ∨ reads request.document = none ∨
      ∀ id, id < 32 → (before.without 0 32).slot id ≠ none) :
    Replaced reads args before (.error (before.without 0 32)) ↔
      FailsAtOnce reads faults request.document before ∨
        BindsCleanly reads faults request.document before := by
  constructor
  · intro same
    have same : before.without 0 32 = before := same
    have unmatched := (before.without_eq_iff 0 32).mp same
    rw [same] at why
    refine Or.inl (Or.inr ⟨?_, why⟩)
    intro id
    by_contra matched
    have matched : before.mentions id = true := by simpa using matched
    rw [unmatched id (Nat.zero_le _) (Header.mentions_lt matched)] at matched
    simp at matched
  · rintro ((⟨first, matched, fails, _⟩ | ⟨unmatched, _⟩) | ⟨_, works, ⟨token, accepted, _⟩,
      free, bound, room⟩)
    · simp [removable first (Nat.zero_le _) (Header.mentions_lt matched) matched] at fails
    · exact (before.without_eq_iff 0 32).mpr fun id _ _ => unmatched id
    · rcases why with fails | refused | full
      · simp [works] at fails
      · simp [accepted] at refused
      · exact absurd ((Header.without_slot_none bound).mpr room) (full free bound)

theorem Header.insert_slot_self (bound : id < 32) :
    (header.insert id token).slot id = some token := if_pos ⟨rfl, bound⟩

theorem Header.insert_slot_other {id other : Nat} (different : other ≠ id) :
    (header.insert id token).slot other = header.slot other := if_neg fun same => different same.1

theorem imported_iff (asked : bindRequest args = some request)
    (removable : ∀ id, 0 ≤ id → id < 32 → before.mentions id = true → faults.removeFails id = false)
    (works : faults.importFails = false) (accepted : reads request.document = some token)
    (bound : id < 32) (free : (before.without 0 32).slot id = none) :
    Replaced reads args before (.ok ((before.without 0 32).insert id token)) ↔
      FailsAtOnce reads faults request.document before ∨
        BindsCleanly reads faults request.document before := by
  constructor
  · rintro ⟨kept, given, newId, new, sameRequest, read, ours, _, _⟩
    obtain rfl : request = given := Option.some.inj (asked.symm.trans sameRequest)
    obtain rfl : token = new := Option.some.inj (accepted.symm.trans read)
    refine Or.inr ⟨?_, works, ⟨token, accepted, ours⟩, id, bound,
      (Header.without_slot_none bound).mp free⟩
    intro slot matched
    have within := Header.mentions_lt matched
    refine ⟨removable slot (Nat.zero_le _) within matched, ?_⟩
    intro old stored
    by_contra foreign
    have still := kept slot old stored foreign
    -- the slot has the new token or was emptied; either way a foreign token is gone from it
    by_cases same : slot = id
    · rw [same, Header.insert_slot_self bound] at still
      obtain rfl := Option.some.inj still
      exact foreign ours
    · rw [Header.insert_slot_other same, (Header.without_slot_none within).mpr (Or.inr matched)] at still
      simp at still
  · rintro ((⟨first, matched, fails, _⟩ | ⟨unmatched, why⟩) | ⟨own, _, ⟨new, read, ours⟩, _⟩)
    · simp [removable first (Nat.zero_le _) (Header.mentions_lt matched) matched] at fails
    · rcases why with fails | refused | full
      · simp [works] at fails
      · simp [accepted] at refused
      · rcases (Header.without_slot_none bound).mp free with empty | matched
        · exact absurd empty (full id bound)
        · simp [unmatched id] at matched
    · obtain rfl : token = new := Option.some.inj (accepted.symm.trans read)
      refine ⟨?_, request, id, token, asked, accepted, ours, Header.insert_slot_self bound, ?_⟩
      · intro slot old stored foreign
        have unmatched : before.mentions slot ≠ true :=
          fun matched => foreign ((own slot matched).2 old stored)
        have left : (before.without 0 32).slot slot = some old := by
          simp [Header.without, unmatched, stored]
        -- the import went to a slot that was free
        have different : slot ≠ id := by
          rintro rfl
          simp [free] at left
        rw [Header.insert_slot_other different]
        exact left
      · intro other found stored also
        by_contra different
        rw [Header.insert_slot_other different] at stored
        obtain ⟨old, unmatched⟩ := Header.without_slot_some stored
        have matched : before.mentions other = true := by
          simp [Header.mentions, old, mentionsType_of_type also]
        simp [unmatched] at matched

end

/-- Binding replaces the old configuration or leaves the header alone exactly if it
stops before the loop, fails at its first change, or does all of it on a header where
only tokens of ours mention our type. -/
theorem rebind_atomic_iff (reads : Text → Option Token) (faults : Faults) (args : List Text)
    (before : Header) :
    Replaced reads args before (syncthingLuksBind reads faults args before) ↔
      bindRequest args = none ∨ faults.notLuks = true ∨ faults.mktempFails = true ∨
        faults.chmodFails = true ∨
        ∃ request, bindRequest args = some request ∧ (FailsAtOnce reads faults request.document before ∨
          BindsCleanly reads faults request.document before) := by
  rw [syncthingLuksBind]
  cases asked : bindRequest args with
  | none => simp [Replaced]
  | some request =>
      simp only
      split
      · next early =>
          have stops : faults.notLuks = true ∨ faults.mktempFails = true ∨ faults.chmodFails = true := by
            simpa [or_assoc] using early
          constructor
          · intro _
            rcases stops with stop | stop | stop
            · exact Or.inr (Or.inl stop)
            · exact Or.inr (Or.inr (Or.inl stop))
            · exact Or.inr (Or.inr (Or.inr (Or.inl stop)))
          · intro _
            rfl
      · next going =>
          have going : faults.notLuks = false ∧ faults.mktempFails = false ∧
              faults.chmodFails = false := by
            simpa [and_assoc] using going
          simp only [reduceCtorEq, going, Bool.false_eq_true, false_or, Option.some.injEq,
            exists_eq_left']
          have swept := removeFrom_swept faults 32 0 before
          rw [Nat.zero_add] at swept
          generalize removeFrom faults 32 0 before = loop at swept
          cases swept with
          | stopped id _ _ matched fails succeeds => exact stopped_iff matched fails succeeds
          | done removable =>
              have imported := importToken_imported reads faults request.document (before.without 0 32)
              change Replaced reads args before
                (importToken reads faults request.document (before.without 0 32)) ↔ _
              generalize importToken reads faults request.document (before.without 0 32) =
                result at imported
              cases imported with
              | failed why => exact import_failed_iff removable why
              | done id token works accepted bound free =>
                  exact imported_iff asked removable works accepted bound free

def exitDump : Except Header Header → Bool × List (Nat × Text)
  | .ok header => (true, header.dump)
  | .error header => (false, header.dump)

theorem single_bounded (token : Token) (id : Nat) (beyond : 32 ≤ id) :
    (if id = 0 then some token else none) = none := by
  rw [if_neg (by omega)]

def singleToken (token : Token) : Header :=
  ⟨fun id => if id = 0 then some token else none, single_bounded token⟩

def boundToken : Token where
  type := luksTokenType
  document := bindDocument (text "s") [] (text "client")
  shows_type _ := by decide +kernel

def clevisToken : Token where
  type := text "clevis"
  document := text "\x7b\"type\":\"clevis\",\"keyslots\":[],\"note\":\"syncthing-socket\"\x7d"
  shows_type _ := by decide +kernel

theorem rebind_loses_tokens :
    (singleToken boundToken).dump = [(0, luksTokenType)] ∧
    exitDump (syncthingLuksBind (fun _ => some boundToken) ⟨false, false, false, fun _ => false, true⟩
      [text "/dev/sda2", text "s"] (singleToken boundToken)) = (false, []) ∧
    (singleToken clevisToken).dump = [(0, text "clevis")] ∧
    exitDump (syncthingLuksBind (fun _ => some boundToken) ⟨false, false, false, fun _ => false, false⟩
      [text "/dev/sda2", text "s"] (singleToken clevisToken)) = (true, [(0, luksTokenType)]) := by
  refine ⟨?_, ?_, ?_, ?_⟩ <;> decide +kernel

end SyncthingSocket
