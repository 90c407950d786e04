import SyncthingSocket.DeviceIDText

/-!
Slips of the pen in a Device ID. The check digits are there to tell a mistyped ID from
that of another device, which would otherwise be pinned, dialled or authorized in its
place.
-/

namespace SyncthingSocket

open Framing

theorem codepoint32_letter {b : UInt8} (valid : codepoint32 b ≠ -1) : b ∈ Base32.alphabet := by
  have every : ∀ n : Fin 256, codepoint32 (UInt8.ofNat n.val) ≠ -1 →
      UInt8.ofNat n.val ∈ Base32.alphabet := by
    decide +kernel
  have here := every ⟨b.toNat, b.toNat_lt⟩
  rw [UInt8.ofNat_toNat] at here
  exact here valid

variable {left right s : Bytes} {id : DeviceID} {l old : UInt8} {unicode : UpperCase} {verbs : Verbs}

theorem luhnSum_ok {factor sum result : Int}
    (summed : luhnSum verbs factor sum s = .ok result) : ∀ b ∈ s, b ∈ Base32.alphabet := by
  induction s generalizing factor sum with
  | nil => simp
  | cons b s ih =>
      rw [luhnSum] at summed
      split at summed
      · cases summed
      · next valid =>
          intro other member
          rcases List.mem_cons.mp member with rfl | member
          · exact codepoint32_letter valid
          · exact ih summed other member

theorem luhn32_ok (checked : luhn32 verbs s = .ok l) :
    (∀ b ∈ s, b ∈ Base32.alphabet) ∧ l ∈ Base32.alphabet ∧
      (codepoint32 l : ZMod 32) + WeightedSum.total luhnWeight 0 s = 0 := by
  cases summed : luhnSum verbs 1 0 s with
  | error err =>
      rw [luhn32, summed] at checked
      cases checked
  | ok sum =>
      have letters := luhnSum_ok summed
      exact ⟨letters, luhn32_unique verbs letters checked⟩

theorem total_eq_of_luhn32 {other : Bytes} (checked : luhn32 verbs s = .ok l)
    (also : luhn32 verbs other = .ok l) :
    WeightedSum.total luhnWeight 0 s = WeightedSum.total luhnWeight 0 other :=
  add_left_cancel ((luhn32_ok checked).2.2.trans (luhn32_ok also).2.2.symm)

theorem luhn32_replaced {new : UInt8} (checked : luhn32 verbs (left ++ old :: right) = .ok l)
    (also : luhn32 verbs (left ++ new :: right) = .ok l) :
    old = new := by
  have weights := (WeightedSum.total_replaced_iff luhnWeight 0 left right new old).mp
    (total_eq_of_luhn32 checked also)
  exact luhnWeight_injective _ ((luhn32_ok checked).1 old (by simp))
    ((luhn32_ok also).1 new (by simp)) weights

theorem Checked.group (checked : Checked verbs s) {i : Nat} (bound : i < 56) :
    ∃ l, luhn32 verbs ((s.drop (i / 14 * 14)).take 13) = .ok l ∧ s[i / 14 * 14 + 13]? = some l := by
  obtain ⟨l, ran, here⟩ := checked (i / 14) (by omega)
  exact ⟨l, ran, by rw [← here]; congr 1; omega⟩

theorem Checked.letters (checked : Checked verbs s) (length : s.length = 56) :
    ∀ b ∈ s, b ∈ Base32.alphabet := by
  intro b member
  obtain ⟨i, bound, rfl⟩ := List.getElem_of_mem member
  obtain ⟨l, ran, here⟩ := checked.group (length ▸ bound)
  by_cases last : i % 14 = 13
  · rw [show i / 14 * 14 + 13 = i by omega, List.getElem?_eq_getElem bound, Option.some.injEq] at here
    rw [here]
    exact (luhn32_ok ran).2.1
  · refine (luhn32_ok ran).1 _ (List.mem_of_getElem? (i := i % 14) ?_)
    rw [List.getElem?_take_of_lt (by omega), List.getElem?_drop, show i / 14 * 14 + i % 14 = i by omega,
      List.getElem?_eq_getElem bound]

theorem Checked.replaced {new : UInt8} (checked : Checked verbs (left ++ old :: right))
    (also : Checked verbs (left ++ new :: right)) (bound : left.length < 56) : old = new := by
  obtain ⟨l, ran, here⟩ := checked.group bound
  obtain ⟨m, ranAlso, hereAlso⟩ := also.group bound
  generalize start : left.length / 14 * 14 = first at *
  have split : ∀ b, (left ++ b :: right).drop first = left.drop first ++ b :: right :=
    fun b => List.drop_append_of_le_length (by omega)
  rw [split] at ran ranAlso
  have size : (left.drop first).length = left.length % 14 := by
    rw [List.length_drop]
    omega
  by_cases last : left.length % 14 = 13
  · have front : ∀ b, (left.drop first ++ b :: right).take 13 = left.drop first := by
      intro b
      rw [List.take_append_of_le_length (by omega), List.take_of_length_le (by omega)]
    have place : ∀ b, (left ++ b :: right)[first + 13]? = some b := by
      intro b
      rw [show first + 13 = left.length by omega]
      simp
    rw [front] at ran ranAlso
    rw [place] at here hereAlso
    rw [ran] at ranAlso
    cases ranAlso
    exact Option.some.inj (here.trans hereAlso.symm)
  · have front : ∀ b, (left.drop first ++ b :: right).take 13 =
        left.drop first ++ b :: right.take (12 - left.length % 14) := by
      intro b
      rw [List.take_append, List.take_of_length_le (by omega), size,
        show 13 - left.length % 14 = (12 - left.length % 14) + 1 by omega, List.take_succ_cons]
    have place : ∀ b, (left ++ b :: right)[first + 13]? = right[first + 12 - left.length]? := by
      intro b
      rw [List.getElem?_append_right (by omega),
        show first + 13 - left.length = (first + 12 - left.length) + 1 by omega, List.getElem?_cons_succ]
    rw [front] at ran ranAlso
    rw [place] at here hereAlso
    rw [here] at hereAlso
    cases hereAlso
    exact luhn32_replaced ran ranAlso

/-! The text that was typed. -/

theorem Respelled.tidy_letters (unicode : UpperCase) {typed : Text}
    (respelled : Respelled (characters s) typed) (letters : ∀ b ∈ s, b ∈ Base32.alphabet) :
    (∀ rune ∈ typed, rune ≠ .char '=') ∧
      ((typed.map (tidyRune unicode)).filter fun c => c ≠ '-' ∧ c ≠ ' ') = characters s := by
  have known : ∀ c ∈ characters s, isPrinted c ∧ c ≠ '-' := by
    intro c member
    obtain ⟨b, inside, rfl⟩ := List.mem_map.mp member
    have spelled :=
      tidyRune_spelled unicode (letters b inside) (w := Char.ofNat b.toNat) (by simp [spellings])
    exact ⟨Or.inr ⟨b, letters b inside, rfl⟩, spelled.2.2.1⟩
  obtain ⟨unpadded, tidy⟩ := respelled.tidy unicode fun c member => (known c member).1
  exact ⟨unpadded, tidy.trans (List.filter_eq_self.mpr fun c member => by simpa using (known c member).2)⟩

theorem trimFunc_one {left right : Text} (unpaddedLeft : ∀ rune ∈ left, rune ≠ .char '=')
    (unpaddedRight : ∀ rune ∈ right, rune ≠ .char '=') (typed : Rune) :
    Text.trimFunc (· = .char '=') (left ++ typed :: right) = left ++ typed :: right ∨
      Text.trimFunc (· = .char '=') (left ++ typed :: right) = left ++ right := by
  by_cases pad : typed = .char '='
  · cases left with
    | nil =>
        refine Or.inr ?_
        rw [List.nil_append, Text.trimFunc_cons (by simp [pad]), trimFunc_unpadded unpaddedRight,
          List.nil_append]
    | cons rune left =>
        cases right using List.reverseRecOn with
        | nil =>
            refine Or.inr ?_
            rw [Text.trimFunc_concat (by simp [pad]), trimFunc_unpadded unpaddedLeft, List.append_nil]
        | append_singleton right last _ =>
            refine Or.inl (Text.trimFunc_self ?_ ?_)
            · intro first here
              cases here
              simpa using unpaddedLeft rune List.mem_cons_self
            · intro final here
              have ends : rune :: left ++ typed :: (right ++ [last]) =
                  (rune :: left ++ typed :: right) ++ [last] := by
                simp
              rw [ends, List.getLast?_concat] at here
              cases here
              simpa using unpaddedRight last (by simp)
  · refine Or.inl (trimFunc_unpadded ?_)
    intro rune member
    rcases List.mem_append.mp member with early | later
    · exact unpaddedLeft rune early
    · rcases List.mem_cons.mp later with rfl | later
      · exact pad
      · exact unpaddedRight rune later

theorem tidy_one (unicode : UpperCase) {before after : Text}
    (lettersLeft : ∀ b ∈ left, b ∈ Base32.alphabet)
    (lettersRight : ∀ b ∈ right, b ∈ Base32.alphabet) (start : Respelled (characters left) before)
    (rest : Respelled (characters right) after) (typed : Rune) :
    ∃ kept : Option Char, tidyDeviceID unicode (before ++ typed :: after) =
      characters left ++ (kept.toList ++ characters right) := by
  obtain ⟨unpaddedLeft, tidyLeft⟩ := start.tidy_letters unicode lettersLeft
  obtain ⟨unpaddedRight, tidyRight⟩ := rest.tidy_letters unicode lettersRight
  rw [tidyDeviceID_eq]
  rcases trimFunc_one unpaddedLeft unpaddedRight typed with whole | trimmed
  · rw [whole, List.map_append, List.filter_append, tidyLeft, List.map_cons, List.filter_cons, tidyRight]
    split
    · exact ⟨some _, rfl⟩
    · exact ⟨none, rfl⟩
  · rw [trimmed, List.map_append, List.filter_append, tidyLeft, tidyRight]
    exact ⟨none, rfl⟩

theorem utf8_append (s t : List Char) :
    Json.utf8 (s ++ t) = Json.utf8 s ++ Json.utf8 t := List.flatMap_append

theorem checked_of_accepted {s : Text} (accepted : deviceIDFromString verbs unicode s = .ok id)
    (atLeast : 55 ≤ (Json.utf8 (tidyDeviceID unicode s)).length) :
    (Json.utf8 (tidyDeviceID unicode s)).length = 56 ∧
      Checked verbs (Json.utf8 (tidyDeviceID unicode s)) := by
  rw [deviceIDFromString] at accepted
  rw [if_neg (by omega)] at accepted
  split at accepted
  · next length =>
      refine ⟨length, ?_⟩
      cases unguarded : unluhnify verbs (tidyDeviceID unicode s) with
      | error err =>
          rw [unguarded] at accepted
          cases accepted
      | ok digits => exact checked_of_unluhnify unguarded
  · rw [if_neg (by omega)] at accepted
    cases accepted

theorem characters_split {left right : List Char} {c : Char}
    (split : characters s = left ++ c :: right) :
    ∃ front b back, s = front ++ b :: back ∧ left = characters front ∧ right = characters back := by
  obtain ⟨front, rest, rfl, rfl, ends⟩ := List.map_eq_append_iff.mp split
  obtain ⟨b, back, rfl, rfl, rfl⟩ := List.map_eq_cons_iff.mp ends
  exact ⟨front, b, back, rfl, rfl, rfl⟩

theorem one_slip_same {other : DeviceID} {before after : Text}
    (guarded : Guarded verbs (Base32.digits id.toList) (left ++ old :: right))
    (start : Respelled (characters left) before) (rest : Respelled (characters right) after)
    (typed : Rune)
    (accepted : deviceIDFromString verbs unicode (before ++ typed :: after) = .ok other) :
    other = id := by
  have lettersLeft : ∀ b ∈ left, b ∈ Base32.alphabet :=
    fun b member => guarded.letters b (by simp [member])
  have lettersRight : ∀ b ∈ right, b ∈ Base32.alphabet :=
    fun b member => guarded.letters b (by simp [member])
  obtain ⟨kept, tidy⟩ := tidy_one unicode lettersLeft lettersRight start rest typed
  have bytes : Json.utf8 (tidyDeviceID unicode (before ++ typed :: after)) =
      left ++ (Json.utf8 kept.toList ++ right) := by
    rw [tidy, utf8_append, utf8_append, utf8_letters lettersLeft, utf8_letters lettersRight]
  have length : left.length + right.length = 55 := by simpa [← Nat.add_assoc] using guarded.length
  have enough : 55 ≤ (left ++ (Json.utf8 kept.toList ++ right)).length := by
    simp only [List.length_append]
    omega
  obtain ⟨size, checked⟩ := checked_of_accepted accepted (by rw [bytes]; exact enough)
  have one : (Json.utf8 kept.toList).length = 1 := by
    rw [bytes] at size
    simp only [List.length_append] at size
    omega
  obtain ⟨new, single⟩ := List.length_eq_one_iff.mp one
  rw [single, List.singleton_append] at bytes
  rw [bytes] at checked
  have same := guarded.checked.replaced checked (by omega)
  rw [← same] at bytes
  have read := deviceIDFromString_guarded guarded bytes
  rw [accepted] at read
  exact Except.ok.inj read

/-- A Device ID typed with one wrong character, whatever it is and in whatever spelling the
rest is, is never taken for another device's. -/
theorem mistyped_deviceID_never_another (verbs : Verbs) (unicode : UpperCase) (id : DeviceID)
    (nonempty : id ≠ emptyDeviceID) :
    ∃ printed letters, deviceIDString verbs id = .ok printed ∧ letters = printed.filter (· ≠ '-') ∧
      letters.length = 56 ∧
      ∀ left right old before typed after other, letters = left ++ old :: right → Respelled left before →
        Respelled right after → deviceIDFromString verbs unicode (before ++ typed :: after) = .ok other →
          other = id := by
  obtain ⟨s, printed, guarded⟩ := deviceIDString_guarded verbs nonempty
  refine ⟨_, characters s, printed, (chunkify_letters guarded.letters guarded.length).2.symm, ?_, ?_⟩
  · rw [characters, List.length_map, guarded.length]
  · intro left right old before typed after other split start rest accepted
    obtain ⟨front, b, back, rfl, rfl, rfl⟩ := characters_split split
    exact one_slip_same guarded start rest typed accepted

def endsID : DeviceID := copyDeviceID [0x07, 0xc0]

def endsRest : String := "AAAAAAAAAAABAAAAAAAAAAAAAAAAAAAAAAAAAAAAAAAAAAAAAAAAAA"

theorem one_slip_refused : endsID ≠ emptyDeviceID ∧
    ∀ other, deviceIDFromString plainVerbs asciiCase (text ("c7-" ++ endsRest)) = .ok other →
      other = endsID := by
  have nonempty : endsID ≠ emptyDeviceID := by decide
  have known : deviceIDString plainVerbs endsID =
      .ok "A7AAAAA-AAAAAAB-AAAAAAA-AAAAAAA-AAAAAAA-AAAAAAA-AAAAAAA-AAAAAAA".toList := by decide +kernel
  obtain ⟨printed, letters, ran, undashed, _, slips⟩ :=
    mistyped_deviceID_never_another plainVerbs asciiCase endsID nonempty
  rw [known] at ran
  cases ran
  have split : letters = [] ++ 'A' :: ("7" ++ endsRest).toList := by
    rw [undashed]
    decide
  have typed : Respelled ("7" ++ endsRest).toList (text ("7-" ++ endsRest)) :=
    .letter (by decide) (.separated '-' (.inl rfl) (.self _))
  exact ⟨nonempty, fun other accepted => slips [] _ 'A' [] (.char 'c') _ other split .nil typed accepted⟩

end SyncthingSocket
