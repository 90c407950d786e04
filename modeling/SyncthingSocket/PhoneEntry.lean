import SyncthingSocket.DeviceIDSlips
import SyncthingSocket.PhoneActivity

/-!
Pairing by hand: what the app makes of a Device ID that somebody types, and which device
the library finds in what the app keeps of it.
-/

namespace SyncthingSocket

/-- `Char.isWhitespace` of Kotlin, on ASCII. -/
def asciiBlank (c : Char) : Bool := (9 ≤ c.toNat && c.toNat ≤ 13) || (28 ≤ c.toNat && c.toNat ≤ 32)

def codeUnits (s : List Char) : List UInt16 := s.map codeUnit

structure KotlinText.Standard (kotlin : KotlinText) : Prop where
  whitespace : ∀ c : Char, c.toNat < 128 → kotlin.isWhitespace (codeUnit c) = asciiBlank c
  upper : ∀ s : List Char, (∀ c ∈ s, c.toNat < 128) →
    kotlin.uppercase (codeUnits s) = codeUnits (s.map Char.toUpper)

def misread : List Char := ['0', '1', '8', ' ', '=']

/-- What the app takes for a Device ID, of what the library reads as one. -/
def Entered (typed : List Char) : Prop :=
  (∀ c ∈ typed, c ∉ misread) ∧ (typed.filter (· ≠ '-')).length = 56

/-! Single characters. -/

variable {c : Char} {s : List Char}

theorem ascii_forall (holds : Char → Bool)
    (all : (List.range 128).all (fun n => holds (Char.ofNat n)) = true) (ascii : c.toNat < 128) :
    holds c = true := by
  have here := List.all_eq_true.mp all c.toNat (List.mem_range.mpr ascii)
  rwa [Char.ofNat_toNat] at here

theorem toUpper_ascii (ascii : c.toNat < 128) : c.toUpper.toNat < 128 :=
  of_decide_eq_true (ascii_forall (fun c => decide (c.toUpper.toNat < 128)) (by decide) ascii)

theorem toUpper_blank (ascii : c.toNat < 128) : asciiBlank c.toUpper = asciiBlank c :=
  eq_of_beq (ascii_forall (fun c => asciiBlank c.toUpper == asciiBlank c) (by decide) ascii)

theorem toUpper_misread (known : c ∈ misread) : c.toUpper = c := by
  have each : ∀ c ∈ misread, c.toUpper = c := List.all_iff_forall_prop.mp (by decide)
  exact each c known

theorem toUpper_clear (ascii : c.toNat < 128) (clear : c ∉ misread) :
    untypeo c.toUpper = c.toUpper ∧ c.toUpper.toUpper = c.toUpper ∧ c.toUpper ∉ misread := by
  have here := ascii_forall (fun c => decide (c ∉ misread → untypeo c.toUpper = c.toUpper ∧
    c.toUpper.toUpper = c.toUpper ∧ c.toUpper ∉ misread)) (by decide) ascii
  exact of_decide_eq_true here clear

theorem toUpper_dash (ascii : c.toNat < 128) : c.toUpper = '-' ↔ c = '-' := by
  have here := ascii_forall (fun c => decide (c.toUpper = '-' ↔ c = '-')) (by decide) ascii
  exact of_decide_eq_true here

theorem codeUnit_dash (ascii : c.toNat < 128) : codeUnit c = codeUnit '-' ↔ c = '-' := by
  have here := ascii_forall (fun c => decide (codeUnit c = codeUnit '-' ↔ c = '-')) (by decide) ascii
  exact of_decide_eq_true here

/-! What the library makes of it. -/

theorem tidyDeviceID_ascii (unicode : UpperCase) (ascii : ∀ c ∈ s, c.toNat < 128)
    (clear : ∀ c ∈ s, c ∉ misread) :
    tidyDeviceID unicode (runes s) = (s.map Char.toUpper).filter (· ≠ '-') := by
  have unpadded : ∀ rune ∈ runes s, rune ≠ .char '=' := by
    rintro _ member rfl
    obtain ⟨c, here, same⟩ := List.mem_map.mp member
    exact clear c here (by rw [Rune.char.inj same]; decide)
  have upper : (runes s).map (tidyRune unicode) = s.map Char.toUpper := by
    rw [runes, List.map_map]
    refine List.map_congr_left fun c member => ?_
    rw [Function.comp_apply, tidyRune, unicode.ascii c (ascii c member)]
    exact (toUpper_clear (ascii c member) (clear c member)).1
  rw [tidyDeviceID_unpadded unicode unpadded, upper]
  refine List.filter_congr fun c member => ?_
  obtain ⟨w, here, rfl⟩ := List.mem_map.mp member
  have solid : w.toUpper ≠ ' ' := fun same =>
    (toUpper_clear (ascii w here) (clear w here)).2.2 (by rw [same]; decide)
  simp [solid]

theorem tidyDeviceID_upper (unicode : UpperCase) (ascii : ∀ c ∈ s, c.toNat < 128)
    (clear : ∀ c ∈ s, c ∉ misread) :
    tidyDeviceID unicode (runes (s.map Char.toUpper)) = tidyDeviceID unicode (runes s) := by
  have twice : (s.map Char.toUpper).map Char.toUpper = s.map Char.toUpper := by
    rw [List.map_map]
    exact List.map_congr_left fun c member => (toUpper_clear (ascii c member) (clear c member)).2.1
  rw [tidyDeviceID_ascii unicode ascii clear, tidyDeviceID_ascii unicode, twice]
  · exact List.forall_mem_map.mpr fun c member => toUpper_ascii (ascii c member)
  · exact List.forall_mem_map.mpr fun c member => (toUpper_clear (ascii c member) (clear c member)).2.2

theorem letters_upper (ascii : ∀ c ∈ s, c.toNat < 128) :
    ((s.map Char.toUpper).filter (· ≠ '-')).length = (s.filter (· ≠ '-')).length := by
  rw [List.filter_map, List.length_map]
  congr 1
  exact List.filter_congr fun c member => by simp [toUpper_dash (ascii c member)]

/-! What the app does with it. -/

theorem filter_codeUnits (ascii : ∀ c ∈ s, c.toNat < 128) :
    (codeUnits s).filter (· ≠ codeUnit '-') = codeUnits (s.filter (· ≠ '-')) := by
  rw [codeUnits, List.filter_map, codeUnits]
  congr 1
  refine List.filter_congr fun c member => ?_
  simp [codeUnit_dash (ascii c member)]

theorem looksLikeDeviceId_misread (ascii : ∀ c ∈ s, c.toNat < 128) (member : c ∈ s)
    (wrong : c ∈ misread) : looksLikeDeviceId (codeUnits s) = false := by
  have each : ∀ c ∈ misread, c ≠ '-' ∧ ((codeUnit 'A' ≤ codeUnit c && codeUnit c ≤ codeUnit 'Z') ||
      (codeUnit '2' ≤ codeUnit c && codeUnit c ≤ codeUnit '7')) = false :=
        List.all_iff_forall_prop.mp (by decide)
  rw [looksLikeDeviceId, filter_codeUnits ascii]
  refine Bool.and_eq_false_iff.mpr (.inr (List.all_eq_false.mpr ⟨codeUnit c, ?_, ?_⟩))
  · exact List.mem_map_of_mem (List.mem_filter.mpr ⟨member, by simp [(each c wrong).1]⟩)
  · rw [(each c wrong).2]
    exact Bool.false_ne_true

theorem looksLikeDeviceId_iff {verbs : Verbs} {unicode : UpperCase} {id : DeviceID}
    (ascii : ∀ c ∈ s, c.toNat < 128) (read : deviceIDFromString verbs unicode (runes s) = .ok id) :
    looksLikeDeviceId (codeUnits (s.map Char.toUpper)) = true ↔ Entered s := by
  have capitals : ∀ c ∈ s.map Char.toUpper, c.toNat < 128 :=
    List.forall_mem_map.mpr fun c member => toUpper_ascii (ascii c member)
  constructor
  · intro looks
    refine ⟨fun c member wrong => ?_, ?_⟩
    · have refused := looksLikeDeviceId_misread capitals
        (List.mem_map.mpr ⟨c, member, toUpper_misread wrong⟩) wrong
      simp [refused] at looks
    · rw [looksLikeDeviceId, filter_codeUnits capitals, Bool.and_eq_true] at looks
      rw [← letters_upper ascii]
      simpa [codeUnits] using looks.1
  · rintro ⟨clear, length⟩
    have tidy := tidyDeviceID_ascii unicode ascii clear
    have bytes := @Json.utf8_ascii ((s.map Char.toUpper).filter (· ≠ '-'))
      fun c member => capitals c (List.mem_of_mem_filter member)
    rw [← letters_upper ascii] at length
    obtain ⟨size, checked⟩ := checked_of_accepted read (by rw [tidy, bytes, List.length_map]; omega)
    rw [tidy, bytes] at size checked
    rw [looksLikeDeviceId, filter_codeUnits capitals, Bool.and_eq_true]
    refine ⟨by simpa [codeUnits] using length, ?_⟩
    rw [codeUnits, List.all_map, List.all_eq_true]
    intro c member
    have letter := checked.letters size _ (List.mem_map_of_mem member)
    have range := ascii_forall (fun c => decide (Json.octetOf c ∈ Base32.alphabet →
      ((codeUnit 'A' ≤ codeUnit c && codeUnit c ≤ codeUnit 'Z') ||
        (codeUnit '2' ≤ codeUnit c && codeUnit c ≤ codeUnit '7')) = true)) (by decide)
      (capitals c (List.mem_of_mem_filter member))
    exact of_decide_eq_true range letter

theorem KotlinText.trim_padded (kotlin : KotlinText) {before s after : List UInt16}
    (blank : ∀ c ∈ before ++ after, kotlin.isWhitespace c = true)
    (first : ∀ c, s.head? = some c → kotlin.isWhitespace c = false)
    (last : ∀ c, s.getLast? = some c → kotlin.isWhitespace c = false) (nonempty : s ≠ []) :
    kotlin.trim (before ++ s ++ after) = s := by
  have starts : (before ++ s ++ after).dropWhile kotlin.isWhitespace = s ++ after := by
    rw [List.append_assoc,
      List.dropWhile_append_of_pos fun c member => blank c (List.mem_append_left _ member)]
    cases s with
    | nil => exact absurd rfl nonempty
    | cons c rest => rw [List.cons_append, List.dropWhile_cons_of_neg (by simp [first c rfl])]
  have ends : (after.reverse ++ s.reverse).dropWhile kotlin.isWhitespace = s.reverse := by
    rw [List.dropWhile_append_of_pos fun c member => blank c
      (List.mem_append_right _ (List.mem_reverse.mp member))]
    cases reversed : s.reverse with
    | nil => rfl
    | cons c rest =>
        refine List.dropWhile_cons_of_neg ?_
        simp [last c (by rw [← List.head?_reverse, reversed]; rfl)]
  rw [KotlinText.trim, starts, List.reverse_append, ends, List.reverse_reverse]

theorem KotlinText.Standard.clean {kotlin : KotlinText} (standard : kotlin.Standard)
    {before typed after : List Char} (blank : ∀ c ∈ before ++ after, asciiBlank c = true)
    (ascii : ∀ c ∈ typed, c.toNat < 128)
    (first : ∀ c, typed.head? = some c → asciiBlank c = false)
    (last : ∀ c, typed.getLast? = some c → asciiBlank c = false) (nonempty : typed ≠ []) :
    kotlin.uppercase (kotlin.trim (codeUnits (before ++ typed ++ after))) =
      codeUnits (typed.map Char.toUpper) ∧
      kotlin.isBlank (codeUnits (typed.map Char.toUpper)) = false := by
  have blankAscii : ∀ c : Char, asciiBlank c = true → c.toNat < 128 := by
    intro c here
    simp only [asciiBlank, Bool.or_eq_true, Bool.and_eq_true, decide_eq_true_eq] at here
    omega
  have trimmed : kotlin.trim (codeUnits (before ++ typed ++ after)) = codeUnits typed := by
    rw [codeUnits, List.map_append, List.map_append]
    refine kotlin.trim_padded ?_ ?_ ?_ (by simpa [codeUnits] using nonempty)
    · intro unit member
      rw [← List.map_append] at member
      obtain ⟨c, listed, rfl⟩ := List.mem_map.mp member
      rw [standard.whitespace c (blankAscii c (blank c listed)), blank c listed]
    · intro unit here
      rw [List.head?_map] at here
      obtain ⟨c, same, rfl⟩ := Option.map_eq_some_iff.mp here
      rw [standard.whitespace c (ascii c (List.mem_of_mem_head? same)), first c same]
    · intro unit here
      rw [List.getLast?_map] at here
      obtain ⟨c, same, rfl⟩ := Option.map_eq_some_iff.mp here
      rw [standard.whitespace c (ascii c (List.mem_of_getLast? same)), last c same]
  refine ⟨by rw [trimmed, standard.upper typed ascii], ?_⟩
  cases typed with
  | nil => exact absurd rfl nonempty
  | cons c rest =>
      have small := ascii c List.mem_cons_self
      have solid : kotlin.isWhitespace (codeUnit c.toUpper) = false := by
        rw [standard.whitespace _ (toUpper_ascii small), toUpper_blank small, first c rfl]
      simp [KotlinText.isBlank, codeUnits, solid]

theorem Activity.onManualEntry_given {kotlin : KotlinText} (activity : Activity)
    {passphrase seed deviceId cleanId : List UInt16}
    (passphraseGiven : kotlin.isBlank passphrase = false)
    (seedGiven : kotlin.isBlank seed = false)
    (clean : kotlin.uppercase (kotlin.trim deviceId) = cleanId)
    (full : kotlin.isBlank cleanId = false) :
    activity.onManualEntry kotlin passphrase seed deviceId =
      if looksLikeDeviceId cleanId then activity.storePairing ⟨passphrase, kotlin.trim seed, cleanId⟩
      else { activity with notice := some .enrollBadDeviceId } := by
  subst clean
  rw [onManualEntry]
  simp only [passphraseGiven, seedGiven, full, Bool.or_self, Bool.false_eq_true, if_false]
  cases looksLikeDeviceId (kotlin.uppercase (kotlin.trim deviceId)) <;> rfl

/-- Of the texts that the library reads as a Device ID, the app asks to store those of
56 letters in which no digit stands for a letter and no blank or padding is left, and
what it stores names the same device; the others it refuses. -/
theorem typed_id_names_device {kotlin : KotlinText} (standard : kotlin.Standard) (verbs : Verbs)
    (unicode : UpperCase) {id : DeviceID} {before typed after : List Char}
    (blank : ∀ c ∈ before ++ after, asciiBlank c = true) (ascii : ∀ c ∈ typed, c.toNat < 128)
    (first : ∀ c, typed.head? = some c → asciiBlank c = false)
    (last : ∀ c, typed.getLast? = some c → asciiBlank c = false) (nonempty : typed ≠ [])
    (read : deviceIDFromString verbs unicode (runes typed) = .ok id) (activity : Activity)
    {passphrase seed : List UInt16} (passphraseGiven : kotlin.isBlank passphrase = false)
    (seedGiven : kotlin.isBlank seed = false) :
    (Entered typed →
      activity.onManualEntry kotlin passphrase seed (codeUnits (before ++ typed ++ after)) =
        activity.storePairing ⟨passphrase, kotlin.trim seed, codeUnits (typed.map Char.toUpper)⟩ ∧
      deviceIDFromString verbs unicode (runes (typed.map Char.toUpper)) = .ok id) ∧
    (¬ Entered typed →
      activity.onManualEntry kotlin passphrase seed (codeUnits (before ++ typed ++ after)) =
        { activity with notice := some .enrollBadDeviceId }) := by
  obtain ⟨clean, full⟩ := standard.clean blank ascii first last nonempty
  have looks := looksLikeDeviceId_iff ascii read
  rw [activity.onManualEntry_given passphraseGiven seedGiven clean full]
  refine ⟨fun entered => ⟨if_pos (looks.mpr entered), ?_⟩,
    fun other => if_neg fun here => other (looks.mp here)⟩
  exact deviceIDFromString_tidy read (tidyDeviceID_upper unicode ascii entered.1)

theorem asciiKotlin_standard : asciiKotlin.Standard where
  whitespace c ascii :=
    eq_of_beq (ascii_forall (fun c => asciiKotlin.isWhitespace (codeUnit c) == asciiBlank c)
      (by decide) ascii)
  upper s ascii := by
    have each : ∀ c ∈ s, asciiUpper (codeUnit c) = codeUnit c.toUpper := fun c member =>
      eq_of_beq (ascii_forall (fun c => asciiUpper (codeUnit c) == codeUnit c.toUpper) (by decide)
        (ascii c member))
    rw [codeUnits, codeUnits, List.map_map]
    exact (List.map_map).trans (List.map_congr_left each)

def typedID : List Char := "a7aaaaa-aaaaaabAAAAAAAAAAAAAAAAAAAAA-AAAAAAA-AAAAAAA-AAAAAAA".toList

def undigitedID : List Char := "A7AAAAAAAAAAAAAAAAAAAAAAAAAAAAAAAAAAAAAAAAAAAAAAAAAA".toList

theorem sample_id_stored :
    Activity.unlockingPhone.onManualEntry asciiKotlin [112] [115]
      (codeUnits ([' '] ++ typedID ++ ['\n'])) =
      Activity.unlockingPhone.storePairing ⟨[112], [115], codeUnits (typedID.map Char.toUpper)⟩ ∧
    Activity.unlockingPhone.onManualEntry asciiKotlin [112] [115] (codeUnits ([] ++ undigitedID ++ [])) =
      { Activity.unlockingPhone with notice := some .enrollBadDeviceId } := by
  have ends : ∀ typed : List Char, (∀ c ∈ typed, c.toNat < 128 ∧ asciiBlank c = false) →
      (∀ c ∈ typed, c.toNat < 128) ∧ (∀ c, typed.head? = some c → asciiBlank c = false) ∧
      ∀ c, typed.getLast? = some c → asciiBlank c = false := fun typed plain =>
    ⟨fun c member => (plain c member).1, fun c first => (plain c (List.mem_of_mem_head? first)).2,
      fun c last => (plain c (List.mem_of_getLast? last)).2⟩
  obtain ⟨ascii, first, last⟩ := ends typedID (List.all_iff_forall_prop.mp (by decide))
  obtain ⟨asciiOld, firstOld, lastOld⟩ := ends undigitedID (List.all_iff_forall_prop.mp (by decide))
  have read : deviceIDFromString plainVerbs asciiCase (runes typedID) = .ok endsID := by decide +kernel
  have readOld : deviceIDFromString plainVerbs asciiCase (runes undigitedID) = .ok endsID := by
    decide +kernel
  refine ⟨((typed_id_names_device asciiKotlin_standard plainVerbs asciiCase
    (List.all_eq_true.mp (by decide)) ascii
    first last (by decide) read Activity.unlockingPhone (by decide) (by decide)).1 ?_).1,
    (typed_id_names_device asciiKotlin_standard plainVerbs asciiCase
      (by simp) asciiOld firstOld lastOld (by decide)
      readOld Activity.unlockingPhone (by decide) (by decide)).2 ?_⟩
  · exact ⟨List.all_iff_forall_prop.mp (by decide), by decide⟩
  · rintro ⟨_, length⟩
    exact absurd length (by decide)

end SyncthingSocket
