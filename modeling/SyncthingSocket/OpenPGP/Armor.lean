import SyncthingSocket.Bits.Base64
import SyncthingSocket.Lines
import SyncthingSocket.OpenPGP.Crc24
import SyncthingSocket.OpenPGP.Integer

/-!
`armor` of `openpgp_key.go`: Base64 in lines of 64 characters with a checksum, between a
BEGIN and an END line.
-/

namespace SyncthingSocket

open Framing OpenPGP Effect Effect.Program

/-- A program that writes texts to an `io.Writer`, each of which may fail. -/
abbrev Printing (α : Type) := Program Text (fun _ => Option Err) α

abbrev PrintLog := History fun _ : Text => Option Err

def fprint (s : Text) : Printing (Option Err) := Program.perform s

def b64 (i : UInt32) : Char := Base64.alphabet.getD i.toNat '='

/-- What the loop of `encode` writes for the `n` bytes in `buf`. -/
def encodeQuantum (buf0 buf1 buf2 : UInt8) (n : Nat) : List Char :=
  let v := buf0.toUInt32 <<< 16 ||| buf1.toUInt32 <<< 8 ||| buf2.toUInt32
  [b64 ((v >>> 18) &&& 0x3F), b64 ((v >>> 12) &&& 0x3F),
    if n > 1 then b64 ((v >>> 6) &&& 0x3F) else '=',
    if n > 2 then b64 (v &&& 0x3F) else '=']

/-- The closure `encode`, three bytes at a time. -/
def armorEncode : Bytes → List Char
  | [] => []
  | [a] => encodeQuantum a 0 0 1
  | [a, b] => encodeQuantum a b 0 2
  | a :: b :: c :: rest => encodeQuantum a b c 3 ++ armorEncode rest

/-- The slices `body[i:end]` of the loop over the lines. -/
def bodyLines : Nat → List Char → List (List Char)
  | 0, _ => []
  | fuel + 1, body => if body = [] then [] else body.take 64 :: bodyLines fuel (body.drop 64)

def printLines : List Text → Printing (Option Err)
  | [] => return none
  | line :: rest => do
      match ← fprint (line ++ text "\n") with
      | some err => return some err
      | none => printLines rest

def armor (blockType : Text) (data : Bytes) : Printing (Option Err) := do
  let body := armorEncode data
  match ← fprint (text "-----BEGIN " ++ blockType ++ text "-----\n\n") with
  | some err => return some err
  | none =>
      match ← printLines ((bodyLines body.length body).map fun line => line.map Rune.char) with
      | some err => return some err
      | none =>
          let c := crc24 data
          let sum := [(c >>> 16).toUInt8, (c >>> 8).toUInt8, c.toUInt8]
          fprint (text "=" ++ (armorEncode sum).map Rune.char ++ text "\n-----END " ++ blockType ++ text "-----\n")

/-! Base64. -/

theorem quantum_value (a b c : UInt8) :
    (a.toUInt32 <<< 16 ||| b.toUInt32 <<< 8 ||| c.toUInt32).toNat =
      a.toNat * 65536 + b.toNat * 256 + c.toNat := by
  have smallA := a.toNat_lt
  have smallB := b.toNat_lt
  have smallC := c.toNat_lt
  have high : (a.toUInt32 <<< 16).toNat = a.toNat <<< 16 := by
    rw [UInt32.toNat_shiftLeft, UInt8.toNat_toUInt32, show (16 : UInt32).toNat % 32 = 16 from rfl,
      Nat.shiftLeft_eq]
    omega
  have middle : (b.toUInt32 <<< 8).toNat = b.toNat <<< 8 := by
    rw [UInt32.toNat_shiftLeft, UInt8.toNat_toUInt32, show (8 : UInt32).toNat % 32 = 8 from rfl,
      Nat.shiftLeft_eq]
    omega
  have lower : b.toNat <<< 8 ||| c.toNat = b.toNat <<< 8 + c.toNat :=
    (Nat.shiftLeft_add_eq_or_of_lt smallC b.toNat).symm
  have upper : a.toNat <<< 16 ||| (b.toNat <<< 8 + c.toNat) =
      a.toNat <<< 16 + (b.toNat <<< 8 + c.toNat) := by
    refine (Nat.shiftLeft_add_eq_or_of_lt ?_ a.toNat).symm
    rw [Nat.shiftLeft_eq]
    omega
  rw [UInt32.toNat_or, UInt32.toNat_or, high, middle, UInt8.toNat_toUInt32, Nat.or_assoc, lower, upper,
    Nat.shiftLeft_eq, Nat.shiftLeft_eq]
  omega

theorem b64_shifted (v : UInt32) (count : UInt32) :
    b64 ((v >>> count) &&& 0x3F) = Base64.character (v.toNat / 2 ^ (count.toNat % 32) % 64) := by
  rw [b64, Base64.character, UInt32.toNat_and, UInt32.toNat_shiftRight, Nat.shiftRight_eq_div_pow,
    show (0x3F : UInt32).toNat = 2 ^ 6 - 1 from rfl, Nat.and_two_pow_sub_one_eq_mod]

theorem b64_low (v : UInt32) : b64 (v &&& 0x3F) = Base64.character (v.toNat % 64) := by
  rw [b64, Base64.character, UInt32.toNat_and, show (0x3F : UInt32).toNat = 2 ^ 6 - 1 from rfl,
    Nat.and_two_pow_sub_one_eq_mod]

theorem encodeQuantum_eq (a b c : UInt8) (n : Nat) :
    encodeQuantum a b c n =
      [Base64.character (a.toNat / 4), Base64.character (a.toNat % 4 * 16 + b.toNat / 16),
        if n > 1 then Base64.character (b.toNat % 16 * 4 + c.toNat / 64) else '=',
        if n > 2 then Base64.character (c.toNat % 64) else '='] := by
  have smallA := a.toNat_lt
  have smallB := b.toNat_lt
  have smallC := c.toNat_lt
  have first : (a.toNat * 65536 + b.toNat * 256 + c.toNat) / 2 ^ 18 % 64 = a.toNat / 4 := by omega
  have second : (a.toNat * 65536 + b.toNat * 256 + c.toNat) / 2 ^ 12 % 64 =
      a.toNat % 4 * 16 + b.toNat / 16 := by
    omega
  have third : (a.toNat * 65536 + b.toNat * 256 + c.toNat) / 2 ^ 6 % 64 =
      b.toNat % 16 * 4 + c.toNat / 64 := by
    omega
  have fourth : (a.toNat * 65536 + b.toNat * 256 + c.toNat) % 64 = c.toNat % 64 := by omega
  have counts : (18 : UInt32).toNat % 32 = 18 ∧ (12 : UInt32).toNat % 32 = 12 ∧
      (6 : UInt32).toNat % 32 = 6 :=
    ⟨rfl, rfl, rfl⟩
  rw [encodeQuantum, b64_shifted, b64_shifted, b64_shifted, b64_low, quantum_value, counts.1,
    counts.2.1, counts.2.2, first, second, third, fourth]

theorem armorEncode_eq (data : Bytes) : armorEncode data = Base64.encode data := by
  induction data using armorEncode.induct with
  | case1 => rfl
  | case2 a =>
      rw [armorEncode, encodeQuantum_eq, Base64.encode_one]
      rfl
  | case3 a b =>
      rw [armorEncode, encodeQuantum_eq, Base64.encode_two]
      rfl
  | case4 a b c rest ih =>
      rw [armorEncode, encodeQuantum_eq, Base64.encode_three, ih]
      rfl

example : armorEncode [102, 111, 111, 98] = "Zm9vYg==".toList := by decide +kernel

/-! The lines. -/

theorem bodyLines_flatten {fuel : Nat} {body : List Char} (enough : body.length ≤ fuel) :
    (bodyLines fuel body).flatten = body := by
  induction fuel generalizing body with
  | zero =>
      have empty : body = [] := List.length_eq_zero_iff.mp (by omega)
      rw [empty]
      rfl
  | succ fuel ih =>
      rw [bodyLines]
      split
      · next empty => rw [empty, List.flatten_nil]
      · next some =>
          have rest := ih (show (body.drop 64).length ≤ fuel by rw [List.length_drop]; omega)
          rw [List.flatten_cons, rest, List.take_append_drop]

def Wrapped (lines : List (List Char)) : Prop :=
  (∀ line ∈ lines, line ≠ [] ∧ line.length ≤ 64) ∧ ∀ line ∈ lines.dropLast, line.length = 64

theorem bodyLines_wrapped {fuel : Nat} {body : List Char} (enough : body.length ≤ fuel) :
    Wrapped (bodyLines fuel body) := by
  induction fuel generalizing body with
  | zero => exact ⟨by simp [bodyLines], by simp [bodyLines]⟩
  | succ fuel ih =>
      rw [bodyLines]
      split
      · exact ⟨by simp, by simp⟩
      · next some =>
          have positive := List.length_pos_of_ne_nil some
          obtain ⟨sizes, full⟩ := ih (show (body.drop 64).length ≤ fuel by rw [List.length_drop]; omega)
          refine ⟨?_, ?_⟩
          · intro line member
            rcases List.mem_cons.mp member with rfl | later
            · refine ⟨?_, List.length_take_le _ _⟩
              rw [← List.length_pos_iff, List.length_take]
              omega
            · exact sizes line later
          · intro line member
            cases fuel with
            | zero => simp [bodyLines] at member
            | succ fuel =>
                by_cases last : body.drop 64 = []
                · simp [bodyLines, last] at member
                · have more : bodyLines (fuel + 1) (body.drop 64) ≠ [] := by
                    rw [bodyLines, if_neg last]
                    simp
                  rw [List.dropLast_cons_of_ne_nil more] at member
                  rcases List.mem_cons.mp member with rfl | later
                  · have long : 0 < (body.drop 64).length := List.length_pos_of_ne_nil last
                    rw [List.length_drop] at long
                    rw [List.length_take]
                    omega
                  · exact full line later

/-! What is written. -/

def written (log : PrintLog) : Text := (log.map Sigma.fst).flatten

theorem written_cons (s : Text) (failure : Option Err) (log : PrintLog) :
    written (⟨s, failure⟩ :: log) = s ++ written log := rfl

theorem written_append (first second : PrintLog) :
    written (first ++ second) = written first ++ written second := by
  rw [written, List.map_append, List.flatten_append, written, written]

theorem printLines_runs {lines : List Text} {log : PrintLog}
    (run : Runs (printLines lines) log (.done none)) :
    written log = unlines lines := by
  induction lines generalizing log with
  | nil =>
      rw [(runs_done.mp run).1]
      rfl
  | cons line rest ih =>
      simp only [printLines, fprint, perform_bind] at run
      cases run with
      | step failure later =>
          cases failure with
          | some err =>
              have ended := (runs_done.mp later).2
              simp at ended
          | none =>
              rw [written_cons, ih later]
              rfl

theorem printLines_succeeds (lines : List Text) :
    Runs (printLines lines) (lines.map fun line => ⟨line ++ text "\n", none⟩) (.done none) := by
  induction lines with
  | nil => exact Runs.start _
  | cons line rest ih =>
      simp only [printLines, fprint, perform_bind, List.map_cons]
      apply Runs.step
      exact ih

def checksumBytes (data : Bytes) : Bytes :=
  [(crc24 data >>> 16).toUInt8, (crc24 data >>> 8).toUInt8, (crc24 data).toUInt8]

def beginLine (blockType : Text) : Text := text "-----BEGIN " ++ blockType ++ text "-----"

def endLine (blockType : Text) : Text := text "-----END " ++ blockType ++ text "-----"

def armorBody (data : Bytes) : List Text :=
  (bodyLines (armorEncode data).length (armorEncode data)).map fun line => line.map Rune.char

def armorLines (blockType : Text) (data : Bytes) : List Text :=
  [beginLine blockType, []] ++ armorBody data ++
    [.char '=' :: (armorEncode (checksumBytes data)).map Rune.char, endLine blockType]

theorem armor_frame (blockType : Text) (data : Bytes) :
    unlines (armorLines blockType data) =
      (text "-----BEGIN " ++ blockType ++ text "-----\n\n") ++ unlines (armorBody data) ++
        (text "=" ++ (armorEncode (checksumBytes data)).map Rune.char ++ text "\n-----END " ++ blockType ++
          text "-----\n") := by
  have opening : text "-----\n\n" = text "-----" ++ text "\n" ++ text "\n" := by decide
  have closing : text "-----\n" = text "-----" ++ text "\n" := by decide
  have between : text "\n-----END " = text "\n" ++ text "-----END " := by decide
  rw [armorLines, unlines_append, unlines_append, opening, closing, between]
  simp only [unlines, beginLine, endLine, List.map_cons, List.map_nil, List.flatten_cons,
    List.flatten_nil, List.append_nil, List.nil_append, List.append_assoc]
  rfl

theorem armor_runs {blockType : Text} {data : Bytes} {log : PrintLog}
    (run : Runs (armor blockType data) log (.done none)) :
    written log = unlines (armorLines blockType data) := by
  simp only [armor, fprint, perform_bind] at run
  cases run with
  | step failure later =>
      cases failure with
      | some err =>
          have ended := (runs_done.mp later).2
          simp at ended
      | none =>
          obtain ⟨body, last, result, rfl, printed, rest⟩ := runs_bind_done later
          cases result with
          | some err =>
              have ended := (runs_done.mp rest).2
              simp at ended
          | none =>
              cases rest with
              | step failure done =>
                  rw [(runs_done.mp done).1, written_cons, written_append,
                    printLines_runs printed, armor_frame, written_cons, List.append_assoc]
                  simp [written, armorBody, checksumBytes]

theorem armor_succeeds (blockType : Text) (data : Bytes) :
    ∃ log, Runs (armor blockType data) log (.done none) := by
  have body := printLines_succeeds (armorBody data)
  refine ⟨⟨text "-----BEGIN " ++ blockType ++ text "-----\n\n", none⟩ ::
    ((armorBody data).map (fun line => ⟨line ++ text "\n", none⟩) ++
      [⟨text "=" ++ (armorEncode (checksumBytes data)).map Rune.char ++ text "\n-----END " ++ blockType ++
        text "-----\n", none⟩]), ?_⟩
  simp only [armor, fprint, perform_bind]
  apply Runs.step
  refine (Runs.bind body _).trans ?_
  apply Runs.step
  exact Runs.start _

/-! The lines, read back. -/

theorem base64_unbroken {line : List Char} (known : ∀ c ∈ line, c ∈ Base64.alphabet ∨ c = '=') :
    .char '\n' ∉ line.map Rune.char := by
  have newline : '\n' ∉ Base64.alphabet := by decide +kernel
  intro member
  obtain ⟨c, inside, same⟩ := List.mem_map.mp member
  rw [Rune.char.inj same] at inside
  rcases known '\n' inside with listed | filler
  · exact newline listed
  · exact absurd filler (by decide)

theorem bodyLines_known (data : Bytes) :
    ∀ line ∈ bodyLines (armorEncode data).length
      (armorEncode data), ∀ c ∈ line, c ∈ Base64.alphabet ∨ c = '=' := by
  intro line member c inside
  have whole : c ∈ (bodyLines (armorEncode data).length (armorEncode data)).flatten :=
    List.mem_flatten.mpr ⟨line, member, inside⟩
  rw [bodyLines_flatten (Nat.le_refl _), armorEncode_eq] at whole
  exact Base64.encode_chars data c whole

theorem frame_unbroken {blockType : Text} (unbroken : .char '\n' ∉ blockType) :
    .char '\n' ∉ beginLine blockType ∧ .char '\n' ∉ endLine blockType := by
  have marks : .char '\n' ∉ text "-----BEGIN " ∧ .char '\n' ∉ text "-----END " ∧ .char '\n' ∉ text "-----" := by
    decide
  simp only [beginLine, endLine, List.mem_append, not_or]
  exact ⟨⟨⟨marks.1, unbroken⟩, marks.2.2⟩, ⟨⟨marks.2.1, unbroken⟩, marks.2.2⟩⟩

theorem armorLines_split {blockType : Text} (unbroken : .char '\n' ∉ blockType) (data : Bytes) :
    (unlines (armorLines blockType data)).splitOn (.char '\n') = armorLines blockType data ++ [[]] := by
  obtain ⟨opening, closing⟩ := frame_unbroken unbroken
  refine unlines_splitOn fun line member => ?_
  simp only [armorLines, List.mem_append, List.mem_cons, List.not_mem_nil, or_false] at member
  rcases member with ((rfl | rfl) | body) | rfl | rfl
  · exact opening
  · simp
  · obtain ⟨chars, inside, rfl⟩ := List.mem_map.mp body
    exact base64_unbroken (bodyLines_known data chars inside)
  · have known : ∀ c ∈ armorEncode (checksumBytes data), c ∈ Base64.alphabet ∨ c = '=' := by
      rw [armorEncode_eq]
      exact Base64.encode_chars _
    simpa using base64_unbroken known
  · exact closing

theorem checksumBytes_value (data : Bytes) :
    bigEndian (checksumBytes data) = (crc24 data).toNat := by
  have small : (crc24 data).toNat < 16777216 := by
    rw [crc24_eq, crcLoop_wide]
    exact UInt32.lt_iff_toNat_lt.mp (wide_lt _)
  simp only [checksumBytes, bigEndian, List.foldl_cons, List.foldl_nil, UInt32.toNat_toUInt8,
    UInt32.toNat_shiftRight, Nat.shiftRight_eq_div_pow]
  rw [show (16 : UInt32).toNat % 32 = 16 from rfl, show (8 : UInt32).toNat % 32 = 8 from rfl]
  omega

theorem armorLines_injective {blockType : Text} {data other : Bytes}
    (same : armorLines blockType data = armorLines blockType other) : data = other := by
  simp only [armorLines, List.append_assoc] at same
  have after := List.append_cancel_left same
  have bodies := (List.append_inj' after (by simp only [List.length_cons])).1
  have flat : ((armorBody data).flatten) = (armorBody other).flatten := by rw [bodies]
  have joined : ∀ octets : Bytes, (armorBody octets).flatten = (Base64.encode octets).map Rune.char := by
    intro octets
    rw [armorBody, ← List.map_flatten, bodyLines_flatten (Nat.le_refl _), armorEncode_eq]
  rw [joined, joined] at flat
  have encoded := List.map_injective_iff.mpr (fun _ _ => Rune.char.inj) flat
  have decoded := Base64.decode_encode data
  rw [encoded, Base64.decode_encode] at decoded
  exact (Option.some.inj decoded).symm

theorem armor_trimmed (blockType : Text) (data : Bytes) :
    (unlines (armorLines blockType data)).trimSpace ++ text "\n" =
      unlines (armorLines blockType data) := by
  obtain ⟨core, whole, first, last⟩ : ∃ core : Text, unlines (armorLines blockType data) =
    core ++ text "\n" ∧
      core.head? = some (.char '-') ∧ core.getLast? = some (.char '-') := by
    have closing : text "-----\n" = text "-----" ++ text "\n" := by decide
    refine ⟨text "-----BEGIN " ++ (blockType ++ text "-----\n\n" ++ unlines (armorBody data) ++ (text "=" ++
      (armorEncode (checksumBytes data)).map Rune.char ++ text "\n-----END " ++ blockType)) ++ text "-----", ?_, ?_, ?_⟩
    · rw [armor_frame, closing]
      simp only [List.append_assoc]
    · have dash : (text "-----BEGIN ").head? = some (.char '-') := by decide
      rw [List.append_assoc, List.head?_append, dash]
      rfl
    · have dash : (text "-----").getLast? = some (.char '-') := by decide
      rw [List.getLast?_append, dash]
      rfl
  have trimmed : (core ++ text "\n").trimSpace = core := by
    refine (Text.trimFunc_concat (by decide)).trans (Text.trimFunc_self ?_ ?_)
    · intro rune found
      rw [first] at found
      rw [← Option.some.inj found]
      decide
    · intro rune found
      rw [last] at found
      rw [← Option.some.inj found]
      decide
  rw [whole, trimmed]

/-- The armored text has its data between its lines, and no other data has this text. -/
theorem armor_round_trips (blockType : Text) (unbroken : .char '\n' ∉ blockType) (data : Bytes) :
    (∃ log, Runs (armor blockType data) log (.done none)) ∧
    ∀ log, Runs (armor blockType data) log (.done none) →
      (∃ (lines : List (List Char)) (checksum : List Char), (written log).splitOn (.char '\n') =
          [text "-----BEGIN " ++ blockType ++ text "-----", []] ++ lines.map (fun line => line.map Rune.char) ++
            [.char '=' :: checksum.map Rune.char, text "-----END " ++ blockType ++ text "-----", []] ∧
        (∀ line ∈ lines, line ≠ [] ∧ line.length ≤ 64 ∧ ∀ c ∈ line, c ∈ Base64.alphabet ∨ c = '=') ∧
        (∀ line ∈ lines.dropLast, line.length = 64) ∧
        lines.flatten = Base64.encode data ∧ Base64.decode lines.flatten = some data ∧
        checksum.length = 4 ∧ ∃ sum, Base64.decode checksum = some sum ∧ sum.length = 3 ∧
          bigEndian sum = (crc24 data).toNat) ∧
      ∀ other otherLog, Runs (armor blockType other) otherLog (.done none) →
        (written log = written otherLog ↔ data = other) ∧
        ((written log).trimSpace = (written otherLog).trimSpace ↔ data = other) := by
  refine ⟨armor_succeeds blockType data, fun log run => ⟨?_, ?_⟩⟩
  · obtain ⟨sizes, full⟩ := bodyLines_wrapped (Nat.le_refl (armorEncode data).length)
    have flat : (bodyLines (armorEncode data).length (armorEncode data)).flatten =
        Base64.encode data := by
      rw [bodyLines_flatten (Nat.le_refl _), armorEncode_eq]
    refine ⟨_, armorEncode (checksumBytes data), ?_, ?_, full, flat, ?_, rfl, checksumBytes data, ?_, rfl,
      checksumBytes_value data⟩
    · rw [armor_runs run, armorLines_split unbroken, armorLines, List.append_assoc]
      rfl
    · intro line member
      exact ⟨(sizes line member).1, (sizes line member).2, bodyLines_known data line member⟩
    · rw [flat, Base64.decode_encode]
    · rw [armorEncode_eq, Base64.decode_encode]
  · intro other otherLog otherRun
    have determined : unlines (armorLines blockType data) = unlines (armorLines blockType other) →
        data = other := by
      intro same
      have lines := armorLines_split unbroken data
      rw [same, armorLines_split unbroken other] at lines
      exact (armorLines_injective (List.append_cancel_right lines)).symm
    rw [armor_runs run, armor_runs otherRun]
    refine ⟨⟨determined, fun same => by rw [same]⟩, ⟨fun same => determined ?_, fun same => by rw [same]⟩⟩
    rw [← armor_trimmed blockType data, same, armor_trimmed]

def sampleOctets (last : UInt8) : Bytes := List.replicate 50 0 ++ [last]

-- 51 octets are 68 characters, so the body wraps into a second line
theorem wrapped_blocks_differ :
    ∃ log otherLog, Runs (armor (text "KEY") (sampleOctets 1)) log (.done none) ∧
    Runs (armor (text "KEY") (sampleOctets 2)) otherLog (.done none) ∧
    7 ≤ ((written log).splitOn (.char '\n')).length ∧
    (written log).trimSpace ≠ (written otherLog).trimSpace := by
  obtain ⟨⟨log, run⟩, told⟩ := armor_round_trips (text "KEY") (by decide) (sampleOctets 1)
  obtain ⟨⟨otherLog, otherRun⟩, _⟩ := armor_round_trips (text "KEY") (by decide) (sampleOctets 2)
  refine ⟨log, otherLog, run, otherRun, ?_, fun same => ?_⟩
  · obtain ⟨lines, checksum, split, short, -, flat, -⟩ := (told log run).1
    have long : lines.flatten.length = 68 := by
      rw [flat]
      exact (@Base64.encode_unpadded 17 (sampleOctets 1) rfl).1
    have wraps : 2 ≤ lines.length := by
      match lines, short, long with
      | [], _, long => simp at long
      | [line], short, long =>
          have small := (short line (by simp)).2.1
          simp only [List.flatten_cons, List.flatten_nil, List.append_nil] at long
          omega
      | _ :: _ :: _, _, _ => simp
    rw [split]
    simp only [List.length_append, List.length_map, List.length_cons, List.length_nil]
    omega
  · exact absurd (((told log run).2 (sampleOctets 2) otherLog otherRun).2.mp same) (by decide)

end SyncthingSocket
