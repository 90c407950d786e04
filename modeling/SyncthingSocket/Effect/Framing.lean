import Mathlib.Data.List.Basic
import Mathlib.Data.List.Infix

/-!
Length-prefixed frames over byte streams: a four-byte big-endian length, then
that many bytes. The reader refuses lengths above a limit.
-/

namespace Framing

abbrev Bytes := List UInt8

def putUint32 (n : Nat) : Bytes :=
  [UInt8.ofNat (n / 16777216), UInt8.ofNat (n / 65536), UInt8.ofNat (n / 256), UInt8.ofNat n]

def uint32 : Bytes → Nat
  | a :: b :: c :: d :: _ => a.toNat * 16777216 + b.toNat * 65536 + c.toNat * 256 + d.toNat
  | _ => 0

@[simp] theorem putUint32_length (n : Nat) : (putUint32 n).length = 4 := rfl

theorem putUint32_pos (n : Nat) : 0 < (putUint32 n).length := Nat.succ_pos 3

theorem putUint32_small {n : Nat} (small : n < 16777216) : ∃ rest, putUint32 n = 0 :: rest := by
  refine ⟨(putUint32 n).tail, ?_⟩
  simp [putUint32, Nat.div_eq_of_lt small]

theorem uint32_putUint32 (n : Nat) (rest : Bytes) :
    uint32 (putUint32 n ++ rest) = n % 4294967296 := by
  simp only [putUint32, uint32, List.cons_append, List.nil_append, UInt8.toNat_ofNat']
  omega

theorem uint32_append {header : Bytes} (length : header.length = 4) (rest : Bytes) :
    uint32 (header ++ rest) = uint32 header := by
  obtain ⟨a, b, c, d, rfl⟩ := List.length_eq_four.mp length
  rfl

theorem putUint32_uint32 {header : Bytes} (length : header.length = 4) :
    putUint32 (uint32 header) = header := by
  obtain ⟨a, b, c, d, rfl⟩ := List.length_eq_four.mp length
  have first := a.toNat_lt
  have second := b.toNat_lt
  have third := c.toNat_lt
  have fourth := d.toNat_lt
  simp only [putUint32, uint32, List.cons.injEq, and_true]
  refine ⟨?_, ?_, ?_, ?_⟩ <;> apply UInt8.toNat_inj.mp <;> simp only [UInt8.toNat_ofNat'] <;> omega

def frame (body : Bytes) : Bytes := putUint32 body.length ++ body

@[simp] theorem frame_length (body : Bytes) : (frame body).length = body.length + 4 := by
  simp [frame, Nat.add_comm]

theorem frame_ne_nil (body : Bytes) : frame body ≠ [] := by
  simp [frame, putUint32]

theorem putUint32_inj {m n : Nat} (smallLeft : m < 4294967296) (smallRight : n < 4294967296)
    (same : putUint32 m = putUint32 n) : m = n := by
  have lengths := congrArg (fun header => uint32 (header ++ [])) same
  simp only [uint32_putUint32] at lengths
  omega

variable {body part rest : Bytes} {limit : Nat}

theorem frame_append_inj {first second : Bytes} {other : Bytes}
    (smallLeft : first.length < 4294967296) (smallRight : second.length < 4294967296)
    (same : frame first ++ rest = frame second ++ other) :
    first = second ∧ rest = other := by
  rw [frame, frame, List.append_assoc, List.append_assoc] at same
  obtain ⟨headers, bodies⟩ := List.append_inj same (by simp)
  exact List.append_inj bodies (putUint32_inj smallLeft smallRight headers)

/-- A reader with this limit is still waiting for bytes after `part`: the header is
incomplete, or it announced an acceptable length that has not fully arrived. -/
def Unfinished (limit : Nat) (part : Bytes) : Prop :=
  part.length < 4 ∨ (uint32 part ≤ limit ∧ part.length < 4 + uint32 part)

def Finished (limit : Nat) (part body : Bytes) : Prop :=
  part = putUint32 body.length ++ body ∧ body.length ≤ limit ∧ body.length < 4294967296

theorem Finished.eq_frame (finished : Finished limit part body) :
    part = frame body := finished.1

theorem uint32_of_arriving {sent : Bytes} (arriving : part <+: frame sent ++ rest)
    (header : 4 ≤ part.length) : uint32 part = sent.length % 4294967296 := by
  obtain ⟨extra, stream⟩ := arriving
  have split : part = part.take 4 ++ part.drop 4 := (List.take_append_drop 4 part).symm
  have length : (part.take 4).length = 4 := by simp [header]
  have headers := congrArg uint32 stream
  rw [frame, List.append_assoc, uint32_putUint32] at headers
  rw [← headers, split, List.append_assoc, uint32_append length, uint32_append length]

theorem Unfinished.lt_frame {sent : Bytes}
    (waiting : Unfinished limit part) (arriving : part <+: frame sent ++ rest) :
    part.length < (frame sent).length := by
  rw [frame_length]
  by_cases header : 4 ≤ part.length
  · have announced := uint32_of_arriving arriving header
    have wrapped := Nat.mod_le sent.length 4294967296
    rcases waiting with short | ⟨_, missing⟩ <;> omega
  · omega

theorem Finished.body_eq {sent : Bytes}
    (finished : Finished limit part body) (arriving : part <+: frame sent ++ rest) :
    body = sent.take (sent.length % 4294967296) := by
  obtain ⟨partEq, -, small⟩ := finished
  have announced := uint32_of_arriving arriving (by simp [partEq])
  have lengths : body.length = sent.length % 4294967296 := by
    rw [← announced, partEq, uint32_putUint32]
    omega
  have wrapped := Nat.mod_le sent.length 4294967296
  obtain ⟨extra, stream⟩ := arriving
  rw [partEq, frame, List.append_assoc, List.append_assoc] at stream
  have bodies := (List.append_inj stream rfl).2
  have taken := congrArg (List.take body.length) bodies
  rw [List.take_left, List.take_append_of_le_length (by omega), lengths] at taken
  exact taken

theorem Finished.head {sent : Bytes} (finished : Finished limit part body)
    (arriving : part <+: frame sent ++ rest) (fits : sent.length < 4294967296) : body = sent := by
  rw [finished.body_eq arriving, Nat.mod_eq_of_lt fits, List.take_length]

end Framing
