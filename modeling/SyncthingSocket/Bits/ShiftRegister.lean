import Mathlib.Logic.Function.Iterate

/-!
Shift registers with feedback, as they compute cyclic redundancy checks: a bit is added
at the upper end, the register is shifted by one, and the feedback polynomial is added
when a bit falls out. Addition is exclusive or.
-/

namespace ShiftRegister

variable {width : Nat} (poly : BitVec width)

def shift (register : BitVec width) : BitVec width :=
  if register.msb then (register <<< 1) ^^^ poly else register <<< 1

def atTop (bit : Bool) : BitVec width :=
  if bit then BitVec.twoPow width (width - 1) else .ofNat width 0

def feed (register : BitVec width) (bits : List Bool) : BitVec width :=
  bits.foldl (fun register bit => shift poly (register ^^^ atTop bit)) register

theorem feed_cons (register : BitVec width) (bit : Bool) (bits : List Bool) :
    feed poly register (bit :: bits) = feed poly (shift poly (register ^^^ atTop bit)) bits := rfl

theorem feed_append (register : BitVec width) (bits more : List Bool) :
    feed poly register (bits ++ more) = feed poly (feed poly register bits) more := List.foldl_append

theorem shift_zero : shift poly (.ofNat width 0) = .ofNat width 0 := by simp [shift]

theorem shift_xor (left right : BitVec width) :
    shift poly (left ^^^ right) = shift poly left ^^^ shift poly right := by
  have cancels : ∀ a b : BitVec width, a ^^^ poly ^^^ (b ^^^ poly) = a ^^^ b := by
    intro a b
    rw [BitVec.xor_assoc, BitVec.xor_comm b, ← BitVec.xor_assoc poly, BitVec.xor_self, BitVec.zero_xor]
  simp only [shift, BitVec.msb_xor, BitVec.shiftLeft_xor_distrib]
  cases left.msb <;> cases right.msb
  · rfl
  · exact BitVec.xor_assoc _ _ _
  · simp only [Bool.xor_false, ↓reduceIte, Bool.false_eq_true]
    rw [BitVec.xor_assoc, BitVec.xor_assoc, BitVec.xor_comm poly]
  · exact (cancels _ _).symm

theorem feed_xor (bits others : List Bool) (same : bits.length = others.length)
    (left right : BitVec width) :
    feed poly (left ^^^ right) (List.zipWith Bool.xor bits others) =
      feed poly left bits ^^^ feed poly right others := by
  induction bits generalizing others left right with
  | nil =>
      cases others with
      | nil => rfl
      | cons _ _ => simp at same
  | cons bit bits ih =>
      cases others with
      | nil => simp at same
      | cons other others =>
          have top : (atTop (bit ^^ other) : BitVec width) = atTop bit ^^^ atTop other := by
            cases bit <;> cases other <;> simp [atTop]
          have swap : left ^^^ right ^^^ (atTop bit ^^^ atTop other) =
              left ^^^ atTop bit ^^^ (right ^^^ atTop other) := by
            rw [BitVec.xor_assoc, BitVec.xor_assoc, ← BitVec.xor_assoc right, BitVec.xor_comm right,
              BitVec.xor_assoc (atTop bit)]
          rw [List.zipWith_cons_cons, feed_cons, feed_cons, feed_cons, top, swap,
            shift_xor poly (left ^^^ atTop bit)]
          exact ih others (Nat.succ.inj same) _ _

theorem feed_zeros (count : Nat) (register : BitVec width) :
    feed poly register (List.replicate count false) = (shift poly)^[count] register := by
  induction count generalizing register with
  | zero => rfl
  | succ count ih =>
      rw [List.replicate_succ, feed_cons, ih, Function.iterate_succ_apply]
      simp [atTop]

/-! A polynomial with a constant term loses nothing. -/

section

variable {poly} (odd : poly.getLsbD 0 = true)

include odd

theorem shift_eq_zero {register : BitVec width} (zero : shift poly register = .ofNat width 0) :
    register = .ofNat width 0 := by
  have low : (shift poly register).getLsbD 0 = false := by rw [zero]; simp
  have clear : register.msb = false := by
    rw [Bool.eq_false_iff]
    intro set
    rw [shift, if_pos set, BitVec.getLsbD_xor, odd] at low
    simp at low
  rw [shift, if_neg (by simp [clear])] at zero
  refine BitVec.eq_of_getLsbD_eq fun i bound => ?_
  by_cases last : i = width - 1
  · rw [last, ← BitVec.msb_eq_getLsbD_last, clear]
    simp
  · have moved : (register <<< 1).getLsbD (i + 1) = register.getLsbD i := by
      rw [BitVec.getLsbD_shiftLeft]
      simp [show i + 1 < width by omega]
    rw [← moved, zero]
    simp

theorem shifts_eq_zero {register : BitVec width} (count : Nat)
    (zero : (shift poly)^[count] register = .ofNat width 0) :
    register = .ofNat width 0 := by
  induction count generalizing register with
  | zero => exact zero
  | succ count ih =>
      rw [Function.iterate_succ_apply] at zero
      exact shift_eq_zero odd (ih zero)

end

/-! Up to as many bits as the register is wide can as well be added all at once. -/

def word : List Bool → BitVec width
  | [] => .ofNat width 0
  | bit :: bits => atTop bit ^^^ word bits >>> 1

theorem word_low (bits : List Bool) (i : Nat) (below : i + bits.length < width) :
    (word bits : BitVec width).getLsbD i = false := by
  induction bits generalizing i with
  | nil => simp [word]
  | cons bit bits ih =>
      rw [List.length_cons] at below
      have rest := ih (1 + i) (by omega)
      have top : (atTop bit : BitVec width).getLsbD i = false := by
        cases bit
        · simp [atTop]
        · simp [atTop, BitVec.getLsbD_twoPow, show width - 1 ≠ i by omega]
      rw [word, BitVec.getLsbD_xor, BitVec.getLsbD_ushiftRight, rest, top]
      rfl

theorem shift_back {register : BitVec width} (even : register.getLsbD 0 = false) :
    register >>> 1 <<< 1 = register := by
  refine BitVec.eq_of_getLsbD_eq fun i bound => ?_
  rw [BitVec.getLsbD_shiftLeft, BitVec.getLsbD_ushiftRight]
  cases i with
  | zero => simp [even]
  | succ i => simp [bound, Nat.add_comm]

theorem shift_word {bits : List Bool} (short : bits.length < width) :
    shift poly ((word bits : BitVec width) >>> 1) = word bits := by
  have low : (word bits : BitVec width).getLsbD 0 = false := word_low bits 0 (by omega)
  have clear : ((word bits : BitVec width) >>> 1).msb = false := by
    rw [BitVec.msb_eq_getLsbD_last, BitVec.getLsbD_ushiftRight]
    exact BitVec.getLsbD_of_ge _ _ (by omega)
  rw [shift, if_neg (by simp [clear]), shift_back low]

theorem feed_word {bits : List Bool} (short : bits.length ≤ width) (register : BitVec width) :
    feed poly register bits = (shift poly)^[bits.length] (register ^^^ word bits) := by
  induction bits generalizing register with
  | nil => simp [feed, word]
  | cons bit bits ih =>
      rw [List.length_cons] at short
      have rest := ih (by omega) (shift poly (register ^^^ atTop bit))
      rw [feed_cons, rest, List.length_cons, Function.iterate_succ_apply, word,
        ← BitVec.xor_assoc, shift_xor poly (register ^^^ atTop bit), shift_word poly (by omega)]

theorem word_ne_zero {bits : List Bool} (set : true ∈ bits) (short : bits.length ≤ width) :
    (word bits : BitVec width) ≠ .ofNat width 0 := by
  induction bits with
  | nil => simp at set
  | cons bit bits ih =>
      rw [List.length_cons] at short
      intro zero
      cases bit with
      | true =>
          have top := congrArg (fun register => register.getLsbD (width - 1)) zero
          have beyond := BitVec.getLsbD_of_ge (word bits : BitVec width) (1 + (width - 1)) (by omega)
          simp [word, atTop, beyond, show width - 1 < width by omega] at top
      | false =>
          have member : true ∈ bits := by simpa using set
          have low : (word bits : BitVec width).getLsbD 0 = false := word_low bits 0 (by omega)
          refine ih member (by omega) ?_
          have halved : (word bits : BitVec width) >>> 1 = .ofNat width 0 := by
            simpa [word, atTop] using zero
          rw [← shift_back low, halved]
          simp

/-- A burst that fits into the register leaves a trace in it, and no bits that follow wipe it out.
-/
theorem feed_burst {poly : BitVec width} (odd : poly.getLsbD 0 = true) {before after : Nat}
    {burst : List Bool} (set : true ∈ burst) (short : burst.length ≤ width) :
    feed poly (.ofNat width 0)
      (List.replicate before false ++ burst ++ List.replicate after false) ≠ .ofNat width 0 := by
  have still : (shift poly)^[before] (.ofNat width 0) = .ofNat width 0 :=
    Function.iterate_fixed (shift_zero poly) before
  rw [feed_append, feed_append, feed_zeros, feed_zeros, still, feed_word poly short, BitVec.zero_xor]
  intro zero
  exact word_ne_zero set short (shifts_eq_zero odd _ (shifts_eq_zero odd _ zero))

theorem feed_confined {poly : BitVec width} (odd : poly.getLsbD 0 = true) {bits : List Bool}
    (set : true ∈ bits) (start : Nat)
    (confined : ∀ i, bits[i]? = some true → start ≤ i ∧ i < start + width) :
    feed poly (.ofNat width 0) bits ≠ .ofNat width 0 := by
  have clear : ∀ part : List Bool, true ∉ part → part = List.replicate part.length false := by
    intro part unset
    refine List.eq_replicate_iff.mpr ⟨rfl, fun bit member => ?_⟩
    cases bit with
    | false => rfl
    | true => exact absurd member unset
  have before : true ∉ bits.take start := by
    intro member
    obtain ⟨i, found⟩ := List.mem_iff_getElem?.mp member
    rw [List.getElem?_take] at found
    split at found
    · next early =>
        have late := (confined i found).1
        omega
    · simp at found
  have after : true ∉ (bits.drop start).drop width := by
    intro member
    obtain ⟨i, found⟩ := List.mem_iff_getElem?.mp member
    rw [List.getElem?_drop, List.getElem?_drop] at found
    have early := (confined _ found).2
    omega
  have split :
      bits = bits.take start ++ (bits.drop start).take width ++ (bits.drop start).drop width := by
    rw [List.append_assoc, List.take_append_drop, List.take_append_drop]
  have within : true ∈ (bits.drop start).take width := by
    rw [split, List.mem_append, List.mem_append] at set
    exact (set.resolve_right after).resolve_left before
  rw [split, clear _ before, clear _ after]
  exact feed_burst odd within (List.length_take_le _ _)

end ShiftRegister
