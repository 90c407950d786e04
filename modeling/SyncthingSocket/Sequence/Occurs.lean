import Mathlib.Data.List.Infix

/-!
Occurrences of one list in another that is put together from pieces.
-/

namespace Sequence

variable {α : Type}

theorem infix_before_mark {part rest : List α} {mark : α} (first : List α) (absent : mark ∉ part) :
    part <:+: first ++ mark :: rest ↔ part <:+: first ∨ part <:+: mark :: rest := by
  rw [List.infix_append_iff]
  constructor
  · rintro (inside | behind | ⟨start, tail, rfl, ends, begins⟩)
    · exact Or.inl inside
    · exact Or.inr behind
    · cases tail with
      | nil => exact Or.inl (by simpa using ends.isInfix)
      | cons c tail =>
          obtain rfl : c = mark := (List.cons_prefix_cons.mp begins).1
          exact absurd (by simp) absent
  · rintro (inside | behind)
    · exact Or.inl inside
    · exact Or.inr (Or.inl behind)

variable [DecidableEq α]

def occurs (s part : List α) : Bool := s.tails.any part.isPrefixOf

theorem occurs_iff (s part : List α) : occurs s part = true ↔ part <:+: s := by
  rw [occurs, List.any_eq_true, List.infix_iff_prefix_suffix]
  constructor
  · rintro ⟨tail, member, starts⟩
    exact ⟨tail, List.isPrefixOf_iff_prefix.mp starts, (List.mem_tails ..).mp member⟩
  · rintro ⟨tail, starts, ends⟩
    exact ⟨tail, (List.mem_tails ..).mpr ends, List.isPrefixOf_iff_prefix.mpr starts⟩

def abuts (label part : List α) : Bool :=
  part.inits.any fun start => !start.isEmpty && start.isSuffixOf label

theorem infix_behind_label {label part : List α} (cause : List α)
    (apart : abuts label part = false) :
    part <:+: label ++ cause ↔ part <:+: label ∨ part <:+: cause := by
  rw [List.infix_append_iff]
  constructor
  · rintro (inside | behind | ⟨start, rest, rfl, ends, begins⟩)
    · exact Or.inl inside
    · exact Or.inr behind
    · cases start with
      | nil => exact Or.inr begins.isInfix
      | cons c start =>
          have across : abuts label ((c :: start) ++ rest) = true := by
            rw [abuts, List.any_eq_true]
            refine ⟨c :: start, (List.mem_inits ..).mpr (List.prefix_append _ _), ?_⟩
            simpa using ends
          rw [across] at apart
          contradiction
  · rintro (inside | behind)
    · exact Or.inl inside
    · exact Or.inr (Or.inl behind)

end Sequence
