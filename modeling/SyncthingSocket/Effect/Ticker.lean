import Mathlib.Order.Basic

/-!
Tickers, as `time.NewTicker` makes them: one tick each period, and a channel that holds
one tick and drops those that come while it is full.
-/

namespace Effect

structure Ticker where
  period : Nat
  next : Nat
  pending : Bool
  deriving DecidableEq, Repr

namespace Ticker

def start (period now : Nat) : Ticker := ⟨period, now + period, false⟩

/-- The clock has come to `now`. -/
def pass (ticker : Ticker) (now : Nat) : Ticker :=
  if ticker.next ≤ now then { ticker with next := ticker.next + ticker.period, pending := true }
  else ticker

def receive (ticker : Ticker) : Ticker := { ticker with pending := false }

structure Accurate (ticker : Ticker) (now : Nat) : Prop where
  ahead : now < ticker.next
  near : ticker.next ≤ now + ticker.period

theorem start_accurate {period now : Nat} (positive : 0 < period) :
    (start period now).Accurate now where
  ahead := by simp only [start]; omega
  near := Nat.le_refl _

variable {ticker : Ticker} {now : Nat}

theorem Accurate.pass (accurate : ticker.Accurate now) :
    (ticker.pass (now + 1)).Accurate (now + 1) := by
  obtain ⟨ahead, near⟩ := accurate
  rw [Ticker.pass]
  split
  · constructor
    · change now + 1 < ticker.next + ticker.period
      omega
    · change ticker.next + ticker.period ≤ now + 1 + ticker.period
      omega
  · exact ⟨by omega, by omega⟩

theorem Accurate.receive (accurate : ticker.Accurate now) :
    ticker.receive.Accurate now := ⟨accurate.ahead, accurate.near⟩

@[simp] theorem pass_period : (ticker.pass now).period = ticker.period := by
  rw [pass]
  split <;> rfl

theorem pass_unfired (empty : (ticker.pass now).pending = false) :
    ticker.pending = false ∧ (ticker.pass now).next = ticker.next := by
  rw [pass] at empty ⊢
  split at empty
  · simp at empty
  · next early => exact ⟨empty, by rw [if_neg early]⟩

end Ticker

end Effect
