import Mathlib
import RecordCache.Report.Sample
/-! Samples of totals that come in any order. A sampler keeps the greatest total it has seen, and a
sample covers what a total adds to that: so the samples of any calls add up to the greatest totals
passed. Totals are natural numbers here; subtraction that stops at zero and the greater of two
numbers do not leave 64 bits. -/
namespace RecordCache

structure Totals where
  acquired : Nat
  mapped : Nat
  time : Nat
  deriving DecidableEq, Repr

/-- What each total in a row adds to the greatest before it, the first one to `last`. -/
def gains (last : Nat) : List Nat → List Nat
  | [] => []
  | total :: totals => (total - last) :: gains (max last total) totals

theorem sum_gains (last : Nat) (totals : List Nat) :
    last + (gains last totals).sum = totals.foldl max last := by
  induction totals generalizing last with
  | nil => rfl
  | cons total totals ih =>
    calc last + (gains last (total :: totals)).sum
      _ = last + (total - last) + (gains (max last total) totals).sum := by
        rw [gains, List.sum_cons, Nat.add_assoc]
      _ = max last total + (gains (max last total) totals).sum := by omega
      _ = (total :: totals).foldl max last := ih _

theorem sum_gains_zero (totals : List Nat) : (gains 0 totals).sum = totals.max?.getD 0 := by
  have hsum := sum_gains 0 totals
  rw [Nat.zero_add] at hsum
  rw [hsum]
  cases totals with
  | nil => rfl
  | cons total totals =>
    rw [List.foldl_cons, Nat.zero_max]
    rfl

/-- The order of the totals does not matter to what they add in the end. -/
theorem sum_gains_perm {totals totals' : List Nat} (h : totals.Perm totals') (last : Nat) :
    (gains last totals).sum = (gains last totals').sum := by
  have hfold : totals.foldl max last = totals'.foldl max last :=
    h.foldl_eq' (fun x _ y _ z => by omega) last
  rw [← sum_gains, ← sum_gains] at hfold
  exact Nat.add_left_cancel hfold

namespace Sampler

def samples (s : Sampler) : List Totals → List Sample
  | [] => []
  | call :: calls =>
    let (sample, s) := s.sample call.acquired call.mapped call.time
    sample :: s.samples calls

theorem samples_take (s : Sampler) (calls : List Totals) (n : Nat) :
    (s.samples calls).take n = s.samples (calls.take n) := by
  induction calls generalizing s n with
  | nil => rw [List.take_nil, samples, List.take_nil]
  | cons call calls ih =>
    cases n with
    | zero => rfl
    | succ n => exact congrArg (_ :: ·) (ih _ n)

theorem acquired_samples (s : Sampler) (calls : List Totals) :
    (s.samples calls).map Sample.acquired = gains s.lastAcquired (calls.map Totals.acquired) := by
  induction calls generalizing s with
  | nil => rfl
  | cons call calls ih => exact congrArg (_ :: ·) (ih _)

theorem mapped_samples (s : Sampler) (calls : List Totals) :
    (s.samples calls).map Sample.mapped = gains s.lastMapped (calls.map Totals.mapped) := by
  induction calls generalizing s with
  | nil => rfl
  | cons call calls ih => exact congrArg (_ :: ·) (ih _)

/-- The samples of a new sampler add up to the greatest totals passed, after every call and in
whatever order the totals come: each counts for what it has over the others, however late. -/
theorem samples_add_up (store : String) (start : Nat) (calls : List Totals) :
    let samples := ({ store, lastTime := start } : Sampler).samples
    (∀ n,
      (((samples calls).take n).map Sample.acquired).sum =
        ((calls.take n).map Totals.acquired).max?.getD 0 ∧
      (((samples calls).take n).map Sample.mapped).sum =
        ((calls.take n).map Totals.mapped).max?.getD 0) ∧
    ∀ calls' : List Totals, calls'.Perm calls →
      ((samples calls').map Sample.acquired).sum = ((samples calls).map Sample.acquired).sum ∧
      ((samples calls').map Sample.mapped).sum = ((samples calls).map Sample.mapped).sum := by
  intro samples
  constructor
  · intro n
    simp only [samples, samples_take, acquired_samples, mapped_samples, sum_gains_zero, and_self]
  · intro calls' h
    simp only [samples, acquired_samples, mapped_samples]
    exact ⟨sum_gains_perm (h.map _) 0, sum_gains_perm (h.map _) 0⟩

/-- The second call comes late with both totals, the third is ahead with one and late with the
other; the same calls in another order. -/
theorem samples_add_up_out_of_order :
    let calls : List Totals := [⟨20, 8, 5⟩, ⟨10, 4, 9⟩, ⟨25, 6, 7⟩]
    let calls' : List Totals := [⟨10, 4, 9⟩, ⟨25, 6, 7⟩, ⟨20, 8, 5⟩]
    let samples := ({ store := "s", lastTime := 3 } : Sampler).samples
    (samples calls).map Sample.acquired = [20, 0, 5] ∧
      (samples calls).map Sample.mapped = [8, 0, 0] ∧
      (samples calls').map Sample.mapped = [4, 2, 2] ∧
      (((samples calls).take 2).map Sample.acquired).sum = 20 ∧ calls'.Perm calls ∧
      ((samples calls').map Sample.acquired).sum = ((samples calls).map Sample.acquired).sum ∧
      ((samples calls').map Sample.mapped).sum = ((samples calls).map Sample.mapped).sum := by
  intro calls calls' samples
  have hperm : calls'.Perm calls := by decide
  obtain ⟨hsums, horder⟩ := samples_add_up "s" 3 calls
  obtain ⟨hacquired, hmapped⟩ := horder calls' hperm
  exact ⟨by decide, by decide, by decide, (hsums 2).1, hperm, hacquired, hmapped⟩

end Sampler

end RecordCache
