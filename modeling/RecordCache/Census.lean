import RecordCache.Fault
/-! The number of resident pages of each tier. A count never goes below zero: taking a page from an
empty tier is a fault, since the lists and the counts have then parted. -/
namespace RecordCache

abbrev Census := PerTier Nat

namespace Census

def empty : Census := PerTier.const 0

def increment (c : Census) (t : Tier) : Census := c.modify t (· + 1)

def decrement (c : Census) (t : Tier) : Except Fault Census :=
  if c.get t = 0 then .error (.countNegative t) else .ok (c.modify t (· - 1))

def transfer (c : Census) (source target : Tier) : Except Fault Census :=
  (c.decrement source).map (·.increment target)

def total (c : Census) : Nat := c.unknown + c.shortTerm + c.longTerm

def protectedCount (c : Census) : Nat := c.shortTerm + c.longTerm

def lowestPopulated? (c : Census) : Option Tier := Tier.all.find? (0 < c.get ·)

theorem total_increment (c : Census) (t : Tier) : (c.increment t).total = c.total + 1 := by
  cases t <;> simp [increment, total, PerTier.modify, PerTier.set, PerTier.get] <;> omega

theorem total_decrement {c d : Census} {t : Tier} (h : c.decrement t = .ok d) :
    d.total + 1 = c.total := by
  unfold decrement at h
  split at h
  · cases h
  · cases h
    cases t <;> simp_all [total, PerTier.modify, PerTier.set, PerTier.get] <;> omega

end Census

end RecordCache
