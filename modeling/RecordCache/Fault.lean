import RecordCache.Power
import RecordCache.Tier
/-! Faults: broken contracts, as opposed to errors that a caller is expected to handle. -/
namespace RecordCache

abbrev PageId := Nat

def PageId.max : PageId := twoTo 32 - 2

inductive Fault where
  | capacityZero
  | pageNotInTable (id : PageId)
  /-- The caller would wait for a load that can only end after the caller. -/
  | wouldBlock (id : PageId)
  | countNegative (tier : Tier)
  | listCorrupted (tier : Tier)
  | sizeMismatch (tier : Tier)
  | listCycle (tier : Tier)
  | linksDisagree (tier : Tier)
  | notOwned (id : PageId) (tier : Tier)
  | orphanedPages
  | countMismatch (tier : Tier)
  | residencyMismatch (id : PageId)
  | wrongTierList (id : PageId)
  | indexOutOfRange
  | sliceOutOfRange
  | divideByZero
  deriving DecidableEq, Repr

namespace Fault

def message : Fault → String
  | capacityZero => "capacity must be > 0"
  | pageNotInTable id => s!"page {id} is not in the page table"
  | wouldBlock id => s!"page {id} is being loaded by its own caller"
  | countNegative tier => s!"temporal utility count for {tier.name} would go negative"
  | listCorrupted tier => s!"eviction list for {tier.name} is corrupted"
  | sizeMismatch tier => s!"{tier.name} list size mismatch"
  | listCycle tier => s!"{tier.name} list has a cycle"
  | linksDisagree tier => s!"{tier.name} list links disagree"
  | notOwned id tier => s!"page {id} not owned by {tier.name}"
  | orphanedPages => "orphaned pages outside every list"
  | countMismatch tier => s!"{tier.name} count does not match its list"
  | residencyMismatch id => s!"page {id} residency does not match list membership"
  | wrongTierList id => s!"page {id} is in the wrong tier list"
  | indexOutOfRange => "index out of bounds"
  | sliceOutOfRange => "slice index out of range"
  | divideByZero => "attempt to divide by zero"

end Fault

end RecordCache
