import RecordCache.Replacement.Limits
import RecordCache.Table.Links
/-! Hits. A hit sets the reference bit of a page and may move the page one tier up; the tiers that
are then too full give up their heads, though never the page that was just promoted. -/
namespace RecordCache

variable {W : Type}

namespace Table

def setTier (t : Table W) (id : PageId) (tier : Tier) : Except Fault (Table W) := do
  let page ← t.get id
  let t ← t.modify id fun p => { p with tier }
  let census ← t.census.transfer page.tier tier
  { t with census }.append id tier

/-- Moves heads of the list of `source` to `target` while `excess` holds, at most `steps` of them.
It stops at the page `pinned` and at the end of the list. -/
def demoteHeads (excess : Census → Bool) (source target : Tier) (pinned : PageId) :
    Nat → Table W → Except Fault (Table W)
  | 0, t => .ok t
  | steps + 1, t =>
    if excess t.census then
      match (t.chains.get source).head? with
      | none => .ok t
      | some head =>
        if head = pinned then .ok t
        else t.setTier head target >>= demoteHeads excess source target pinned steps
    else .ok t

/-- Demotes heads until both tier bounds hold again. Every demotion takes one page from its tier, so
the population of the tier bounds the steps. -/
def enforceLimits (t : Table W) (limits : Limits) (pinned : PageId) : Except Fault (Table W) := do
  let t ← demoteHeads (limits.longTermLimit < ·.longTerm) .longTerm .shortTerm pinned
    t.census.longTerm t
  demoteHeads (limits.protectedLimit < ·.protectedCount) .shortTerm .unknown pinned
    t.census.shortTerm t

end Table

/-- Where a hit takes the page: from the lowest tier always one tier up, from the middle tier only
if the page was referenced before. -/
def Page.promotion? (p : Page W) : Option Tier :=
  match p.tier with
  | .unknown => some .shortTerm
  | .shortTerm => if p.referenced then some .longTerm else none
  | .longTerm => none

def Table.recordHit (t : Table W) (limits : Limits) (id : PageId) : Except Fault (Table W) := do
  let page ← t.get id
  let t ← t.modify id fun p => { p with referenced := true }
  match page.promotion? with
  | none => return t
  | some tier => (← t.setTier id tier).enforceLimits limits id

end RecordCache
