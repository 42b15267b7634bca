import RecordCache.Replacement.Limits
import RecordCache.Table.Links
/-! Admission and eviction. A loaded page enters at the tail of the lowest tier. Victims come from
the head of the lowest tier that has members; a head with its reference bit set loses the bit and
goes to the tail instead. -/
namespace RecordCache

variable {W : Type}

structure Eviction where
  page : PageId
  address : Nat
  tier : Tier
  deriving DecidableEq, Repr

namespace Table

/-- Takes a page's window away, whatever its tier and bit. The page stays in the table. -/
def evict (t : Table W) (id : PageId) : Except Fault (Option Eviction × Table W) := do
  let page ← t.get id
  if page.window?.isNone then return (none, t)
  let t ← t.modify id fun p => { p with window? := none, tier := .unknown, referenced := false }
  let census ← t.census.decrement page.tier
  let (_, t) ← { t with census }.detach id
  return (some { page := id, address := page.address, tier := page.tier }, t)

/-- The first head of a tier's list without a reference bit. Heads with the bit lose it and go to
the tail, so after one round of the list the search has ended: `steps` is one more than its length.
-/
def sweep (tier : Tier) : Nat → Table W → Except Fault (Option PageId × Table W)
  | 0, t => .ok (none, t)
  | steps + 1, t =>
    match (t.chains.get tier).head? with
    | none => .ok (none, t)
    | some head => do
      let page ← t.get head
      if page.referenced then
        let t ← t.modify head fun p => { p with referenced := false }
        sweep tier steps (← t.append head tier)
      else return (some head, t)

def selectVictim (t : Table W) : Except Fault (Option PageId × Table W) :=
  match t.census.lowestPopulated? with
  | none => .ok (none, t)
  | some tier => sweep tier ((t.chains.get tier).size + 1) t

def evictExcess (capacity : Nat) : Nat → Table W → Except Fault (List Eviction × Table W)
  | 0, t => .ok ([], t)
  | steps + 1, t =>
    if capacity < t.residentCount then do
      let (some victim, t) ← t.selectVictim | .ok ([], t)
      let (evicted?, t) ← t.evict victim
      let (evicted, t) ← evictExcess capacity steps t
      return (evicted?.toList ++ evicted, t)
    else .ok ([], t)

def enter (t : Table W) (id : PageId) (window : W) : Except Fault (Table W) := do
  let t ← t.modify id fun p =>
    { p with window? := some window, referenced := false, tier := .unknown }
  { t with census := t.census.increment .unknown }.append id .unknown

/-- Makes a page resident, then evicts down to the capacity. -/
def makeResident (t : Table W) (limits : Limits) (id : PageId) (window : W) :
    Except Fault (List Eviction × Table W) := do
  let t ← t.enter id window
  evictExcess limits.capacity t.residentCount t

def forceEvict (t : Table W) (id : PageId) : Except Fault (Option Eviction × Table W) :=
  if id < t.size then t.evict id else .ok (none, t)

def evictAll (t : Table W) : List PageId → Except Fault (List Eviction × Table W)
  | [] => .ok ([], t)
  | id :: ids => do
    let (evicted?, t) ← t.evict id
    let (evicted, t) ← t.evictAll ids
    return (evicted?.toList ++ evicted, t)

def forceEvictAll (t : Table W) : Except Fault (List Eviction × Table W) :=
  t.evictAll t.residentIds

end Table

end RecordCache
