import RecordCache.Replacement.Eviction
import RecordCache.Replacement.Hit
/-! Acquiring a page. A caller holds the table for one lap at a time: it finds a window, waits for a
load in progress, learns that the load it waited for has failed, or starts a load. Loads run while
the table is free, and a page that is being loaded is loaded once however many callers want it. -/
namespace RecordCache

variable {W : Type}

inductive Lap (W : Type) where
  | hit (window : W)
  | blocked (attempt : Nat)
  | failed (error : LoadError)
  | load (attempt address : Nat)
  deriving DecidableEq, Repr

/-- The failure that a caller who waited for the load `awaited?` has to pass on: the one of that
load, unless another has been started since. -/
def Page.awaitedFailure? (p : Page W) (awaited? : Option Nat) : Option LoadError :=
  if awaited? = some p.attempt then p.failure? else none

def Page.parkedFor? (p : Page W) (attempt : Nat) : Option W :=
  match p.parked? with
  | some (loaded, window) => if loaded = attempt then some window else none
  | none => none

namespace Table

def lap (t : Table W) (limits : Limits) (awaited? : Option Nat) (id : PageId) :
    Except Fault (Lap W × Table W) := do
  let page ← t.get id
  match page.window? with
  | some window => return (.hit window, ← t.recordHit limits id)
  | none =>
    if page.loading then
      return (.blocked page.attempt, ← t.modify id fun p => { p with waiters := p.waiters + 1 })
    else
      match page.awaitedFailure? awaited? with
      | some error => return (.failed error, t)
      | none =>
        let attempt := page.attempt + 1
        let t ← t.modify id fun p => { p with loading := true, attempt, failure? := none }
        return (.load attempt page.address, t)

/-- Ends a load. A window that does not survive its own admission is parked for the callers that
wait for it. -/
def complete (t : Table W) (limits : Limits) (id : PageId) (attempt : Nat)
    (outcome : Except LoadError W) : Except Fault (List Eviction × Table W) := do
  let t ← t.modify id fun p => { p with loading := false }
  match outcome with
  | .error error => return ([], ← t.modify id fun p => { p with failure? := some error })
  | .ok window =>
    let (evicted, t) ← t.makeResident limits id window
    let t ← t.modify id fun p =>
      if p.window?.isNone && 0 < p.waiters then { p with parked? := some (attempt, window) } else p
    return (evicted, t)

/-- Lets a caller that waited for the load `attempt` run on, with the window parked for it if there
is one. The last waiter drops the parked window. -/
def resume (t : Table W) (id : PageId) (attempt : Nat) : Except Fault (Option W × Table W) := do
  let page ← t.get id
  let waiters := page.waiters - 1
  let parked? := if waiters = 0 then none else page.parked?
  let t ← t.modify id fun p => { p with waiters, parked? }
  return (page.parkedFor? attempt, t)

/-- A caller that waited for the load `attempt` takes the window that it is handed, or goes on with
another lap. -/
def runOn (t : Table W) (limits : Limits) (id : PageId) (attempt : Nat) :
    Except Fault (Lap W × Table W) := do
  match ← t.resume id attempt with
  | (some window, t) => return (.hit window, t)
  | (none, t) => t.lap limits (some attempt) id

end Table

structure Cache (W : Type) where
  limits : Limits
  table : Table W := Table.empty
  deriving DecidableEq, Repr

inductive Request (W : Type) where
  | hit (window : W)
  | miss (attempt address : Nat)
  deriving DecidableEq, Repr

namespace Cache

def resolve (c : Cache W) (id : PageId) (recordsPerPage : Nat) : Cache W :=
  { c with table := c.table.growTo id recordsPerPage }

/-- Asks for a page of the table. A page that is being loaded by the caller's own caller is refused,
since that load cannot end first. -/
def request (c : Cache W) (id : PageId) : Except Fault (Request W × Cache W) :=
  match c.table.pages[id]? with
  | none => .error (.pageNotInTable id)
  | some page =>
    if page.loading then .error (.wouldBlock id)
    else do
      match ← c.table.lap c.limits none id with
      | (.hit window, table) => return (.hit window, { c with table })
      | (.load attempt address, table) => return (.miss attempt address, { c with table })
      | (.blocked _, _) | (.failed _, _) => throw (.wouldBlock id)

def complete (c : Cache W) (id : PageId) (attempt : Nat) (outcome : Except LoadError W) :
    Except Fault (List Eviction × Cache W) := do
  let (evicted, table) ← c.table.complete c.limits id attempt outcome
  return (evicted, { c with table })

end Cache

end RecordCache
