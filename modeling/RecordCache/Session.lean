import RecordCache.Acquire
/-! Sessions: runs of operations on a cache. An operation that misses holds a load open, during
which other callers may block on the same page and further operations may run, to any depth. -/
namespace RecordCache

/-- The window of a load in a session: where the page starts and which load made it. -/
structure Stamp where
  address : Nat
  serial : Nat
  deriving DecidableEq, Repr

abbrev LoadResult := Except LoadError Stamp

structure Waiter where
  page : PageId
  attempt : Nat
  deriving DecidableEq, Repr

structure Ticket where
  page : PageId
  attempt : Nat
  stamp : Stamp
  deriving DecidableEq, Repr

def Ticket.result (ticket : Ticket) (failure? : Option LoadError) : LoadResult :=
  match failure? with
  | some error => .error error
  | none => .ok ticket.stamp

inductive Opening where
  | hit (stamp : Stamp)
  | miss (ticket : Ticket)
  deriving DecidableEq, Repr

@[ext]
structure Session where
  cache : Cache Stamp
  /-- The blocked callers, in the order in which they blocked. -/
  blocked : List Waiter := []
  loads : Nat := 0
  evictions : List Eviction := []
  deriving DecidableEq, Repr

namespace Session

def ofLimits (limits : Limits) : Session := { cache := { limits } }

def limits (s : Session) : Limits := s.cache.limits

def table (s : Session) : Table Stamp := s.cache.table

def withTable (s : Session) (table : Table Stamp) : Session :=
  { s with cache := { s.cache with table } }

def withEvictions (s : Session) (evicted : List Eviction) : Session :=
  { s with evictions := s.evictions ++ evicted }

def openLoad (s : Session) (id : PageId) : Except Fault (Opening × Session) := do
  match ← s.cache.request id with
  | (.hit stamp, cache) => return (.hit stamp, { s with cache })
  | (.miss attempt address, cache) =>
    let serial := s.loads + 1
    return (.miss ⟨id, attempt, ⟨address, serial⟩⟩, { s with cache, loads := serial })

def block (id : PageId) : Nat → Session → Except Fault Session
  | 0, s => .ok s
  | n + 1, s => do
    match ← s.table.lap s.limits none id with
    | (.blocked attempt, table) =>
      block id n { s.withTable table with blocked := s.blocked ++ [⟨id, attempt⟩] }
    | _ => .ok s

/-- One waiter runs on after some load has ended. It has its answer, or is blocked again. A waiter
that finds nothing to wait for loads the page itself, with the same outcome as the load before. -/
def wake (failure? : Option LoadError) (w : Waiter) (s : Session) :
    Except Fault (Option LoadResult × Session) := do
  match ← s.table.runOn s.limits w.page w.attempt with
  | (.hit stamp, table) => return (some (.ok stamp), s.withTable table)
  | (.failed error, table) => return (some (.error error), s.withTable table)
  | (.blocked attempt, table) =>
    return (none, { s.withTable table with blocked := s.blocked ++ [⟨w.page, attempt⟩] })
  | (.load attempt address, table) =>
    let serial := s.loads + 1
    let result : LoadResult := match failure? with
      | some error => .error error
      | none => .ok ⟨address, serial⟩
    let (evicted, table) ← table.complete s.limits w.page attempt result
    return (some result, { (s.withTable table).withEvictions evicted with loads := serial })

/-- The answers of the waiters that are done. -/
def wakeAll (failure? : Option LoadError) :
    List Waiter → Session → Except Fault (List LoadResult × Session)
  | [], s => .ok ([], s)
  | w :: ws, s => do
    let (answer?, s) ← s.wake failure? w
    let (answers, s) ← wakeAll failure? ws s
    return (answer?.toList ++ answers, s)

/-- Ends a load and wakes every blocked caller: the answers are those of the callers that waited for
this load. One schedule is assumed: the waiters block before the operations inside the load run, and
when it ends all woken callers run on, in the order in which they blocked, before anything else
takes the table. A woken caller that other callers overtake is outside this model. -/
def closeLoad (s : Session) (ticket : Ticket) (failure? : Option LoadError) :
    Except Fault (List LoadResult × Session) := do
  let (evicted, cache) ← s.cache.complete ticket.page ticket.attempt (ticket.result failure?)
  let s := { s with cache }.withEvictions evicted
  wakeAll failure? s.blocked { s with blocked := [] }

end Session

inductive Op where
  | grow (page : PageId) (recordsPerPage : Nat)
  | acquire (page : PageId) (failure? : Option LoadError) (waiters : Nat) (during : List Op)
  | forceEvict (page : PageId)
  | forceEvictAll
  | inspect (page : PageId)

inductive Answer where
  | grown (page : PageId)
  /-- The result, the address that was loaded if any, the results of the waiters and the answers of
  the operations that ran during the load. -/
  | acquired (result : LoadResult) (loaded? : Option Nat) (waiters : List LoadResult)
      (during : List Answer)
  | evicted (released : Bool)
  | evictedAll (count : Nat)
  | page (page? : Option (Page Stamp))
  | fault (fault : Fault)

namespace Session

mutual

/-- One operation. A fault leaves the session as it was before the part that failed. That of an
operation inside a load is noted as its answer and the load goes on: faults are assumed to be caught
inside the load, and do not end it. -/
def step (s : Session) : Op → Answer × Session
  | .grow id recordsPerPage =>
    (.grown id, { s with cache := s.cache.resolve id recordsPerPage })
  | .acquire id failure? waiters during =>
    match s.openLoad id with
    | .error fault => (.fault fault, s)
    | .ok (.hit stamp, s) => (.acquired (.ok stamp) none [] [], s)
    | .ok (.miss ticket, s) =>
      match s.block id waiters with
      | .error fault => (.fault fault, s)
      | .ok s =>
        let (answers, s) := s.run during
        match s.closeLoad ticket failure? with
        | .error fault => (.fault fault, s)
        | .ok (results, s) =>
          (.acquired (ticket.result failure?) (some ticket.stamp.address) results answers, s)
  | .forceEvict id =>
    match s.table.forceEvict id with
    | .error fault => (.fault fault, s)
    | .ok (evicted?, table) =>
      (.evicted evicted?.isSome, (s.withTable table).withEvictions evicted?.toList)
  | .forceEvictAll =>
    match s.table.forceEvictAll with
    | .error fault => (.fault fault, s)
    | .ok (evicted, table) =>
      (.evictedAll evicted.length, (s.withTable table).withEvictions evicted)
  | .inspect id => (.page s.table.pages[id]?, s)

def run (s : Session) : List Op → List Answer × Session
  | [] => ([], s)
  | op :: ops =>
    let (answer, s) := s.step op
    let (answers, s) := s.run ops
    (answer :: answers, s)

end

end Session

end RecordCache
