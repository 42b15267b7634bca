import RecordCache.Acquire
import RecordCache.Event
import RecordCache.Pool.Config
import RecordCache.Report.Snapshot
import RecordCache.Store.Source
import RecordCache.Text.FileName
/-! Window pools. A pool resolves positions, which are record numbers, to pages and hands out the
window over the page of a position. It only serves reads. The page table grows with the positions
asked for. -/
namespace RecordCache

structure Pool where
  config : PoolConfig
  name : String
  source : Source
  recordsPerPage : Nat
  cache : Cache Window
  /-- The number of reads that were not refused. Stands for a counter of 64 bits that does not wrap:
  it is taken to stay below `2 ^ 64`. -/
  acquired : Nat := 0
  /-- The number of windows mapped, taken to stay below `2 ^ 64` as `acquired` is. -/
  mapped : Nat := 0
  sampler : Sampler
  /-- The time in nanoseconds since the pool was opened. -/
  clock : Nat := 0
  log : List Event := []
  samples : List Sample := []

namespace Pool

def table (p : Pool) : Table Window := p.cache.table

def limits (p : Pool) : Limits := p.cache.limits

def bytesPerPage (p : Pool) : Nat := p.recordsPerPage * p.config.bytesPerRecord

def tell (p : Pool) (events : List Event) : Pool := { p with log := p.log ++ events }

def pageNumber (p : Pool) (position : Nat) : Except PoolError PageId :=
  let number := position / p.recordsPerPage
  if PageId.max < number then .error (.positionOverflow position p.recordsPerPage number)
  else .ok number

def pageInfo (p : Pool) (position : Nat) : Except PoolError (Option PageInfo) :=
  (p.pageNumber position).map p.table.info?

def resolve (p : Pool) (position : Nat) : Except PoolError (PageId × Pool) :=
  (p.pageNumber position).map fun id =>
    (id, { p with cache := p.cache.resolve id p.recordsPerPage })

/-- Opens a pool. The table covers the store as large as the source says it is. -/
def ofSource (config : PoolConfig) (source : Source) : Except Fault (Except PoolError Pool) :=
  match config.validate with
  | .error e => .ok (.error e)
  | .ok recordsPerPage => do
    let limits ← Limits.ofFractions config.capacity config.protectedFraction config.longTermFraction
    let name := fileName config.storeName
    let pool : Pool :=
      { config, name, source, recordsPerPage, cache := { limits }, sampler := { store := name } }
    match source.size with
    | .error e => return .error (.io e)
    | .ok fileSize =>
      match pool.resolve (fileSize / config.bytesPerRecord) with
      | .error e => return .error e
      | .ok (_, pool) =>
        return .ok <| pool.tell [.poolOpened name fileSize config.bytesPerRecord recordsPerPage
          config.capacity pool.table.size]

def load (p : Pool) (address : Nat) : Except Fault (Except LoadError Window × Pool) := do
  let (result, source) ← p.source.window ⟨address, p.recordsPerPage, p.config.bytesPerRecord⟩
  match result with
  | .ok window => return (.ok window, { p with source, mapped := p.mapped + 1 })
  | .error e => return (.error ⟨e⟩, { p with source })

def fetch (p : Pool) (id : PageId) : Except Fault (Except LoadError Window × Pool) := do
  match ← p.cache.request id with
  | (.hit window, cache) => return (.ok window, { p with cache })
  | (.miss attempt address, cache) =>
    let (outcome, p) ← { p with cache }.load address
    let (evicted, cache) ← p.cache.complete id attempt outcome
    return (outcome, { p with cache }.tell (evicted.map .pageEvicted))

def reportIfDue (p : Pool) : Pool :=
  if Sampler.isDue p.config.reportInterval p.acquired then
    let (sample, sampler) := p.sampler.sample p.acquired p.mapped p.clock
    let samples := if p.config.hasListener then p.samples ++ [sample] else p.samples
    { p with sampler, samples }.tell [.sampled sample]
  else p

/-- The place of a record in the store, at most the greatest number of 64 bits. -/
def byteOffset (p : Pool) (position : Nat) : Nat :=
  min (position * p.config.bytesPerRecord) (twoTo 64 - 1)

def acquire (p : Pool) (position : Nat) (operation : Operation) :
    Except Fault (Except PoolError Window × Pool) :=
  match operation with
  | .write => .ok (.error (.unsupportedOperation .write), p)
  | .read =>
    match p.resolve position with
    | .error e => .ok (.error e, p)
    | .ok (id, p) => do
      let (result, p) ← { p with acquired := p.acquired + 1 }.fetch id
      let p := p.reportIfDue
      match result with
      | .ok window => return (.ok window, p)
      | .error cause =>
        let offset := p.byteOffset position
        return (.error (.storage position offset cause),
          p.tell [.loadFailed p.name position offset id cause])

def forceEvict (p : Pool) (id : PageId) : Except Fault (Bool × Pool) := do
  let (evicted?, table) ← p.table.forceEvict id
  return (evicted?.isSome,
    { p with cache := { p.cache with table } }.tell (evicted?.toList.map .pageEvicted))

def close (p : Pool) : Except Fault Pool := do
  let (evicted, table) ← p.table.forceEvictAll
  let p := { p with cache := { p.cache with table } }.tell (evicted.map .pageEvicted)
  return p.tell [.poolClosed p.name evicted.length p.acquired p.mapped]

def snapshot (p : Pool) : Snapshot :=
  { storeName := p.name
    pageTableSize := p.table.size
    bytesPerPage := p.bytesPerPage
    recordsPerPage := p.recordsPerPage
    hitCount := p.acquired - p.mapped
    missCount := p.mapped
    residentPages := p.table.residentCount
    tiers := p.table.census }

end Pool

end RecordCache
