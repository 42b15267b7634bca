import RecordCache.Fault
import RecordCache.IoError
/-! Pages. A page covers a fixed run of records and stays in its table for good; only its residency
changes. The links of the list that holds it are page numbers. -/
namespace RecordCache

variable {W : Type}

structure Page (W : Type) where
  address : Nat
  /-- The second chance bit: used since the last sweep. -/
  referenced : Bool := false
  tier : Tier := .unknown
  /-- The list that holds the page. -/
  list? : Option Tier := none
  prev? : Option PageId := none
  next? : Option PageId := none
  /-- The mapped window, present while the page is resident. -/
  window? : Option W := none
  loading : Bool := false
  /-- The number of loads started so far. Stands for a counter of 64 bits that does not wrap: it is
  taken to stay below `2 ^ 64`. -/
  attempt : Nat := 0
  failure? : Option LoadError := none
  /-- The callers blocked on the load in progress. -/
  waiters : Nat := 0
  /-- The window of a load that was evicted on admission, with its attempt, kept for its waiters. -/
  parked? : Option (Nat × W) := none
  deriving DecidableEq, Repr

namespace Page

def isResident (p : Page W) : Bool := p.window?.isSome

def isLinked (p : Page W) : Bool := p.list?.isSome

def diagnostic (p : Page W) : String :=
  let list := match p.list? with
    | some tier => "Some(" ++ tier.diagnosticName ++ ")"
    | none => "None"
  "Page \x7b address: " ++ toString p.address ++ ", referenced: " ++ toString p.referenced
    ++ ", utility: " ++ p.tier.diagnosticName ++ ", list: " ++ list
    ++ ", resident: " ++ toString p.isResident ++ ", loading: " ++ toString p.loading
    ++ ", waiters: " ++ toString p.waiters ++ " \x7d"

end Page

structure PageInfo where
  id : PageId
  address : Nat
  tier : Tier
  referenced : Bool
  resident : Bool
  deriving DecidableEq, Repr

def Page.info (p : Page W) (id : PageId) : PageInfo :=
  { id, address := p.address, tier := p.tier, referenced := p.referenced, resident := p.isResident }

end RecordCache
