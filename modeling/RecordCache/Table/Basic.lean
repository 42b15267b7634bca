import RecordCache.Census
import RecordCache.Page
/-! The page table: a dense run of pages that only grows, the list of each tier, and the census of
resident pages. The lists are threaded through the pages, so a page number outside the table that
turns up in a link is a fault. -/
namespace RecordCache

variable {W : Type}

/-- The ends and the length of one list of pages. The head is the next candidate for eviction. -/
structure Chain where
  head? : Option PageId := none
  tail? : Option PageId := none
  size : Nat := 0
  deriving DecidableEq, Repr

structure Table (W : Type) where
  pages : Array (Page W) := #[]
  chains : PerTier Chain := PerTier.const {}
  census : Census := Census.empty
  deriving DecidableEq, Repr

namespace Table

def empty : Table W := {}

def size (t : Table W) : Nat := t.pages.size

def get (t : Table W) (id : PageId) : Except Fault (Page W) :=
  match t.pages[id]? with
  | some page => .ok page
  | none => .error .indexOutOfRange

def modify (t : Table W) (id : PageId) (f : Page W → Page W) : Except Fault (Table W) :=
  if id < t.size then .ok { t with pages := t.pages.modify id f } else .error .indexOutOfRange

def modifyChain (t : Table W) (tier : Tier) (f : Chain → Chain) : Table W :=
  { t with chains := t.chains.modify tier f }

/-- Creates every missing page up to and including `id`. Page `i` starts at record `i *
recordsPerPage`. -/
def growTo (t : Table W) (id : PageId) (recordsPerPage : Nat) : Table W :=
  let fresh := (List.range' t.size (id + 1 - t.size)).map
    fun i => { address := i * recordsPerPage : Page W }
  { t with pages := t.pages ++ fresh.toArray }

def info? (t : Table W) (id : PageId) : Option PageInfo := t.pages[id]?.map (·.info id)

def residentCount (t : Table W) : Nat := t.census.total

def idsWhere (t : Table W) (p : Page W → Bool) : List PageId :=
  (List.range t.size).filter fun i => t.pages[i]?.any p

def residentIds (t : Table W) : List PageId := t.idsWhere (·.isResident)

def referencedIds (t : Table W) : List PageId := t.idsWhere (·.referenced)

theorem size_growTo (t : Table W) (id : PageId) (r : Nat) :
    (t.growTo id r).size = max t.size (id + 1) := by
  simp [growTo, size]
  omega

theorem getElem?_growTo_of_lt (t : Table W) {i : PageId} (id : PageId) (r : Nat)
    (h : i < t.size) : (t.growTo id r).pages[i]? = t.pages[i]? := by
  simp only [size] at h
  simp [growTo, Array.getElem?_append, h]

theorem mem_idsWhere {t : Table W} {p : Page W → Bool} {i : PageId} :
    i ∈ t.idsWhere p ↔ ∃ page, t.pages[i]? = some page ∧ p page := by
  simp only [idsWhere, size, List.mem_filter, List.mem_range, Option.any_eq_true]
  constructor
  · exact fun h => h.2
  · rintro ⟨page, h, hp⟩
    exact ⟨(Array.getElem?_eq_some_iff.1 h).1, page, h, hp⟩

end Table

end RecordCache
