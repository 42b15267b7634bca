import RecordCache.Table.Links
/-! The integrity check: lists, census and residency compared with each other. The forward walk of a
list follows its links until they end, so on a cycle of links the check has no result; the argument
`limit` bounds that walk, and `none` says that the bound was not enough. The backward walk is
bounded by the size that the list claims. -/
namespace RecordCache.Table

variable {W : Type}

def backward (t : Table W) (tier : Tier) : Nat → Option PageId → Except Fault (List PageId)
  | _, none => .ok []
  | 0, some _ => .error (.listCycle tier)
  | room + 1, some id =>
    match t.pages[id]? with
    | none => .error .indexOutOfRange
    | some page => (t.backward tier room page.prev?).map (id :: ·)

def checkOwned (t : Table W) (tier : Tier) : List PageId → Except Fault Unit
  | [] => .ok ()
  | id :: ids =>
    match t.pages[id]? with
    | none => .error .indexOutOfRange
    | some page =>
      if page.list? = some tier then t.checkOwned tier ids else .error (.notOwned id tier)

def checkMembers (t : Table W) (tier : Tier) (ids : List PageId) : Except Fault Unit := do
  let chain := t.chains.get tier
  if ids.length ≠ chain.size then throw (.sizeMismatch tier)
  let back ← t.backward tier chain.size chain.tail?
  if ids ≠ back.reverse then throw (.linksDisagree tier)
  t.checkOwned tier ids

def checkChain (t : Table W) (limit : Nat) (tier : Tier) : Option (Except Fault Unit) :=
  (t.forward limit tier).map fun found => found >>= t.checkMembers tier

def checkChains (t : Table W) (limit : Nat) : List Tier → Option (Except Fault Unit)
  | [] => some (.ok ())
  | tier :: tiers =>
    match t.checkChain limit tier with
    | none => none
    | some (.error fault) => some (.error fault)
    | some (.ok ()) => t.checkChains limit tiers

def linkedCount (t : Table W) : Nat := t.pages.toList.countP (·.isLinked)

def listedCount (t : Table W) : Nat :=
  t.chains.unknown.size + t.chains.shortTerm.size + t.chains.longTerm.size

def checkCensus (t : Table W) : List Tier → Except Fault Unit
  | [] => .ok ()
  | tier :: tiers =>
    if (t.chains.get tier).size = t.census.get tier then t.checkCensus tiers
    else .error (.countMismatch tier)

def checkPages : PageId → List (Page W) → Except Fault Unit
  | _, [] => .ok ()
  | id, page :: pages =>
    if page.isResident ≠ page.isLinked then .error (.residencyMismatch id)
    else if page.list?.any (· ≠ page.tier) then .error (.wrongTierList id)
    else checkPages (id + 1) pages

def checkCounts (t : Table W) : Except Fault Unit := do
  if t.linkedCount ≠ t.listedCount then throw .orphanedPages
  t.checkCensus Tier.all
  checkPages 0 t.pages.toList

def checkIntegrity (t : Table W) (limit : Nat) : Option (Except Fault Unit) :=
  match t.checkChains limit Tier.all with
  | some (.ok ()) => some t.checkCounts
  | other => other

end RecordCache.Table
