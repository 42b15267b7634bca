import RecordCache.Table.Basic
/-! Link surgery. A page is in at most one list, the one it names; it is added at the tail and may
be taken out anywhere, with a fixed number of link updates. -/
namespace RecordCache.Table

variable {W : Type}

/-- Lets the page `place?` be followed by `next?`; without a page, lets the list of `tier` begin
there. -/
def setNext (t : Table W) (tier : Tier) (place? next? : Option PageId) :
    Except Fault (Table W) :=
  match place? with
  | some id => t.modify id fun p => { p with next? }
  | none => .ok (t.modifyChain tier fun c => { c with head? := next? })

def setPrev (t : Table W) (tier : Tier) (place? prev? : Option PageId) :
    Except Fault (Table W) :=
  match place? with
  | some id => t.modify id fun p => { p with prev? }
  | none => .ok (t.modifyChain tier fun c => { c with tail? := prev? })

def shorten (t : Table W) (tier : Tier) : Except Fault (Table W) :=
  if (t.chains.get tier).size = 0 then .error (.listCorrupted tier)
  else .ok (t.modifyChain tier fun c => { c with size := c.size - 1 })

/-- Unlinks a page from the list that holds it. The answer tells whether it was in one. -/
def detach (t : Table W) (id : PageId) : Except Fault (Bool × Table W) := do
  let page ← t.get id
  match page.list? with
  | none => return (false, t)
  | some tier =>
    let t ← t.modify id fun p => { p with list? := none, prev? := none, next? := none }
    let t ← t.setNext tier page.prev? page.next?
    let t ← t.setPrev tier page.next? page.prev?
    return (true, ← t.shorten tier)

def append (t : Table W) (id : PageId) (tier : Tier) : Except Fault (Table W) := do
  let (_, t) ← t.detach id
  let tail? := (t.chains.get tier).tail?
  let t ← t.modify id fun p => { p with prev? := tail?, next? := none, list? := some tier }
  let t ← t.setNext tier tail? (some id)
  return t.modifyChain tier fun c => { c with tail? := some id, size := c.size + 1 }

/-- The pages met by following `step` from `cursor?`, if the walk ends within `limit` steps. -/
def walk (t : Table W) (step : Page W → Option PageId) :
    Nat → Option PageId → Option (Except Fault (List PageId))
  | _, none => some (.ok [])
  | 0, some _ => none
  | limit + 1, some id =>
    match t.pages[id]? with
    | none => some (.error .indexOutOfRange)
    | some page => (t.walk step limit (step page)).map (·.map (id :: ·))

/-- The members of a tier's list, head first, if they are at most `limit`. Memory is taken as
unlimited: a chain of any claimed size can be walked, and the members met never run out of room. -/
def forward (t : Table W) (limit : Nat) (tier : Tier) : Option (Except Fault (List PageId)) :=
  t.walk (·.next?) limit (t.chains.get tier).head?

/-- The members of a tier's list, head first. A chain without repetition has at most as many members
as the table has pages, so a longer walk stands for no list and yields nothing. -/
def members (t : Table W) (tier : Tier) : List PageId :=
  match t.forward t.size tier with
  | some (.ok ids) => ids
  | _ => []

end RecordCache.Table
