import Mathlib.Data.Prod.Basic
import RecordCache.Replacement.Eviction
import RecordCache.Replacement.Hit
/-! Replacement looks neither into windows nor at the loads of a page. Exchanging the windows and
the load states of a table therefore commutes with every operation on its lists: what is done to the
recast table is the recast of what is done to the table. -/
namespace RecordCache

variable {W V α : Type}

structure LoadState (W : Type) where
  loading : Bool := false
  attempt : Nat := 0
  failure? : Option LoadError := none
  waiters : Nat := 0
  parked? : Option (Nat × W) := none

namespace Page

def loadState (p : Page W) : LoadState W :=
  ⟨p.loading, p.attempt, p.failure?, p.waiters, p.parked?⟩

def recast (f : W → V) (g : LoadState W → LoadState V) (p : Page W) : Page V :=
  { address := p.address, referenced := p.referenced, tier := p.tier, list? := p.list?
    prev? := p.prev?, next? := p.next?, window? := p.window?.map f
    loading := (g p.loadState).loading, attempt := (g p.loadState).attempt
    failure? := (g p.loadState).failure?, waiters := (g p.loadState).waiters
    parked? := (g p.loadState).parked? }

@[simp] theorem loadState_recast (f : W → V) (g : LoadState W → LoadState V) (p : Page W) :
    (p.recast f g).loadState = g p.loadState := rfl

end Page

/-- If the first parts agree up to `r`, and the rest does from there up to `q`, all does. -/
theorem bind_map {ε α α' β β' : Type} {x : Except ε α} {x' : Except ε α'} {r : α → α'}
    {k : α → Except ε β} {k' : α' → Except ε β'} {q : β → β'} (hx : x' = x.map r)
    (hk : ∀ a, k' (r a) = (k a).map q) : x' >>= k' = (x >>= k).map q := by
  subst hx
  cases x with
  | error _ => rfl
  | ok a => exact hk a

namespace Table

def recast (f : W → V) (g : PageId → LoadState W → LoadState V) (t : Table W) : Table V :=
  { pages := t.pages.mapIdx fun i p => p.recast f (g i), chains := t.chains, census := t.census }

def loadOf (t : Table W) (id : PageId) : Option (LoadState W) := t.pages[id]?.map Page.loadState

theorem loadOf_of_page {t : Table W} {id : PageId} {p : Page W} (h : t.pages[id]? = some p) :
    t.loadOf id = some p.loadState :=
  congrArg (Option.map Page.loadState) h

theorem recast_recast {U : Type} (f : W → V) (g : PageId → LoadState W → LoadState V) (f' : V → U)
    (g' : PageId → LoadState V → LoadState U) (t : Table W) :
    (t.recast f g).recast f' g' = t.recast (f' ∘ f) fun i m => g' i (g i m) := by
  simp only [recast, Table.mk.injEq, and_self, and_true]
  apply Array.ext_getElem?
  intro i
  simp only [Array.getElem?_mapIdx, Option.map_map]
  cases t.pages[i]? with
  | none => rfl
  | some p => simp [Page.recast, Page.loadState, Option.map_map]

theorem recast_congr {t : Table W} {f : W → V} {g g' : PageId → LoadState W → LoadState V}
    (h : ∀ i m, t.loadOf i = some m → g i m = g' i m) : t.recast f g = t.recast f g' := by
  simp only [recast, Table.mk.injEq, and_self, and_true]
  apply Array.ext_getElem?
  intro i
  simp only [Array.getElem?_mapIdx]
  cases hp : t.pages[i]? with
  | none => rfl
  | some p =>
    have := h i p.loadState (loadOf_of_page hp)
    simp only [Option.map_some, Page.recast, this]

variable (f : W → V) (g : PageId → LoadState W → LoadState V) (t : Table W) (id : PageId)
  (tier : Tier)

theorem getElem?_recast (i : PageId) :
    (t.recast f g).pages[i]? = t.pages[i]?.map (·.recast f (g i)) := by
  simp [recast]

@[simp] theorem size_recast : (t.recast f g).size = t.size := by
  simp [recast, size]

@[simp] theorem chains_recast : (t.recast f g).chains = t.chains := rfl

@[simp] theorem census_recast : (t.recast f g).census = t.census := rfl

theorem loadOf_recast (i : PageId) : (t.recast f g).loadOf i = (t.loadOf i).map (g i) := by
  rw [loadOf, loadOf, getElem?_recast]
  cases t.pages[i]? <;> rfl

theorem get_recast : (t.recast f g).get id = (t.get id).map (·.recast f (g id)) := by
  rw [get, get, getElem?_recast]
  cases t.pages[id]? <;> rfl

theorem modify_recast {k : Page W → Page W} {k' : Page V → Page V}
    (h : ∀ p, k' (p.recast f (g id)) = (k p).recast f (g id)) :
    (t.recast f g).modify id k' = (t.modify id k).map (·.recast f g) := by
  rw [modify, modify, size_recast]
  split
  · simp only [Except.map, recast, Except.ok.injEq, Table.mk.injEq, and_self, and_true]
    apply Array.ext_getElem?
    intro i
    simp only [Array.getElem?_modify, Array.getElem?_mapIdx]
    split <;> rename_i hi
    · subst hi
      cases t.pages[id]? with
      | none => rfl
      | some p => exact congrArg some (h p)
    · rfl
  · rfl

theorem setNext_recast (place? next? : Option PageId) :
    (t.recast f g).setNext tier place? next? =
      (t.setNext tier place? next?).map (·.recast f g) := by
  cases place? with
  | none => rfl
  | some id => exact modify_recast f g t id fun _ => rfl

theorem setPrev_recast (place? prev? : Option PageId) :
    (t.recast f g).setPrev tier place? prev? =
      (t.setPrev tier place? prev?).map (·.recast f g) := by
  cases place? with
  | none => rfl
  | some id => exact modify_recast f g t id fun _ => rfl

theorem shorten_recast : (t.recast f g).shorten tier = (t.shorten tier).map (·.recast f g) := by
  rw [shorten, shorten, chains_recast]
  split <;> rfl

def recastPair (r : α × Table W) : α × Table V := (r.1, r.2.recast f g)

theorem detach_recast : (t.recast f g).detach id = (t.detach id).map (recastPair f g) := by
  rw [detach, detach]
  refine bind_map (get_recast f g t id) fun page => ?_
  have hlist : (page.recast f (g id)).list? = page.list? := rfl
  rw [hlist]
  cases page.list? with
  | none => rfl
  | some tier =>
    refine bind_map (modify_recast f g t id ?_) fun t₁ => ?_
    · intro p; rfl
    refine bind_map (setNext_recast f g t₁ tier _ _) fun t₂ => ?_
    refine bind_map (setPrev_recast f g t₂ tier _ _) fun t₃ => ?_
    exact bind_map (shorten_recast f g t₃ tier) fun _ => rfl

theorem append_recast : (t.recast f g).append id tier = (t.append id tier).map (·.recast f g) := by
  rw [append, append]
  refine bind_map (detach_recast f g t id) fun (_, t₁) => ?_
  refine bind_map (modify_recast f g t₁ id ?_) fun t₂ => ?_
  · intro p; rfl
  exact bind_map (setNext_recast f g t₂ tier _ _) fun _ => rfl

theorem setTier_recast :
    (t.recast f g).setTier id tier = (t.setTier id tier).map (·.recast f g) := by
  rw [setTier, setTier]
  refine bind_map (get_recast f g t id) fun page => ?_
  refine bind_map (modify_recast f g t id ?_) fun t₁ => ?_
  · intro p; rfl
  refine bind_map (congrFun Except.map_id _).symm fun census => ?_
  exact append_recast f g { t₁ with census } id tier

theorem demoteHeads_recast (excess : Census → Bool) (source target : Tier) (pinned : PageId)
    (steps : Nat) : demoteHeads excess source target pinned steps (t.recast f g) =
      (demoteHeads excess source target pinned steps t).map (·.recast f g) := by
  induction steps generalizing t with
  | zero => rfl
  | succ steps ih =>
    rw [demoteHeads, demoteHeads, census_recast, chains_recast]
    split
    · cases (t.chains.get source).head? with
      | none => rfl
      | some head =>
        by_cases hn : head = pinned
        · simp only [if_pos hn]; rfl
        · simp only [if_neg hn]
          exact bind_map (setTier_recast f g t head target) ih
    · rfl

theorem enforceLimits_recast (limits : Limits) :
    (t.recast f g).enforceLimits limits id =
      (t.enforceLimits limits id).map (·.recast f g) := by
  rw [enforceLimits, enforceLimits]
  exact bind_map (demoteHeads_recast f g t _ _ _ _ _) fun t₁ => demoteHeads_recast f g t₁ _ _ _ _ _

theorem recordHit_recast (limits : Limits) :
    (t.recast f g).recordHit limits id = (t.recordHit limits id).map (·.recast f g) := by
  rw [recordHit, recordHit]
  refine bind_map (get_recast f g t id) fun page => ?_
  refine bind_map (modify_recast f g t id ?_) fun t₁ => ?_
  · intro p; rfl
  have hpromotion : (page.recast f (g id)).promotion? = page.promotion? := rfl
  rw [hpromotion]
  cases page.promotion? with
  | none => rfl
  | some tier =>
    exact bind_map (setTier_recast f g t₁ id tier) fun t₂ => enforceLimits_recast f g t₂ id limits

theorem evict_recast : (t.recast f g).evict id = (t.evict id).map (recastPair f g) := by
  rw [evict, evict]
  refine bind_map (get_recast f g t id) fun page => ?_
  have hw : (page.recast f (g id)).window?.isNone = page.window?.isNone := by
    simp [Page.recast]
  rw [hw]
  split
  · rfl
  · refine bind_map (modify_recast f g t id ?_) fun t₁ => ?_
    · intro p; rfl
    refine bind_map (congrFun Except.map_id _).symm fun census => ?_
    exact bind_map (detach_recast f g { t₁ with census } id) fun _ => rfl

theorem sweep_recast (steps : Nat) :
    sweep tier steps (t.recast f g) = (sweep tier steps t).map (recastPair f g) := by
  induction steps generalizing t with
  | zero => rfl
  | succ steps ih =>
    rw [sweep, sweep, chains_recast]
    cases (t.chains.get tier).head? with
    | none => rfl
    | some head =>
      refine bind_map (get_recast f g t head) fun page => ?_
      change (if page.referenced then _ else _) = _
      split
      · refine bind_map (modify_recast f g t head ?_) fun t₁ => ?_
        · intro p; rfl
        exact bind_map (append_recast f g t₁ head tier) ih
      · rfl

theorem selectVictim_recast :
    (t.recast f g).selectVictim = t.selectVictim.map (recastPair f g) := by
  rw [selectVictim, selectVictim, census_recast]
  cases t.census.lowestPopulated? with
  | none => rfl
  | some tier => exact sweep_recast f g t tier _

theorem evictExcess_recast (capacity steps : Nat) :
    evictExcess capacity steps (t.recast f g) =
      (evictExcess capacity steps t).map (recastPair f g) := by
  induction steps generalizing t with
  | zero => rfl
  | succ steps ih =>
    rw [evictExcess, evictExcess]
    change (if capacity < t.residentCount then _ else _) = _
    split
    · refine bind_map (selectVictim_recast f g t) fun (victim?, t₁) => ?_
      cases victim? with
      | none => rfl
      | some victim =>
        refine bind_map (evict_recast f g t₁ victim) fun (_, t₂) => ?_
        exact bind_map (ih t₂) fun _ => rfl
    · rfl

theorem enter_recast (window : W) :
    (t.recast f g).enter id (f window) = (t.enter id window).map (·.recast f g) := by
  rw [enter, enter]
  refine bind_map (modify_recast f g t id ?_) fun t₁ => ?_
  · intro p; rfl
  exact append_recast f g { t₁ with census := t₁.census.increment .unknown } id .unknown

theorem makeResident_recast (limits : Limits) (window : W) :
    (t.recast f g).makeResident limits id (f window) =
      (t.makeResident limits id window).map (recastPair f g) := by
  rw [makeResident, makeResident]
  exact bind_map (enter_recast f g t id window) fun t₁ => evictExcess_recast f g t₁ _ _

theorem evictAll_recast (ids : List PageId) :
    (t.recast f g).evictAll ids = (t.evictAll ids).map (recastPair f g) := by
  induction ids generalizing t with
  | nil => rfl
  | cons i ids ih =>
    rw [evictAll, evictAll]
    refine bind_map (evict_recast f g t i) fun (_, t₁) => ?_
    exact bind_map (ih t₁) fun _ => rfl

theorem forceEvict_recast :
    (t.recast f g).forceEvict id = (t.forceEvict id).map (recastPair f g) := by
  rw [forceEvict, forceEvict, size_recast]
  split
  · exact evict_recast f g t id
  · rfl

theorem residentIds_recast : (t.recast f g).residentIds = t.residentIds := by
  simp only [residentIds, idsWhere, size_recast, getElem?_recast]
  congr 1
  funext i
  cases t.pages[i]? <;> simp [Page.recast, Page.isResident]

theorem forceEvictAll_recast :
    (t.recast f g).forceEvictAll = t.forceEvictAll.map (recastPair f g) := by
  rw [forceEvictAll, forceEvictAll, residentIds_recast]
  exact evictAll_recast f g t _

theorem growTo_recast (recordsPerPage : Nat) (hg : ∀ i, t.size ≤ i → g i {} = {}) :
    (t.recast f g).growTo id recordsPerPage = (t.growTo id recordsPerPage).recast f g := by
  rw [growTo, growTo, size_recast]
  simp only [recast, Table.mk.injEq, and_self, and_true]
  apply Array.ext_getElem?
  intro i
  simp only [Array.getElem?_append, Array.getElem?_mapIdx, Array.size_mapIdx,
    List.getElem?_toArray, List.getElem?_map]
  split <;> rename_i hi
  · rfl
  · have hf := hg i (Nat.le_of_not_lt hi)
    rw [Option.map_map]
    refine congrFun (congrArg Option.map (funext fun n => ?_)) _
    simp only [Function.comp_apply, Page.recast, Page.loadState, hf, Option.map_none]

end Table

end RecordCache
