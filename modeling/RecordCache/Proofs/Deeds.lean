import RecordCache.Proofs.Acquisitions
/-! What befalls pages, as far as replacement goes: they are hit, they are admitted at the end of a
load, and they are evicted by force. The lists and the reference bits of a table are what a replay
of these deeds leaves. -/
namespace RecordCache

variable {W V : Type} {limits : Limits} {t t' : Table W} {r r' r'' : Roster} {id : PageId}
  {source : Tier} {ids : List PageId}

inductive Deed where
  | hit (page : PageId)
  /-- The page was loaded and admitted, at the cost of the pages `evicted`. -/
  | loaded (page : PageId) (evicted : List PageId)
  | forcedOut (page : PageId)
  deriving DecidableEq, Repr

def Deed.evicted : Deed → List PageId
  | .hit _ => []
  | .loaded _ evicted => evicted
  | .forcedOut page => [page]

theorem Deed.evicted_forcedOut (evicted : List Eviction) :
    (evicted.map fun x => Deed.forcedOut x.page).flatMap Deed.evicted =
      evicted.map Eviction.page := by
  rw [List.flatMap_map]
  exact List.map_eq_flatMap.symm

variable {deed : Deed} {deeds deeds' : List Deed}

namespace Roster

def empty : Roster := ⟨PerTier.const [], fun _ => false⟩

def leave (r : Roster) (id : PageId) : Roster :=
  { lineup := r.lineup.without id, referenced := fun i => r.referenced i && i ≠ id }

structure Proper (limits : Limits) (r : Roster) : Prop where
  nodup : ∀ tier, (r.lineup.get tier).Nodup
  tier_eq : ∀ {id tier u}, id ∈ r.lineup.get tier → id ∈ r.lineup.get u → u = tier
  within : r.lineup.all.length ≤ limits.capacity
  idle : ∀ {id}, (∀ u, id ∉ r.lineup.get u) → r.referenced id = false

inductive Effect (limits : Limits) (r : Roster) : Deed → Roster → Prop where
  | hit {source : Tier} {id : PageId} : id ∈ r.lineup.get source →
      Effect limits r (.hit id) (r.hit limits source id)
  | loaded {id : PageId} : (∀ u, id ∉ r.lineup.get u) →
      Effect limits r (.loaded id (r.lineup.displaced limits.capacity r.referenced id))
        (r.intake limits.capacity id)
  | forcedOut {source : Tier} {id : PageId} : id ∈ r.lineup.get source →
      Effect limits r (.forcedOut id) (r.leave id)

inductive Replay (limits : Limits) (r : Roster) : List Deed → Roster → Prop where
  | nil : Replay limits r [] r
  | snoc {deeds : List Deed} {r' r'' : Roster} {deed : Deed} : Replay limits r deeds r' →
      r'.Proper limits → r'.Effect limits deed r'' → Replay limits r (deeds ++ [deed]) r''

theorem Replay.single (hp : r.Proper limits) (h : r.Effect limits deed r') :
    r.Replay limits [deed] r' :=
  .snoc .nil hp h

theorem Replay.trans (h : r.Replay limits deeds r') (h' : r'.Replay limits deeds' r'') :
    r.Replay limits (deeds ++ deeds') r'' := by
  induction h' with
  | nil =>
    rw [List.append_nil]
    exact h
  | snoc _ hp he ih =>
    rw [← List.append_assoc]
    exact ih.snoc hp he

theorem Replay.invariant {P : Roster → Prop} (h : r.Replay limits deeds r')
    (hP : ∀ {r deed r'}, r.Proper limits → r.Effect limits deed r' → P r → P r') (hr : P r) :
    P r' := by
  induction h with
  | nil => exact hr
  | snoc _ hp he ih => exact hP hp he ih

end Roster

namespace Table

theorem Shows.unique (h : t.Shows r) (h' : t.Shows r') : r = r' := by
  cases r
  cases r'
  obtain rfl := h.aligned.linked.unique h'.aligned.linked
  exact congrArg _ (h.referenced.symm.trans h'.referenced)

theorem Aligned.shows {l : Lineup} (h : t.Aligned l) : t.Shows ⟨l, t.isReferenced⟩ := ⟨h, rfl⟩

theorem Shows.of_recast {f : W → V} {g : PageId → LoadState W → LoadState V}
    (ha : ∃ l, t.Aligned l) (h : (t.recast f g).Shows r) : t.Shows r := by
  obtain ⟨l, hal⟩ := ha
  exact (hal.shows.recast f g).unique h ▸ hal.shows

theorem Shows.proper (h : t.Shows r) (hc : t.residentCount ≤ limits.capacity) :
    r.Proper limits := by
  refine ⟨h.aligned.linked.nodup, fun hm => h.aligned.linked.tier_eq hm,
    h.aligned.total_eq ▸ hc, fun {id} hn => ?_⟩
  by_cases hid : id < t.size
  · exact h.unreferenced hid hn
  · have hp : t.pages[id]? = none := Array.getElem?_eq_none (Nat.le_of_not_lt hid)
    rw [← h.referenced, isReferenced, bare, content, hp]
    rfl

theorem Shows.empty : (Table.empty : Table W).Shows .empty := by
  refine ⟨Aligned.empty, funext fun i => ?_⟩
  simp [isReferenced, bare, content, Table.empty, Roster.empty]

theorem Shows.growTo (h : t.Shows r) (id n : Nat) : (t.growTo id n).Shows r := by
  refine ⟨h.aligned.growTo id n, funext fun i => ?_⟩
  rw [← h.referenced]
  cases hp : (t.growTo id n).pages[i]? with
  | some page =>
    rw [isReferenced_of_page hp]
    rcases page_growTo hp with hp | ⟨hi, hx⟩
    · exact (isReferenced_of_page hp).symm
    · have hnone : t.pages[i]? = none := Array.getElem?_eq_none hi
      rw [isReferenced, bare, content, hnone, hx]
      rfl
  | none =>
    have hnone : t.pages[i]? = none := by
      by_contra hx
      obtain ⟨page, hp'⟩ := Option.ne_none_iff_exists'.mp hx
      rw [getElem?_growTo_of_lt t id n (lt_size_of_page hp'), hp'] at hp
      cases hp
    rw [isReferenced, isReferenced, bare, bare, content, content, hp, hnone]

def Resides (t : Table W) (id : PageId) (tier : Tier) : Prop :=
  ∃ page, t.pages[id]? = some page ∧ page.isResident ∧ page.tier = tier

theorem Shows.resides_iff {tier : Tier} (h : t.Shows r) :
    t.Resides id tier ↔ id ∈ r.lineup.get tier := by
  constructor
  · rintro ⟨page, hp, hx, rfl⟩
    obtain ⟨u, hu⟩ := (h.aligned.page_resident hp).mp hx
    rw [h.aligned.page_tier hp hu]
    exact hu
  · intro hm
    obtain ⟨page, hp⟩ := exists_page (h.aligned.linked.lt_size hm)
    exact ⟨page, hp, (h.aligned.page_resident hp).mpr ⟨tier, hm⟩, h.aligned.page_tier hp hm⟩

theorem Shows.evict (h : t.Shows r) (hm : id ∈ r.lineup.get source) :
    ∃ eviction t', t.evict id = .ok (some eviction, t') ∧ eviction.page = id ∧
      t'.Shows (r.leave id) ∧ t'.residentCount ≤ t.residentCount ∧ Released t t' := by
  obtain ⟨x, t', e, hx, -, h', hc, hb⟩ := h.aligned.evict_spec hm
  refine ⟨x, t', e, hx, ⟨h', funext fun i => ?_⟩, by rw [residentCount, residentCount]; omega,
    Released.of_bare fun i => ?_⟩
  · rw [Roster.leave, ← h.referenced, isReferenced, hb]
    by_cases hi : i = id
    · cases t.bare i <;> simp [hi, Page.emptied]
    · simp [hi, isReferenced]
  · rw [hb]
    split <;> simp

theorem Shows.evictAll (h : t.Shows r) (hd : ids.Nodup) (hm : ∀ i ∈ ids, ∃ u, i ∈ r.lineup.get u)
    (hc : t.residentCount ≤ limits.capacity) :
    ∃ evicted t', t.evictAll ids = .ok (evicted, t') ∧ evicted.map Eviction.page = ids ∧
      t'.Shows (ids.foldl Roster.leave r) ∧ t'.residentCount ≤ limits.capacity ∧ Released t t' ∧
      r.Replay limits (ids.map Deed.forcedOut) (ids.foldl Roster.leave r) := by
  induction ids generalizing t r with
  | nil => exact ⟨[], t, rfl, rfl, h, hc, .refl t, .nil⟩
  | cons id ids ih =>
    obtain ⟨hid, hrest⟩ := List.nodup_cons.mp hd
    obtain ⟨u, hu⟩ := hm id List.mem_cons_self
    obtain ⟨x, t₁, e₁, rfl, h₁, hc₁, hr₁⟩ := h.evict hu
    have hm₁ : ∀ i ∈ ids, ∃ u, i ∈ (r.leave x.page).lineup.get u := by
      intro i hi
      obtain ⟨u, hu⟩ := hm i (List.mem_cons_of_mem _ hi)
      exact ⟨u, (Lineup.mem_without h.aligned.linked.nodup).mpr ⟨fun e => hid (e ▸ hi), hu⟩⟩
    obtain ⟨evicted, t₂, e₂, hx, h₂, hc₂, hr₂, p⟩ := ih h₁ hrest hm₁ (Nat.le_trans hc₁ hc)
    refine ⟨x :: evicted, t₂, ?_, congrArg _ hx, h₂, hc₂, hr₁.trans hr₂, ?_⟩
    · simp only [Table.evictAll, e₁, e₂, bind, Except.bind, pure, Except.pure]
      rfl
    · exact (Roster.Replay.single (h.proper hc) (.forcedOut hu)).trans p

theorem residentIds_setLoad (t : Table W) (id : PageId) (load : LoadState W) :
    (t.setLoad id load).residentIds = t.residentIds :=
  residentIds_recast ..

theorem nodup_residentIds (t : Table W) : t.residentIds.Nodup :=
  List.nodup_range.filter _

theorem Shows.forceEvict (h : t.Shows r) (hc : t.residentCount ≤ limits.capacity) (id : PageId) :
    ∃ eviction? t' r', t.forceEvict id = .ok (eviction?, t') ∧ t'.Shows r' ∧ Released t t' ∧
      r.Replay limits (eviction?.toList.map fun x => .forcedOut x.page) r' ∧
      ∀ x ∈ eviction?, x.page = id := by
  rw [Table.forceEvict]
  by_cases hid : id < t.size
  · rw [if_pos hid]
    by_cases hm : ∃ u, id ∈ r.lineup.get u
    · obtain ⟨u, hu⟩ := hm
      obtain ⟨x, t', e, hx, h', -, ht⟩ := h.evict hu
      refine ⟨some x, t', _, e, h', ht, ?_, fun y hy => Option.some.inj hy ▸ hx⟩
      rw [Option.toList_some, List.map_singleton, hx]
      exact .single (h.proper hc) (.forcedOut hu)
    · rw [h.aligned.evict_of_idle hid (not_exists.mp hm)]
      exact ⟨none, t, r, rfl, h, .refl t, .nil, fun y hy => absurd hy (Option.not_mem_none y)⟩
  · rw [if_neg hid]
    exact ⟨none, t, r, rfl, h, .refl t, .nil, fun y hy => absurd hy (Option.not_mem_none y)⟩

end Table

end RecordCache
