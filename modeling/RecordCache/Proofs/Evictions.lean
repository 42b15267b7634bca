import Mathlib.Data.List.TakeWhile
import RecordCache.Proofs.Hits
import RecordCache.Proofs.Recast
/-! Admission and eviction keep a table aligned, and admission ends within the capacity. The search
for a victim ends because every rotation clears a bit of the list that is searched. -/
namespace RecordCache

variable {W : Type} {l : Lineup} {id : PageId} {tier source : Tier}

def Page.emptied (p : Page W) : Page W := { p with window? := none, referenced := false }

def Page.cleared (p : Page W) : Page W := { p with referenced := false }

theorem Placed.congr {content : PageId → Option (Page W)} {census : Census} {l' : Lineup}
    (h : Placed content census l) (hm : ∀ i u, i ∈ l'.get u ↔ i ∈ l.get u)
    (hn : ∀ u, (l'.get u).length = (l.get u).length) : Placed content census l' := by
  refine ⟨fun hp => ?_, fun hp hi => h.tier_eq hp ((hm _ _).mp hi), fun hp hi => ?_, fun u => ?_⟩
  · simp only [hm]
    exact h.resident hp
  · exact h.idle hp fun u hu => hi u ((hm _ _).mpr hu)
  · rw [hn, h.census]

namespace Table

variable {t t' : Table W}

theorem via_window_eq (t : Table W) (i : PageId) :
    t.via Page.window? i = (t.bare i).bind Page.window? := by
  simp only [via, bare, content]
  cases t.pages[i]? <;> rfl

theorem via_window_of_bare {f : Page W → Page W}
    (hb : ∀ i, t'.bare i = if i = id then (t.bare i).map f else t.bare i)
    (hf : ∀ p, (f p).window? = p.window?) : t'.via Page.window? = t.via Page.window? := by
  funext i
  rw [via_window_eq, via_window_eq, hb]
  split
  · cases t.bare i <;> simp [hf]
  · rfl

theorem loadOf_eq (t : Table W) (i : PageId) : t.loadOf i = (t.bare i).map Page.loadState := by
  simp only [loadOf, bare, content]
  cases t.pages[i]? <;> rfl

def addressOf (t : Table W) (i : PageId) : Option Nat := t.pages[i]?.map Page.address

theorem addressOf_eq (t : Table W) (i : PageId) :
    t.addressOf i = (t.bare i).map Page.address := by
  simp only [addressOf, bare, content]
  cases t.pages[i]? <;> rfl

theorem size_eq_of_addressOf (h : t'.addressOf = t.addressOf) : t'.size = t.size := by
  have hlt : ∀ (u : Table W) i, i < u.size ↔ (u.addressOf i).isSome := fun u i => by
    simp [addressOf, size]
  exact eq_of_forall_lt_iff fun i => by rw [hlt, hlt, h]

theorem addressOf_growTo {i : PageId} {address : Nat} (h : t.addressOf i = some address)
    (id recordsPerPage : Nat) : (t.growTo id recordsPerPage).addressOf i = some address := by
  obtain ⟨page, hp, rfl⟩ := Option.map_eq_some_iff.mp h
  rw [addressOf, getElem?_growTo_of_lt t id recordsPerPage (lt_size_of_page hp), hp]
  rfl

theorem addressOf_of_growTo {i : PageId} {address id recordsPerPage : Nat}
    (h : (t.growTo id recordsPerPage).addressOf i = some address) :
    t.addressOf i = some address ∨ address = i * recordsPerPage := by
  by_cases hi : i < t.size
  · rw [addressOf, getElem?_growTo_of_lt t id recordsPerPage hi] at h
    exact Or.inl h
  · right
    obtain ⟨page, hp, rfl⟩ := Option.map_eq_some_iff.mp h
    simp only [size] at hi
    simp only [growTo, Array.getElem?_append, hi, ↓reduceIte, List.getElem?_toArray,
      List.getElem?_map, Option.map_eq_some_iff] at hp
    obtain ⟨j, hj, rfl⟩ := hp
    obtain ⟨hlt, hj⟩ := List.getElem?_eq_some_iff.mp hj
    rw [List.getElem_range', Nat.one_mul, size, Nat.add_sub_cancel' (Nat.le_of_not_lt hi)] at hj
    rw [← hj]

structure Undisturbed (t t' : Table W) : Prop where
  loads : t'.loadOf = t.loadOf
  addresses : t'.addressOf = t.addressOf

namespace Undisturbed

theorem refl (t : Table W) : Undisturbed t t := ⟨rfl, rfl⟩

theorem trans {t'' : Table W} (h : Undisturbed t t') (k : Undisturbed t' t'') :
    Undisturbed t t'' :=
  ⟨k.loads.trans h.loads, k.addresses.trans h.addresses⟩

theorem of_bare {f : Page W → Page W}
    (hb : ∀ i, t'.bare i = if i = id then (t.bare i).map f else t.bare i)
    (hl : ∀ p, (f p).loadState = p.loadState) (ha : ∀ p, (f p).address = p.address) :
    Undisturbed t t' := by
  constructor
  · funext i
    rw [loadOf_eq, loadOf_eq, hb]
    split
    · cases t.bare i <;> simp [hl]
    · rfl
  · funext i
    rw [addressOf_eq, addressOf_eq, hb]
    split
    · cases t.bare i <;> simp [ha]
    · rfl

end Undisturbed

/-- Where the windows of the two tables differ, the second table has none. -/
structure Released (t t' : Table W) : Prop extends Undisturbed t t' where
  window : ∀ i, t'.via Page.window? i = t.via Page.window? i ∨ t'.via Page.window? i = none

namespace Released

theorem refl (t : Table W) : Released t t := ⟨Undisturbed.refl t, fun _ => Or.inl rfl⟩

theorem trans {t'' : Table W} (h : Released t t') (k : Released t' t'') : Released t t'' := by
  refine ⟨h.toUndisturbed.trans k.toUndisturbed, fun i => ?_⟩
  rcases k.window i with hk | hk
  · rw [hk]
    exact h.window i
  · exact Or.inr hk

theorem of_bare (hb : ∀ i, t'.bare i = t.bare i ∨ t'.bare i = (t.bare i).map Page.cleared ∨
    t'.bare i = (t.bare i).map Page.emptied) : Released t t' := by
  refine ⟨⟨?_, ?_⟩, ?_⟩
  · funext i
    rw [loadOf_eq, loadOf_eq]
    rcases hb i with e | e | e <;> rw [e] <;> cases t.bare i <;> rfl
  · funext i
    rw [addressOf_eq, addressOf_eq]
    rcases hb i with e | e | e <;> rw [e] <;> cases t.bare i <;> rfl
  · intro i
    rw [via_window_eq, via_window_eq]
    rcases hb i with e | e | e
    · exact Or.inl (by rw [e])
    · exact Or.inl (by rw [e]; cases t.bare i <;> rfl)
    · exact Or.inr (by rw [e]; cases t.bare i <;> rfl)

end Released

def isReferenced (t : Table W) (i : PageId) : Bool := (t.bare i).any (·.referenced)

theorem isReferenced_of_page {page : Page W} (h : t.pages[id]? = some page) :
    t.isReferenced id = page.referenced := by
  simp [isReferenced, bare, content, h, Page.unlinked]

theorem referencedIds_eq (t : Table W) :
    t.referencedIds = (List.range t.size).filter t.isReferenced := by
  rw [referencedIds, idsWhere]
  refine List.filter_congr fun i _ => ?_
  simp only [isReferenced, bare, content]
  cases t.pages[i]? <;> rfl

theorem mem_referencedIds {i : PageId} : i ∈ t.referencedIds ↔ t.isReferenced i := by
  rw [referencedIds_eq, List.mem_filter, List.mem_range]
  apply and_iff_right_of_imp
  intro hi
  by_contra hge
  have hnone : t.pages[i]? = none := Array.getElem?_eq_none (Nat.le_of_not_lt hge)
  rw [isReferenced, bare, content, hnone] at hi
  cases hi

theorem referencedIds_congr (hsize : t'.size = t.size) (hbits : t'.isReferenced = t.isReferenced) :
    t'.referencedIds = t.referencedIds := by
  rw [referencedIds_eq, referencedIds_eq, hsize, hbits]

theorem residentIds_congr (hsize : t'.size = t.size)
    (hwindow : t'.via Page.window? = t.via Page.window?) : t'.residentIds = t.residentIds := by
  rw [residentIds, residentIds, idsWhere, idsWhere, hsize]
  apply List.filter_congr
  intro i _
  have hi := congrArg Option.isSome (congrFun hwindow i)
  rw [via, via] at hi
  cases hp : t.pages[i]? <;> cases hp' : t'.pages[i]? <;> simp_all [Page.isResident]

structure Rotation (tier : Tier) (t : Table W) (l : Lineup) (head : PageId) (t' : Table W) :
    Prop where
  moved : t'.Aligned (l.moveTo head tier)
  bare_eq : ∀ i, t'.bare i = if i = head then (t.bare i).map Page.cleared else t.bare i
  census_eq : t'.census = t.census

theorem Rotation.isReferenced_eq {head : PageId} (r : Rotation tier t l head t') (i : PageId) :
    t'.isReferenced i = (t.isReferenced i && i ≠ head) := by
  rw [isReferenced, isReferenced, r.bare_eq]
  by_cases hi : i = head
  · cases t.bare i <;> simp [hi, Page.cleared]
  · simp [hi]

structure Entry (t : Table W) (l : Lineup) (id : PageId) (window : W) (t' : Table W) : Prop where
  aligned : t.Aligned l
  lt_size : id < t.size
  idle : ∀ u, id ∉ l.get u
  entered : t'.Aligned (l.set .unknown (l.get .unknown ++ [id]))
  total : t'.census.total = t.census.total + 1
  bare_eq : ∀ i, t'.bare i = if i = id then
    (t.bare i).map fun p => { p with window? := some window, referenced := false } else t.bare i

namespace Entry

variable {w : W}

theorem unreferenced (n : Entry t l id w t') : t.isReferenced id = false := by
  obtain ⟨page, hp⟩ := exists_page n.lt_size
  rw [isReferenced_of_page hp]
  exact n.aligned.referenced_of_idle hp n.idle

theorem isReferenced_eq (n : Entry t l id w t') : t'.isReferenced = t.isReferenced := by
  funext i
  rw [isReferenced, n.bare_eq]
  by_cases hi : i = id
  · subst hi
    rw [if_pos rfl, n.unreferenced]
    cases t.bare i <;> rfl
  · rw [if_neg hi]
    rfl

theorem undisturbed (n : Entry t l id w t') : Undisturbed t t' :=
  Undisturbed.of_bare n.bare_eq (fun _ => rfl) fun _ => rfl

theorem own (n : Entry t l id w t') : t'.via Page.window? id = some w := by
  obtain ⟨page, hp⟩ := exists_page n.lt_size
  rw [via_window_eq, n.bare_eq, if_pos rfl, bare, content_of_page hp]
  rfl

theorem window {i : PageId} (n : Entry t l id w t') (hi : i ≠ id) :
    t'.via Page.window? i = t.via Page.window? i := by
  rw [via_window_eq, n.bare_eq, if_neg hi, ← via_window_eq]

/-- The new page has no reference bit, so a search for a victim ends with it at the latest. -/
theorem exists_victim (n : Entry t l id w t') : ∃ victim rest,
    (l.unknown ++ [id]).takeWhile t.isReferenced = l.unknown.takeWhile t.isReferenced ∧
      (l.unknown ++ [id]).dropWhile t.isReferenced = victim :: rest ∧
      (l.set .unknown (l.get .unknown ++ [id])).get .unknown =
        l.unknown.takeWhile t.isReferenced ++ victim :: rest ∧
      (∀ i ∈ l.unknown.takeWhile t.isReferenced, t'.isReferenced i) ∧
      t'.isReferenced victim = false := by
  obtain ⟨victim, rest, hv, htake, hdrop⟩ := exists_unreferenced n.unreferenced l.unknown
  rw [n.isReferenced_eq]
  refine ⟨victim, rest, htake, hdrop, ?_, fun i hi => List.mem_takeWhile_imp hi, hv⟩
  rw [PerTier.get_set_self, ← hdrop, ← htake, List.takeWhile_append_dropWhile]
  rfl

end Entry

structure Admission (t : Table W) (l : Lineup) (capacity : Nat) (id : PageId) (window : W)
    (evicted : List Eviction) (t' : Table W) : Prop where
  admitted : t'.Aligned (l.intake capacity t.isReferenced id)
  evicted : evicted.map Eviction.page = l.displaced capacity t.isReferenced id
  isReferenced : ∀ i, t'.isReferenced i =
    (t.isReferenced i && i ∉ l.spared capacity t.isReferenced)
  within : t'.census.total ≤ capacity
  undisturbed : Undisturbed t t'
  own : t'.via Page.window? id = some window ∨ t'.via Page.window? id = none
  others : ∀ i, i ≠ id → t'.via Page.window? i = t.via Page.window? i ∨
    t'.via Page.window? i = none

namespace Aligned

theorem rotate (h : t.Aligned l) {head : PageId} (hm : head ∈ l.get tier) :
    ∃ t', ({ t with pages := t.pages.modify head fun p => { p with referenced := false } } :
        Table W).append head tier = .ok t' ∧ Rotation tier t l head t' := by
  have h₁ := h.edit_referenced hm false
  obtain ⟨t₂, e₂, r₂, h₂⟩ := h₁.linked.append_spec (h₁.linked.lt_size hm) tier
  refine ⟨t₂, e₂, ⟨h₂, ?_⟩, fun i => ?_, r₂.census⟩
  · rw [r₂.content, r₂.census]
    refine h₁.placed.congr (fun i u => ?_) fun u => ?_
    · rw [Lineup.mem_moveTo h.linked.nodup]
      by_cases hi : i = head
      · subst hi
        rw [if_pos rfl]
        exact ⟨fun e => e ▸ hm, h.linked.tier_eq hm⟩
      · rw [if_neg hi]
    · rw [Lineup.length_moveTo hm fun u => h.linked.tier_eq hm]
      have := List.length_pos_of_mem hm
      by_cases hu : u = tier
      · subst hu
        simp only [↓reduceIte]
        omega
      · simp [hu]
  · rw [r₂.bare]
    exact t.bare_modify head (Page.inert_referenced false) (fun _ _ => rfl) i

theorem sweep_spec {front rest : List PageId} {victim : PageId} {steps : Nat} (h : t.Aligned l)
    (hl : l.get tier = front ++ victim :: rest) (hf : ∀ i ∈ front, t.isReferenced i)
    (hv : t.isReferenced victim = false) (hs : front.length < steps) :
    ∃ t', sweep tier steps t = .ok (some victim, t') ∧
      t'.Aligned (l.set tier (victim :: rest ++ front)) ∧ t'.census = t.census ∧
      ∀ i, t'.bare i = if i ∈ front then (t.bare i).map Page.cleared else t.bare i := by
  -- On the pages before the victim: each turn sends one of them to the tail, its bit cleared.
  induction front generalizing t l rest steps with
  | nil =>
    obtain ⟨steps, rfl⟩ := Nat.exists_eq_succ_of_ne_zero (Nat.ne_of_gt hs)
    have hm : victim ∈ l.get tier := by simp [hl]
    obtain ⟨page, hp⟩ := exists_page (h.linked.lt_size hm)
    rw [isReferenced_of_page hp] at hv
    refine ⟨t, ?_, ?_, rfl, fun i => by simp⟩
    · rw [sweep, h.linked.head?_eq, hl]
      simp [get_of_page hp, hv, bind, Except.bind, pure, Except.pure]
    · rw [Lineup.set_get_self (by simpa using hl)]
      exact h
  | cons head front ih =>
    obtain ⟨steps, rfl⟩ := Nat.exists_eq_succ_of_ne_zero (Nat.ne_of_gt (Nat.zero_lt_of_lt hs))
    have hm : head ∈ l.get tier := by simp [hl]
    have hhead : (l.get tier).head? = some head := by rw [hl]; rfl
    have hr := hf head List.mem_cons_self
    obtain ⟨page, hp⟩ := exists_page (h.linked.lt_size hm)
    obtain ⟨t₁, e₁, r⟩ := h.rotate hm
    have hother : ∀ u, u ≠ tier → head ∉ l.get u := fun u hu hi => hu (h.linked.tier_eq hm hi)
    have hd := h.linked.nodup tier
    rw [hl, List.cons_append, List.nodup_cons, List.mem_append, List.mem_cons] at hd
    have hmoved := Lineup.moveTo_head hl hother
    have h₁ := r.moved
    rw [hmoved] at h₁
    obtain ⟨t₂, e₂, h₂, c₂, b₂⟩ := ih h₁
      (show _ = front ++ victim :: (rest ++ [head]) by simp) (fun i hi => by
        have hne : i ≠ head := fun e => hd.1 (Or.inl (e ▸ hi))
        simp [r.isReferenced_eq, hne, hf i (List.mem_cons_of_mem _ hi)])
      (by simp [r.isReferenced_eq, hv]) (Nat.lt_of_succ_lt_succ hs)
    refine ⟨t₂, ?_, ?_, c₂.trans r.census_eq, fun i => ?_⟩
    · rw [isReferenced_of_page hp] at hr
      rw [sweep, h.linked.head?_eq, hhead]
      simp only [get_of_page hp, hr, bind, Except.bind, ↓reduceIte,
        modify_of_lt (h.linked.lt_size hm), e₁]
      exact e₂
    · simpa [Lineup.set_set] using h₂
    · rw [b₂, r.bare_eq]
      by_cases hi : i = head
      · subst hi
        rw [if_neg fun hi => hd.1 (Or.inl hi), if_pos rfl, if_pos List.mem_cons_self]
      · simp [hi]

theorem evict_of_idle (h : t.Aligned l) (hid : id < t.size) (hn : ∀ u, id ∉ l.get u) :
    t.evict id = .ok (none, t) := by
  obtain ⟨page, hp⟩ := exists_page hid
  simp [evict, get_of_page hp, h.window_of_idle hp hn, bind, Except.bind, pure, Except.pure]

theorem evict_spec (h : t.Aligned l) (hm : id ∈ l.get source) :
    ∃ eviction t', t.evict id = .ok (some eviction, t') ∧ eviction.page = id ∧
      eviction.tier = source ∧ t'.Aligned (l.without id) ∧
      t'.census.total + 1 = t.census.total ∧
      ∀ i, t'.bare i = if i = id then (t.bare i).map Page.emptied else t.bare i := by
  have hid := h.linked.lt_size hm
  obtain ⟨page, hp⟩ := exists_page hid
  have hs := h.page_tier hp hm
  have hw : page.window?.isNone = false := by
    have := (h.page_resident hp).mpr ⟨_, hm⟩
    cases hx : page.window? <;> simp_all [Page.isResident]
  let f : Page W → Page W := fun p =>
    { p with window? := none, tier := .unknown, referenced := false }
  have hd := Census.decrement_of_pos (h.census_pos hm)
  let t₂ : Table W :=
    { t with pages := t.pages.modify id f, census := t.census.modify source (· - 1) }
  have h₂ : t₂.Linked l := (h.linked.modify (f := f) fun _ => ⟨rfl, rfl, rfl⟩).withCensus _
  obtain ⟨t₃, e₃, r, h₃, -⟩ := h₂.detach_spec (h₂.lt_size hm)
  have content₃ : ∀ i, t₃.content i = if i = id then (t.content i).map f else t.content i :=
    fun i => (congrFun r.content i).trans (content_modify (f := f) (fun _ => rfl) i)
  refine ⟨⟨id, page.address, page.tier⟩, t₃, ?_, rfl, hs, ⟨h₃, ?_⟩, ?_, fun i => ?_⟩
  · simp only [f, t₂] at e₃
    simp [evict, get_of_page hp, hw, modify_of_lt hid, hs, hd, e₃, bind, Except.bind, pure,
      Except.pure]
  · refine h.placed.update (fun i hi => (content₃ i).trans (if_neg hi))
      (fun i u hi => by rw [Lineup.mem_without h.linked.nodup]; exact and_iff_right hi)
      (by rw [content₃, if_pos rfl, content_of_page hp]; rfl) ?_ (fun u hu => ?_)
      (fun _ => ⟨rfl, rfl⟩) fun u => ?_
    · simp [Lineup.mem_without h.linked.nodup, f, Page.isResident, -Lineup.get_without]
    · rw [Lineup.mem_without h.linked.nodup] at hu
      exact absurd rfl hu.1
    · rw [r.census, Lineup.length_without hm fun u => h.linked.tier_eq hm]
      exact (PerTier.get_modify ..).trans (by rw [h.placed.census])
  · rw [r.census]
    exact Census.total_decrement hd
  · rw [bare, bare, content₃]
    by_cases hi : i = id
    · subst hi
      simp [content_of_page hp, f, Page.emptied, Page.unlinked]
    · rw [if_neg hi, if_neg hi]

theorem evictExcess_of_le {capacity : Nat} (hc : t.residentCount ≤ capacity) (steps : Nat) :
    evictExcess capacity steps t = .ok ([], t) := by
  cases steps with
  | zero => rfl
  | succ steps => rw [evictExcess, if_neg (Nat.not_lt.mpr hc)]

/-- The next victim is the first page of the lowest list without a reference bit. -/
theorem selectVictim_spec {front rest : List PageId} {victim : PageId} (h : t.Aligned l)
    (hl : l.get .unknown = front ++ victim :: rest) (hf : ∀ i ∈ front, t.isReferenced i)
    (hv : t.isReferenced victim = false) :
    ∃ eviction t₁ t₂, sweep .unknown ((t.chains.get .unknown).size + 1) t = .ok (some victim, t₁) ∧
      t.selectVictim = .ok (some victim, t₁) ∧ t₁.evict victim = .ok (some eviction, t₂) ∧
      eviction.page = victim ∧ t₂.Aligned (l.set .unknown (rest ++ front)) ∧
      t₂.residentCount + 1 = t.residentCount ∧ Released t t₂ ∧
      ∀ i, t₂.isReferenced i = (t.isReferenced i && i ∉ front) := by
  have hm : victim ∈ l.get .unknown := by simp [hl]
  have hother : ∀ u, u ≠ .unknown → victim ∉ l.get u := fun u hu hi => hu (h.linked.tier_eq hm hi)
  have hd := h.linked.nodup .unknown
  rw [hl] at hd
  have hfront : victim ∉ front := fun hi =>
    (List.nodup_append.mp hd).2.2 _ hi _ List.mem_cons_self rfl
  have hlowest : t.census.lowestPopulated? = some .unknown := by
    simp [Census.lowestPopulated?, Tier.all, h.census_pos hm]
  have hsteps : front.length < (t.chains.get .unknown).size + 1 := by
    rw [h.linked.size, hl, List.length_append]
    omega
  obtain ⟨t₁, e₁, h₁, c₁, b₁⟩ := h.sweep_spec hl hf hv hsteps
  have hhead : victim ∈ (l.set .unknown (victim :: rest ++ front)).get .unknown := by simp
  obtain ⟨x, t₂, e₂, hx, -, h₂, c₂, b₂⟩ := h₁.evict_spec hhead
  rw [Lineup.without_set hother] at h₂
  rw [c₁] at c₂
  have hb : ∀ i, t₂.bare i = if i = victim then (t.bare i).map Page.emptied
      else if i ∈ front then (t.bare i).map Page.cleared else t.bare i := by
    intro i
    rw [b₂, b₁]
    by_cases hi : i = victim
    · rw [if_pos hi, if_pos hi, if_neg (hi ▸ hfront)]
    · rw [if_neg hi, if_neg hi]
  refine ⟨x, t₁, t₂, e₁, ?_, e₂, hx, by simpa using h₂, c₂, Released.of_bare fun i => ?_,
    fun i => ?_⟩
  · rw [selectVictim, hlowest]
    exact e₁
  · rw [hb]
    split
    · simp
    · split <;> simp
  · rw [isReferenced, hb]
    by_cases hi : i = victim
    · rw [if_pos hi, hi, hv]
      cases t.bare victim <;> rfl
    · rw [if_neg hi, isReferenced]
      by_cases hf : i ∈ front
      · cases t.bare i <;> simp [hf, Page.cleared]
      · simp [hf]

theorem enter_spec (h : t.Aligned l) (hid : id < t.size) (hn : ∀ u, id ∉ l.get u) (window : W) :
    ∃ t', t.enter id window = .ok t' ∧ Entry t l id window t' := by
  obtain ⟨page, hp⟩ := exists_page hid
  let f : Page W → Page W := fun p =>
    { p with window? := some window, referenced := false, tier := .unknown }
  let t₁ : Table W :=
    { t with pages := t.pages.modify id f, census := t.census.increment .unknown }
  have h₁ : t₁.Linked l := (h.linked.modify (f := f) fun _ => ⟨rfl, rfl, rfl⟩).withCensus _
  have hid₁ : id < t₁.size := by simpa [t₁, size] using hid
  obtain ⟨t₂, e₂, r, h₂⟩ := h₁.append_spec hid₁ .unknown
  have content₂ : ∀ i, t₂.content i = if i = id then (t.content i).map f else t.content i :=
    fun i => (congrFun r.content i).trans (content_modify (f := f) (fun _ => rfl) i)
  refine ⟨t₂, ?_, h, hid, hn, ?_, ?_, fun i => ?_⟩
  · rw [enter, modify_of_lt hid]
    exact e₂
  · rw [← Lineup.moveTo_of_idle hn]
    refine ⟨h₂, h.placed.update (fun i hi => (content₂ i).trans (if_neg hi))
      (fun i u hi => by rw [Lineup.mem_moveTo h.linked.nodup, if_neg hi])
      (by rw [content₂, if_pos rfl, content_of_page hp]; rfl) ?_ (fun u hu => ?_) (fun ho => ?_)
      fun u => ?_⟩
    · simp only [Lineup.mem_moveTo h.linked.nodup, ↓reduceIte]
      exact iff_of_true rfl ⟨.unknown, rfl⟩
    · rw [Lineup.mem_moveTo h.linked.nodup, if_pos rfl] at hu
      exact hu.symm
    · refine absurd ?_ (ho .unknown)
      rw [Lineup.mem_moveTo h.linked.nodup, if_pos rfl]
    · rw [r.census, Lineup.get_moveTo, List.erase_of_not_mem (hn u)]
      refine (Census.get_increment u).trans ?_
      rw [h.placed.census]
      by_cases hu : u = .unknown <;> simp [hu]
  · rw [r.census]
    exact Census.total_increment _ _
  · rw [bare, bare, content₂]
    by_cases hi : i = id
    · subst hi
      simp [content_of_page hp, f, Page.unlinked]
    · rw [if_neg hi, if_neg hi]

/-- A page that is in no list is admitted: the lowest list, the bits and the page that leaves, if
one does, are those that the lists and the bits before tell. -/
theorem makeResident_spec (h : t.Aligned l) (hid : id < t.size) (hn : ∀ u, id ∉ l.get u)
    {limits : Limits} (hc : t.census.total ≤ limits.capacity) (window : W) :
    ∃ evicted t', t.makeResident limits id window = .ok (evicted, t') ∧
      Admission t l limits.capacity id window evicted t' := by
  obtain ⟨t₁, e₁, n⟩ := h.enter_spec hid hn window
  rw [h.total_eq] at hc
  by_cases hfull : l.all.length < limits.capacity
  · have hle : t₁.residentCount ≤ limits.capacity := by
      rw [residentCount, n.total, h.total_eq]
      exact hfull
    refine ⟨[], t₁, ?_, ?_, ?_, fun i => ?_, hle, n.undisturbed, Or.inl n.own, fun i hi =>
      Or.inl (n.window hi)⟩
    · rw [makeResident, e₁]
      exact evictExcess_of_le hle _
    · rw [Lineup.intake, if_pos hfull]
      exact n.entered
    · rw [Lineup.displaced, if_pos hfull]
      rfl
    · rw [Lineup.spared, if_pos hfull, n.isReferenced_eq]
      simp
  · have hcount : t₁.residentCount = limits.capacity + 1 := by
      rw [residentCount, n.total, h.total_eq]
      omega
    obtain ⟨victim, rest, htake, hdrop, hqueue, hfront, hv⟩ := n.exists_victim
    obtain ⟨x, t₃, t₂, -, e₃, e₂, hx, h₂, c₂, r₂, b₂⟩ :=
      n.entered.selectVictim_spec hqueue hfront hv
    have hle : t₂.residentCount ≤ limits.capacity := by omega
    refine ⟨[x], t₂, ?_, ?_, ?_, fun i => ?_, hle, n.undisturbed.trans r₂.toUndisturbed, ?_,
      fun i hi => ?_⟩
    · rw [makeResident, e₁]
      simp only [bind, Except.bind, hcount]
      rw [evictExcess, if_pos (by omega)]
      simp only [e₃, e₂, evictExcess_of_le hle, bind, Except.bind, pure, Except.pure]
      rfl
    · rw [Lineup.intake, if_neg hfull, recycle, hdrop, htake]
      simpa [Lineup.set_set] using h₂
    · rw [Lineup.displaced, if_neg hfull, hdrop, ← hx]
      rfl
    · rw [Lineup.spared, if_neg hfull, b₂, n.isReferenced_eq]
    · rw [← n.own]
      exact r₂.window id
    · rw [← n.window hi]
      exact r₂.window i

theorem evict_any (h : t.Aligned l) (hid : id < t.size) :
    ∃ eviction? t', t.evict id = .ok (eviction?, t') ∧ t'.Aligned (l.without id) ∧
      t'.census.total ≤ t.census.total ∧ Released t t' := by
  by_cases hm : ∃ u, id ∈ l.get u
  · obtain ⟨u, hu⟩ := hm
    obtain ⟨x, t', e, -, -, h', hc, hb⟩ := h.evict_spec hu
    refine ⟨some x, t', e, h', by omega, Released.of_bare fun i => ?_⟩
    rw [hb]
    split <;> simp
  · have hn : ∀ u, id ∉ l.get u := fun u hu => hm ⟨u, hu⟩
    refine ⟨none, t, h.evict_of_idle hid hn, ?_, Nat.le_refl _, Released.refl _⟩
    rw [Lineup.without_of_idle hn]
    exact h

theorem evictAll_spec {ids : List PageId} (h : t.Aligned l) (hid : ∀ i ∈ ids, i < t.size) :
    ∃ evicted t' l', t.evictAll ids = .ok (evicted, t') ∧ t'.Aligned l' ∧
      t'.census.total ≤ t.census.total ∧ Released t t' := by
  induction ids generalizing t l with
  | nil => exact ⟨[], t, l, rfl, h, Nat.le_refl _, Released.refl _⟩
  | cons i ids ih =>
    obtain ⟨x?, t₁, e₁, h₁, c₁, r₁⟩ := h.evict_any (hid i List.mem_cons_self)
    obtain ⟨xs, t₂, l₂, e₂, h₂, c₂, r₂⟩ := ih h₁ fun j hj =>
      size_eq_of_addressOf r₁.addresses ▸ hid j (List.mem_cons_of_mem _ hj)
    refine ⟨x?.toList ++ xs, t₂, l₂, ?_, h₂, Nat.le_trans c₂ c₁, r₁.trans r₂⟩
    simp [evictAll, e₁, e₂, bind, Except.bind, pure, Except.pure]

theorem forceEvict_spec (h : t.Aligned l) (id : PageId) :
    ∃ eviction? t' l', t.forceEvict id = .ok (eviction?, t') ∧ t'.Aligned l' ∧
      t'.census.total ≤ t.census.total ∧ Released t t' := by
  rw [forceEvict]
  by_cases hid : id < t.size
  · obtain ⟨x?, t', e, h', hc⟩ := h.evict_any hid
    exact ⟨x?, t', _, (if_pos hid).trans e, h', hc⟩
  · exact ⟨none, t, l, if_neg hid, h, Nat.le_refl _, Released.refl _⟩

theorem forceEvictAll_spec (h : t.Aligned l) :
    ∃ evicted t' l', t.forceEvictAll = .ok (evicted, t') ∧ t'.Aligned l' ∧
      t'.census.total ≤ t.census.total ∧ Released t t' := by
  refine h.evictAll_spec fun i hi => ?_
  obtain ⟨page, hp, -⟩ := mem_idsWhere.mp hi
  exact lt_size_of_page hp

end Aligned

end Table

end RecordCache
