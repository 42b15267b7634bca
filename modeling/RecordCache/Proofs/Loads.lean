import RecordCache.Acquire
import RecordCache.Proofs.Evictions
/-! What a load does to a table, apart from the load state of its page: the page enters, and if it
is still resident then, each of its waiters hits it. Load states are set aside and put back, since
replacement does not look at them. -/
namespace RecordCache.Table

variable {W V : Type} {t t' : Table W} {l : Lineup} {id : PageId}

theorem via_window_recast (f : W → V) (g : PageId → LoadState W → LoadState V) (t : Table W)
    (i : PageId) : (t.recast f g).via Page.window? i = (t.via Page.window? i).map f := by
  rw [via, via, getElem?_recast]
  cases t.pages[i]? <;> rfl

theorem recast_eq_self {f : W → W} {g : PageId → LoadState W → LoadState W}
    (hf : ∀ i w, t.via Page.window? i = some w → f w = w)
    (hg : ∀ i m, t.loadOf i = some m → g i m = m) : t.recast f g = t := by
  cases t with
  | mk pages chains census =>
    simp only [recast, Table.mk.injEq, and_self, and_true]
    apply Array.ext_getElem?
    intro i
    rw [Array.getElem?_mapIdx]
    cases hp : pages[i]? with
    | none => rfl
    | some p =>
      have hg' := hg i p.loadState (loadOf_of_page hp)
      have hf' : p.window?.map f = p.window? := by
        cases hw : p.window? with
        | none => rfl
        | some w => exact congrArg some (hf i w (by rw [via, hp]; exact hw))
      rw [Option.map_some, Page.recast, hg', hf']
      rfl

theorem Aligned.recast (h : t.Aligned l) (f : W → V) (g : PageId → LoadState W → LoadState V) :
    (t.recast f g).Aligned l := by
  have links : ∀ {α : Type} (k : Page W → Option α) (k' : Page V → Option α),
      (∀ i p, k' (p.recast f (g i)) = k p) → (t.recast f g).via k' = t.via k := by
    intro α k k' hk
    funext i
    rw [via, via, getElem?_recast]
    cases t.pages[i]? with
    | none => rfl
    | some p => exact hk i p
  have content_recast : ∀ i, (t.recast f g).content i =
      (t.content i).map fun p => p.recast f (g i) := by
    intro i
    rw [content, content, getElem?_recast]
    cases t.pages[i]? <;> rfl
  refine ⟨⟨⟨?_, ?_, h.linked.size, h.linked.nodup, ?_⟩, ?_⟩,
    ⟨fun hq => ?_, fun hq hu => ?_, fun hq hn => ?_, h.placed.census⟩⟩
  · rw [links Page.next? Page.next? fun _ _ => rfl]
    exact h.linked.forward
  · rw [links Page.prev? Page.prev? fun _ _ => rfl]
    exact h.linked.backward
  · rw [links Page.list? Page.list? fun _ _ => rfl]
    exact h.linked.listed
  · rw [Loose, links Page.next? Page.next? fun _ _ => rfl,
      links Page.prev? Page.prev? fun _ _ => rfl, links Page.list? Page.list? fun _ _ => rfl]
    exact h.linked.loose
  all_goals
    rw [content_recast] at hq
    obtain ⟨p, hp, rfl⟩ := Option.map_eq_some_iff.mp hq
  · rw [← h.placed.resident hp]
    simp [Page.recast, Page.isResident]
  · exact h.placed.tier_eq hp hu
  · exact h.placed.idle hp hn

def setLoad (t : Table W) (id : PageId) (load : LoadState W) : Table W :=
  t.recast (fun w => w) fun i m => if i = id then load else m

theorem loadOf_setLoad (t : Table W) (id : PageId) (load : LoadState W) (i : PageId) :
    (t.setLoad id load).loadOf i =
      if i = id then (t.loadOf i).map fun _ => load else t.loadOf i := by
  rw [setLoad, loadOf_recast]
  split <;> simp

@[simp] theorem setLoad_setLoad (t : Table W) (id : PageId) (load load' : LoadState W) :
    (t.setLoad id load).setLoad id load' = t.setLoad id load' := by
  rw [setLoad, setLoad, setLoad, recast_recast]
  refine recast_congr fun i m _ => ?_
  split <;> rfl

theorem setLoad_self {load : LoadState W} (h : t.loadOf id = some load) :
    t.setLoad id load = t := by
  refine recast_eq_self (fun _ _ _ => rfl) fun i m hm => ?_
  split
  · subst_vars
    exact Option.some.inj (h.symm.trans hm)
  · rfl

@[simp] theorem via_window_setLoad (t : Table W) (id : PageId) (load : LoadState W) :
    (t.setLoad id load).via Page.window? = t.via Page.window? := by
  funext i
  rw [setLoad, via_window_recast]
  simp

@[simp] theorem addressOf_recast (f : W → V) (g : PageId → LoadState W → LoadState V)
    (t : Table W) : (t.recast f g).addressOf = t.addressOf := by
  funext i
  rw [addressOf, addressOf, getElem?_recast]
  cases t.pages[i]? <;> rfl

theorem modify_eq_setLoad (load : LoadState W) {p : Page W} (hp : t.pages[id]? = some p)
    {k : Page W → Page W} (hk : k p = p.recast (fun w => w) fun _ => load) :
    t.modify id k = .ok (t.setLoad id load) := by
  rw [modify_of_lt (lt_size_of_page hp)]
  simp only [setLoad, recast, Except.ok.injEq, Table.mk.injEq, and_self, and_true]
  apply Array.ext_getElem?
  intro i
  simp only [Array.getElem?_modify, Array.getElem?_mapIdx]
  by_cases hi : id = i
  · subst hi
    simp only [↓reduceIte, hp, Option.map_some, hk]
  · cases t.pages[i]? <;> simp [hi, Ne.symm hi, Page.recast, Page.loadState]

structure Retained (t t' : Table W) : Prop extends Undisturbed t t' where
  total : t'.census.total = t.census.total
  window : t'.via Page.window? = t.via Page.window?

theorem Retained.trans {t'' : Table W} (h : Retained t t') (k : Retained t' t'') :
    Retained t t'' :=
  ⟨h.toUndisturbed.trans k.toUndisturbed, k.total.trans h.total, k.window.trans h.window⟩

namespace Aligned

theorem exists_mem {w : W} (h : t.Aligned l) (hw : t.via Page.window? id = some w) :
    ∃ tier, id ∈ l.get tier := by
  obtain ⟨page, hp, hx⟩ := Option.bind_eq_some_iff.mp hw
  exact (h.page_resident hp).mp (by simp [Page.isResident, hx])

theorem not_mem (h : t.Aligned l) (hw : t.via Page.window? id = none) (tier : Tier) :
    id ∉ l.get tier := by
  intro hm
  obtain ⟨page, hp⟩ := exists_page (h.linked.lt_size hm)
  have hr := (h.page_resident hp).mpr ⟨tier, hm⟩
  rw [via_of_page hp] at hw
  simp [Page.isResident, hw] at hr

theorem recordHit_retains {w : W} (h : t.Aligned l) (hw : t.via Page.window? id = some w)
    (limits : Limits) :
    ∃ t' l', t.recordHit limits id = .ok t' ∧ t'.Aligned l' ∧ Retained t t' := by
  obtain ⟨page, hp, -⟩ := Option.bind_eq_some_iff.mp hw
  obtain ⟨tier, hm⟩ := h.exists_mem hw
  obtain ⟨t', e, h', hc, hb⟩ := h.recordHit_spec hp hm limits
  refine ⟨t', _, e, h', Undisturbed.of_bare hb (fun _ => rfl) fun _ => rfl, hc,
    via_window_of_bare hb fun _ => rfl⟩

end Aligned

def hits (limits : Limits) (id : PageId) : Nat → Table W → Except Fault (Table W)
  | 0, t => .ok t
  | n + 1, t => t.recordHit limits id >>= hits limits id n

/-- The replacement done by a load that ends with `outcome` while `waiters` callers wait for it. -/
def settle (t : Table W) (limits : Limits) (id : PageId) (outcome : Except LoadError W)
    (waiters : Nat) : Except Fault (List Eviction × Table W) :=
  match outcome with
  | .error _ => .ok ([], t)
  | .ok window => do
    let (evicted, t) ← t.makeResident limits id window
    if (t.via Page.window? id).isSome then return (evicted, ← hits limits id waiters t)
    else return (evicted, t)

theorem Aligned.hits_retains {w : W} {n : Nat} (h : t.Aligned l)
    (hw : t.via Page.window? id = some w) (limits : Limits) :
    ∃ t' l', hits limits id n t = .ok t' ∧ t'.Aligned l' ∧ Retained t t' := by
  induction n generalizing t l with
  | zero => exact ⟨t, l, rfl, h, Undisturbed.refl t, rfl, rfl⟩
  | succ n ih =>
    obtain ⟨t₁, l₁, e₁, h₁, r₁⟩ := h.recordHit_retains hw limits
    obtain ⟨t₂, l₂, e₂, h₂, r₂⟩ := ih h₁ (by rw [r₁.window, hw])
    refine ⟨t₂, l₂, ?_, h₂, r₁.trans r₂⟩
    rw [hits, e₁]
    exact e₂

theorem hits_recast (f : W → V) (g : PageId → LoadState W → LoadState V) (t : Table W)
    (limits : Limits) (id : PageId) (n : Nat) :
    hits limits id n (t.recast f g) = (hits limits id n t).map (·.recast f g) := by
  induction n generalizing t with
  | zero => rfl
  | succ n ih =>
    rw [hits, hits]
    exact bind_map (recordHit_recast f g t id limits) ih

theorem settle_recast (f : W → V) (g : PageId → LoadState W → LoadState V) (t : Table W)
    (limits : Limits) (id : PageId) (outcome : Except LoadError W) (n : Nat) :
    (t.recast f g).settle limits id (outcome.map f) n =
      (t.settle limits id outcome n).map (recastPair f g) := by
  cases outcome with
  | error _ => rfl
  | ok window =>
    refine bind_map (makeResident_recast f g t id limits window) fun (evicted, t₁) => ?_
    simp only [recastPair, via_window_recast, Option.isSome_map]
    split
    · exact bind_map (hits_recast f g t₁ limits id n) fun _ => rfl
    · rfl

structure Settled (t t' : Table W) (capacity : Nat) (id : PageId)
    (outcome : Except LoadError W) : Prop extends Undisturbed t t' where
  aligned : ∃ l, t'.Aligned l
  within : t'.census.total ≤ capacity
  own : t'.via Page.window? id = none ∨
    ∃ window, outcome = .ok window ∧ t'.via Page.window? id = some window
  window : ∀ i, i ≠ id → t'.via Page.window? i = t.via Page.window? i ∨
    t'.via Page.window? i = none

theorem Settled.idle {capacity : Nat} {outcome : Except LoadError W} {i : PageId}
    (h : Settled t t' capacity id outcome) (hi : i ≠ id) (hw : t.via Page.window? i = none) :
    t'.via Page.window? i = none := by
  rcases h.window i hi with e | e
  · exact e.trans hw
  · exact e

theorem Aligned.settle_spec (h : t.Aligned l) (hid : id < t.size)
    (hw : t.via Page.window? id = none) (limits : Limits)
    (hc : t.census.total ≤ limits.capacity) (outcome : Except LoadError W) (n : Nat) :
    ∃ evicted t', t.settle limits id outcome n = .ok (evicted, t') ∧
      Settled t t' limits.capacity id outcome := by
  cases outcome with
  | error _ => exact ⟨[], t, rfl, Undisturbed.refl t, ⟨l, h⟩, hc, Or.inl hw, fun _ _ => Or.inl rfl⟩
  | ok window =>
    obtain ⟨evicted, t₁, e₁, a⟩ := h.makeResident_spec hid (h.not_mem hw) hc window
    rcases a.own with hp | hp
    · obtain ⟨t₂, l₂, e₂, h₂, r₂⟩ := a.admitted.hits_retains (n := n) hp limits
      refine ⟨evicted, t₂, ?_, a.undisturbed.trans r₂.toUndisturbed, ⟨l₂, h₂⟩,
        r₂.total.symm ▸ a.within, ?_, ?_⟩
      · simp [settle, e₁, hp, e₂, bind, Except.bind, pure, Except.pure]
      · exact Or.inr ⟨window, rfl, by rw [r₂.window, hp]⟩
      · rw [r₂.window]
        exact a.others
    · refine ⟨evicted, t₁, ?_, a.undisturbed, ⟨_, a.admitted⟩, a.within, Or.inl hp, a.others⟩
      simp [settle, e₁, hp, bind, Except.bind, pure, Except.pure]

theorem Aligned.settled (h : t.Aligned l) (hid : id < t.size)
    (hw : t.via Page.window? id = none) {limits : Limits}
    (hc : t.census.total ≤ limits.capacity) {outcome : Except LoadError W} {n : Nat}
    {evicted : List Eviction} {u : Table W}
    (e : t.settle limits id outcome n = .ok (evicted, u)) :
    Settled t u limits.capacity id outcome := by
  obtain ⟨_, _, e', hs⟩ := h.settle_spec hid hw limits hc outcome n
  cases e.symm.trans e'
  exact hs

/-- A load that ends with `n` waiters: the load itself, and then the hits of the waiters. -/
theorem settle_eq (h : t.via Page.window? id = none) (limits : Limits)
    (outcome : Except LoadError W) (n : Nat) :
    t.settle limits id outcome n = t.settle limits id outcome 0 >>= fun (evicted, u) =>
      if (u.via Page.window? id).isSome then (hits limits id n u).map (evicted, ·)
      else .ok (evicted, u) := by
  cases outcome with
  | error _ => simp [settle, h, bind, Except.bind]
  | ok window =>
    simp only [settle]
    cases t.makeResident limits id window with
    | error _ => rfl
    | ok r =>
      by_cases hx : (r.2.via Page.window? id).isSome
      · simp [hx, hits, bind, Except.bind, pure, Except.pure, Except.map]
      · simp [hx, bind, Except.bind, pure, Except.pure]

theorem hits_succ (limits : Limits) (id : PageId) (n : Nat) (t : Table W) :
    hits limits id (n + 1) t = hits limits id n t >>= fun t => t.recordHit limits id := by
  induction n generalizing t with
  | zero => exact bind_pure (t.recordHit limits id)
  | succ n ih =>
    rw [hits]
    conv_rhs => rw [hits]
    cases t.recordHit limits id with
    | error _ => rfl
    | ok t₁ => exact ih t₁

theorem Aligned.settle_succ (h : t.Aligned l) (hid : id < t.size)
    (hw : t.via Page.window? id = none) {limits : Limits}
    (hc : t.census.total ≤ limits.capacity) {outcome : Except LoadError W} {n : Nat}
    {evicted : List Eviction} {u : Table W}
    (e : t.settle limits id outcome n = .ok (evicted, u)) :
    t.settle limits id outcome (n + 1) =
      if (u.via Page.window? id).isSome then (u.recordHit limits id).map (evicted, ·)
      else .ok (evicted, u) := by
  cases outcome with
  | error _ =>
    cases e
    simp [settle, hw]
  | ok window =>
    obtain ⟨evicted₁, t₁, e₁, a⟩ := h.makeResident_spec hid (h.not_mem hw) hc window
    simp only [settle, e₁, bind, Except.bind, pure, Except.pure] at e ⊢
    rcases a.own with hp | hp
    · obtain ⟨t₂, l₂, e₂, h₂, r₂⟩ := a.admitted.hits_retains (n := n) hp limits
      simp only [hp, Option.isSome_some, ↓reduceIte, e₂, Except.ok.injEq, Prod.mk.injEq] at e
      obtain ⟨rfl, rfl⟩ := e
      simp only [hp, Option.isSome_some, ↓reduceIte, hits_succ, e₂, r₂.window, bind, Except.bind]
      cases t₂.recordHit limits id <;> rfl
    · simp only [hp, Option.isSome_none, Bool.false_eq_true, ↓reduceIte, Except.ok.injEq,
        Prod.mk.injEq] at e
      obtain ⟨rfl, rfl⟩ := e
      simp [hp]

end RecordCache.Table
