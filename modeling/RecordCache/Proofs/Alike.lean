import RecordCache.Proofs.Deeds
import RecordCache.Proofs.Postponed
/-! Sessions that cannot be told apart. The numbers of the attempts to load a page, the failure of
the latest one and parked windows are left out of what can be seen. Two sessions that look alike,
but for the numbering of their loads, give answers that look alike to every operation, and look
alike after it. -/
namespace RecordCache

variable {W V U : Type}

def LoadState.seen (m : LoadState W) : LoadState V :=
  { loading := m.loading, waiters := m.waiters }

def Table.seen (f : W → V) (t : Table W) : Table V := t.recast f fun _ => LoadState.seen

/-- The stamp of a load that comes after `base` others. -/
def Stamp.later (base : Nat) (stamp : Stamp) : Stamp := stamp.renumber (base + ·)

mutual

def Answer.seen (f : Stamp → Stamp) : Answer → Answer
  | .acquired result loaded? waiters during =>
    .acquired (result.map f) loaded? (waiters.map (Except.map f)) (Answer.allSeen f during)
  | .page page? => .page (page?.map fun page => page.recast f LoadState.seen)
  | .grown id => .grown id
  | .evicted released => .evicted released
  | .evictedAll count => .evictedAll count
  | .fault reason => .fault reason

def Answer.allSeen (f : Stamp → Stamp) : List Answer → List Answer
  | [] => []
  | answer :: answers => answer.seen f :: Answer.allSeen f answers

end

variable {limits : Limits} {base n : Nat} {before evicted evicted' : List Eviction}
  {a b : Session} {oa ob : List Ticket} {ta tb ticket : Ticket} {id : PageId}
  {failure? : Option LoadError} {u u' : Table Stamp} {during : List Op}

theorem Page.eq_of_seen {f : W → U} {g : V → U} {page : Page W} {page' : Page V}
    (h : page.recast f LoadState.seen = page'.recast g LoadState.seen) :
    page.address = page'.address ∧ page.loading = page'.loading ∧
      page.window?.map f = page'.window?.map g := by
  simp only [Page.recast, LoadState.seen, Page.mk.injEq] at h
  tauto

theorem Ticket.result_later (failure? : Option LoadError) (hs : ta.stamp = tb.stamp.later base) :
    ta.result failure? = (tb.result failure?).map (Stamp.later base) := by
  cases failure? with
  | none => exact congrArg Except.ok hs
  | some _ => rfl

namespace Table

variable {t : Table W} {s : Table V} {f : W → U} {g : V → U}

theorem seen_setLoad (f : W → V) (t : Table W) (id : PageId) (load : LoadState W) :
    (t.setLoad id load).seen f = (t.seen f).setLoad id load.seen :=
  recast_setLoad ..

theorem size_of_seen (h : t.seen f = s.seen g) : t.size = s.size := by
  have e := congrArg Table.size h
  rwa [seen, seen, size_recast, size_recast] at e

theorem page_of_seen (h : t.seen f = s.seen g) (i : PageId) :
    t.pages[i]?.map (fun page => page.recast f LoadState.seen) =
      s.pages[i]?.map fun page => page.recast g LoadState.seen := by
  have e := congrArg (fun x : Table U => x.pages[i]?) h
  rwa [seen, seen, getElem?_recast, getElem?_recast] at e

theorem window_of_seen (h : t.seen f = s.seen g) (i : PageId) :
    (t.via Page.window? i).map f = (s.via Page.window? i).map g := by
  have e := congrArg (fun x : Table U => x.via Page.window? i) h
  rwa [seen, seen, via_window_recast, via_window_recast] at e

theorem eq_of_recastPair {α : Type} {x y : α} {t' : Table W} {s' : Table V}
    {r : Except Fault (α × Table U)}
    (ht : r = (Except.ok (x, t')).map (recastPair f fun _ => LoadState.seen))
    (hs : r = (Except.ok (y, s')).map (recastPair g fun _ => LoadState.seen)) :
    x = y ∧ t'.seen f = s'.seen g := by
  have e : (x, t'.seen f) = (y, s'.seen g) := Except.ok.inj (ht.symm.trans hs)
  exact Prod.mk.inj e

theorem seen_congr {α : Type} (step : (X : Type) → Table X → Except Fault (α × Table X))
    (hstep : ∀ {X Y : Type} (f : X → Y) (t : Table X), step Y (t.seen f) =
      (step X t).map (recastPair f fun _ => LoadState.seen))
    (h : t.seen f = s.seen g) {x y : α} {t' : Table W} {s' : Table V}
    (e : step W t = .ok (x, t')) (e' : step V s = .ok (y, s')) :
    x = y ∧ t'.seen f = s'.seen g := by
  have ht := hstep f t
  have hs := hstep g s
  rw [e, h] at ht
  rw [e'] at hs
  exact eq_of_recastPair ht hs

end Table

namespace Session

/-- The session `a` looks like `b`, but for `base` more loads and the evictions `before`. -/
structure Alike (base : Nat) (before : List Eviction) (a b : Session) : Prop where
  limits_eq : a.limits = b.limits
  table : a.table.seen (fun stamp => stamp) = b.table.seen (Stamp.later base)
  blocked : a.blocked.map Waiter.page = b.blocked.map Waiter.page
  loads : a.loads = base + b.loads
  evictions : a.evictions = before ++ b.evictions

namespace Alike

variable (h : Alike base before a b)
include h

theorem misses (hm : a.Misses ta) :
    ∃ tb, b.Misses tb ∧ tb.page = ta.page ∧ ta.stamp = tb.stamp.later base := by
  obtain ⟨page, hp, hw, hl, -, hs⟩ := hm
  have e := Table.page_of_seen h.table ta.page
  rw [hp, Option.map_some] at e
  obtain ⟨page', hp', e⟩ := Option.map_eq_some_iff.mp e.symm
  obtain ⟨haddress, hloading, hwindow⟩ := Page.eq_of_seen e
  rw [hw, Option.map_none, Option.map_eq_none_iff] at hwindow
  refine ⟨⟨ta.page, page'.attempt + 1, ⟨page'.address, b.loads + 1⟩⟩,
    ⟨page', hp', hwindow, hloading.trans hl, rfl, rfl⟩, rfl, ?_⟩
  rw [hs, h.loads, haddress]
  rfl

theorem entered (hp : tb.page = ta.page) (n : Nat) :
    Alike base before (a.entered ta n) (b.entered tb n) := by
  refine ⟨h.limits_eq, ?_, ?_, congrArg (· + 1) h.loads, h.evictions⟩
  · refine (Table.seen_setLoad ..).trans (Eq.trans ?_ (Table.seen_setLoad ..).symm)
    rw [h.table, hp]
    rfl
  · simp [Session.entered, h.blocked, Ticket.waiter, hp]

theorem closed (hp : tb.page = ta.page) (he : evicted = evicted')
    (hu : u.seen (fun stamp => stamp) = u'.seen (Stamp.later base)) :
    Alike base before (a.closed ta failure? evicted u) (b.closed tb failure? evicted' u') := by
  refine ⟨h.limits_eq, ?_, ?_, h.loads, ?_⟩
  · refine (Table.seen_setLoad ..).trans (Eq.trans ?_ (Table.seen_setLoad ..).symm)
    rw [hu, hp]
    rfl
  · have hfilter : ∀ ws : List Waiter, (elsewhere ta.page ws).map Waiter.page =
        (ws.map Waiter.page).filter (· ≠ ta.page) := by
      intro ws
      rw [elsewhere, List.filter_map]
      refine congrArg (List.map Waiter.page) (List.filter_congr fun w _ => ?_)
      simp [Waiter.isAt]
    rw [Session.closed, Session.closed, hp]
    exact (hfilter _).trans ((congrArg _ h.blocked).trans (hfilter _).symm)
  · rw [Session.closed, Session.closed, he]
    simp [withEvictions, withTable, h.evictions]

theorem withTable (ht : u.seen (fun stamp => stamp) = u'.seen (Stamp.later base))
    (he : evicted = evicted') : Alike base before ((a.withTable u).withEvictions evicted)
      ((b.withTable u').withEvictions evicted') := by
  refine ⟨h.limits_eq, ht, h.blocked, h.loads, ?_⟩
  rw [he]
  simp [withEvictions, Session.withTable, h.evictions]

end Alike

structure Twins (limits : Limits) (base : Nat) (before : List Eviction) (oa ob : List Ticket)
    (a b : Session) : Prop where
  left : Sound limits oa a
  right : Sound limits ob b
  opened : oa.map Ticket.page = ob.map Ticket.page
  alike : Alike base before a b

structure SameStep (base : Nat) (before : List Eviction) (x y : Answer × Session) : Prop where
  answer : x.1.seen (fun stamp => stamp) = y.1.seen (Stamp.later base)
  alike : Alike base before x.2 y.2

namespace Twins

variable (h : Twins limits base before oa ob a b)
include h

theorem hit {stamp : Stamp} (hw : a.table.via Page.window? id = some stamp) :
    SameStep base before (a.step (.acquire id failure? n during))
      (b.step (.acquire id failure? n during)) := by
  have hx := Table.window_of_seen h.alike.table id
  rw [hw, Option.map_some] at hx
  obtain ⟨stamp', hw', hs⟩ := Option.map_eq_some_iff.mp hx.symm
  obtain ⟨t, e, eo, -⟩ := h.left.openLoad_hit hw
  obtain ⟨t', e', eo', -⟩ := h.right.openLoad_hit hw'
  have hk := Table.recordHit_recast (fun stamp => stamp) (fun _ => LoadState.seen) a.table id
    a.limits
  have hk' := Table.recordHit_recast (Stamp.later base) (fun _ => LoadState.seen) b.table id
    a.limits
  have ht : a.table.recast (fun stamp => stamp) (fun _ => LoadState.seen) = _ := h.alike.table
  rw [e, ht] at hk
  rw [h.alike.limits_eq, e'] at hk'
  rw [h.alike.limits_eq] at hk
  have ht := Except.ok.inj (hk.symm.trans hk')
  simp only [step, eo, eo']
  refine ⟨?_, h.alike.limits_eq, ht, h.alike.blocked, h.alike.loads, h.alike.evictions⟩
  simp only [Answer.seen, Answer.allSeen, Except.map, hs, List.map_nil]

theorem miss (hm : a.Misses ta) (hm' : b.Misses tb) (hp : tb.page = ta.page)
    (hs : ta.stamp = tb.stamp.later base)
    (hr : Answer.allSeen (fun stamp => stamp) ((a.entered ta n).run during).1 =
        Answer.allSeen (Stamp.later base) ((b.entered tb n).run during).1 ∧
      Alike base before ((a.entered ta n).run during).2 ((b.entered tb n).run during).2) :
    SameStep base before (a.step (.acquire ta.page failure? n during))
      (b.step (.acquire ta.page failure? n during)) := by
  obtain ⟨hd, hr⟩ := hr
  obtain ⟨evicted, u, e, es⟩ :=
    h.left.step_of_misses hm failure? ((h.left.entered hm n).run_kept during)
  obtain ⟨evicted', u', e', es'⟩ :=
    h.right.step_of_misses hm' failure? ((h.right.entered hm' n).run_kept during)
  have hk := Table.settle_recast (fun stamp => stamp) (fun _ => LoadState.seen)
    ((a.entered ta n).run during).2.table limits ta.page (ta.result failure?) n
  have hk' := Table.settle_recast (Stamp.later base) (fun _ => LoadState.seen)
    ((b.entered tb n).run during).2.table limits tb.page (tb.result failure?) n
  have ht : ((a.entered ta n).run during).2.table.recast (fun stamp => stamp)
      (fun _ => LoadState.seen) = _ := hr.table
  have hid : ∀ result : LoadResult, result.map (fun stamp => stamp) = result :=
    congrFun Except.map_id
  rw [e, ht, hid, Ticket.result_later failure? hs, ← hp] at hk
  rw [e'] at hk'
  obtain ⟨he, hu⟩ := Table.eq_of_recastPair hk hk'
  rw [← hp] at es ⊢
  rw [es, es']
  refine ⟨?_, hr.closed hp he hu⟩
  have haddress : ta.stamp.address = tb.stamp.address := by
    rw [hs]
    rfl
  simp only [Answer.seen, hd, haddress, List.map_replicate, hid, Ticket.result_later failure? hs]

theorem acquire (hr : ∀ ta tb, a.Misses ta → b.Misses tb → tb.page = ta.page →
      Twins limits base before (ta :: oa) (tb :: ob) (a.entered ta n) (b.entered tb n) →
      Answer.allSeen (fun stamp => stamp) ((a.entered ta n).run during).1 =
          Answer.allSeen (Stamp.later base) ((b.entered tb n).run during).1 ∧
        Alike base before ((a.entered ta n).run during).2 ((b.entered tb n).run during).2) :
    SameStep base before (a.step (.acquire id failure? n during))
      (b.step (.acquire id failure? n during)) := by
  rcases h.left.acquire_cases id with hid | hid | ⟨stamp, hw⟩ | ⟨ta, rfl, hm⟩
  · have hid' : b.table.size ≤ id := Table.size_of_seen h.alike.table ▸ hid
    simp only [step, Sound.openLoad_of_size_le hid, Sound.openLoad_of_size_le hid']
    exact ⟨by simp only [Answer.seen], h.alike⟩
  · have hid' : id ∈ ob.map Ticket.page := h.opened ▸ hid
    simp only [step, h.left.openLoad_of_opened hid, h.right.openLoad_of_opened hid']
    exact ⟨by simp only [Answer.seen], h.alike⟩
  · exact h.hit hw
  · obtain ⟨tb, hm', hp, hs⟩ := h.alike.misses hm
    have hin : Twins limits base before (ta :: oa) (tb :: ob) (a.entered ta n)
        (b.entered tb n) := by
      refine ⟨h.left.entered hm n, h.right.entered hm' n, ?_, h.alike.entered hp n⟩
      rw [List.map_cons, List.map_cons, hp, h.opened]
    exact h.miss hm hm' hp hs (hr ta tb hm hm' hp hin)

theorem forceEvict (id : PageId) :
    SameStep base before (a.step (.forceEvict id)) (b.step (.forceEvict id)) := by
  obtain ⟨_, hal⟩ := h.left.aligned
  obtain ⟨_, hal'⟩ := h.right.aligned
  obtain ⟨x?, t, _, e, -⟩ := hal.forceEvict_spec id
  obtain ⟨y?, t', _, e', -⟩ := hal'.forceEvict_spec id
  obtain ⟨rfl, hu⟩ := Table.seen_congr (fun _ t => t.forceEvict id)
    (fun f t => Table.forceEvict_recast f (fun _ => LoadState.seen) t id) h.alike.table e e'
  simp only [step, e, e']
  exact ⟨by simp only [Answer.seen], h.alike.withTable hu rfl⟩

theorem forceEvictAll : SameStep base before (a.step .forceEvictAll) (b.step .forceEvictAll) := by
  obtain ⟨_, hal⟩ := h.left.aligned
  obtain ⟨_, hal'⟩ := h.right.aligned
  obtain ⟨xs, t, _, e, -⟩ := hal.forceEvictAll_spec
  obtain ⟨ys, t', _, e', -⟩ := hal'.forceEvictAll_spec
  obtain ⟨rfl, hu⟩ := Table.seen_congr (fun _ t => t.forceEvictAll)
    (fun f t => Table.forceEvictAll_recast f (fun _ => LoadState.seen) t) h.alike.table e e'
  simp only [step, e, e']
  exact ⟨by simp only [Answer.seen], h.alike.withTable hu rfl⟩

theorem grow (id recordsPerPage : Nat) :
    SameStep base before (a.step (.grow id recordsPerPage)) (b.step (.grow id recordsPerPage)) := by
  have hk := Table.growTo_recast (fun stamp : Stamp => stamp) (fun _ => LoadState.seen) a.table id
    recordsPerPage fun _ _ => rfl
  have hk' := Table.growTo_recast (Stamp.later base) (fun _ => LoadState.seen) b.table id
    recordsPerPage fun _ _ => rfl
  have ht : a.table.recast (fun stamp => stamp) (fun _ => LoadState.seen) = _ := h.alike.table
  rw [ht] at hk
  simp only [step]
  exact ⟨by simp only [Answer.seen], h.alike.limits_eq, hk.symm.trans hk', h.alike.blocked,
    h.alike.loads, h.alike.evictions⟩

end Twins

mutual

theorem Twins.step {oa ob : List Ticket} {a b : Session}
    (h : Twins limits base before oa ob a b) :
    ∀ op, SameStep base before (a.step op) (b.step op)
  | .grow id recordsPerPage => h.grow id recordsPerPage
  | .acquire _ _ _ during => h.acquire fun _ _ _ _ _ hin => Twins.run hin during
  | .forceEvict id => h.forceEvict id
  | .forceEvictAll => h.forceEvictAll
  | .inspect id => by
    simp only [Session.step]
    refine ⟨?_, h.alike⟩
    simp only [Answer.seen, Table.page_of_seen h.alike.table id]

theorem Twins.run {oa ob : List Ticket} {a b : Session}
    (h : Twins limits base before oa ob a b) :
    ∀ ops, Answer.allSeen (fun stamp => stamp) (a.run ops).1 =
        Answer.allSeen (Stamp.later base) (b.run ops).1 ∧
      Alike base before (a.run ops).2 (b.run ops).2
  | [] => by
    simp only [Session.run]
    exact ⟨rfl, h.alike⟩
  | op :: ops => by
    have h₁ := Twins.step h op
    have hnext : Twins limits base before oa ob (a.step op).2 (b.step op).2 :=
      ⟨(h.left.step_kept op).sound, (h.right.step_kept op).sound, h.opened, h₁.alike⟩
    obtain ⟨hs, h₂⟩ := Twins.run hnext ops
    simp only [Session.run, Answer.allSeen]
    exact ⟨by rw [h₁.answer, hs], h₂⟩

end

end Session

end RecordCache
