import RecordCache.Proofs.Loads
/-! The laps of an acquisition, and the moves around them, by the window and the load state of the
page. Each move is said as what it does to the load state, on top of what replacement does. -/
namespace RecordCache

variable {W : Type} {t u : Table W} {id : PageId} {page : Page W} {attempt n : Nat}

namespace LoadState

def started (attempt waiters : Nat) : LoadState W := { loading := true, attempt, waiters }

def ended (attempt : Nat) (outcome : Except LoadError W) (window? : Option W) (waiters : Nat) :
    LoadState W :=
  match outcome with
  | .error e => { attempt, failure? := some e, waiters }
  | .ok window =>
    { attempt, waiters
      parked? := if window?.isNone ∧ 0 < waiters then some (attempt, window) else none }

def finish (m : LoadState W) (attempt : Nat) (outcome : Except LoadError W) (window? : Option W) :
    LoadState W :=
  match outcome with
  | .error e => { m with loading := false, failure? := some e }
  | .ok window =>
    { m with
      loading := false
      parked? := if window?.isNone ∧ 0 < m.waiters then some (attempt, window) else m.parked? }

theorem finish_started (outcome : Except LoadError W) (window? : Option W) :
    (started attempt n).finish attempt outcome window? = ended attempt outcome window? n := by
  cases outcome <;> rfl

theorem loading_finish (m : LoadState W) (outcome : Except LoadError W) (window? : Option W) :
    (m.finish attempt outcome window?).loading = false := by
  cases outcome <;> rfl

def resumed (m : LoadState W) : LoadState W :=
  { m with
    waiters := m.waiters - 1
    parked? := if m.waiters - 1 = 0 then none else m.parked? }

theorem resumed_ended (outcome : Except LoadError W) (window? : Option W) :
    (ended attempt outcome window? (n + 1)).resumed = ended attempt outcome window? n := by
  cases outcome with
  | error _ =>
    simp only [ended, resumed, Nat.add_sub_cancel]
    split <;> rfl
  | ok w =>
    by_cases hn : n = 0 <;> cases window? <;> simp [ended, resumed, hn, Nat.pos_of_ne_zero]

end LoadState

namespace Table

theorem resume_eq (hp : t.pages[id]? = some page) (attempt : Nat) :
    t.resume id attempt = .ok (page.parkedFor? attempt, t.setLoad id page.loadState.resumed) := by
  rw [resume, get_of_page hp]
  simp only [bind, Except.bind]
  rw [modify_eq_setLoad page.loadState.resumed hp]
  · rfl
  · simp only [Page.recast, Option.map_id_fun']
    rfl

theorem lap_hit {w : W} {limits : Limits} (hw : t.via Page.window? id = some w)
    (e : t.recordHit limits id = .ok u) (awaited? : Option Nat) :
    t.lap limits awaited? id = .ok (.hit w, u) := by
  obtain ⟨page, hp, hx⟩ := Option.bind_eq_some_iff.mp hw
  rw [lap, get_of_page hp]
  simp [hx, e, bind, Except.bind, pure, Except.pure]

theorem lap_blocked (hp : t.pages[id]? = some page) (hw : page.window? = none)
    (hl : page.loading) (limits : Limits) (awaited? : Option Nat) :
    t.lap limits awaited? id = .ok (.blocked page.attempt,
      t.setLoad id { page.loadState with waiters := page.waiters + 1 }) := by
  have hm := modify_eq_setLoad { page.loadState with waiters := page.waiters + 1 } hp
    (k := fun p => { p with waiters := p.waiters + 1 }) (by simp [Page.recast, Page.loadState])
  rw [lap, get_of_page hp]
  simp [hw, hl, hm, bind, Except.bind, pure, Except.pure]

theorem lap_failed {error : LoadError} (hp : t.pages[id]? = some page)
    (hw : page.window? = none) (hl : page.loading = false) (hf : page.failure? = some error)
    (limits : Limits) : t.lap limits (some page.attempt) id = .ok (.failed error, t) := by
  rw [lap, get_of_page hp]
  simp [hw, hl, Page.awaitedFailure?, hf, bind, Except.bind, pure, Except.pure]

theorem lap_load (hp : t.pages[id]? = some page) (hw : page.window? = none)
    (hl : page.loading = false) (limits : Limits) :
    t.lap limits none id = .ok (.load (page.attempt + 1) page.address, t.setLoad id
      { page.loadState with loading := true, attempt := page.attempt + 1, failure? := none }) := by
  have hm := modify_eq_setLoad { page.loadState with
      loading := true, attempt := page.attempt + 1, failure? := none } hp
    (k := fun p => { p with loading := true, attempt := page.attempt + 1, failure? := none })
    (by simp [Page.recast, Page.loadState])
  rw [lap, get_of_page hp]
  simp [hw, hl, Page.awaitedFailure?, hm, bind, Except.bind, pure, Except.pure]

theorem page_setLoad (hp : t.pages[id]? = some page) (load : LoadState W) :
    (t.setLoad id load).pages[id]? = some (page.recast (fun w => w) fun _ => load) := by
  rw [setLoad, getElem?_recast, hp, Option.map_some]
  congr 2
  funext m
  exact if_pos rfl

theorem settle_zero (t : Table W) (limits : Limits) (id : PageId) (window : W) :
    t.settle limits id (.ok window) 0 = t.makeResident limits id window := by
  rw [settle]
  cases t.makeResident limits id window with
  | error _ => rfl
  | ok r =>
    simp only [bind, Except.bind, hits, pure, Except.pure]
    split <;> rfl

theorem complete_finish {limits : Limits} {outcome : Except LoadError W} {evicted : List Eviction}
    (hp : t.pages[id]? = some page) (hu : u.loadOf = t.loadOf)
    (hs : t.settle limits id outcome 0 = .ok (evicted, u)) :
    t.complete limits id attempt outcome = .ok (evicted,
      u.setLoad id (page.loadState.finish attempt outcome (u.via Page.window? id))) := by
  let idle : LoadState W := { page.loadState with loading := false }
  have e₁ := modify_eq_setLoad idle hp (k := fun p => { p with loading := false })
    (by simp [Page.recast, Page.loadState, idle])
  have hp₁ := page_setLoad hp idle
  rw [complete]
  simp only [e₁, bind, Except.bind]
  cases outcome with
  | error error =>
    cases hs
    have e₂ := modify_eq_setLoad { idle with failure? := some error } hp₁ (k := fun p =>
      { p with failure? := some error }) (by simp [Page.recast, Page.loadState, idle])
    simp only [e₂, setLoad_setLoad]
    rfl
  | ok window =>
    rw [settle_zero] at hs
    have e₂ : (t.setLoad id idle).makeResident limits id window =
        .ok (evicted, u.setLoad id idle) := by
      have := makeResident_recast (fun w => w) (fun i m => if i = id then idle else m) t id limits
        window
      rw [hs] at this
      exact this
    obtain ⟨q, hq, -⟩ := Option.map_eq_some_iff.mp ((congrFun hu id).trans (loadOf_of_page hp))
    have hq₁ := page_setLoad hq idle
    have e₃ := modify_eq_setLoad (page.loadState.finish attempt (.ok window) q.window?) hq₁
      (k := fun p => if p.window?.isNone && 0 < p.waiters then
        { p with parked? := some (attempt, window) } else p) (by
        by_cases hx : q.window? = none <;> by_cases hn : 0 < page.waiters <;>
          simp [Page.recast, LoadState.finish, Page.loadState, idle, hx, hn])
    simp only [e₂, e₃, setLoad_setLoad, via_of_page hq]
    rfl

theorem complete_eq {limits : Limits} {outcome : Except LoadError W} {evicted : List Eviction}
    (hl : t.loadOf id = some (.started attempt n)) (hu : u.loadOf = t.loadOf)
    (hs : t.settle limits id outcome 0 = .ok (evicted, u)) :
    t.complete limits id attempt outcome = .ok (evicted,
      u.setLoad id (.ended attempt outcome (u.via Page.window? id) n)) := by
  obtain ⟨page, hp, hm⟩ := Option.map_eq_some_iff.mp hl
  rw [complete_finish hp hu hs, hm, LoadState.finish_started]

structure Awaits (t : Table W) (id : PageId) (attempt : Nat) : Prop where
  window : t.via Page.window? id = none
  load : ∃ m, t.loadOf id = some m ∧ m.loading ∧ m.attempt = attempt ∧ m.parked? = none ∧
    0 < m.waiters

/-- A caller that runs on while its load is in progress is blocked again, and nothing changes. -/
theorem Awaits.runOn_eq (h : t.Awaits id attempt) (limits : Limits) :
    t.runOn limits id attempt = .ok (.blocked attempt, t) := by
  obtain ⟨m, hm, hl, ha, hk, hw⟩ := h.load
  obtain ⟨page, hp, rfl⟩ := Option.map_eq_some_iff.mp hm
  have hx : page.window? = none := (via_of_page hp Page.window?).symm.trans h.window
  have hparked : page.parkedFor? attempt = none := by
    have : page.parked? = none := hk
    simp [Page.parkedFor?, this]
  have hback : { page.loadState.resumed with waiters := page.waiters - 1 + 1 } =
      page.loadState := by
    have hw' : page.waiters - 1 + 1 = page.waiters := Nat.sub_add_cancel hw
    have hk' : page.parked? = none := hk
    simp [LoadState.resumed, Page.loadState, hk', hw']
  have e := lap_blocked (page_setLoad hp page.loadState.resumed) (by simp [Page.recast, hx])
    hl limits (some attempt)
  rw [setLoad_setLoad] at e
  rw [runOn, resume_eq hp, hparked]
  refine e.trans ?_
  have hs := setLoad_self hm
  rw [← hback] at hs
  exact congrArg Except.ok (Prod.ext (congrArg Lap.blocked ha) hs)

end Table

def Lap.ofOutcome : Except LoadError W → Lap W
  | .ok window => .hit window
  | .error error => .failed error

namespace Table

variable {limits : Limits} {outcome : Except LoadError W} {evicted : List Eviction}
  {served left : Nat} {l : Lineup} {t' : Table W}

/-- The load of `id` on `t` has ended; `served` of its waiters have run on, and `left` have not. -/
def Ended (t : Table W) (limits : Limits) (id : PageId) (attempt : Nat)
    (outcome : Except LoadError W) (evicted : List Eviction) (served left : Nat)
    (t' : Table W) : Prop :=
  ∃ u, t.settle limits id outcome served = .ok (evicted, u) ∧
    t' = u.setLoad id (.ended attempt outcome (u.via Page.window? id) left)

theorem resume_ended {q : Page W} (hq : u.pages[id]? = some q) (outcome : Except LoadError W)
    (window? : Option W) (n : Nat) :
    (u.setLoad id (.ended attempt outcome window? (n + 1))).resume id attempt =
      .ok (if window?.isNone then outcome.toOption else none,
        u.setLoad id (.ended attempt outcome window? n)) := by
  have hresume := resume_eq (page_setLoad hq (.ended attempt outcome window? (n + 1))) attempt
  rw [setLoad_setLoad, Page.loadState_recast, LoadState.resumed_ended] at hresume
  refine hresume.trans ?_
  cases outcome <;> cases window? <;>
    simp [Page.parkedFor?, Page.recast, LoadState.ended, Except.toOption]

/-- The next waiter has the outcome of the load: a window that is parked, a hit or the failure. -/
theorem Ended.runOn_eq (h : t.Aligned l) (hid : id < t.size) (hw : t.via Page.window? id = none)
    (hc : t.census.total ≤ limits.capacity)
    (he : t.Ended limits id attempt outcome evicted served (left + 1) t') :
    ∃ t₁, t'.runOn limits id attempt = .ok (.ofOutcome outcome, t₁) ∧
      t.Ended limits id attempt outcome evicted (served + 1) left t₁ := by
  obtain ⟨u, e, rfl⟩ := he
  have hs := h.settled hid hw hc e
  have hsucc := h.settle_succ hid hw hc e
  obtain ⟨page, hp⟩ := exists_page hid
  obtain ⟨q, hq, -⟩ := Option.map_eq_some_iff.mp
    ((congrFun hs.loads id).trans (loadOf_of_page hp))
  rw [runOn, resume_ended hq]
  rcases hs.own with hn | ⟨window, rfl, hy⟩
  · rw [hn, Option.isSome_none, if_neg Bool.false_ne_true] at hsucc
    rw [hn]
    refine ⟨_, ?_, u, hsucc, by rw [hn]⟩
    cases outcome with
    | error error =>
      have hx : q.window? = none := (via_of_page hq Page.window?).symm.trans hn
      exact lap_failed (page_setLoad hq (.ended attempt (.error error) none left))
        (by simp [Page.recast, hx]) rfl rfl limits
    | ok window => rfl
  · rw [hy, Option.isSome_some, if_pos rfl] at hsucc
    obtain ⟨v, l', hv, -, hr⟩ := hs.aligned.choose_spec.recordHit_retains hy limits
    rw [hv] at hsucc
    refine ⟨_, ?_, v, hsucc, rfl⟩
    have hv' := recordHit_recast (fun w => w) (fun i m => if i = id then
      .ended attempt (.ok window) (some window) left else m) u id limits
    rw [hv] at hv'
    rw [hr.window, hy]
    exact lap_hit ((congrFun (via_window_setLoad ..) id).trans hy) hv' (some attempt)

end Table

namespace Cache

variable {c : Cache W} {w : W} {evicted : List Eviction}

theorem request_of_resident (hp : c.table.pages[id]? = some page) (hw : page.window? = some w)
    (hl : page.loading = false) (e : c.table.recordHit c.limits id = .ok t) :
    c.request id = .ok (.hit w, { c with table := t }) := by
  have hlap := Table.lap_hit ((Table.via_of_page hp Page.window?).trans hw) e none
  simp [request, hp, hl, hlap, bind, Except.bind, pure, Except.pure]

theorem request_of_idle (hp : c.table.pages[id]? = some page) (hw : page.window? = none)
    (hl : page.loading = false) :
    c.request id = .ok (.miss (page.attempt + 1) page.address,
      { c with table := c.table.setLoad id { page.loadState with
          loading := true, attempt := page.attempt + 1, failure? := none } }) := by
  have hlap := Table.lap_load hp hw hl c.limits
  simp [request, hp, hl, hlap, bind, Except.bind, pure, Except.pure]

/-- A load that was started on a table ends as if replacement had been done there, whatever the load
state was set to. -/
theorem complete_of_started {outcome : Except LoadError W}
    (hp : t.pages[id]? = some page) (hu : u.loadOf = t.loadOf)
    (hs : t.settle c.limits id outcome 0 = .ok (evicted, u)) (started : LoadState W)
    (attempt : Nat) :
    ∃ load : LoadState W, load.loading = false ∧
      { c with table := t.setLoad id started }.complete id attempt outcome =
        .ok (evicted, { c with table := u.setLoad id load }) := by
  have hrecast := Table.settle_recast (fun w => w) (fun i m => if i = id then started else m) t
    c.limits id outcome 0
  have houtcome : outcome.map (fun w => w) = outcome := by cases outcome <;> rfl
  rw [hs, houtcome] at hrecast
  have hloads : (u.setLoad id started).loadOf = (t.setLoad id started).loadOf := by
    funext i
    rw [Table.loadOf_setLoad, Table.loadOf_setLoad, hu]
  have hcomplete : (t.setLoad id started).complete c.limits id attempt outcome = _ :=
    Table.complete_finish (Table.page_setLoad hp started) hloads hrecast
  rw [Table.setLoad_setLoad] at hcomplete
  exact ⟨_, LoadState.loading_finish .., congrArg (· >>= _) hcomplete⟩

end Cache

end RecordCache
