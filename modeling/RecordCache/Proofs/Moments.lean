import RecordCache.Proofs.Deeds
/-! Runs, one move at a time. A move leads from one moment at which the table is free to the next,
so however deep operations are nested, a run is a course of moves. What becomes of the lists and of
the reference bits on the way is the replay of the deeds of the course. -/
namespace RecordCache

/-- A moment at which the table is free. -/
structure Moment where
  /-- The loads in progress, innermost first. -/
  opened : List Ticket
  session : Session
  /-- The callers that the end of a load has woken and that have not run on yet, with the failure of
  that load if it failed. -/
  woken : List (Waiter × Option LoadError)

def Moment.fresh (limits : Limits) : Moment := ⟨[], .ofLimits limits, []⟩

def Ticket.deeds (ticket : Ticket) (failure? : Option LoadError) (evicted : List Eviction) :
    List Deed :=
  if failure? = none then [.loaded ticket.page (evicted.map Eviction.page)] else []

def Waiter.deeds (w : Waiter) (s : Session) : List Deed :=
  if w.page ∈ s.table.residentIds then [.hit w.page] else []

/-- What happens between one moment and the next, with its deeds. The schedule is that of
`Session.closeLoad`: waiters block as the load starts, before anything inside it, and only a woken
caller may take the table as long as there is one. -/
inductive Move : Moment → List Deed → Moment → Prop where
  | grow (opened : List Ticket) (s : Session) (id : PageId) (recordsPerPage : Nat) :
      Move ⟨opened, s, []⟩ [] ⟨opened, s.withTable (s.table.growTo id recordsPerPage), []⟩
  | hit (opened : List Ticket) (id : PageId) {s s' : Session} {stamp : Stamp} :
      s.openLoad id = .ok (.hit stamp, s') → Move ⟨opened, s, []⟩ [.hit id] ⟨opened, s', []⟩
  | start (opened : List Ticket) (id n : Nat) {s s₁ s₂ : Session} {ticket : Ticket} :
      s.openLoad id = .ok (.miss ticket, s₁) → s₁.block id n = .ok s₂ →
      Move ⟨opened, s, []⟩ [] ⟨ticket :: opened, s₂, []⟩
  | finish (opened : List Ticket) (failure? : Option LoadError) {ticket : Ticket} {s : Session}
      {evicted : List Eviction} {cache : Cache Stamp} :
      s.cache.complete ticket.page ticket.attempt (ticket.result failure?) = .ok (evicted, cache) →
      Move ⟨ticket :: opened, s, []⟩ (ticket.deeds failure? evicted)
        ⟨opened, { ({ s with cache } : Session).withEvictions evicted with blocked := [] },
          s.blocked.map fun w => (w, failure?)⟩
  | wake (opened : List Ticket) {s s' : Session} {w : Waiter} {failure? : Option LoadError}
      {answer? : Option LoadResult} (woken : List (Waiter × Option LoadError)) :
      s.wake failure? w = .ok (answer?, s') →
      Move ⟨opened, s, (w, failure?) :: woken⟩ (w.deeds s) ⟨opened, s', woken⟩
  | forceEvict (opened : List Ticket) {s : Session} {id : PageId} {evicted? : Option Eviction}
      {table : Table Stamp} : s.table.forceEvict id = .ok (evicted?, table) →
      Move ⟨opened, s, []⟩ (evicted?.toList.map fun x => .forcedOut x.page)
        ⟨opened, (s.withTable table).withEvictions evicted?.toList, []⟩
  | forceEvictAll (opened : List Ticket) {s : Session} {evicted : List Eviction}
      {table : Table Stamp} : s.table.forceEvictAll = .ok (evicted, table) →
      Move ⟨opened, s, []⟩ (evicted.map fun x => .forcedOut x.page)
        ⟨opened, (s.withTable table).withEvictions evicted, []⟩

inductive Course : Moment → List Deed → Moment → Prop where
  | refl (m : Moment) : Course m [] m
  | tail {m m' m'' : Moment} {deeds deeds' : List Deed} : Course m deeds m' →
      Move m' deeds' m'' → Course m (deeds ++ deeds') m''

variable {limits : Limits} {opened : List Ticket} {ticket : Ticket} {failure? : Option LoadError}
  {id : PageId} {n : Nat} {deeds deeds' : List Deed} {s s' s₀ : Session} {ws : List Waiter}
  {r : Roster} {m m' m'' : Moment}

theorem Course.single (h : Move m deeds m') : Course m deeds m' := .tail (.refl m) h

theorem Course.trans (h : Course m deeds m') (h' : Course m' deeds' m'') :
    Course m (deeds ++ deeds') m'' := by
  induction h' with
  | refl =>
    rw [List.append_nil]
    exact h
  | tail _ hm ih =>
    rw [← List.append_assoc]
    exact ih.tail hm

namespace Session

structure Waking (limits : Limits) (ticket : Ticket) (opened : List Ticket)
    (failure? : Option LoadError) (s₀ : Session) (ws : List Waiter) (s : Session) : Prop where
  before : Sound limits (ticket :: opened) s₀
  limits_eq : s.limits = limits
  ended : ∃ evicted served, s₀.table.Ended limits ticket.page ticket.attempt
    (ticket.result failure?) evicted served (ws.countP (Waiter.isAt ticket.page)) s.table
  mem : ∀ w ∈ ws, w ∈ s₀.blocked
  blocked : s.blocked ++ elsewhere ticket.page ws = elsewhere ticket.page s₀.blocked

theorem Waking.sound (h : Waking limits ticket opened failure? s₀ [] s) :
    Sound limits opened s := by
  obtain ⟨evicted, served, u, e, ht⟩ := h.ended
  rw [List.countP_nil, ended_result_zero] at ht
  have hb := h.blocked
  rw [elsewhere, List.filter_nil, List.append_nil] at hb
  have hclosed : Sound limits opened (s₀.closed ticket failure? evicted u) :=
    h.before.closed (h.before.settled e)
  refine hclosed.congr ?_ hb
  have hl := h.limits_eq.trans h.before.limits_eq.symm
  have hc : s.cache = ⟨s.limits, s.table⟩ := rfl
  rw [hc, hl, ht]
  rfl

end Session

open Session (Sound Waking)

def Standing (limits : Limits) (m : Moment) : Prop :=
  m.woken = [] ∧ Sound limits m.opened m.session ∨
    ∃ ticket failure? s₀ ws, m.woken = ws.map (fun w => (w, failure?)) ∧
      Waking limits ticket m.opened failure? s₀ ws m.session

theorem Standing.sound (h : Standing limits ⟨opened, s, []⟩) : Sound limits opened s := by
  rcases h with ⟨-, h⟩ | ⟨ticket, failure?, s₀, ws, hw, h⟩
  · exact h
  · cases List.map_eq_nil_iff.mp hw.symm
    exact h.sound

theorem Standing.within (h : Standing limits m) :
    m.session.table.residentCount ≤ limits.capacity := by
  rcases h with ⟨-, h⟩ | ⟨ticket, failure?, s₀, ws, -, h⟩
  · exact h.within
  · obtain ⟨_, _, he⟩ := h.ended
    exact (Session.steady_of_ended h.before he).within

/-- What the deeds between two moments make of the lists and the bits `r`. -/
structure Leads (limits : Limits) (m : Moment) (r : Roster) (deeds : List Deed) (m' : Moment)
    (r' : Roster) : Prop where
  standing : Standing limits m'
  roster : m'.session.table.Shows r'
  replay : r.Replay limits deeds r'
  evictions : m'.session.evictions.map Eviction.page =
    m.session.evictions.map Eviction.page ++ deeds.flatMap Deed.evicted
  /-- Pages keep their addresses. A new page starts at a multiple of its number. -/
  addresses : ∀ i address, m'.session.table.addressOf i = some address →
    m.session.table.addressOf i = some address ∨ i ∣ address

theorem Table.Ended.replay {W : Type} {t t₁ t₂ : Table W} {l : Lineup} {attempt served left : Nat}
    {outcome : Except LoadError W} {evicted : List Eviction} (h : t.Aligned l) (hid : id < t.size)
    (hw : t.via Page.window? id = none) (hc : t.census.total ≤ limits.capacity)
    (he : t.Ended limits id attempt outcome evicted served (left + 1) t₁)
    (he' : t.Ended limits id attempt outcome evicted (served + 1) left t₂) (hr : t₁.Shows r) :
    ∃ r', t₂.Shows r' ∧ t₂.addressOf = t₁.addressOf ∧
      r.Replay limits (if id ∈ t₁.residentIds then [.hit id] else []) r' := by
  obtain ⟨u, e, rfl⟩ := he
  obtain ⟨u', e', rfl⟩ := he'
  have hs := h.settled hid hw hc e
  have hu : u.Shows r := .of_recast hs.aligned hr
  rw [h.settle_succ hid hw hc e] at e'
  have hmem : id ∈ u.residentIds ↔ ∃ source, id ∈ r.lineup.get source := hu.aligned.mem_residentIds
  rw [Table.residentIds_setLoad, setLoad, setLoad, addressOf_recast, addressOf_recast]
  cases hx : u.via Page.window? id with
  | some window =>
    obtain ⟨source, hm⟩ := hu.aligned.exists_mem hx
    obtain ⟨u₁, e₁, hu₁, ht⟩ := hu.recordHit hm limits
    rw [hx, Option.isSome_some, if_pos rfl, e₁] at e'
    cases e'
    rw [if_pos (hmem.mpr ⟨source, hm⟩)]
    exact ⟨_, hu₁.recast .., ht.addresses, .single (hu.proper hs.within) (.hit hm)⟩
  | none =>
    rw [hx, Option.isSome_none, if_neg Bool.false_ne_true] at e'
    cases e'
    rw [if_neg (mt hmem.mp (not_exists.mpr (hu.aligned.not_mem hx)))]
    exact ⟨r, hu.recast .., rfl, .nil⟩

namespace Move

theorem leads_wake {woken : List (Waiter × Option LoadError)} {w : Waiter}
    {answer? : Option LoadResult} (h : Standing limits ⟨opened, s, (w, failure?) :: woken⟩)
    (hr : s.table.Shows r) (e : s.wake failure? w = .ok (answer?, s')) :
    ∃ r', Leads limits ⟨opened, s, (w, failure?) :: woken⟩ r (w.deeds s)
      ⟨opened, s', woken⟩ r' := by
  obtain ⟨hx, -⟩ | ⟨ticket, _, s₀, _ | ⟨_, ws⟩, hw, h⟩ := h
  · cases hx
  · cases hw
  cases hw
  have hmem : ticket ∈ ticket :: opened := List.mem_cons_self
  have hwin := (h.before.tickets ticket hmem).1
  obtain ⟨l, hal⟩ := h.before.aligned
  obtain ⟨evicted, served, he⟩ := h.ended
  have hw := h.mem w List.mem_cons_self
  have hws : ∀ w' ∈ ws, w' ∈ s₀.blocked := fun w' h' => h.mem w' (List.mem_cons_of_mem _ h')
  have hblocked := h.blocked
  by_cases hp : Waiter.isAt ticket.page w
  · -- The caller has waited for the load that has ended.
    obtain ⟨other, ho, rfl⟩ := h.before.blocked w hw
    cases h.before.eq_of_page_eq ho hmem (of_decide_eq_true hp)
    rw [List.countP_cons_of_pos hp] at he
    obtain ⟨t', e', he'⟩ := Session.wake_of_ended h.before h.limits_eq he
    cases e.symm.trans e'
    obtain ⟨r', hr', hx, p⟩ := he.replay hal (h.before.lt_size hmem) hwin h.before.within he' hr
    rw [elsewhere, List.filter_cons_of_neg (by simp [hp])] at hblocked
    refine ⟨r', Or.inr ⟨ticket, failure?, s₀, ws, rfl, ?_⟩, hr', p, ?_, fun i address hi =>
      Or.inl ((congrFun hx i).symm.trans hi)⟩
    · exact ⟨h.before, h.limits_eq, ⟨_, _, he'⟩, hws, hblocked⟩
    rw [Waiter.deeds]
    split <;> simp [Deed.evicted, Session.withTable]
  · -- Its load is still in progress.
    rw [List.countP_cons_of_neg hp] at he
    have ha := he.awaits hal (h.before.lt_size hmem) hwin h.before.within (h.before.awaits hw)
      fun e => hp (decide_eq_true e)
    cases e.symm.trans (Session.wake_of_awaits ha)
    have hd : w.deeds s = [] := by
      rw [Waiter.deeds, if_neg]
      rw [hr.aligned.mem_residentIds]
      exact not_exists.mpr (hr.aligned.not_mem ha.window)
    rw [elsewhere, List.filter_cons_of_pos (by simpa using hp), List.append_cons] at hblocked
    rw [hd]
    refine ⟨r, Or.inr ⟨ticket, failure?, s₀, ws, rfl, ?_⟩, hr, .nil, (List.append_nil _).symm,
      fun _ _ hi => Or.inl hi⟩
    exact ⟨h.before, h.limits_eq, ⟨_, _, he⟩, hws, hblocked⟩

theorem leads_finish {evicted : List Eviction} {cache : Cache Stamp}
    (h : Sound limits (ticket :: opened) s) (hr : s.table.Shows r)
    (e : s.cache.complete ticket.page ticket.attempt (ticket.result failure?) =
      .ok (evicted, cache)) :
    ∃ r', Leads limits ⟨ticket :: opened, s, []⟩ r (ticket.deeds failure? evicted)
      ⟨opened, { ({ s with cache } : Session).withEvictions evicted with blocked := [] },
        s.blocked.map fun w => (w, failure?)⟩ r' := by
  have hmem : ticket ∈ ticket :: opened := List.mem_cons_self
  have hidle := hr.aligned.not_mem (h.tickets ticket hmem).1
  obtain ⟨_, t₁, e', he⟩ := Session.complete_spec h failure?
  cases e.symm.trans e'
  have hstanding : Standing limits ⟨opened, { ({ s with
      cache := { s.cache with table := t₁ } } : Session).withEvictions evicted with blocked := [] },
      s.blocked.map fun w => (w, failure?)⟩ :=
    Or.inr ⟨ticket, failure?, s, s.blocked, rfl, h, h.limits_eq, ⟨_, _, he⟩, fun _ hw => hw, rfl⟩
  obtain ⟨u, eu, rfl⟩ := he
  obtain ⟨_, _, eu', hu, -, hd, hx⟩ :=
    hr.settle (h.lt_size hmem) hidle h.within (ticket.result failure?)
  cases eu.symm.trans eu'
  have haddress : ∀ i load, (u.setLoad ticket.page load).addressOf i = s.table.addressOf i :=
    fun i _ => (congrFun (Table.addressOf_recast ..) i).trans (congrFun hd.addresses i)
  have hlog : (s.evictions ++ evicted).map Eviction.page =
      s.evictions.map Eviction.page ++ evicted.map Eviction.page := List.map_append
  cases failure? with
  | none =>
    refine ⟨_, hstanding, hu.recast .., ?_, ?_, fun i _ hi => Or.inl ((haddress i _).symm.trans hi)⟩
    · have hd : ticket.deeds none evicted =
          [.loaded ticket.page (r.lineup.displaced limits.capacity r.referenced ticket.page)] :=
        congrArg (fun ids => [Deed.loaded ticket.page ids]) hx
      rw [hd]
      exact .single (hr.proper h.within) (.loaded hidle)
    · rw [Ticket.deeds, if_pos rfl, List.flatMap_singleton]
      exact hlog
  | some error =>
    refine ⟨_, hstanding, hu.recast .., .nil, ?_, fun i _ hi =>
      Or.inl ((haddress i _).symm.trans hi)⟩
    rw [Ticket.deeds, if_neg (Option.some_ne_none error), List.flatMap_nil, List.append_nil]
    have hnone : evicted.map Eviction.page = [] := hx
    rw [hnone, List.append_nil] at hlog
    exact hlog

section

variable (h : Sound limits opened s) (hr : s.table.Shows r)
include h hr

theorem leads_hit {stamp : Stamp} (e : s.openLoad id = .ok (.hit stamp, s')) :
    ∃ r', Leads limits ⟨opened, s, []⟩ r [.hit id] ⟨opened, s', []⟩ r' := by
  obtain ⟨t', hw, e', rfl, h'⟩ := h.hit_of_openLoad e
  obtain ⟨source, hm⟩ := hr.aligned.exists_mem hw
  obtain ⟨t₁, e₁, hr₁, ht⟩ := hr.recordHit hm limits
  cases (h.limits_eq ▸ e').symm.trans e₁
  exact ⟨_, Or.inl ⟨rfl, h'⟩, hr₁, .single (hr.proper h.within) (.hit hm),
    (List.append_nil _).symm, fun i _ hi => Or.inl ((congrFun ht.addresses i).symm.trans hi)⟩

theorem leads_start {s₁ s₂ : Session} (e : s.openLoad id = .ok (.miss ticket, s₁))
    (e' : s₁.block id n = .ok s₂) :
    ∃ r', Leads limits ⟨opened, s, []⟩ r [] ⟨ticket :: opened, s₂, []⟩ r' := by
  obtain ⟨rfl, hm, rfl⟩ := h.misses_of_openLoad e
  cases (Sound.block_of_misses hm n).symm.trans e'
  exact ⟨r, Or.inl ⟨rfl, h.entered hm n⟩, hr.recast .., .nil, (List.append_nil _).symm,
    fun i _ hi => Or.inl ((congrFun (Table.addressOf_recast ..) i).symm.trans hi)⟩

theorem leads_forceEvict {evicted? : Option Eviction} {table : Table Stamp}
    (e : s.table.forceEvict id = .ok (evicted?, table)) :
    ∃ r', Leads limits ⟨opened, s, []⟩ r (evicted?.toList.map fun x => .forcedOut x.page)
      ⟨opened, (s.withTable table).withEvictions evicted?.toList, []⟩ r' := by
  have hk := (h.kept_forceEvict id).sound
  obtain ⟨_, _, r', e', hr', ht, p, -⟩ := hr.forceEvict h.within id
  cases e.symm.trans e'
  simp only [Session.step, e] at hk
  refine ⟨r', Or.inl ⟨rfl, hk⟩, hr', p, ?_, fun i _ hi =>
    Or.inl ((congrFun ht.addresses i).symm.trans hi)⟩
  rw [Deed.evicted_forcedOut]
  exact List.map_append

theorem leads_forceEvictAll {evicted : List Eviction} {table : Table Stamp}
    (e : s.table.forceEvictAll = .ok (evicted, table)) :
    ∃ r', Leads limits ⟨opened, s, []⟩ r (evicted.map fun x => .forcedOut x.page)
      ⟨opened, (s.withTable table).withEvictions evicted, []⟩ r' := by
  have hk := h.kept_forceEvictAll.sound
  obtain ⟨_, _, e', hx, hr', -, ht, p⟩ := hr.evictAll s.table.nodup_residentIds
    (fun _ hi => hr.aligned.mem_residentIds.mp hi) h.within
  cases e.symm.trans e'
  simp only [Session.step, e] at hk
  rw [← hx, List.map_map] at p
  rw [← hx] at hr'
  refine ⟨_, Or.inl ⟨rfl, hk⟩, hr', p, ?_, fun i _ hi =>
    Or.inl ((congrFun ht.addresses i).symm.trans hi)⟩
  rw [Deed.evicted_forcedOut]
  exact List.map_append

end

theorem leads (hm : Move m deeds m') (h : Standing limits m) (hr : m.session.table.Shows r) :
    ∃ r', Leads limits m r deeds m' r' := by
  cases hm with
  | grow opened s id recordsPerPage =>
    refine ⟨r, Or.inl ⟨rfl, h.sound.grow id recordsPerPage⟩, hr.growTo id recordsPerPage, .nil,
      (List.append_nil _).symm, fun i address hi => ?_⟩
    rcases Table.addressOf_of_growTo hi with hi | rfl
    · exact Or.inl hi
    · exact Or.inr (Nat.dvd_mul_right ..)
  | hit opened id e => exact leads_hit h.sound hr e
  | start opened id n e e' => exact leads_start h.sound hr e e'
  | finish opened failure? e => exact leads_finish h.sound hr e
  | wake opened woken e => exact leads_wake h hr e
  | forceEvict opened e => exact leads_forceEvict h.sound hr e
  | forceEvictAll opened e => exact leads_forceEvictAll h.sound hr e

end Move

theorem Course.leads (c : Course m deeds m') (h : Standing limits m)
    (hr : m.session.table.Shows r) : ∃ r', Leads limits m r deeds m' r' := by
  induction c with
  | refl => exact ⟨r, h, hr, .nil, (List.append_nil _).symm, fun _ _ hi => Or.inl hi⟩
  | tail _ hm ih =>
    obtain ⟨r₁, l₁⟩ := ih
    obtain ⟨r₂, l₂⟩ := hm.leads l₁.standing l₁.roster
    refine ⟨r₂, l₂.standing, l₂.roster, l₁.replay.trans l₂.replay, ?_, fun i address hi => ?_⟩
    · rw [l₂.evictions, l₁.evictions, List.flatMap_append, List.append_assoc]
    · rcases l₂.addresses i address hi with hi | hi
      · exact l₁.addresses i address hi
      · exact Or.inr hi

theorem Course.leads_fresh (c : Course (.fresh limits) deeds m) :
    ∃ r, Leads limits (.fresh limits) .empty deeds m r :=
  c.leads (Or.inl ⟨rfl, Sound.ofLimits limits⟩) .empty

mutual

/-- The operation evicts page `id` by force, or one that runs inside it does. -/
def Op.Forces (id : PageId) : Op → Prop
  | .acquire _ _ _ during => Op.AnyForces id during
  | .forceEvict page => page = id
  | .forceEvictAll => True
  | .grow _ _ | .inspect _ => False

def Op.AnyForces (id : PageId) : List Op → Prop
  | [] => False
  | op :: ops => op.Forces id ∨ Op.AnyForces id ops

end

namespace Session

theorem wakeAll_course {answers : List LoadResult} (opened : List Ticket) (rest : List Waiter)
    (e : wakeAll failure? ws s = .ok (answers, s')) :
    ∃ deeds, Course ⟨opened, s, (ws ++ rest).map fun w => (w, failure?)⟩ deeds
        ⟨opened, s', rest.map fun w => (w, failure?)⟩ ∧ ∀ id, .forcedOut id ∉ deeds := by
  induction ws generalizing s answers with
  | nil =>
    cases e
    exact ⟨[], .refl _, fun _ => List.not_mem_nil⟩
  | cons w ws ih =>
    rw [wakeAll] at e
    cases e₁ : s.wake failure? w with
    | error _ =>
      rw [e₁] at e
      cases e
    | ok a =>
      cases e₂ : wakeAll failure? ws a.2 with
      | error _ =>
        simp only [e₁, e₂, bind, Except.bind] at e
        cases e
      | ok b =>
        simp only [e₁, e₂, bind, Except.bind, pure, Except.pure] at e
        cases e
        obtain ⟨deeds, c, hf⟩ := ih e₂
        refine ⟨w.deeds s ++ deeds, (Course.single (.wake opened _ e₁)).trans c, fun id hid => ?_⟩
        rcases List.mem_append.mp hid with hid | hid
        · rw [Waiter.deeds] at hid
          split at hid
          · cases List.mem_singleton.mp hid
          · cases hid
        · exact hf id hid

theorem closeLoad_course {results : List LoadResult} (opened : List Ticket)
    (e : s.closeLoad ticket failure? = .ok (results, s')) :
    ∃ deeds, Course ⟨ticket :: opened, s, []⟩ deeds ⟨opened, s', []⟩ ∧
      ∀ id, .forcedOut id ∉ deeds := by
  rw [closeLoad] at e
  cases e₁ : s.cache.complete ticket.page ticket.attempt (ticket.result failure?) with
  | error _ =>
    rw [e₁] at e
    cases e
  | ok a =>
    simp only [e₁, bind, Except.bind] at e
    obtain ⟨deeds, c, hf⟩ := wakeAll_course opened [] e
    rw [List.append_nil] at c
    refine ⟨_, (Course.single (.finish opened _ e₁)).trans c, fun id hid => ?_⟩
    rcases List.mem_append.mp hid with hid | hid
    · rw [Ticket.deeds] at hid
      split at hid
      · cases List.mem_singleton.mp hid
      · cases hid
    · exact hf id hid

mutual

/-- Every operation is a course of moves, in which a page is forced out only if the operation does
so. -/
theorem Sound.step_course {opened : List Ticket} {s : Session} (h : Sound limits opened s) :
    ∀ op, ∃ deeds, Course ⟨opened, s, []⟩ deeds ⟨opened, (s.step op).2, []⟩ ∧
      ∀ id, .forcedOut id ∈ deeds → op.Forces id
  | .grow id recordsPerPage => by
    simp only [step]
    exact ⟨[], .single (.grow opened s id recordsPerPage), fun _ hid => absurd hid List.not_mem_nil⟩
  | .acquire id failure? n during => by
    rcases h.acquire_cases id with hid | hid | ⟨stamp, hw⟩ | ⟨ticket, rfl, hm⟩
    · simp only [step, openLoad_of_size_le hid]
      exact ⟨[], .refl _, fun _ hid => absurd hid List.not_mem_nil⟩
    · simp only [step, h.openLoad_of_opened hid]
      exact ⟨[], .refl _, fun _ hid => absurd hid List.not_mem_nil⟩
    · obtain ⟨t', -, eo, -⟩ := h.openLoad_hit hw
      simp only [step, eo]
      refine ⟨_, .single (.hit opened id eo), fun i hi => ?_⟩
      cases List.mem_singleton.mp hi
    -- The start of the load, the course of what runs inside it, and its end.
    · have hin := h.entered hm n
      have eo := h.openLoad_miss hm
      have eb := block_of_misses hm n
      obtain ⟨deeds₁, c₁, hf₁⟩ := run_course hin during
      obtain ⟨evicted, u, -, ec⟩ := (hin.run_kept during).sound.closeLoad_spec failure?
      obtain ⟨deeds₂, c₂, hf₂⟩ := closeLoad_course opened ec
      simp only [step, eo, eb, ec]
      refine ⟨_, ((Course.single (.start opened _ n eo eb)).trans c₁).trans c₂, fun i hi => ?_⟩
      rw [Op.Forces]
      rcases List.mem_append.mp hi with hi | hi
      · exact hf₁ i hi
      · exact absurd hi (hf₂ i)
  | .forceEvict id => by
    obtain ⟨l, hal⟩ := h.aligned
    obtain ⟨x?, t', r', e, -, -, -, hx⟩ := hal.shows.forceEvict h.within id
    simp only [step, e]
    refine ⟨_, .single (.forceEvict opened e), fun i hi => ?_⟩
    obtain ⟨x, hmem, hi⟩ := List.mem_map.mp hi
    cases hi
    rw [Op.Forces]
    exact (hx x (Option.mem_toList.mp hmem)).symm
  | .forceEvictAll => by
    obtain ⟨l, hal⟩ := h.aligned
    obtain ⟨xs, t', l', e, -⟩ := hal.forceEvictAll_spec
    simp only [step, e]
    refine ⟨_, .single (.forceEvictAll opened e), fun i _ => ?_⟩
    rw [Op.Forces]
    trivial
  | .inspect _ => by
    simp only [step]
    exact ⟨[], .refl _, fun _ hid => absurd hid List.not_mem_nil⟩

theorem Sound.run_course {opened : List Ticket} {s : Session} (h : Sound limits opened s) :
    ∀ ops, ∃ deeds, Course ⟨opened, s, []⟩ deeds ⟨opened, (s.run ops).2, []⟩ ∧
      ∀ id, .forcedOut id ∈ deeds → Op.AnyForces id ops
  | [] => by
    simp only [run]
    exact ⟨[], .refl _, fun _ hid => absurd hid List.not_mem_nil⟩
  | op :: ops => by
    obtain ⟨deeds₁, c₁, hf₁⟩ := step_course h op
    obtain ⟨deeds₂, c₂, hf₂⟩ := run_course (h.step_kept op).sound ops
    simp only [run]
    refine ⟨_, c₁.trans c₂, fun i hi => ?_⟩
    rw [Op.AnyForces]
    rcases List.mem_append.mp hi with hi | hi
    · exact Or.inl (hf₁ i hi)
    · exact Or.inr (hf₂ i hi)

end

theorem Reachable.course (h : Reachable limits opened s) :
    ∃ deeds, Course (.fresh limits) deeds ⟨opened, s, []⟩ := by
  induction h with
  | fresh => exact ⟨[], .refl _⟩
  | operated op hr ih =>
    obtain ⟨deeds₁, c₁⟩ := ih
    obtain ⟨deeds₂, c₂, -⟩ := hr.sound.step_course op
    exact ⟨_, c₁.trans c₂⟩
  | entered _ _ _ eo eb ih =>
    obtain ⟨deeds, c⟩ := ih
    exact ⟨_, c.tail (.start _ _ _ eo eb)⟩

theorem Free.course (h : Free limits opened s) :
    ∃ deeds woken, Course (.fresh limits) deeds ⟨opened, s, woken⟩ := by
  cases h with
  | between hr =>
    obtain ⟨deeds, c⟩ := hr.course
    exact ⟨deeds, [], c⟩
  | @waking ticket _ _ _ _ _ _ _ _ hr ec eb ew =>
    obtain ⟨deeds, c⟩ := hr.course
    obtain ⟨deeds', c', -⟩ := wakeAll_course opened _ ew
    rw [← eb] at c'
    exact ⟨_, _, (c.tail (.finish opened _ ec)).trans c'⟩

/-- An invariant of lists and bits that holds of empty ones and that each deed keeps. -/
theorem Free.invariant {P : Roster → Prop} (h : Free limits opened s) (empty : P .empty)
    (hP : ∀ {r deed r'}, r.Proper limits → r.Effect limits deed r' → P r → P r') :
    ∃ r, s.table.Shows r ∧ r.Proper limits ∧ P r := by
  obtain ⟨deeds, woken, c⟩ := h.course
  obtain ⟨r, l⟩ := c.leads_fresh
  exact ⟨r, l.roster, l.roster.proper l.standing.within, l.replay.invariant hP empty⟩

end Session

end RecordCache
