import RecordCache.Proofs.Reachable
/-! Acquisitions without company: of a page that is resident, and of one that has to be loaded. Each
is said as its answer and what becomes of the lists and the reference bits. -/
namespace RecordCache

variable {W V : Type} {limits : Limits} {opened : List Ticket} {s s' : Session} {r : Roster}
  {l : Lineup} {id : PageId} {source tier : Tier}

namespace Table

variable {t t' : Table W}

structure Shows (t : Table W) (r : Roster) : Prop where
  aligned : t.Aligned r.lineup
  referenced : t.isReferenced = r.referenced

@[simp] theorem isReferenced_recast (f : W → V) (g : PageId → LoadState W → LoadState V)
    (t : Table W) : (t.recast f g).isReferenced = t.isReferenced := by
  funext i
  rw [isReferenced, isReferenced, bare, bare, content, content, getElem?_recast]
  cases t.pages[i]? <;> rfl

theorem Shows.recast (h : t.Shows r) (f : W → V) (g : PageId → LoadState W → LoadState V) :
    (t.recast f g).Shows r :=
  ⟨h.aligned.recast f g, (isReferenced_recast f g t).trans h.referenced⟩

theorem Shows.unreferenced (h : t.Shows r) (hid : id < t.size) (hn : ∀ u, id ∉ r.lineup.get u) :
    r.referenced id = false := by
  obtain ⟨page, hp⟩ := exists_page hid
  rw [← h.referenced, isReferenced_of_page hp, h.aligned.referenced_of_idle hp hn]

theorem Shows.promotion?_eq {page : Page W} (h : t.Shows r) (hp : t.pages[id]? = some page)
    (hm : id ∈ r.lineup.get source) : page.promotion? = r.promotion? id source := by
  rw [Page.promotion?, h.aligned.page_tier hp hm, ← isReferenced_of_page hp, h.referenced]
  rfl

theorem Shows.recordHit (h : t.Shows r) (hm : id ∈ r.lineup.get source) (limits : Limits) :
    ∃ t', t.recordHit limits id = .ok t' ∧ t'.Shows (r.hit limits source id) ∧ Retained t t' := by
  obtain ⟨page, hp⟩ := exists_page (h.aligned.linked.lt_size hm)
  obtain ⟨t', e, h', hc, hb⟩ := h.aligned.recordHit_spec hp hm limits
  rw [h.promotion?_eq hp hm] at h'
  refine ⟨t', e, ⟨h', funext fun i => ?_⟩, Undisturbed.of_bare hb (fun _ => rfl) fun _ => rfl, hc,
    via_window_of_bare hb fun _ => rfl⟩
  rw [Roster.hit, ← h.referenced]
  refine (congrArg (Option.any (·.referenced)) (hb i)).trans ?_
  by_cases hi : i = id
  · subst hi
    simp [bare, content_of_page hp]
  · simp [hi, isReferenced]

section

variable {page : Page W} {window : W} (h : t.Shows r) (hp : t.pages[id]? = some page)
  (hw : page.window? = some window) (hm : id ∈ r.lineup.get source)
include h hp hw hm

theorem Shows.lap (limits : Limits) (awaited? : Option Nat) :
    ∃ t', t.lap limits awaited? id = .ok (.hit window, t') ∧
      t'.Shows (r.hit limits source id) := by
  obtain ⟨t', e, h', -⟩ := h.recordHit hm limits
  exact ⟨t', lap_hit ((via_of_page hp Page.window?).trans hw) e awaited?, h'⟩

theorem Shows.runOn (limits : Limits) {attempt : Nat} (hk : page.parkedFor? attempt = none) :
    ∃ t', t.runOn limits id attempt = .ok (.hit window, t') ∧
      t'.Shows (r.hit limits source id) := by
  -- Resuming changes the load state of the page alone, and then the caller makes a lap of its own.
  have hw' : (page.recast (fun w => w) fun _ => page.loadState.resumed).window? = some window := by
    rw [Page.recast, hw]
    rfl
  obtain ⟨t', e, h'⟩ := Shows.lap (h.recast ..) (page_setLoad hp page.loadState.resumed) hw' hm
    limits (some attempt)
  refine ⟨t', ?_, h'⟩
  rw [Table.runOn, resume_eq hp, hk]
  exact e

end

theorem Shows.settle (h : t.Shows r) (hid : id < t.size) (hn : ∀ u, id ∉ r.lineup.get u)
    (hc : t.residentCount ≤ limits.capacity) (outcome : Except LoadError W) :
    ∃ evicted t', t.settle limits id outcome 0 = .ok (evicted, t') ∧
      t'.Shows (if outcome.toOption.isSome then r.intake limits.capacity id else r) ∧
      t'.residentCount ≤ limits.capacity ∧ Undisturbed t t' ∧
      evicted.map Eviction.page = if outcome.toOption.isSome then
        r.lineup.displaced limits.capacity r.referenced id else [] := by
  cases outcome with
  | error error => exact ⟨[], t, rfl, h, hc, .refl t, rfl⟩
  | ok window =>
    obtain ⟨evicted, t', e, a⟩ := h.aligned.makeResident_spec hid hn hc window
    refine ⟨evicted, t', (settle_zero ..).trans e, ⟨?_, ?_⟩, a.within, a.undisturbed, ?_⟩
    · have ha := a.admitted
      rw [h.referenced] at ha
      exact ha
    · funext i
      rw [a.isReferenced, h.referenced]
      rfl
    · rw [a.evicted, h.referenced]
      rfl

end Table

namespace Session

def acquisition (id : PageId) (failure? : Option LoadError) : Op := .acquire id failure? 0 []

/-- No load is open, and nobody is blocked. Callers that have waited may still have to run on. -/
structure Quiet (limits : Limits) (s : Session) : Prop where
  steady : Steady limits [] s.table
  limits_eq : s.limits = limits
  blocked : s.blocked = []

theorem Sound.quiet (h : Sound limits [] s) : s.Quiet limits := by
  refine ⟨h.steady, h.limits_eq, List.eq_nil_iff_forall_not_mem.mpr fun w hw => ?_⟩
  obtain ⟨ticket, ht, -⟩ := h.blocked w hw
  cases ht

theorem Free.quiet (h : Free limits [] s) : s.Quiet limits := by
  have hs := h.steady
  cases h with
  | between hr => exact hr.sound.quiet
  | waking hr ec eb ew =>
    obtain ⟨-, hl, hb⟩ := waking_ended hr ec eb ew
    refine ⟨hs, hl, hb.trans (List.eq_nil_iff_forall_not_mem.mpr fun w hw => ?_)⟩
    obtain ⟨hw, hne⟩ := mem_elsewhere.mp hw
    obtain ⟨other, ho, rfl⟩ := hr.sound.blocked w (eb ▸ List.mem_append_left _ hw)
    cases List.mem_singleton.mp ho
    exact hne rfl

/-- A load that nobody waits for, with no operation run inside it, ends as soon as it is open. -/
theorem step_of_unblocked {ticket : Ticket} {failure? : Option LoadError} {evicted : List Eviction}
    {t : Table Stamp} (ho : s.openLoad id = .ok (.miss ticket, s')) (hb : s'.blocked = [])
    (hc : s'.table.complete s'.limits ticket.page ticket.attempt (ticket.result failure?) =
      .ok (evicted, t)) :
    s.step (acquisition id failure?) = (.acquired (ticket.result failure?)
      (some ticket.stamp.address) [] [], (s'.withTable t).withEvictions evicted) := by
  rw [table, limits] at hc
  have hclose : s'.closeLoad ticket failure? =
      .ok ([], (s'.withTable t).withEvictions evicted) := by
    simp only [closeLoad, Cache.complete, hc, bind, Except.bind, pure, Except.pure, withEvictions,
      withTable, hb, wakeAll]
  simp only [acquisition, step, ho, block, run, hclose]

theorem run_cons {s₁ s₂ : Session} {op : Op} {ops : List Op} {answer : Answer}
    {answers : List Answer} (e : s.step op = (answer, s₁)) (e' : s₁.run ops = (answers, s₂)) :
    s.run (op :: ops) = (answer :: answers, s₂) := by
  simp only [run, e, e']

theorem Quiet.loading_eq (h : s.Quiet limits) {m : LoadState Stamp}
    (hm : s.table.loadOf id = some m) : m.loading = false :=
  Bool.eq_false_iff.mpr fun hl => List.not_mem_nil ((h.steady.loading hm).mp hl)

theorem Quiet.step_hit (h : s.Quiet limits) (hr : s.table.Shows r)
    (hm : id ∈ r.lineup.get source) (failure? : Option LoadError) :
    ∃ (stamp : Stamp) (s' : Session), s.step (acquisition id failure?) =
        (.acquired (.ok stamp) none [] [], s') ∧ s'.Quiet limits ∧
      s'.table.Shows (r.hit limits source id) ∧ s'.loads = s.loads ∧
      s'.table.addressOf = s.table.addressOf := by
  obtain ⟨page, hp⟩ := Table.exists_page (hr.aligned.linked.lt_size hm)
  obtain ⟨stamp, hx⟩ :=
    Option.isSome_iff_exists.mp ((hr.aligned.page_resident hp).mpr ⟨source, hm⟩)
  obtain ⟨t', e, hr', ht⟩ := hr.recordHit hm limits
  rw [← h.limits_eq] at e
  have eo := Sound.openLoad_of_resident hp hx (h.loading_eq (Table.loadOf_of_page hp)) e
  refine ⟨stamp, s.withTable t', ?_, ⟨⟨⟨_, hr'.aligned⟩, ?_, ?_, ?_⟩, h.limits_eq, h.blocked⟩, hr',
    rfl, ht.addresses⟩
  · simp only [acquisition, step, eo]
  · exact Nat.le_trans (Nat.le_of_eq ht.total) h.steady.within
  · intro i m hm
    exact h.steady.loading ((congrFun ht.loads i).symm.trans hm)
  · intro ticket hticket
    cases hticket

/-- Page `id`, which was not resident, has been acquired: it was loaded, and admitted unless the
load failed. -/
structure Miss (limits : Limits) (s : Session) (r : Roster) (id : PageId)
    (failure? : Option LoadError) (ticket : Ticket) (evicted : List Eviction) (s' : Session) :
    Prop where
  step_eq : s.step (acquisition id failure?) =
    (.acquired (ticket.result failure?) (some ticket.stamp.address) [] [], s')
  address : s.table.addressOf id = some ticket.stamp.address
  serial : ticket.stamp.serial = s.loads + 1
  quiet : s'.Quiet limits
  roster : s'.table.Shows (if failure? = none then r.intake limits.capacity id else r)
  loads : s'.loads = s.loads + 1
  addresses : s'.table.addressOf = s.table.addressOf
  evictions : s'.evictions = s.evictions ++ evicted
  displaced : evicted.map Eviction.page =
    if failure? = none then r.lineup.displaced limits.capacity r.referenced id else []

theorem Quiet.step_miss (h : s.Quiet limits) (hr : s.table.Shows r) (hid : id < s.table.size)
    (hn : ∀ u, id ∉ r.lineup.get u) (failure? : Option LoadError) :
    ∃ ticket evicted s', Miss limits s r id failure? ticket evicted s' := by
  obtain ⟨page, hp⟩ := Table.exists_page hid
  have hw := hr.aligned.window_of_idle hp hn
  let ticket : Ticket := ⟨id, page.attempt + 1, ⟨page.address, s.loads + 1⟩⟩
  let mark : LoadState Stamp :=
    { page.loadState with loading := true, attempt := page.attempt + 1, failure? := none }
  have hopen := Sound.openLoad_of_idle hp hw (h.loading_eq (Table.loadOf_of_page hp))
  have hp' := Table.page_setLoad hp mark
  have hr' : (s.table.setLoad id mark).Shows r := hr.recast ..
  obtain ⟨evicted, u, e, hu, hc, hd, hx⟩ :=
    hr'.settle (Table.lt_size_of_page hp') hn h.steady.within (ticket.result failure?)
  have hcomplete : (s.table.setLoad id mark).complete limits id ticket.attempt _ = _ :=
    Table.complete_finish hp' hd.loads e
  rw [← h.limits_eq] at hcomplete
  refine ⟨ticket, evicted, _, step_of_unblocked hopen h.blocked hcomplete, ?_, rfl,
    ⟨⟨⟨_, hu.aligned.recast ..⟩, hc, ?_, ?_⟩, h.limits_eq, h.blocked⟩, ?_, rfl, ?_, rfl, ?_⟩
  · rw [Table.addressOf, hp]
    rfl
  · intro i m hm
    refine iff_of_false (Bool.eq_false_iff.mp ?_) List.not_mem_nil
    have hm := (Table.loadOf_setLoad ..).symm.trans hm
    by_cases hi : i = id
    · rw [if_pos hi] at hm
      obtain ⟨_, -, rfl⟩ := Option.map_eq_some_iff.mp hm
      exact LoadState.loading_finish ..
    · rw [if_neg hi, hd.loads, Table.loadOf_setLoad, if_neg hi] at hm
      exact h.loading_eq hm
  · intro other ho
    cases ho
  · cases failure? with
    | none => exact hu.recast ..
    | some error => exact hu.recast ..
  · exact (Table.addressOf_recast ..).trans (hd.addresses.trans (Table.addressOf_recast ..))
  · cases failure? with
    | none => exact hx
    | some error => exact hx

end Session

end RecordCache
