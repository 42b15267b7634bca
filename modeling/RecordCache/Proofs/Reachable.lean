import RecordCache.Proofs.IntegrityCheck
import RecordCache.Proofs.Runs
/-! The sessions that can come about, and what holds of their table whenever it is free. -/
namespace RecordCache.Session

/-- The sessions in which the loads `opened` are in progress, innermost first, and nothing else. -/
inductive Reachable (limits : Limits) : List Ticket → Session → Prop where
  | fresh : Reachable limits [] (ofLimits limits)
  | operated {opened s} (op : Op) : Reachable limits opened s →
      Reachable limits opened (s.step op).2
  | entered {opened s ticket s₁ s₂} (id n : Nat) : Reachable limits opened s →
      s.openLoad id = .ok (.miss ticket, s₁) → s₁.block id n = .ok s₂ →
      Reachable limits (ticket :: opened) s₂

/-- The sessions whose table is free. Besides the reachable ones, these are the ones between the end
of a load and the moment when the last of the woken callers has run on. -/
inductive Free (limits : Limits) : List Ticket → Session → Prop where
  | between {opened s} : Reachable limits opened s → Free limits opened s
  | waking {opened ticket s failure? evicted cache ws rest answers s'} :
      Reachable limits (ticket :: opened) s →
      s.cache.complete ticket.page ticket.attempt (ticket.result failure?) =
        .ok (evicted, cache) →
      s.blocked = ws ++ rest →
      wakeAll failure? ws { { s with cache }.withEvictions evicted with blocked := [] } =
        .ok (answers, s') →
      Free limits opened s'

variable {limits : Limits} {opened : List Ticket} {s : Session}

theorem Reachable.sound (h : Reachable limits opened s) : Sound limits opened s := by
  induction h with
  | fresh => exact Sound.ofLimits limits
  | operated op _ ih => exact (ih.step_kept op).sound
  | entered _ _ _ eo eb ih =>
    obtain ⟨rfl, hm, rfl⟩ := ih.misses_of_openLoad eo
    cases (Sound.block_of_misses hm _).symm.trans eb
    exact ih.entered hm _

theorem Reachable.stamped (h : Reachable limits opened s) : s.Stamped := by
  induction h with
  | fresh =>
    intro i stamp hi
    simp [Session.ofLimits, table, Table.via, Table.empty] at hi
  | operated op hr ih => exact (hr.sound.step_kept op).stamped ih
  | entered _ _ hr eo eb ih =>
    obtain ⟨rfl, hm, rfl⟩ := hr.sound.misses_of_openLoad eo
    cases (Sound.block_of_misses hm _).symm.trans eb
    exact ih.mono (Nat.le_succ _) fun i => Or.inl (congrFun (Table.via_window_setLoad ..) i)

theorem waking_ended {ticket : Ticket} {s₀ : Session} {failure? : Option LoadError}
    {evicted : List Eviction} {cache : Cache Stamp} {ws rest : List Waiter}
    {answers : List LoadResult} (hr : Reachable limits (ticket :: opened) s₀)
    (ec : s₀.cache.complete ticket.page ticket.attempt (ticket.result failure?) =
      .ok (evicted, cache)) (eb : s₀.blocked = ws ++ rest)
    (ew : wakeAll failure? ws { { s₀ with cache }.withEvictions evicted with blocked := [] } =
      .ok (answers, s)) :
    (∃ served left, s₀.table.Ended limits ticket.page ticket.attempt (ticket.result failure?)
      evicted served left s.table) ∧ s.limits = limits ∧ s.blocked = elsewhere ticket.page ws := by
  obtain ⟨evicted', t₁, ec', he₁⟩ := complete_spec hr.sound failure?
  cases ec.symm.trans ec'
  have hq : s₀.queued ticket.page =
      rest.countP (Waiter.isAt ticket.page) + ws.countP (Waiter.isAt ticket.page) := by
    rw [queued, eb, List.countP_append, Nat.add_comm]
  have hws : ∀ w ∈ ws, w ∈ s₀.blocked := fun w hw => eb ▸ List.mem_append_left rest hw
  rw [hq] at he₁
  obtain ⟨t₂, ew', he₂⟩ := wakeAll_of_ended (s := { s₀.withTable t₁ with
    evictions := s₀.evictions ++ evicted, blocked := [] }) hr.sound hws hr.sound.limits_eq he₁
  cases ew.symm.trans ew'
  exact ⟨⟨_, _, he₂⟩, hr.sound.limits_eq, List.nil_append _⟩

theorem Free.steady (h : Free limits opened s) : Steady limits opened s.table := by
  cases h with
  | between hr => exact hr.sound.steady
  | waking hr ec eb ew =>
    obtain ⟨⟨_, _, he⟩, -⟩ := waking_ended hr ec eb ew
    exact steady_of_ended hr.sound he

/-- The table is well formed whenever it is free, and the check of its integrity passes. No
operation fails, but for a caller that asks for a page outside the table or waits for itself. -/
theorem table_integrity (limits : Limits) :
    (∀ opened s, Free limits opened s →
      s.table.WellFormed ∧ s.table.residentCount = s.table.residentIds.length ∧
        ∀ limit, s.table.size ≤ limit → s.table.checkIntegrity limit = some (.ok ())) ∧
    ∀ opened s op fault, Reachable limits opened s → (s.step op).1 = .fault fault →
      ∃ id failure? n during, op = .acquire id failure? n during ∧
        (s.table.size ≤ id ∧ fault = .pageNotInTable id ∨
          id ∈ opened.map Ticket.page ∧ fault = .wouldBlock id) := by
  constructor
  · intro opened s h
    obtain ⟨l, hal⟩ := h.steady.aligned
    exact ⟨hal.wellFormed, hal.residentIds_length.symm, fun limit hl => hal.checkIntegrity_ok hl⟩
  · intro opened s op fault h e
    exact h.sound.fault_cases e

/-- Page 0 is resident and page 1 is being loaded, with a caller blocked on it. -/
theorem table_integrity_during_load :
    ∃ s, Free ⟨1, 1, 1⟩ [⟨1, 1, ⟨8, 2⟩⟩] s ∧ s.blocked = [⟨1, 1⟩] ∧ s.table.WellFormed ∧
      s.table.residentCount = s.table.residentIds.length ∧
      s.table.checkIntegrity 2 = some (.ok ()) := by
  have h₀ : Reachable ⟨1, 1, 1⟩ [] _ :=
    .operated (.acquire 0 none 0 []) (.operated (.grow 1 8) .fresh)
  have h₁ : Reachable ⟨1, 1, 1⟩ [⟨1, 1, ⟨8, 2⟩⟩] _ := .entered 1 1 h₀ rfl rfl
  obtain ⟨hw, hc, hi⟩ := (table_integrity ⟨1, 1, 1⟩).1 _ _ (.between h₁)
  exact ⟨_, .between h₁, rfl, hw, hc, hi 2 (Nat.le_refl 2)⟩

/-- No more pages are resident than the capacity allows, whenever the table is free. -/
theorem resident_pages_within_capacity (h : Free limits opened s) :
    s.table.residentIds.length ≤ limits.capacity := by
  obtain ⟨l, hal⟩ := h.steady.aligned
  rw [hal.residentIds_length]
  exact h.steady.within

theorem resident_pages_within_capacity_one :
    ∃ s, Free ⟨1, 1, 1⟩ [⟨1, 1, ⟨8, 2⟩⟩] s ∧ s.table.residentIds = [0] ∧
      s.table.residentIds.length ≤ 1 := by
  have h₀ : Reachable ⟨1, 1, 1⟩ [] _ :=
    .operated (.acquire 0 none 0 []) (.operated (.grow 1 8) .fresh)
  have h₁ : Reachable ⟨1, 1, 1⟩ [⟨1, 1, ⟨8, 2⟩⟩] _ := .entered 1 1 h₀ rfl rfl
  exact ⟨_, .between h₁, rfl, resident_pages_within_capacity (.between h₁)⟩

end RecordCache.Session
