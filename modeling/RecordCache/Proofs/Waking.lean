import RecordCache.Proofs.Sound
/-! What the blocked callers do when a load ends. All of them are woken, one after another: those
that waited for this load have its result, and the others are blocked again in their order. -/
namespace RecordCache

variable {limits : Limits} {opened : List Ticket} {ticket : Ticket} {failure? : Option LoadError}
  {evicted : List Eviction} {n served left : Nat} {s s₀ : Session}

theorem Table.Ended.awaits {W : Type} {t t' : Table W} {l : Lineup} {id i : PageId}
    {attempt attempt' : Nat} {outcome : Except LoadError W} (h : t.Aligned l) (hid : id < t.size)
    (hw : t.via Page.window? id = none) (hc : t.census.total ≤ limits.capacity)
    (he : t.Ended limits id attempt outcome evicted served left t')
    (ha : t.Awaits i attempt') (hi : i ≠ id) : t'.Awaits i attempt' := by
  obtain ⟨u, e, rfl⟩ := he
  have hs := h.settled hid hw hc e
  obtain ⟨m, hm, hrest⟩ := ha.load
  refine ⟨?_, m, ?_, hrest⟩
  · rw [via_window_setLoad]
    exact hs.idle hi ha.window
  · rw [loadOf_setLoad, if_neg hi, hs.loads, hm]

namespace Session

theorem wake_of_awaits {w : Waiter} (h : s.table.Awaits w.page w.attempt) :
    s.wake failure? w = .ok (none, { s with blocked := s.blocked ++ [w] }) := by
  rw [wake, h.runOn_eq]
  rfl

section Ended

variable (h : Sound limits (ticket :: opened) s₀)
include h

theorem Sound.settle_spec (failure? : Option LoadError) (n : Nat) :
    ∃ evicted u, s₀.table.settle limits ticket.page (ticket.result failure?) n =
        .ok (evicted, u) ∧
      s₀.table.Settled u limits.capacity ticket.page (ticket.result failure?) := by
  have hmem : ticket ∈ ticket :: opened := List.mem_cons_self
  obtain ⟨l, hal⟩ := h.aligned
  exact hal.settle_spec (h.lt_size hmem) (h.tickets ticket hmem).1 limits h.within _ n

theorem Sound.settled {u : Table Stamp} (e : s₀.table.settle limits ticket.page
    (ticket.result failure?) n = .ok (evicted, u)) :
    s₀.table.Settled u limits.capacity ticket.page (ticket.result failure?) := by
  have hmem : ticket ∈ ticket :: opened := List.mem_cons_self
  obtain ⟨l, hal⟩ := h.aligned
  exact hal.settled (h.lt_size hmem) (h.tickets ticket hmem).1 h.within e

theorem wake_of_ended (hl : s.limits = limits)
    (he : s₀.table.Ended limits ticket.page ticket.attempt (ticket.result failure?) evicted
      served (left + 1) s.table) :
    ∃ t', s.wake failure? ticket.waiter = .ok (some (ticket.result failure?), s.withTable t') ∧
      s₀.table.Ended limits ticket.page ticket.attempt (ticket.result failure?) evicted
        (served + 1) left t' := by
  obtain ⟨l, hal⟩ := h.aligned
  have hmem : ticket ∈ ticket :: opened := List.mem_cons_self
  obtain ⟨t', e, he'⟩ := he.runOn_eq hal (h.lt_size hmem) (h.tickets ticket hmem).1 h.within
  refine ⟨t', ?_, he'⟩
  rw [wake, hl, Ticket.waiter, e]
  cases ticket.result failure? <;> rfl

/-- Any first part `ws` of the blocked callers, woken in turn. -/
theorem wakeAll_of_ended {ws : List Waiter} (hws : ∀ w ∈ ws, w ∈ s₀.blocked)
    (hl : s.limits = limits)
    (he : s₀.table.Ended limits ticket.page ticket.attempt (ticket.result failure?) evicted
      served (left + ws.countP (Waiter.isAt ticket.page)) s.table) :
    ∃ t', wakeAll failure? ws s = .ok
        (List.replicate (ws.countP (Waiter.isAt ticket.page)) (ticket.result failure?),
          { s.withTable t' with blocked := s.blocked ++ elsewhere ticket.page ws }) ∧
      s₀.table.Ended limits ticket.page ticket.attempt (ticket.result failure?) evicted
        (served + ws.countP (Waiter.isAt ticket.page)) left t' := by
  have hmem : ticket ∈ ticket :: opened := List.mem_cons_self
  obtain ⟨l, hal⟩ := h.aligned
  -- On the callers still to be woken: one of this load is served, any other is blocked again.
  induction ws generalizing s served with
  | nil =>
    refine ⟨s.table, ?_, he⟩
    rw [elsewhere, List.filter_nil, List.append_nil]
    rfl
  | cons w ws ih =>
    have hw := hws w List.mem_cons_self
    have hws' : ∀ w' ∈ ws, w' ∈ s₀.blocked := fun w' h' => hws w' (List.mem_cons_of_mem _ h')
    by_cases hp : Waiter.isAt ticket.page w
    · obtain ⟨other, ho, rfl⟩ := h.blocked w hw
      cases h.eq_of_page_eq ho hmem (of_decide_eq_true hp)
      rw [List.countP_cons_of_pos hp] at he ⊢
      obtain ⟨t₁, e₁, he₁⟩ := wake_of_ended h hl he
      obtain ⟨t₂, e₂, he₂⟩ := ih (s := s.withTable t₁) hws' hl he₁
      refine ⟨t₂, ?_, by rwa [Nat.add_assoc, Nat.add_comm 1] at he₂⟩
      rw [wakeAll, e₁]
      simp only [bind, Except.bind, e₂, pure, Except.pure]
      rw [elsewhere, elsewhere, List.filter_cons_of_neg (by simp [hp])]
      rfl
    · rw [List.countP_cons_of_neg hp] at he ⊢
      have ha := he.awaits hal (h.lt_size hmem) (h.tickets ticket hmem).1 h.within (h.awaits hw)
        fun e => hp (decide_eq_true e)
      obtain ⟨t₂, e₂, he₂⟩ := ih (s := { s with blocked := s.blocked ++ [w] }) hws' hl he
      refine ⟨t₂, ?_, he₂⟩
      rw [wakeAll, wake_of_awaits ha]
      simp only [bind, Except.bind, e₂, pure, Except.pure]
      rw [elsewhere, elsewhere, List.filter_cons_of_pos (by simpa using hp), List.append_assoc]
      rfl

theorem complete_spec (failure? : Option LoadError) :
    ∃ evicted t', s₀.cache.complete ticket.page ticket.attempt (ticket.result failure?) =
        .ok (evicted, { s₀.cache with table := t' }) ∧
      s₀.table.Ended limits ticket.page ticket.attempt (ticket.result failure?) evicted 0
        (s₀.queued ticket.page) t' := by
  obtain ⟨evicted, u, e, hs⟩ := h.settle_spec failure? 0
  have hc := Table.complete_eq (h.loadOf_eq List.mem_cons_self) hs.loads e
  refine ⟨evicted, _, ?_, u, e, rfl⟩
  rw [← h.limits_eq] at hc
  simp only [Session.table, Session.limits] at hc
  rw [Cache.complete, hc]
  rfl

theorem steady_of_ended {t' : Table Stamp}
    (he : s₀.table.Ended limits ticket.page ticket.attempt (ticket.result failure?) evicted
      served left t') : Steady limits opened t' := by
  have hnot := (List.nodup_cons.mp h.distinct).1
  obtain ⟨u, e, rfl⟩ := he
  have hs := h.settled e
  obtain ⟨l, hal⟩ := hs.aligned
  refine ⟨⟨l, hal.recast ..⟩, hs.within, ?_, ?_⟩
  · intro id m hm
    rw [Table.loadOf_setLoad] at hm
    by_cases hi : id = ticket.page
    · subst hi
      rw [if_pos rfl] at hm
      obtain ⟨_, -, rfl⟩ := Option.map_eq_some_iff.mp hm
      refine iff_of_false ?_ hnot
      cases ticket.result failure? <;> exact Bool.false_ne_true
    · rw [if_neg hi, hs.loads] at hm
      have hl := (h.loads hm).2.2
      rwa [List.map_cons, List.mem_cons, or_iff_right hi] at hl
  · intro other ho
    rw [Table.via_window_setLoad]
    exact hs.idle (Ticket.page_ne hnot ho) (h.tickets other (List.mem_cons_of_mem _ ho)).1

end Ended

/-- The session when the load `ticket` is over, with `u` the table that it has settled. -/
def closed (s : Session) (ticket : Ticket) (failure? : Option LoadError)
    (evicted : List Eviction) (u : Table Stamp) : Session :=
  { (s.withTable (u.setLoad ticket.page { attempt := ticket.attempt, failure? })).withEvictions
      evicted with
    blocked := elsewhere ticket.page s.blocked }

theorem ended_result_zero (ticket : Ticket) (failure? : Option LoadError)
    (window? : Option Stamp) : LoadState.ended ticket.attempt (ticket.result failure?) window? 0 =
      { attempt := ticket.attempt, failure? } := by
  cases failure? <;> simp [Ticket.result, LoadState.ended]

namespace Sound

theorem closeLoad_spec (h : Sound limits (ticket :: opened) s) (failure? : Option LoadError) :
    ∃ evicted u, s.table.settle limits ticket.page (ticket.result failure?)
        (s.queued ticket.page) = .ok (evicted, u) ∧
      s.closeLoad ticket failure? = .ok (List.replicate (s.queued ticket.page)
        (ticket.result failure?), s.closed ticket failure? evicted u) := by
  obtain ⟨evicted, t₁, e₁, he₁⟩ := complete_spec h failure?
  rw [← Nat.zero_add (s.queued ticket.page)] at he₁
  obtain ⟨t₂, e₂, u, e, rfl⟩ := wakeAll_of_ended
    (s := { s.withTable t₁ with evictions := s.evictions ++ evicted, blocked := [] }) h
    (fun _ hw => hw) h.limits_eq he₁
  rw [Nat.zero_add] at e
  refine ⟨evicted, u, e, ?_⟩
  rw [closeLoad, e₁]
  rw [ended_result_zero] at e₂
  exact e₂

theorem closed (h : Sound limits (ticket :: opened) s) {u : Table Stamp}
    (hs : s.table.Settled u limits.capacity ticket.page (ticket.result failure?)) :
    Sound limits opened (s.closed ticket failure? evicted u) := by
  have hnot := (List.nodup_cons.mp h.distinct).1
  have hdistinct := (List.nodup_cons.mp h.distinct).2
  obtain ⟨l, hal⟩ := hs.aligned
  have hloads := Table.loadOf_setLoad u ticket.page
    { attempt := ticket.attempt, failure? }
  have hqueued : ∀ i, (s.closed ticket failure? evicted u).queued i =
      if i = ticket.page then 0 else s.queued i := by
    intro i
    exact countP_elsewhere ..
  refine ⟨h.limits_eq, ⟨l, hal.recast ..⟩, hs.within, hdistinct, ?_, ?_, ?_⟩
  · intro i m hm
    have hm := (hloads i).symm.trans hm
    rw [hqueued]
    by_cases hi : i = ticket.page
    · subst hi
      rw [if_pos rfl] at hm ⊢
      obtain ⟨_, -, rfl⟩ := Option.map_eq_some_iff.mp hm
      exact ⟨rfl, rfl, iff_of_false Bool.false_ne_true hnot⟩
    · rw [if_neg hi, hs.loads] at hm
      obtain ⟨hk, hn, hl⟩ := h.loads hm
      rw [List.map_cons, List.mem_cons, or_iff_right hi] at hl
      rw [if_neg hi]
      exact ⟨hk, hn, hl⟩
  · intro other ho
    have hne := Ticket.page_ne hnot ho
    obtain ⟨hx, m, hm, hrest⟩ := h.tickets other (List.mem_cons_of_mem _ ho)
    refine ⟨?_, m, ?_, hrest⟩
    · exact (congrFun (Table.via_window_setLoad ..) _).trans (hs.idle hne hx)
    · refine (hloads _).trans ?_
      rw [if_neg hne, hs.loads, hm]
  · intro w hw
    obtain ⟨hw, hp⟩ := mem_elsewhere.mp hw
    obtain ⟨other, ho, rfl⟩ := h.blocked w hw
    rcases List.mem_cons.mp ho with rfl | ho
    · exact absurd rfl hp
    · exact ⟨other, ho, rfl⟩

end Sound

end Session

end RecordCache
