import RecordCache.Proofs.Waking
/-! Operations and runs keep what the open loads rely on, whatever runs during their own loads. -/
namespace RecordCache

variable {limits : Limits} {opened : List Ticket} {ticket : Ticket} {failure? : Option LoadError}
  {s s' s₁ s₂ : Session} {id : PageId} {n : Nat} {during : List Op}

namespace Session

def Stamped (s : Session) : Prop :=
  ∀ id stamp, s.table.via Page.window? id = some stamp → stamp.serial ≤ s.loads

theorem Stamped.mono (h : s.Stamped) (hl : s.loads ≤ s'.loads)
    (hw : ∀ i, s'.table.via Page.window? i = s.table.via Page.window? i ∨
      s'.table.via Page.window? i = none) : s'.Stamped := by
  intro i stamp hi
  rcases hw i with e | e
  · exact Nat.le_trans (h i stamp (e.symm.trans hi)) hl
  · rw [e] at hi
    cases hi

/-- An operation is over: the open loads and the callers blocked on them are as before. -/
structure Kept (limits : Limits) (opened : List Ticket) (s s' : Session) : Prop where
  sound : Sound limits opened s'
  blocked : s'.blocked = s.blocked
  loads : s.loads ≤ s'.loads
  addresses : ∀ i address, s.table.addressOf i = some address →
    s'.table.addressOf i = some address
  stamped : s.Stamped → s'.Stamped

theorem Kept.refl (h : Sound limits opened s) : Kept limits opened s s :=
  ⟨h, rfl, Nat.le_refl _, fun _ _ ha => ha, fun hs => hs⟩

namespace Sound

theorem kept_of_released (h' : Sound limits opened s') (hb : s'.blocked = s.blocked)
    (hl : s'.loads = s.loads) (hr : s.table.Released s'.table) : Kept limits opened s s' :=
  ⟨h', hb, Nat.le_of_eq hl.symm, fun i _ ha => (congrFun hr.addresses i).trans ha,
    fun hs => hs.mono (Nat.le_of_eq hl.symm) hr.window⟩

theorem acquire_cases (h : Sound limits opened s) (id : PageId) :
    s.table.size ≤ id ∨ id ∈ opened.map Ticket.page ∨
      (∃ stamp, s.table.via Page.window? id = some stamp) ∨
      ∃ ticket, ticket.page = id ∧ s.Misses ticket := by
  by_cases hid : id < s.table.size
  · obtain ⟨page, hp⟩ := Table.exists_page hid
    right
    by_cases hl : page.loading
    · exact Or.inl ((h.loading_iff hp).mp hl)
    · right
      cases hw : page.window? with
      | some stamp => exact Or.inl ⟨stamp, (Table.via_of_page hp Page.window?).trans hw⟩
      | none =>
        exact Or.inr ⟨⟨id, page.attempt + 1, ⟨page.address, s.loads + 1⟩⟩, rfl, page, hp, hw,
          Bool.eq_false_iff.mpr hl, rfl, rfl⟩
  · exact Or.inl (Nat.le_of_not_lt hid)

theorem block_of_misses (hm : s.Misses ticket) (n : Nat) :
    (s.entered ticket 0).block ticket.page n = .ok (s.entered ticket n) := by
  obtain ⟨page, hp, hw, -⟩ := hm
  have e := block_entered (n := n) ((Table.via_of_page hp Page.window?).trans hw)
    (Table.lt_size_of_page hp) 0
  rwa [Nat.zero_add] at e

theorem misses_of_openLoad (h : Sound limits opened s)
    (e : s.openLoad id = .ok (.miss ticket, s₁)) :
    ticket.page = id ∧ s.Misses ticket ∧ s₁ = s.entered ticket 0 := by
  rcases h.acquire_cases id with hid | hid | ⟨stamp, hw⟩ | ⟨ticket', rfl, hm⟩
  · rw [openLoad_of_size_le hid] at e
    cases e
  · rw [h.openLoad_of_opened hid] at e
    cases e
  · obtain ⟨t', -, e', -⟩ := h.openLoad_hit hw
    rw [e'] at e
    cases e
  · rw [h.openLoad_miss hm] at e
    cases e
    exact ⟨rfl, hm, rfl⟩

theorem hit_of_openLoad (h : Sound limits opened s) {stamp : Stamp}
    (e : s.openLoad id = .ok (.hit stamp, s₁)) :
    ∃ t', s.table.via Page.window? id = some stamp ∧ s.table.recordHit s.limits id = .ok t' ∧
      s₁ = s.withTable t' ∧ Sound limits opened s₁ := by
  rcases h.acquire_cases id with hid | hid | ⟨stamp', hw⟩ | ⟨ticket, rfl, hm⟩
  · rw [openLoad_of_size_le hid] at e
    cases e
  · rw [h.openLoad_of_opened hid] at e
    cases e
  · obtain ⟨t', e₁, e', h'⟩ := h.openLoad_hit hw
    rw [e'] at e
    cases e
    exact ⟨t', hw, e₁, rfl, h'⟩
  · rw [h.openLoad_miss hm] at e
    cases e

theorem queued_entered (h : Sound limits opened s) (hm : s.Misses ticket)
    (hb : s₁.blocked = (s.entered ticket n).blocked) : s₁.queued ticket.page = n := by
  have hq := h.queued_eq_zero (h.not_mem_of_misses hm)
  rw [queued] at hq ⊢
  rw [hb, Session.entered, List.countP_append, hq, Nat.zero_add, List.countP_replicate]
  exact if_pos (decide_eq_true rfl)

theorem elsewhere_entered (h : Sound limits opened s) (hm : s.Misses ticket) :
    elsewhere ticket.page (s.entered ticket n).blocked = s.blocked := by
  have hnot := h.not_mem_of_misses hm
  have hnew : (List.replicate n ticket.waiter).filter (!Waiter.isAt ticket.page ·) = [] := by
    simp [Waiter.isAt, Ticket.waiter]
  have hold : s.blocked.filter (!Waiter.isAt ticket.page ·) = s.blocked := by
    refine List.filter_eq_self.mpr fun w hw => ?_
    obtain ⟨other, ho, rfl⟩ := h.blocked w hw
    simp [Waiter.isAt, Ticket.waiter, Ticket.page_ne hnot ho]
  rw [elsewhere, Session.entered, List.filter_append, hnew, hold, List.append_nil]

theorem blocked_closed (h : Sound limits opened s) (hm : s.Misses ticket)
    (hb : s₁.blocked = (s.entered ticket n).blocked) {evicted : List Eviction}
    {u : Table Stamp} : (s₁.closed ticket failure? evicted u).blocked = s.blocked :=
  (congrArg (elsewhere ticket.page) hb).trans (h.elsewhere_entered hm)

theorem step_of_misses (h : Sound limits opened s) (hm : s.Misses ticket)
    (failure? : Option LoadError)
    (hk : Kept limits (ticket :: opened) (s.entered ticket n) ((s.entered ticket n).run during).2) :
    ∃ evicted u, ((s.entered ticket n).run during).2.table.settle limits ticket.page
        (ticket.result failure?) n = .ok (evicted, u) ∧
      s.step (.acquire ticket.page failure? n during) =
        (.acquired (ticket.result failure?) (some ticket.stamp.address)
          (List.replicate n (ticket.result failure?)) ((s.entered ticket n).run during).1,
          ((s.entered ticket n).run during).2.closed ticket failure? evicted u) := by
  obtain ⟨evicted, u, e, ec⟩ := hk.sound.closeLoad_spec failure?
  rw [h.queued_entered hm hk.blocked] at e ec
  refine ⟨evicted, u, e, ?_⟩
  simp only [step, h.openLoad_miss hm, block_of_misses hm, ec]

theorem kept_acquire (h : Sound limits opened s)
    (hrun : ∀ ticket, s.Misses ticket → Kept limits (ticket :: opened) (s.entered ticket n)
      ((s.entered ticket n).run during).2) :
    Kept limits opened s (s.step (.acquire id failure? n during)).2 := by
  rcases h.acquire_cases id with hid | hid | ⟨stamp, hw⟩ | ⟨ticket, rfl, hm⟩
  · simp only [step, openLoad_of_size_le hid]
    exact Kept.refl h
  · simp only [step, h.openLoad_of_opened hid]
    exact Kept.refl h
  · obtain ⟨l, hal⟩ := h.aligned
    obtain ⟨t', e, eo, h'⟩ := h.openLoad_hit hw
    obtain ⟨_, _, e', -, hr⟩ := hal.recordHit_retains hw s.limits
    cases e.symm.trans e'
    simp only [step, eo]
    exact kept_of_released h' rfl rfl ⟨hr.toUndisturbed, fun i => Or.inl (congrFun hr.window i)⟩
  · have hk := hrun ticket hm
    obtain ⟨evicted, u, e, es⟩ := h.step_of_misses hm failure? hk
    have hs := hk.sound.settled e
    rw [es]
    have ha : ∀ i, (((s.entered ticket n).run during).2.closed ticket failure? evicted u
        ).table.addressOf i = ((s.entered ticket n).run during).2.table.addressOf i := fun i =>
      (congrFun (Table.addressOf_recast ..) i).trans (congrFun hs.addresses i)
    refine ⟨hk.sound.closed hs, h.blocked_closed hm hk.blocked,
      Nat.le_trans (Nat.le_succ _) hk.loads, fun i address hi => ?_, fun hst => ?_⟩
    · rw [ha]
      exact hk.addresses i address ((congrFun (Table.addressOf_recast ..) i).trans hi)
    have hst₁ : (s.entered ticket n).Stamped := hst.mono (Nat.le_succ _) fun i =>
      Or.inl (congrFun (Table.via_window_setLoad ..) i)
    intro i stamp hi
    have hi := (congrFun (Table.via_window_setLoad ..) i).symm.trans hi
    by_cases he : i = ticket.page
    · subst he
      rcases hs.own with hx | ⟨stamp', ho, hx⟩
      · rw [hx] at hi
        cases hi
      · cases hx.symm.trans hi
        obtain ⟨page, -, -, -, -, hserial⟩ := hm
        cases failure? with
        | some _ => cases ho
        | none =>
          cases ho
          rw [hserial]
          exact hk.loads
    · rcases hs.window i he with hx | hx
      · exact hk.stamped hst₁ i stamp (hx.symm.trans hi)
      · rw [hx] at hi
        cases hi

theorem kept_forceEvict (h : Sound limits opened s) (id : PageId) :
    Kept limits opened s (s.step (.forceEvict id)).2 := by
  obtain ⟨l, hal⟩ := h.aligned
  obtain ⟨x?, t', l', e, h', hc, hr⟩ := hal.forceEvict_spec id
  simp only [step, e]
  exact kept_of_released ((h.withTable ⟨l', h'⟩ (Nat.le_trans hc h.within) hr).congr rfl rfl) rfl
    rfl hr

theorem kept_forceEvictAll (h : Sound limits opened s) :
    Kept limits opened s (s.step .forceEvictAll).2 := by
  obtain ⟨l, hal⟩ := h.aligned
  obtain ⟨xs, t', l', e, h', hc, hr⟩ := hal.forceEvictAll_spec
  simp only [step, e]
  exact kept_of_released ((h.withTable ⟨l', h'⟩ (Nat.le_trans hc h.within) hr).congr rfl rfl) rfl
    rfl hr

mutual

theorem step_kept {opened : List Ticket} {s : Session} (h : Sound limits opened s) :
    ∀ op, Kept limits opened s (s.step op).2
  | .grow id recordsPerPage => by
    simp only [step]
    exact ⟨h.grow id recordsPerPage, rfl, Nat.le_refl _,
      fun _ _ ha => Table.addressOf_growTo ha id recordsPerPage,
      fun hs => hs.mono (Nat.le_refl _) fun i => Or.inl (Table.via_window_growTo ..)⟩
  | .acquire _ _ n during =>
    h.kept_acquire fun _ hm => run_kept (h.entered hm n) during
  | .forceEvict id => h.kept_forceEvict id
  | .forceEvictAll => h.kept_forceEvictAll
  | .inspect _ => by
    simp only [step]
    exact Kept.refl h

theorem run_kept {opened : List Ticket} {s : Session} (h : Sound limits opened s) :
    ∀ ops, Kept limits opened s (s.run ops).2
  | [] => by
    simp only [run]
    exact Kept.refl h
  | op :: ops => by
    have h₁ := step_kept h op
    have h₂ := run_kept h₁.sound ops
    simp only [run]
    exact ⟨h₂.sound, h₂.blocked.trans h₁.blocked, Nat.le_trans h₁.loads h₂.loads,
      fun i address hi => h₂.addresses i address (h₁.addresses i address hi),
      fun hs => h₂.stamped (h₁.stamped hs)⟩

end

/-- Only an acquisition can fail, and only because of the page that it asks for. -/
theorem fault_cases (h : Sound limits opened s) {op : Op} {fault : Fault}
    (e : (s.step op).1 = .fault fault) :
    ∃ id failure? n during, op = .acquire id failure? n during ∧
      (s.table.size ≤ id ∧ fault = .pageNotInTable id ∨
        id ∈ opened.map Ticket.page ∧ fault = .wouldBlock id) := by
  cases op with
  | grow _ _ =>
    simp only [step] at e
    cases e
  | acquire id failure? n during =>
    refine ⟨id, failure?, n, during, rfl, ?_⟩
    rcases h.acquire_cases id with hid | hid | ⟨stamp, hw⟩ | ⟨ticket, rfl, hm⟩
    · simp only [step, openLoad_of_size_le hid] at e
      cases e
      exact Or.inl ⟨hid, rfl⟩
    · simp only [step, h.openLoad_of_opened hid] at e
      cases e
      exact Or.inr ⟨hid, rfl⟩
    · obtain ⟨t', -, e', -⟩ := h.openLoad_hit hw
      simp only [step, e'] at e
      cases e
    · obtain ⟨evicted, u, -, es⟩ := h.step_of_misses hm failure? (run_kept (h.entered hm n) during)
      rw [es] at e
      cases e
  | forceEvict id =>
    obtain ⟨l, hal⟩ := h.aligned
    obtain ⟨x?, t', l', e', -⟩ := hal.forceEvict_spec id
    simp only [step, e'] at e
    cases e
  | forceEvictAll =>
    obtain ⟨l, hal⟩ := h.aligned
    obtain ⟨xs, t', l', e', -⟩ := hal.forceEvictAll_spec
    simp only [step, e'] at e
    cases e
  | inspect _ =>
    simp only [step] at e
    cases e

end Sound

end Session

end RecordCache
