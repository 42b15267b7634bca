import RecordCache.Proofs.Runs
/-! Sessions with one open load left out. The load of a page is left out of a session by putting the
load state of the page back, forgetting the callers that wait for it, and counting it as the last of
the loads. What is run during the load then is what is run without it. -/
namespace RecordCache

variable {W V : Type} {limits : Limits} {opened : List Ticket} {ticket : Ticket}
  {failure? : Option LoadError} {r : Nat → Nat} {rest : LoadState Stamp} {s s' : Session}
  {id : PageId} {n first last : Nat} {evicted : List Eviction} {u : Table Stamp} {during : List Op}

def LoadState.map (f : W → V) (m : LoadState W) : LoadState V :=
  ⟨m.loading, m.attempt, m.failure?, m.waiters, m.parked?.map fun (attempt, w) => (attempt, f w)⟩

theorem LoadState.map_of_parked (f : W → W) {m : LoadState W} (h : m.parked? = none) :
    m.map f = m := by
  cases m
  simp_all [LoadState.map]

structure LoadState.AtRest (m : LoadState W) : Prop where
  loading : m.loading = false
  waiters : m.waiters = 0
  parked : m.parked? = none

def Stamp.renumber (r : Nat → Nat) (stamp : Stamp) : Stamp :=
  { stamp with serial := r stamp.serial }

def Ticket.renumber (r : Nat → Nat) (ticket : Ticket) : Ticket :=
  { ticket with stamp := ticket.stamp.renumber r }

theorem Ticket.result_renumber (r : Nat → Nat) (ticket : Ticket) (failure? : Option LoadError) :
    (ticket.renumber r).result failure? =
      (ticket.result failure?).map (Stamp.renumber r) := by
  cases failure? <;> rfl

/-- Makes the load `first` the last one of the loads up to `last`. -/
def postpone (first last k : Nat) : Nat :=
  if k < first ∨ last < k then k else if k = first then last else k - 1

theorem postpone_of_lt {k : Nat} (h : k < first) : postpone first last k = k := by
  simp [postpone, h]

theorem postpone_self (h : first ≤ last) : postpone first last first = last := by
  simp [postpone, Nat.not_lt.mpr h]

theorem postpone_succ {k : Nat} (h : first ≤ k) (hl : k + 1 ≤ last) :
    postpone first last (k + 1) = k := by
  have h₁ : ¬(k + 1 < first ∨ last < k + 1) := by omega
  have h₂ : k + 1 ≠ first := by omega
  rw [postpone, if_neg h₁, if_neg h₂]
  rfl

theorem postpone_injective (first last : Nat) : Function.Injective (postpone first last) := by
  intro j k h
  grind [postpone]

namespace Table

theorem recast_setLoad (f : W → V) (g : PageId → LoadState W → LoadState V) (t : Table W)
    (id : PageId) (load : LoadState W) :
    (t.setLoad id load).recast f g = (t.recast f g).setLoad id (g id load) := by
  rw [setLoad, setLoad, recast_recast, recast_recast]
  refine recast_congr fun i m _ => ?_
  by_cases hi : i = id
  · subst hi
    simp
  · simp [hi]

end Table

namespace Session

def renumber (r : Nat → Nat) (s : Session) : Session :=
  s.withTable (s.table.recast (Stamp.renumber r) fun _ m => m.map (Stamp.renumber r))

/-- What remains of a load state when the load of page `id` is left out. -/
def loadWithout (r : Nat → Nat) (id : PageId) (rest : LoadState Stamp) (i : PageId)
    (m : LoadState Stamp) : LoadState Stamp :=
  if i = id then rest else m.map (Stamp.renumber r)

def without (r : Nat → Nat) (id : PageId) (rest : LoadState Stamp) (s : Session) : Session :=
  { s.withTable (s.table.recast (Stamp.renumber r) (loadWithout r id rest)) with
    blocked := elsewhere id s.blocked
    loads := s.loads - 1 }

theorem without_entered (hne : ticket.page ≠ id) (hl : 0 < s.loads) :
    (s.entered ticket n).without r id rest =
      (s.without r id rest).entered (ticket.renumber r) n := by
  have htable := Table.recast_setLoad (Stamp.renumber r) (loadWithout r id rest) s.table ticket.page
    (.started ticket.attempt n)
  have hload : loadWithout r id rest ticket.page (.started ticket.attempt n) =
      .started ticket.attempt n := if_neg hne
  rw [hload] at htable
  have hblocked : elsewhere id (s.blocked ++ List.replicate n ticket.waiter) =
      elsewhere id s.blocked ++ List.replicate n ticket.waiter := by
    simp [elsewhere, Waiter.isAt, Ticket.waiter, hne]
  have hloads : s.loads + 1 - 1 = s.loads - 1 + 1 := by omega
  exact Session.ext (congrArg (Cache.mk s.limits) htable) hblocked hloads rfl

theorem without_closed (hne : ticket.page ≠ id) :
    (s.closed ticket failure? evicted u).without r id rest =
      (s.without r id rest).closed (ticket.renumber r) failure? evicted
        (u.recast (Stamp.renumber r) (loadWithout r id rest)) := by
  have htable := Table.recast_setLoad (Stamp.renumber r) (loadWithout r id rest) u ticket.page
    { attempt := ticket.attempt, failure? }
  have hload : loadWithout r id rest ticket.page { attempt := ticket.attempt, failure? } =
      { attempt := ticket.attempt, failure? } := if_neg hne
  rw [hload] at htable
  have hblocked : elsewhere id (elsewhere ticket.page s.blocked) =
      elsewhere ticket.page (elsewhere id s.blocked) := by
    rw [elsewhere, elsewhere, elsewhere, elsewhere, List.filter_filter, List.filter_filter]
    exact List.filter_congr fun w _ => Bool.and_comm _ _
  exact Session.ext (congrArg (Cache.mk s.limits) htable) hblocked rfl rfl

theorem without_via_window (i : PageId) : (s.without r id rest).table.via Page.window? i =
    (s.table.via Page.window? i).map (Stamp.renumber r) :=
  Table.via_window_recast ..

theorem Sound.without (h : Sound limits opened s) (hr : rest.AtRest) (r : Nat → Nat)
    (id : PageId) : Sound limits (opened.filter (·.page ≠ id)) (s.without r id rest) := by
  obtain ⟨l, hal⟩ := h.aligned
  have hmem : ∀ i, i ∈ (opened.filter (·.page ≠ id)).map Ticket.page ↔
      i ∈ opened.map Ticket.page ∧ i ≠ id := by
    intro i
    simp only [List.mem_map, List.mem_filter, decide_eq_true_eq]
    constructor
    · rintro ⟨ticket, ⟨ht, hne⟩, rfl⟩
      exact ⟨⟨ticket, ht, rfl⟩, hne⟩
    · rintro ⟨⟨ticket, ht, rfl⟩, hne⟩
      exact ⟨ticket, ⟨ht, hne⟩, rfl⟩
  have hload : ∀ i, (s.without r id rest).table.loadOf i =
      (s.table.loadOf i).map (loadWithout r id rest i) := fun i => Table.loadOf_recast ..
  have hqueued : ∀ i, (s.without r id rest).queued i = if i = id then 0 else s.queued i :=
    fun i => countP_elsewhere ..
  refine ⟨h.limits_eq, ⟨l, hal.recast ..⟩, h.within,
    h.distinct.sublist (List.filter_sublist.map _), ?_, ?_, ?_⟩
  · intro i m hm
    obtain ⟨m₀, hm₀, rfl⟩ := Option.map_eq_some_iff.mp ((hload i).symm.trans hm)
    rw [hqueued, hmem]
    by_cases hi : i = id
    · rw [loadWithout, if_pos hi, if_pos hi]
      refine ⟨hr.parked, hr.waiters, iff_of_false ?_ fun hx => hx.2 hi⟩
      rw [hr.loading]
      exact Bool.false_ne_true
    · obtain ⟨hk, hn, hl⟩ := h.loads hm₀
      rw [loadWithout, if_neg hi, if_neg hi]
      refine ⟨?_, hn, hl.trans (and_iff_left hi).symm⟩
      rw [LoadState.map, hk]
      rfl
  · intro ticket ht
    obtain ⟨ht, hne⟩ := List.mem_filter.mp ht
    obtain ⟨hw, m, hm, ha, hf⟩ := h.tickets ticket ht
    refine ⟨?_, m.map (Stamp.renumber r), ?_, ha, hf⟩
    · rw [without_via_window, hw]
      rfl
    · rw [hload, hm, Option.map_some, loadWithout, if_neg (of_decide_eq_true hne)]
  · intro w hw
    obtain ⟨hw, hne⟩ := mem_elsewhere.mp hw
    obtain ⟨ticket, ht, rfl⟩ := h.blocked w hw
    exact ⟨ticket, List.mem_filter.mpr ⟨ht, decide_eq_true hne⟩, rfl⟩

theorem Misses.without (hm : s.Misses ticket) (hne : ticket.page ≠ id)
    (hr : r (s.loads + 1) = s.loads - 1 + 1) :
    (s.without r id rest).Misses (ticket.renumber r) := by
  obtain ⟨page, hp, hw, hl, ha, hs⟩ := hm
  have hg : ∀ m, loadWithout r id rest ticket.page m = m.map (Stamp.renumber r) := fun m =>
    if_neg hne
  refine ⟨page.recast (Stamp.renumber r) (loadWithout r id rest ticket.page), ?_, ?_, ?_, ?_, ?_⟩
  · refine (Table.getElem?_recast ..).trans ?_
    exact congrArg (Option.map _) hp
  · rw [Page.recast, hw]
    rfl
  · simp only [Page.recast, hg]
    exact hl
  · simp only [Page.recast, hg]
    exact ha
  · simp only [Ticket.renumber, hs, Stamp.renumber, hr]
    rfl

end Session

end RecordCache
