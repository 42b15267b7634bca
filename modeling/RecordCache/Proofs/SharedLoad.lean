import RecordCache.Proofs.Reachable
/-! A load serves the caller that started it and every caller that waited for it, and leaves no
trace of them. -/
namespace RecordCache.Session

variable {limits : Limits} {opened : List Ticket} {ticket : Ticket} {failure? : Option LoadError}
  {s s' : Session} {id : PageId} {page : Page Stamp} {n : Nat} {during : List Op}

namespace Sound

theorem at_rest (h : Sound limits [] s) (hp : s.table.pages[id]? = some page) :
    page.loading = false ∧ page.waiters = 0 ∧ page.parked? = none := by
  obtain ⟨hk, hn, hl⟩ := h.loads (Table.loadOf_of_page hp)
  refine ⟨Bool.eq_false_iff.mpr fun hload => ?_, ?_, hk⟩
  · exact List.not_mem_nil (hl.mp hload)
  · exact hn.trans (h.queued_eq_zero List.not_mem_nil)

theorem loadOf_closed (h : Sound limits (ticket :: opened) s) {evicted : List Eviction}
    {u : Table Stamp}
    (e : s.table.settle limits ticket.page (ticket.result failure?) n = .ok (evicted, u)) :
    (s.closed ticket failure? evicted u).table.loadOf ticket.page =
      some { attempt := ticket.attempt, failure? } := by
  have hmem : ticket ∈ ticket :: opened := List.mem_cons_self
  refine (Table.loadOf_setLoad ..).trans ?_
  rw [if_pos rfl, (h.settled e).loads, h.loadOf_eq hmem]
  rfl

end Sound

theorem Steady.loading_page (h : Steady limits opened s.table)
    (hp : s.table.pages[id]? = some page) :
    (page.loading ↔ id ∈ opened.map Ticket.page) ∧
      (page.loading → ¬page.isResident ∧ ¬page.isLinked) := by
  have hm := Table.loadOf_of_page hp
  refine ⟨h.loading hm, fun hl => ?_⟩
  obtain ⟨ticket, ht, rfl⟩ := List.mem_map.mp ((h.loading hm).mp hl)
  obtain ⟨l, hal⟩ := h.aligned
  have hnone := hal.not_mem (h.idle ticket ht)
  have hunlisted : ¬∃ tier, ticket.page ∈ l.get tier := fun ⟨tier, hmem⟩ => hnone tier hmem
  exact ⟨mt (hal.page_resident hp).mp hunlisted, mt (hal.linked.isLinked_iff hp).mp hunlisted⟩

/-- A load is made once for the caller that starts it and the callers that block on it. All of them
have its result, and then nothing is left of it at its page. -/
theorem load_shared (limits : Limits) :
    (∀ opened (s : Session) (id : PageId) (page : Page Stamp) failure? n during,
      Reachable limits opened s → s.table.pages[id]? = some page → page.window? = none →
      page.loading = false →
      ∃ ticket s₁ s₂ s', ticket = ⟨id, page.attempt + 1, ⟨page.address, s.loads + 1⟩⟩ ∧
        s.openLoad id = .ok (.miss ticket, s₁) ∧ s₁.block id n = .ok s₂ ∧
        s₂.blocked = s.blocked ++ List.replicate n ⟨id, page.attempt + 1⟩ ∧
        s₂.loads = s.loads + 1 ∧
        s.step (.acquire id failure? n during) = (.acquired (ticket.result failure?)
          (some page.address) (List.replicate n (ticket.result failure?)) (s₂.run during).1, s') ∧
        s'.loads = (s₂.run during).2.loads ∧ s'.blocked = s.blocked ∧
        ∃ page', s'.table.pages[id]? = some page' ∧ page'.attempt = page.attempt + 1 ∧
          page'.loading = false ∧ page'.waiters = 0 ∧ page'.parked? = none) ∧
    (∀ (s : Session) (id : PageId) (page : Page Stamp), Reachable limits [] s →
      s.table.pages[id]? = some page →
      page.loading = false ∧ page.waiters = 0 ∧ page.parked? = none) ∧
    ∀ opened (s : Session) (id : PageId) (page : Page Stamp), Free limits opened s →
      s.table.pages[id]? = some page →
      (page.loading ↔ id ∈ opened.map Ticket.page) ∧
        (page.loading → ¬page.isResident ∧ ¬page.isLinked) := by
  refine ⟨?_, fun s id page h hp => h.sound.at_rest hp, fun opened s id page h hp =>
    h.steady.loading_page hp⟩
  intro opened s id page failure? n during h hp hw hl
  let ticket : Ticket := ⟨id, page.attempt + 1, ⟨page.address, s.loads + 1⟩⟩
  have hs := h.sound
  have hm : s.Misses ticket := ⟨page, hp, hw, hl, rfl, rfl⟩
  have hk := (hs.entered hm n).run_kept during
  obtain ⟨evicted, u, e, es⟩ := hs.step_of_misses hm failure? hk
  obtain ⟨page', hp', hm'⟩ := Option.map_eq_some_iff.mp (hk.sound.loadOf_closed e)
  refine ⟨ticket, _, _, _, rfl, hs.openLoad_miss hm, Sound.block_of_misses hm n, rfl, rfl, es, rfl,
    hs.blocked_closed hm hk.blocked, page', hp', ?_⟩
  exact ⟨congrArg LoadState.attempt hm', congrArg LoadState.loading hm',
    congrArg LoadState.waiters hm', congrArg LoadState.parked? hm'⟩

/-- In a cache of capacity one, page 0 is loaded inside the load of page 1. -/
theorem load_shared_by_two_waiters :
    ∃ s page, Reachable ⟨1, 1, 1⟩ [] s ∧ s.table.pages[1]? = some page ∧ page.window? = none ∧
      page.loading = false ∧ ∃ answers s',
        s.step (.acquire 1 none 2 [.acquire 0 none 1 []]) =
          (.acquired (.ok ⟨8, 1⟩) (some 8) [.ok ⟨8, 1⟩, .ok ⟨8, 1⟩] answers, s') ∧
        ∃ page', s'.table.pages[1]? = some page' ∧ page'.attempt = 1 ∧
          page'.loading = false ∧ page'.waiters = 0 ∧ page'.parked? = none := by
  have h : Reachable ⟨1, 1, 1⟩ [] _ := .operated (.grow 1 8) .fresh
  obtain ⟨_, _, _, s', rfl, -, -, -, -, e, -, -, hpage⟩ := (load_shared ⟨1, 1, 1⟩).1 _ _ 1
    { address := 8 } none 2 [.acquire 0 none 1 []] h rfl rfl rfl
  exact ⟨_, _, h, rfl, rfl, rfl, _, s', e, hpage⟩

end RecordCache.Session
