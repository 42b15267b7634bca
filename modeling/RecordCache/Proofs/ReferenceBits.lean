import RecordCache.Proofs.Moments
/-! The reference bits of the upper tiers. A page comes to the upper tiers by a hit, which sets its
bit, and bits are cleared in the lowest tier only, since an admission always finds its victim there.
So the bits of the upper tiers are all set, and a hit of a page of the middle tier promotes it. -/
namespace RecordCache

variable {W : Type} {limits : Limits} {capacity : Nat} {opened : List Ticket} {s : Session}
  {t : Table W} {r r' : Roster} {deed : Deed} {id : PageId} {l : Lineup} {window : W}

namespace Roster

def UpperReferenced (r : Roster) : Prop := ∀ i ∈ r.lineup.upper, r.referenced i

theorem Effect.upperReferenced (e : r.Effect limits deed r') (hr : r.Proper limits)
    (h : r.UpperReferenced) : r'.UpperReferenced := by
  intro i hi
  cases e with
  | hit hm =>
    rcases Lineup.mem_upper_of_mem_hit hi with hi | hi
    · simp [Roster.hit, h i hi]
    · simp [Roster.hit, hi]
  | @loaded id _ =>
    -- The pages that lose their bits are in the lowest tier.
    have hspared : i ∉ r.lineup.spared limits.capacity r.referenced := by
      intro hx
      obtain ⟨u, hu, hi⟩ := Lineup.mem_upper.mp hi
      rw [Lineup.spared] at hx
      split at hx
      · cases hx
      · have hx : i ∈ r.lineup.get .unknown := (List.takeWhile_sublist _).mem hx
        have hi : i ∈ (r.lineup.set .unknown _).get u := hi
        rw [PerTier.get_set_of_ne _ _ hu] at hi
        exact hu (hr.tier_eq hx hi)
    have hi : i ∈ r.lineup.upper := hi
    simp [Roster.intake, h i hi, hspared]
  | @forcedOut source id _ =>
    obtain ⟨u, hu, hi⟩ := Lineup.mem_upper.mp hi
    obtain ⟨hne, hi⟩ := (Lineup.mem_without hr.nodup).mp hi
    simp [Roster.leave, h i (Lineup.mem_upper.mpr ⟨u, hu, hi⟩), hne]

end Roster

namespace Table

/-- Evicts while more than `capacity` pages are resident, and looks for victims in the lowest tier
alone. -/
def evictFromLowest (capacity : Nat) : Nat → Table W → Except Fault (List Eviction × Table W)
  | 0, t => .ok ([], t)
  | steps + 1, t =>
    if capacity < t.residentCount then do
      let (some victim, t) ← sweep .unknown ((t.chains.get .unknown).size + 1) t | .ok ([], t)
      let (evicted?, t) ← t.evict victim
      let (evicted, t) ← evictFromLowest capacity steps t
      return (evicted?.toList ++ evicted, t)
    else .ok ([], t)

theorem evictFromLowest_of_le (hc : t.residentCount ≤ capacity) (steps : Nat) :
    evictFromLowest capacity steps t = .ok ([], t) := by
  cases steps with
  | zero => rfl
  | succ steps => rw [evictFromLowest, if_neg (Nat.not_lt.mpr hc)]

/-- An admission looks for its victim in the lowest tier, where the new page is. -/
theorem Aligned.makeResident_eq (h : t.Aligned l) (hid : id < t.size) (hn : ∀ u, id ∉ l.get u)
    (hc : t.residentCount ≤ limits.capacity) (window : W) :
    t.makeResident limits id window =
      t.enter id window >>= fun t => evictFromLowest limits.capacity t.residentCount t := by
  obtain ⟨t₁, e₁, n⟩ := h.enter_spec hid hn window
  have htotal : t₁.residentCount = t.residentCount + 1 := n.total
  rw [makeResident, e₁]
  simp only [bind, Except.bind]
  by_cases hle : t₁.residentCount ≤ limits.capacity
  · rw [evictExcess_of_le hle, evictFromLowest_of_le hle]
  · obtain ⟨victim, rest, -, -, hqueue, hfront, hv⟩ := n.exists_victim
    obtain ⟨x, t₂, t₃, es, ev, ee, -, -, hcount, -⟩ :=
      n.entered.selectVictim_spec hqueue hfront hv
    have hle₃ : t₃.residentCount ≤ limits.capacity := by omega
    rw [htotal, evictExcess, evictFromLowest, if_pos (by omega), if_pos (by omega), es, ev]
    simp only [ee, bind, Except.bind, evictExcess_of_le hle₃, evictFromLowest_of_le hle₃]

end Table

namespace Session

theorem Free.upperReferenced (h : Free limits opened s) :
    ∃ r, s.table.Shows r ∧ r.Proper limits ∧ r.UpperReferenced := by
  have empty : Roster.empty.UpperReferenced := fun _ hi => absurd hi List.not_mem_nil
  exact h.invariant empty fun hp e hr => e.upperReferenced hp hr

/-- A page of the upper tiers has its reference bit set, and no search for a victim visits those
tiers. A hit of a page of the middle tier therefore always takes it to the top tier. -/
theorem upper_tiers_referenced (h : Free limits opened s) :
    (∀ (id : PageId) (page : Page Stamp), s.table.pages[id]? = some page → page.isResident →
      page.tier ≠ .unknown → page.referenced) ∧
    (∀ id window t, id ∉ s.table.residentIds →
      s.table.modify id (fun p => { p with loading := false }) = .ok t →
        t.makeResident limits id window = t.enter id window >>= fun t =>
          Table.evictFromLowest limits.capacity t.residentCount t) ∧
    ∀ id page window, s.table.pages[id]? = some page → page.window? = some window →
      page.tier = .shortTerm →
      (∀ awaited?, ∃ t', s.table.lap limits awaited? id = .ok (.hit window, t') ∧
        t'.Resides id .longTerm) ∧
      ∀ attempt, page.parkedFor? attempt = none → ∃ t',
        s.table.runOn limits id attempt = .ok (.hit window, t') ∧ t'.Resides id .longTerm := by
  obtain ⟨r, hr, hproper, hx⟩ := h.upperReferenced
  have hreferenced : ∀ (id : PageId) (page : Page Stamp), s.table.pages[id]? = some page →
      page.isResident → page.tier ≠ .unknown → page.referenced := by
    intro id page hp hw ht
    have hm := hr.resides_iff.mp ⟨page, hp, hw, rfl⟩
    rw [← Table.isReferenced_of_page hp, hr.referenced]
    exact hx id (Lineup.mem_upper.mpr ⟨_, ht, hm⟩)
  refine ⟨hreferenced, ?_, ?_⟩
  · intro id window t hid e
    have hlt : id < s.table.size := by
      by_contra hge
      rw [Table.modify, if_neg hge] at e
      cases e
    obtain ⟨page, hp⟩ := Table.exists_page hlt
    rw [Table.modify_eq_setLoad { page.loadState with loading := false } hp
      (by simp [Page.recast, Page.loadState])] at e
    cases e
    exact (hr.recast ..).aligned.makeResident_eq ((Table.size_recast ..).symm ▸ hlt)
      (not_exists.mp (mt hr.aligned.mem_residentIds.mpr hid)) h.steady.within window
  · intro id page window hp hw ht
    have hm : id ∈ r.lineup.get .shortTerm :=
      hr.resides_iff.mp ⟨page, hp, by rw [Page.isResident, hw]; rfl, ht⟩
    have hpromotes : ∀ {t' : Table Stamp}, t'.Shows (r.hit limits .shortTerm id) →
        t'.Resides id .longTerm := by
      intro t' h'
      have hpage := hx id (Lineup.mem_upper.mpr ⟨.shortTerm, by decide, hm⟩)
      rw [h'.resides_iff, Roster.hit, Roster.promotion?, if_pos hpage]
      exact Lineup.mem_hit
    constructor
    · intro awaited?
      obtain ⟨t', e, h'⟩ := hr.lap hp hw hm limits awaited?
      exact ⟨t', e, hpromotes h'⟩
    · intro attempt hk
      obtain ⟨t', e, h'⟩ := hr.runOn hp hw hm limits hk
      exact ⟨t', e, hpromotes h'⟩

/-- The top tier takes one page. Page 0 was promoted to it and then gave way to page 1; when it is
hit again, it comes back at once. -/
theorem upper_tiers_referenced_after_demotion :
    ∃ s t', Free ⟨2, 2, 1⟩ [] s ∧ s.table.members .shortTerm = [0] ∧
      s.table.lap ⟨2, 2, 1⟩ none 0 = .ok (.hit ⟨0, 1⟩, t') ∧ t'.Resides 0 .longTerm := by
  have h : Free ⟨2, 2, 1⟩ [] _ := .between <|
    .operated (acquisition 1 none) <| .operated (acquisition 1 none) <|
    .operated (acquisition 1 none) <| .operated (acquisition 0 none) <|
    .operated (acquisition 0 none) <| .operated (acquisition 0 none) <|
    .operated (.grow 1 8) .fresh
  obtain ⟨t', e, ht⟩ := ((upper_tiers_referenced h).2.2 0 _ _ rfl rfl rfl).1 none
  exact ⟨_, t', h, rfl, e, ht⟩

end Session

end RecordCache
