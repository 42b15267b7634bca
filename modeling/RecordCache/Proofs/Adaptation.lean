import RecordCache.Proofs.Scans
/-! Whether the cached set can change. While the upper tiers leave a place, a page that is asked for
three times in a row gets into them. When they fill the cache, a page that is not resident is loaded
for each of its acquisitions and never stays. -/
namespace RecordCache

variable {limits : Limits} {capacity n : Nat} {s s' : Session} {l : Lineup} {r : Roster}
  {id : PageId} {ids : List PageId} {source target tier u : Tier}

namespace Roster

/-- An admission into a tier with places fails only by the reference bits of all others there, and
then takes these away. -/
theorem mem_intake_or_unreferenced (hid : r.referenced id = false) :
    id ∈ (r.intake capacity id).lineup.unknown ∨
      ∀ i ∈ (r.intake capacity id).lineup.unknown, (r.intake capacity id).referenced i = false := by
  by_cases hlt : r.lineup.unknown.length < r.room capacity
  · left
    rw [intake_of_lt hlt]
    exact List.mem_append_right _ (List.mem_singleton_self id)
  · rw [intake_of_full hlt]
    by_cases hall : ∀ i ∈ r.lineup.unknown, r.referenced i
    · right
      intro i hi
      have htake : r.lineup.unknown.takeWhile r.referenced = r.lineup.unknown :=
        List.takeWhile_eq_self_iff.mpr hall
      rcases List.mem_append.mp (mem_of_mem_recycle hi) with hi | hi
      · simp [htake, hi]
      · simp [List.mem_singleton.mp hi, hid]
    · left
      have hdrop : r.lineup.unknown.dropWhile r.referenced ≠ [] := by
        intro e
        exact hall (List.dropWhile_eq_nil_iff.mp e)
      rw [unknown_withUnknown, recycle, List.dropWhile_append,
        if_neg (by rw [List.isEmpty_iff]; exact hdrop), List.tail_append_of_ne_nil hdrop]
      simp

theorem mem_intake_of_unreferenced (hu : ∀ i ∈ r.lineup.unknown, r.referenced i = false)
    (hid : r.referenced id = false) (hc : r.lineup.unknown.length ≤ r.room capacity)
    (hroom : 0 < r.room capacity) : id ∈ (r.intake capacity id).lineup.unknown := by
  rw [intake_unreferenced hu hid hc, unknown_withUnknown, List.rtake,
    List.drop_append_of_le_length (by simp; omega)]
  exact List.mem_append_right _ (List.mem_singleton_self id)

theorem intake_of_no_room (hroom : r.room capacity = 0) (hid : r.referenced id = false)
    (hc : r.lineup.unknown.length ≤ r.room capacity) :
    r.intake capacity id = r ∧ r.lineup.displaced capacity r.referenced id = [id] := by
  have hnil : r.lineup.unknown = [] := List.eq_nil_of_length_eq_zero (by omega)
  have hfull : ¬r.lineup.all.length < capacity := by
    rw [all_length_lt_iff, hroom]
    exact Nat.not_lt_zero _
  constructor
  · have hget : r.lineup.get .unknown = [] := hnil
    rw [intake_unreferenced (by simp [hnil]) hid hc, hroom, List.rtake, Nat.sub_zero,
      List.drop_length, withUnknown, Lineup.set_get_self hget]
  · rw [Lineup.displaced, if_neg hfull, hnil]
    simp [hid]

end Roster

namespace Table

variable {W : Type} {t t' : Table W}

theorem Shows.census_eq (h : t.Shows r) (h' : t'.Shows r) : t'.census = t.census :=
  h'.aligned.census_eq.trans h.aligned.census_eq.symm

end Table

namespace Session

def Granted (answer : Answer) : Prop :=
  ∃ stamp loaded?, answer = .acquired (.ok stamp) loaded? [] []

theorem Quiet.run_hits (h : s.Quiet limits) (hr : s.table.Shows r) (hm : id ∈ r.lineup.get source)
    (n : Nat) :
    ∃ answers s' r', s.run (List.replicate (n + 1) (acquisition id none)) = (answers, s') ∧
      (∀ answer ∈ answers, Granted answer) ∧ s'.loads = s.loads ∧ s'.table.Shows r' ∧
      id ∈ r'.lineup.upper := by
  obtain ⟨stamp, s₁, e₁, h₁, hr₁, hl₁, -⟩ := h.step_hit hr hm none
  have hupper : id ∈ (r.hit limits source id).lineup.upper := Roster.mem_upper_hit hm
  have hgranted : Granted (.acquired (.ok stamp) none [] []) := ⟨stamp, none, rfl⟩
  induction n generalizing s r source stamp s₁ with
  | zero =>
    refine ⟨_, s₁, _, run_cons e₁ rfl, ?_, hl₁, hr₁, hupper⟩
    exact List.forall_mem_singleton.mpr hgranted
  | succ n ih =>
    obtain ⟨tier, -, hm₁⟩ := Lineup.mem_upper.mp hupper
    obtain ⟨stamp₂, s₂, e₂, h₂, hr₂, hl₂, -⟩ := h₁.step_hit hr₁ hm₁ none
    obtain ⟨answers, s', r', e, ha, hl, hr', hu⟩ := ih h₁ hr₁ hm₁ stamp₂ s₂ e₂ h₂ hr₂ hl₂
      (Roster.mem_upper_hit hm₁) ⟨stamp₂, none, rfl⟩
    exact ⟨_, s', r', run_cons e₁ e, List.forall_mem_cons.mpr ⟨hgranted, ha⟩, hl.trans hl₁, hr', hu⟩

/-- While the upper tiers leave a place, three acquisitions take any page there. -/
theorem Quiet.run_three (h : s.Quiet limits) (hr : s.table.Shows r) (hid : id < s.table.size)
    (hroom : 0 < r.room limits.capacity) :
    ∃ answers s' r', s.run (List.replicate 3 (acquisition id none)) = (answers, s') ∧
      (∀ answer ∈ answers, Granted answer) ∧ s'.loads ≤ s.loads + 2 ∧ s'.table.Shows r' ∧
      id ∈ r'.lineup.upper := by
  by_cases hm : ∃ u, id ∈ r.lineup.get u
  · obtain ⟨u, hm⟩ := hm
    obtain ⟨answers, s', r', e, ha, hl, hr', hu⟩ := h.run_hits hr hm 2
    exact ⟨answers, s', r', e, ha, hl ▸ Nat.le_add_right .., hr', hu⟩
  have hn : ∀ u, id ∉ r.lineup.get u := not_exists.mp hm
  have hbit := hr.unreferenced hid hn
  obtain ⟨ticket, evicted, s₁, m⟩ := h.step_miss hr hid hn none
  have hr₁ : s₁.table.Shows (r.intake limits.capacity id) := m.roster
  have hgranted : Granted (.acquired (ticket.result none) (some ticket.stamp.address) [] []) :=
    ⟨_, _, rfl⟩
  by_cases hm₁ : id ∈ (r.intake limits.capacity id).lineup.unknown
  -- The page got into the lowest tier, and is hit twice.
  · obtain ⟨answers, s', r', e, ha, hl, hr', hu⟩ :=
      m.quiet.run_hits hr₁ (show id ∈ PerTier.get _ .unknown from hm₁) 1
    refine ⟨_, s', r', run_cons m.step_eq e, List.forall_mem_cons.mpr ⟨hgranted, ha⟩, ?_, hr', hu⟩
    have := m.loads
    omega
  -- It made way for pages with their bits set. These bits are gone at its second load.
  · have hclear := (Roster.mem_intake_or_unreferenced hbit).resolve_left hm₁
    have hn₁ : ∀ u, id ∉ (r.intake limits.capacity id).lineup.get u := by
      intro u hu
      by_cases hunknown : u = .unknown
      · subst hunknown
        exact hm₁ hu
      · exact hn u (PerTier.get_set_of_ne r.lineup _ hunknown ▸ hu)
    have hid₁ : id < s₁.table.size := Table.size_eq_of_addressOf m.addresses ▸ hid
    obtain ⟨ticket₂, evicted₂, s₂, m₂⟩ := m.quiet.step_miss hr₁ hid₁ hn₁ none
    have hr₂ : s₂.table.Shows ((r.intake limits.capacity id).intake limits.capacity id) := m₂.roster
    have hm₂ := Roster.mem_intake_of_unreferenced hclear (Roster.referenced_intake hbit)
      (hr₁.unknown_le_room m.quiet.steady.within) hroom
    obtain ⟨answers, s', r', e, ha, hl, hr', hu⟩ :=
      m₂.quiet.run_hits hr₂ (show id ∈ PerTier.get _ .unknown from hm₂) 0
    refine ⟨_, s', r', run_cons m.step_eq (run_cons m₂.step_eq e), ?_, ?_, hr', hu⟩
    · exact List.forall_mem_cons.mpr ⟨hgranted, List.forall_mem_cons.mpr ⟨⟨_, _, rfl⟩, ha⟩⟩
    · have := m.loads
      have := m₂.loads
      omega

/-- When the upper tiers fill the cache, each acquisition of a page outside makes a load of its own
and changes no list. -/
theorem Quiet.run_locked_out {address : Nat} (h : s.Quiet limits) (hr : s.table.Shows r)
    (hid : s.table.addressOf id = some address) (hn : ∀ u, id ∉ r.lineup.get u)
    (hroom : r.room limits.capacity = 0) (n : Nat) :
    ∃ s' evicted, s.run (List.replicate n (acquisition id none)) =
        ((List.range' (s.loads + 1) n).map fun serial =>
          .acquired (.ok ⟨address, serial⟩) (some address) [] [], s') ∧
      s'.loads = s.loads + n ∧ s'.evictions = s.evictions ++ evicted ∧
      evicted.map Eviction.page = List.replicate n id ∧ s'.table.Shows r ∧
      s'.table.addressOf = s.table.addressOf := by
  induction n generalizing s with
  | zero => exact ⟨s, [], rfl, rfl, (List.append_nil _).symm, rfl, hr, rfl⟩
  | succ n ih =>
    have hlt : id < s.table.size := by
      obtain ⟨page, hp, -⟩ := Option.map_eq_some_iff.mp hid
      exact Table.lt_size_of_page hp
    obtain ⟨hsame, hself⟩ := Roster.intake_of_no_room hroom (hr.unreferenced hlt hn)
      (hr.unknown_le_room h.steady.within)
    obtain ⟨ticket, evicted, s₁, m⟩ := h.step_miss hr hlt hn none
    have hr₁ : s₁.table.Shows (r.intake limits.capacity id) := m.roster
    rw [hsame] at hr₁
    obtain ⟨s', evicted', e, hl, he, hx, hr', ha⟩ := ih m.quiet hr₁ (m.addresses ▸ hid)
    have hstamp : ticket.stamp = ⟨address, s.loads + 1⟩ := by
      rw [← m.serial, ← Option.some.inj (m.address.symm.trans hid)]
    have hstep := m.step_eq
    rw [Ticket.result, hstamp] at hstep
    rw [m.loads] at e hl
    refine ⟨s', evicted ++ evicted', run_cons hstep e, ?_, ?_, ?_, hr', ha.trans m.addresses⟩
    · rw [hl, Nat.add_assoc, Nat.add_comm 1]
    · rw [he, m.evictions, List.append_assoc]
    · have hd : evicted.map Eviction.page = [id] := m.displaced.trans hself
      rw [List.map_append, hd, hx]
      rfl

/-- Whether the cached set can change depends on the number of pages in the upper tiers. If they are
fewer than the capacity, three acquisitions in a row take any page there, with at most two loads. If
they are as many, each acquisition of a page outside makes a load of its own, returns its window and
leaves everything as it was. -/
theorem adapts_unless_upper_tiers_full (h : Free limits [] s) (hid : id < s.table.size) :
    let upper := (s.table.members .shortTerm).length + (s.table.members .longTerm).length
    upper ≤ limits.capacity ∧
    (upper < limits.capacity →
      ∃ answers s', s.run (List.replicate 3 (acquisition id none)) = (answers, s') ∧
        (∀ answer ∈ answers, Granted answer) ∧ s'.loads ≤ s.loads + 2 ∧
        ∃ page, s'.table.pages[id]? = some page ∧ page.isResident ∧
          (page.tier = .shortTerm ∨ page.tier = .longTerm)) ∧
    (upper = limits.capacity → id ∉ s.table.residentIds → ∀ n,
      ∃ page s' evicted, s.table.pages[id]? = some page ∧
        s.run (List.replicate n (acquisition id none)) = ((List.range' (s.loads + 1) n).map
          fun serial => .acquired (.ok ⟨page.address, serial⟩) (some page.address) [] [], s') ∧
        s'.loads = s.loads + n ∧ s'.evictions = s.evictions ++ evicted ∧
        evicted.map Eviction.page = List.replicate n id ∧ id ∉ s'.table.residentIds ∧
        (∀ tier, s'.table.members tier = s.table.members tier) ∧
        s'.table.census = s.table.census ∧ s'.table.referencedIds = s.table.referencedIds) := by
  intro upper
  obtain ⟨l, hal⟩ := h.steady.aligned
  have hr : s.table.Shows ⟨l, s.table.isReferenced⟩ := ⟨hal, rfl⟩
  have hupper : upper = l.shortTerm.length + l.longTerm.length := by
    simp only [upper, hal.linked.members_eq]
    rfl
  have hwithin := h.steady.within
  rw [Table.residentCount, hal.total_eq, Lineup.all, List.length_append, List.length_append]
    at hwithin
  refine ⟨by omega, fun hroom => ?_, fun hfull hn n => ?_⟩
  · have hplaces : 0 < Roster.room ⟨l, s.table.isReferenced⟩ limits.capacity :=
      Nat.sub_pos_of_lt (hupper ▸ hroom)
    obtain ⟨answers, s', r', e, ha, hl, hr', hu⟩ := h.quiet.run_three hr hid hplaces
    obtain ⟨tier, ht, hm⟩ := Lineup.mem_upper.mp hu
    obtain ⟨page, hp⟩ := Table.exists_page (hr'.aligned.linked.lt_size hm)
    refine ⟨answers, s', e, ha, hl, page, hp, (hr'.aligned.page_resident hp).mpr ⟨tier, hm⟩, ?_⟩
    rw [hr'.aligned.page_tier hp hm]
    cases tier with
    | unknown => exact absurd rfl ht
    | shortTerm => exact Or.inl rfl
    | longTerm => exact Or.inr rfl
  · have hplaces : Roster.room ⟨l, s.table.isReferenced⟩ limits.capacity = 0 :=
      Nat.sub_eq_zero_of_le (Nat.le_of_eq (hfull.symm.trans hupper))
    obtain ⟨page, hp⟩ := Table.exists_page hid
    have hidle : ∀ u, id ∉ l.get u := fun u hu => hn (hal.mem_residentIds.mpr ⟨u, hu⟩)
    have haddress : s.table.addressOf id = some page.address := by
      rw [Table.addressOf, hp]
      rfl
    obtain ⟨s', evicted, e, hl, he, hx, hr', ha⟩ :=
      h.quiet.run_locked_out hr haddress hidle hplaces n
    refine ⟨page, s', evicted, hp, e, hl, he, hx, ?_, fun tier => ?_, hr.census_eq hr', ?_⟩
    · intro hmem
      obtain ⟨u, hu⟩ := hr'.aligned.mem_residentIds.mp hmem
      exact hidle u hu
    · rw [hr'.aligned.linked.members_eq, hal.linked.members_eq]
    · rw [Table.referencedIds_eq, Table.referencedIds_eq, hr'.referenced,
        Table.size_eq_of_addressOf ha]

/-- Page 0 has been demoted with its bit set, and page 2 is evicted in its stead when it comes
first. With a limit of two pages for the upper tiers both stay there, and page 2 is locked out. -/
theorem adapts_past_demoted_page_or_locked_out :
    (∃ s answers s', Free ⟨2, 1, 1⟩ [] s ∧ s.table.members .unknown = [0] ∧
      s.table.members .shortTerm = [1] ∧
      s.run [acquisition 2 none, acquisition 2 none, acquisition 2 none] = (answers, s') ∧
      s'.loads ≤ s.loads + 2 ∧ ∃ page, s'.table.pages[2]? = some page ∧ page.isResident ∧
        (page.tier = .shortTerm ∨ page.tier = .longTerm)) ∧
    ∃ s s', Free ⟨2, 2, 1⟩ [] s ∧ s.table.members .shortTerm = [0, 1] ∧
      s.run [acquisition 2 none, acquisition 2 none] =
        ([.acquired (.ok ⟨16, 3⟩) (some 16) [] [], .acquired (.ok ⟨16, 4⟩) (some 16) [] []], s') ∧
      2 ∉ s'.table.residentIds ∧ s'.table.members .shortTerm = [0, 1] := by
  have h (limits : Limits) : Free limits [] _ := .between <| .operated (acquisition 1 none) <|
    .operated (acquisition 1 none) <| .operated (acquisition 0 none) <|
    .operated (acquisition 0 none) <| .operated (.grow 2 8) .fresh
  constructor
  · obtain ⟨answers, s', e, -, hl, hpage⟩ :=
      (adapts_unless_upper_tiers_full (h ⟨2, 1, 1⟩) (show 2 < _ by decide +kernel)).2.1
        (by decide +kernel)
    exact ⟨_, answers, s', h ⟨2, 1, 1⟩, rfl, rfl, e, hl, hpage⟩
  · obtain ⟨page, s', -, hp, e, -, -, -, hn, hm, -⟩ :=
      (adapts_unless_upper_tiers_full (h ⟨2, 2, 1⟩) (show 2 < _ by decide +kernel)).2.2
        (by decide +kernel) (by decide +kernel) 2
    cases hp
    exact ⟨_, s', h ⟨2, 2, 1⟩, rfl, e, hn, hm .shortTerm⟩

end Session

end RecordCache
