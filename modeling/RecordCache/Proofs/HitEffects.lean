import RecordCache.Proofs.Admissions
/-! What a hit does to the pages that it does not hit. Pages go down for the promoted page from the
heads of the upper lists, in order, and only over the borders between the lists: all lists in a row,
lowest tier first, read the same before and after. -/
namespace RecordCache

variable {W : Type} {l l' : Lineup} {id i : PageId} {ids rest out kept down : List PageId}
  {tier source u u' : Tier} {limits : Limits} {opened : List Ticket} {s s' : Session}

theorem filter_append_eq_left {f : PageId → Bool} (hids : ∀ i ∈ ids, f i)
    (hrest : ∀ i ∈ rest, ¬f i) : (ids ++ rest).filter f = ids := by
  rw [List.filter_append, List.filter_eq_self.mpr hids, List.filter_eq_nil_iff.mpr hrest,
    List.append_nil]

theorem filter_append_eq_right {f : PageId → Bool} (hids : ∀ i ∈ ids, ¬f i)
    (hrest : ∀ i ∈ rest, f i) : (ids ++ rest).filter f = rest := by
  rw [List.filter_append, List.filter_eq_nil_iff.mpr hids, List.filter_eq_self.mpr hrest,
    List.nil_append]

section

variable (h : ids ++ rest = out ++ kept) (hd : (out ++ kept).Nodup)
include h hd

theorem filter_not_mem_of_append : ids.filter (· ∉ kept) = ids.take out.length := by
  have hout := List.disjoint_of_nodup_append hd
  rcases List.append_eq_append_iff.mp h with ⟨more, rfl, -⟩ | ⟨left, rfl, rfl⟩
  · rw [List.take_of_length_le (by simp)]
    apply List.filter_eq_self.mpr
    intro i hi
    exact decide_eq_true (hout (List.mem_append_left _ hi))
  · rw [List.take_left]
    apply filter_append_eq_left
    · intro i hi
      exact decide_eq_true (hout hi)
    · intro i hi
      simp [hi]

theorem filter_mem_of_append : ids.filter (· ∈ kept) = kept.filter (· ∈ ids) := by
  have hout := List.disjoint_of_nodup_append hd
  rcases List.append_eq_append_iff.mp h with ⟨more, rfl, -⟩ | ⟨left, rfl, rfl⟩
  · have hnone : ids.filter (· ∈ kept) = [] := by
      apply List.filter_eq_nil_iff.mpr
      intro i hi
      simpa using hout (List.mem_append_left _ hi)
    have hnone' : kept.filter (· ∈ ids) = [] := by
      apply List.filter_eq_nil_iff.mpr
      intro i hi hi'
      exact hout (List.mem_append_left _ (of_decide_eq_true hi')) hi
    rw [hnone, hnone']
  · have hback : left.Disjoint rest := List.disjoint_of_nodup_append hd.of_append_right
    have hleft : (out ++ left).filter (· ∈ left ++ rest) = left := by
      apply filter_append_eq_right
      · intro i hi
        simpa using hout hi
      · intro i hi
        simp [hi]
    have hleft' : (left ++ rest).filter (· ∈ out ++ left) = left := by
      apply filter_append_eq_left
      · intro i hi
        simp [hi]
      · intro i hi hi'
        rcases List.mem_append.mp (of_decide_eq_true hi') with hi' | hi'
        · exact hout hi' (List.mem_append_right _ hi)
        · exact hback hi' hi
    rw [hleft, hleft']

end

namespace Lineup

theorem get_moveTo_eq (l : Lineup) (id : PageId) (tier u : Tier) :
    (l.moveTo id tier).get u = (l.get u).erase id ++ if u = tier then [id] else [] := by
  rw [get_moveTo]
  split
  · rfl
  · exact (List.append_nil _).symm

/-- Page `id` goes to `tier`. The pages `down` leave the top list at its head for the tail of the
middle one, and then the pages `out` leave that at its head for the tail of the lowest. -/
structure Cascade (l : Lineup) (id : PageId) (tier : Tier) (down out : List PageId)
    (l' : Lineup) : Prop where
  longTerm : (l.moveTo id tier).longTerm = down ++ l'.longTerm
  shortTerm : (l.moveTo id tier).shortTerm ++ down = out ++ l'.shortTerm
  unknown : (l.moveTo id tier).unknown ++ out = l'.unknown
  promoted : id ∈ l'.get tier

theorem hit_cascade (l : Lineup) (limits : Limits) (id : PageId) (tier : Tier) :
    ∃ down out, l.Cascade id tier down out (l.hit limits id (some tier)) := by
  let l₀ := l.moveTo id tier
  let n := min (l₀.longTerm.length - limits.longTermLimit) (l₀.longTerm.idxOf id)
  let l₁ := l₀.demote .longTerm .shortTerm n
  let m := min (l₁.shortTerm.length + l₁.longTerm.length - limits.protectedLimit)
    (l₁.shortTerm.idxOf id)
  refine ⟨l₀.longTerm.take n, l₁.shortTerm.take m, ?_, ?_, rfl, mem_hit⟩
  · exact (List.take_append_drop n l₀.longTerm).symm
  · exact (List.take_append_drop m l₁.shortTerm).symm

namespace Cascade

variable (c : l.Cascade id tier down out l')
include c

theorem all_eq : l'.all = (l.moveTo id tier).all := by
  rw [all, all, ← c.unknown, c.longTerm, List.append_assoc _ out, ← c.shortTerm]
  simp only [List.append_assoc]

theorem get_append (hd : l'.all.Nodup) (u : Tier) : ∃ rest out,
    (l.get u).erase id ++ rest = out ++ l'.get u ∧ (out ++ l'.get u).Nodup := by
  let own (u : Tier) : List PageId := if u = tier then [id] else []
  have hget : ∀ u, (l.moveTo id tier).get u = (l.get u).erase id ++ own u := l.get_moveTo_eq id tier
  cases u with
  | unknown =>
    refine ⟨own .unknown ++ out, [], ?_, hd.of_append_left.of_append_left⟩
    rw [← List.append_assoc, ← hget]
    exact c.unknown
  | shortTerm =>
    refine ⟨own .shortTerm ++ down, out, ?_, ?_⟩
    · rw [← List.append_assoc, ← hget]
      exact c.shortTerm
    · rw [all, ← c.unknown, List.append_assoc _ out] at hd
      exact hd.of_append_left.of_append_right
  | longTerm =>
    refine ⟨own .longTerm, down, ?_, ?_⟩
    · rw [← hget]
      exact c.longTerm
    · rw [c.all_eq, all] at hd
      exact c.longTerm ▸ hd.of_append_right

theorem filter_not_mem (hd : l'.all.Nodup) (u : Tier) :
    ∃ n, ((l.get u).erase id).filter (· ∉ l'.get u) = ((l.get u).erase id).take n := by
  obtain ⟨_, out, h, hd⟩ := c.get_append hd u
  exact ⟨out.length, filter_not_mem_of_append h hd⟩

theorem filter_mem (hd : l'.all.Nodup) (hl : (l.get u).Nodup) (hid : id ∈ l.get u → id ∉ l'.get u) :
    (l.get u).filter (· ∈ l'.get u) = (l'.get u).filter (· ∈ l.get u) := by
  obtain ⟨_, _, h, hd⟩ := c.get_append hd u
  have hfilter := filter_mem_of_append h hd
  by_cases hm : id ∈ l.get u
  · have hout := hid hm
    rw [hl.erase_eq_filter, List.filter_filter] at hfilter
    calc (l.get u).filter (· ∈ l'.get u)
      _ = (l.get u).filter fun i => decide (i ∈ l'.get u) && i != id := by
        apply List.filter_congr
        intro i _
        by_cases hi : i = id
        · simp [hi, hout]
        · simp [hi]
      _ = _ := hfilter
      _ = (l'.get u).filter (· ∈ l.get u) := by
        apply List.filter_congr
        intro i hi
        have hne : i ≠ id := fun e => hout (e ▸ hi)
        simp [hne]
  · rw [List.erase_of_not_mem hm] at hfilter
    exact hfilter

theorem tier_le (hl : ∀ {u u'}, i ∈ l.get u → i ∈ l.get u' → u' = u) (hi : i ≠ id)
    (hm : i ∈ l.get u) (hm' : i ∈ l'.get u') : u' ≤ u := by
  have hold : ∀ {u}, i ∈ (l.moveTo id tier).get u → i ∈ l.get u := by
    intro u h
    exact (mem_of_mem_moveTo h).resolve_right hi
  cases u' with
  | unknown => cases u <;> decide
  | shortTerm =>
    have hmem : i ∈ (l.moveTo id tier).shortTerm ++ down := by
      rw [c.shortTerm]
      exact List.mem_append_right _ hm'
    rcases List.mem_append.mp hmem with h | h
    · obtain rfl := hl hm (hold (u := .shortTerm) h)
      decide
    · have htop : i ∈ (l.moveTo id tier).longTerm := by
        rw [c.longTerm]
        exact List.mem_append_left _ h
      obtain rfl := hl hm (hold (u := .longTerm) htop)
      decide
  | longTerm =>
    have htop : i ∈ (l.moveTo id tier).longTerm := by
      rw [c.longTerm]
      exact List.mem_append_right _ hm'
    obtain rfl := hl hm (hold (u := .longTerm) htop)
    decide

end Cascade

end Lineup

theorem Roster.hit_cases (r : Roster) (limits : Limits) (source : Tier) (id : PageId) :
    (r.hit limits source id).lineup = r.lineup ∨ ∃ tier down out, source.promoted? = some tier ∧
      r.lineup.Cascade id tier down out (r.hit limits source id).lineup := by
  rw [Roster.hit]
  cases hx : r.promotion? id source with
  | none => exact Or.inl rfl
  | some tier =>
    obtain ⟨down, out, c⟩ := r.lineup.hit_cascade limits id tier
    exact Or.inr ⟨tier, down, out, promotion?_eq_some hx, c⟩

/-- The pages that a list loses to a hit, but for the page that is hit, stood at its head. -/
theorem Roster.hit_heads (r : Roster) (hd : (r.hit limits source id).lineup.all.Nodup) (u : Tier) :
    ∃ n, ((r.lineup.get u).erase id).filter (· ∉ (r.hit limits source id).lineup.get u) =
      ((r.lineup.get u).erase id).take n := by
  rcases r.hit_cases limits source id with heq | ⟨tier, down, out, -, c⟩
  · refine ⟨0, ?_⟩
    apply List.filter_eq_nil_iff.mpr
    intro i hi
    simpa [heq] using List.mem_of_mem_erase hi
  · exact c.filter_not_mem hd u

namespace Table

variable {t t' : Table W} {r : Roster}

structure HitAt (t : Table W) (id : PageId) (t' : Table W) : Prop where
  residentIds : t'.residentIds = t.residentIds
  window : t'.via Page.window? = t.via Page.window?
  referenced : ∀ i, i ∈ t'.referencedIds ↔ i ∈ t.referencedIds ∨ i = id
  own : ∃ page page', t.pages[id]? = some page ∧ t'.pages[id]? = some page' ∧
    page.tier ≤ page'.tier
  others : ∀ i page, i ≠ id → t.pages[i]? = some page →
    ∃ page', t'.pages[i]? = some page' ∧ page'.tier ≤ page.tier
  /-- The lists stay as they are, or the page goes one tier up and others go down for it. -/
  lists : t'.lineup = t.lineup ∨ ∃ source tier down out, id ∈ t.members source ∧
    source.promoted? = some tier ∧ t.lineup.Cascade id tier down out t'.lineup
  topmost : id ∈ t.members .longTerm → t'.lineup = t.lineup
  /-- The pages that leave a list, but for the page that is hit, are taken from its head. -/
  heads : ∀ tier, ∃ n, ((t.members tier).erase id).filter (· ∉ t'.members tier) =
    ((t.members tier).erase id).take n
  order : ∀ tier, (t.members tier).filter (· ∈ t'.members tier) =
    (t'.members tier).filter (· ∈ t.members tier)

section

variable (h : t.Shows r) (h' : t'.Shows (r.hit limits source id))
include h h'

theorem Shows.tier_le_hit {page page' : Page W} (hm : id ∈ r.lineup.get source)
    (hp : t.pages[id]? = some page) (hp' : t'.pages[id]? = some page') :
    page.tier ≤ page'.tier := by
  rw [h.aligned.page_tier hp hm]
  rcases r.hit_cases limits source id with heq | ⟨tier, down, out, hpromoted, c⟩
  · have hm' : id ∈ (r.hit limits source id).lineup.get source := heq ▸ hm
    rw [h'.aligned.page_tier hp' hm']
    exact Nat.le_refl _
  · rw [h'.aligned.page_tier hp' c.promoted]
    exact Nat.le_of_lt (Tier.lt_of_promoted? hpromoted)

theorem Shows.hit_tier_le {page page' : Page W} (hresident : t'.residentIds = t.residentIds)
    (hi : i ≠ id) (hp : t.pages[i]? = some page) (hp' : t'.pages[i]? = some page') :
    page'.tier ≤ page.tier := by
  by_cases hlisted : ∃ u', i ∈ (r.hit limits source id).lineup.get u'
  · obtain ⟨u, hu⟩ := h.aligned.mem_residentIds.mp
      (hresident ▸ h'.aligned.mem_residentIds.mpr hlisted)
    obtain ⟨u', hu'⟩ := hlisted
    rw [h.aligned.page_tier hp hu, h'.aligned.page_tier hp' hu']
    rcases r.hit_cases limits source id with heq | ⟨tier, down, out, -, c⟩
    · rw [heq] at hu'
      exact Nat.le_of_eq (congrArg _ (h.aligned.linked.tier_eq hu hu'))
    · exact c.tier_le h.aligned.linked.tier_eq hi hu hu'
  · -- a page in no list is in the lowest tier
    obtain ⟨-, -, -, -, -, htier⟩ := h'.aligned.page_of_idle hp' (not_exists.mp hlisted)
    rw [htier]
    exact Nat.zero_le _

theorem Shows.hit_order (hm : id ∈ r.lineup.get source) (u : Tier) :
    (r.lineup.get u).filter (· ∈ (r.hit limits source id).lineup.get u) =
      ((r.hit limits source id).lineup.get u).filter (· ∈ r.lineup.get u) := by
  rcases r.hit_cases limits source id with heq | ⟨tier, down, out, hpromoted, c⟩
  · rw [heq]
  · apply c.filter_mem h'.aligned.linked.nodup_all (h.aligned.linked.nodup u)
    intro hu hu'
    obtain rfl := h.aligned.linked.tier_eq hm hu
    obtain rfl := h'.aligned.linked.tier_eq c.promoted hu'
    exact Nat.lt_irrefl _ (Tier.lt_of_promoted? hpromoted)

theorem Shows.hitAt (hm : id ∈ r.lineup.get source) (hsize : t'.size = t.size)
    (hwindow : t'.via Page.window? = t.via Page.window?) : t.HitAt id t' := by
  have hresident := residentIds_congr hsize hwindow
  have hpage : ∀ {i}, i < t.size → ∃ page, t'.pages[i]? = some page := fun hi =>
    exists_page (hsize ▸ hi)
  constructor
  · exact hresident
  · exact hwindow
  · intro i
    rw [mem_referencedIds, mem_referencedIds, h'.referenced, h.referenced, Roster.hit]
    simp
  · obtain ⟨page, hp⟩ := exists_page (h.aligned.linked.lt_size hm)
    obtain ⟨page', hp'⟩ := hpage (lt_size_of_page hp)
    exact ⟨page, page', hp, hp', h.tier_le_hit h' hm hp hp'⟩
  · intro i page hi hp
    obtain ⟨page', hp'⟩ := hpage (lt_size_of_page hp)
    exact ⟨page', hp', h.hit_tier_le h' hresident hi hp hp'⟩
  · rw [h.aligned.linked.lineup_eq, h'.aligned.linked.lineup_eq]
    rcases r.hit_cases limits source id with heq | ⟨tier, down, out, hpromoted, c⟩
    · exact Or.inl heq
    · refine Or.inr ⟨source, tier, down, out, ?_, hpromoted, c⟩
      rw [h.aligned.linked.members_eq]
      exact hm
  · intro htop
    rw [h.aligned.linked.members_eq] at htop
    obtain rfl := h.aligned.linked.tier_eq hm htop
    rw [h.aligned.linked.lineup_eq, h'.aligned.linked.lineup_eq]
    rcases r.hit_cases limits .longTerm id with heq | ⟨tier, _, _, hpromoted, _⟩
    · exact heq
    · cases hpromoted
  · intro u
    rw [h.aligned.linked.members_eq, h'.aligned.linked.members_eq]
    exact r.hit_heads h'.aligned.linked.nodup_all u
  · intro u
    rw [h.aligned.linked.members_eq, h'.aligned.linked.members_eq]
    exact h.hit_order h' hm u

end

/-- A hit does what it does whatever the load state of its page is set to. -/
theorem Shows.recordHit_setLoad (h : t.Shows r) (hm : id ∈ r.lineup.get source) (limits : Limits)
    (load : LoadState W) :
    ∃ t', (t.setLoad id load).recordHit limits id = .ok t' ∧ t.HitAt id t' := by
  have hload : (t.setLoad id load).Shows r := h.recast ..
  obtain ⟨t', e, h', hretained⟩ := hload.recordHit hm limits
  refine ⟨t', e, h.hitAt h' hm ?_ ?_⟩
  · rw [size_eq_of_addressOf hretained.addresses, setLoad, size_recast]
  · rw [hretained.window, via_window_setLoad]

end Table

namespace Session

/-- Page `id` has been hit, and the session has noticed nothing else. -/
structure HitAt (s : Session) (id : PageId) (s' : Session) : Prop extends
    s.table.HitAt id s'.table where
  loads : s'.loads = s.loads
  evictions : s'.evictions = s.evictions
  blocked : s'.blocked = s.blocked
  limits : s'.limits = s.limits

theorem Free.loading_eq (h : Free limits opened s) {page : Page Stamp} {stamp : Stamp}
    (hp : s.table.pages[id]? = some page) (hw : page.window? = some stamp) :
    page.loading = false := by
  apply Bool.eq_false_iff.mpr
  intro hl
  have hopen := (h.steady.loading (Table.loadOf_of_page hp)).mp hl
  obtain ⟨ticket, ht, rfl⟩ := List.mem_map.mp hopen
  have hnone := h.steady.idle ticket ht
  rw [Table.via_of_page hp, hw] at hnone
  cases hnone

/-- A resident page is hit by a caller that asks for it, or by one that has waited for its load and
runs on. The caller gets the window, and nothing is loaded or evicted. The page is promoted or
stays, and other pages go down for it from the heads of their lists. -/
theorem hit_demotes_from_heads (h : Free limits opened s) (id : PageId) {page : Page Stamp}
    {stamp : Stamp} (hp : s.table.pages[id]? = some page) (hw : page.window? = some stamp) :
    (∀ failure? n during, ∃ s', s.step (.acquire id failure? n during) =
      (.acquired (.ok stamp) none [] [], s') ∧ s.HitAt id s') ∧
    ∀ failure? attempt, page.parkedFor? attempt = none →
      ∃ s', s.wake failure? ⟨id, attempt⟩ = .ok (some (.ok stamp), s') ∧ s.HitAt id s' := by
  obtain ⟨l, hal⟩ := h.steady.aligned
  have hr := hal.shows
  have hvia := Table.via_of_page hp Page.window?
  obtain ⟨source, hm⟩ := hal.exists_mem (hvia.trans hw)
  constructor
  · intro failure? n during
    obtain ⟨t', e, hx⟩ := hr.recordHit_setLoad hm s.limits page.loadState
    rw [Table.setLoad_self (Table.loadOf_of_page hp)] at e
    refine ⟨s.withTable t', ?_, hx, rfl, rfl, rfl, rfl⟩
    rw [step, Sound.openLoad_of_resident hp hw (h.loading_eq hp hw) e]
  · intro failure? attempt hk
    obtain ⟨t', e, hx⟩ := hr.recordHit_setLoad hm s.limits page.loadState.resumed
    refine ⟨s.withTable t', ?_, hx, rfl, rfl, rfl, rfl⟩
    have hwindow := congrFun (Table.via_window_setLoad s.table id page.loadState.resumed) id
    have hlap := Table.lap_hit (hwindow.trans (hvia.trans hw)) e (some attempt)
    rw [wake, Table.runOn, Table.resume_eq hp, hk]
    simp only [bind, Except.bind, hlap]
    rfl

/-- Page 1 goes to the top tier, which takes one page. Page 0 goes down for it, and since the upper
tiers take no more than one page together, it goes down to the lowest. -/
theorem hit_demotes_through_middle_tier :
    ∃ s s', Free ⟨2, 1, 1⟩ [] s ∧ s.table.members .shortTerm = [1] ∧
      s.table.members .longTerm = [0] ∧
      s.step (.acquire 1 none 0 []) = (.acquired (.ok ⟨8, 2⟩) none [] [], s') ∧ s.HitAt 1 s' ∧
      s'.table.members .unknown = [0] ∧ s'.table.members .longTerm = [1] := by
  have h : Free ⟨2, 1, 1⟩ [] _ := .between <|
    .operated (acquisition 1 none) <| .operated (acquisition 1 none) <|
    .operated (acquisition 0 none) <| .operated (acquisition 0 none) <|
    .operated (acquisition 0 none) <| .operated (.grow 1 8) .fresh
  obtain ⟨s', e, hx⟩ := (hit_demotes_from_heads h 1 rfl rfl).1 none 0 []
  have hs' : _ = s' := congrArg Prod.snd e
  subst hs'
  exact ⟨_, _, h, rfl, rfl, e, hx, rfl, rfl⟩

end Session

end RecordCache
