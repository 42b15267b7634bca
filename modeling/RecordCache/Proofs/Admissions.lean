import RecordCache.Proofs.Moments
import RecordCache.Proofs.Scans
/-! What an admission does, list by list and page by page. If all places are taken, the page that
leaves is the first of the lowest list without a reference bit, at the latest the new page itself.
The pages before it lose their bits and go behind all others. The upper tiers have no part in it. -/
namespace RecordCache

variable {W : Type} {l : Lineup} {capacity : Nat} {referenced : PageId → Bool}
  {id victim i : PageId} {spared rest : List PageId} {limits : Limits} {opened : List Ticket}
  {ticket : Ticket} {s : Session}

namespace Lineup

/-- The lowest list with page `id` at its end, split at its first page without a reference bit. -/
structure Split (l : Lineup) (referenced : PageId → Bool) (id : PageId) (spared : List PageId)
    (victim : PageId) (rest : List PageId) : Prop where
  front : l.unknown.takeWhile referenced = spared
  front_concat : (l.unknown ++ [id]).takeWhile referenced = spared
  back : (l.unknown ++ [id]).dropWhile referenced = victim :: rest
  unreferenced : referenced victim = false

theorem exists_split (l : Lineup) (hid : referenced id = false) :
    ∃ spared victim rest, l.Split referenced id spared victim rest := by
  obtain ⟨victim, rest, hv, htake, hdrop⟩ := exists_unreferenced hid l.unknown
  exact ⟨_, victim, rest, rfl, htake, hdrop, hv⟩

namespace Split

variable (h : l.Split referenced id spared victim rest)
include h

theorem queue : l.unknown ++ [id] = spared ++ victim :: rest := by
  rw [← h.front_concat, ← h.back]
  exact List.takeWhile_append_dropWhile.symm

theorem victim_mem : victim ∈ l.unknown ++ [id] := by
  rw [h.queue]
  exact List.mem_append_right _ List.mem_cons_self

theorem referenced_of_mem (hi : i ∈ spared) : referenced i := by
  rw [← h.front] at hi
  exact List.mem_takeWhile_imp hi

theorem intake (hfull : ¬l.all.length < capacity) :
    l.intake capacity referenced id = l.set .unknown (rest ++ spared) := by
  rw [Lineup.intake, if_neg hfull, recycle, h.back, h.front_concat]
  rfl

theorem displaced (hfull : ¬l.all.length < capacity) :
    l.displaced capacity referenced id = [victim] := by
  rw [Lineup.displaced, if_neg hfull, h.back]
  rfl

theorem spared_eq (hfull : ¬l.all.length < capacity) : l.spared capacity referenced = spared := by
  rw [Lineup.spared, if_neg hfull]
  exact h.front

theorem not_mem (hd : (l.unknown ++ [id]).Nodup) : victim ∉ rest ++ spared := by
  rw [h.queue, List.nodup_append] at hd
  obtain ⟨-, hback, hne⟩ := hd
  rw [List.mem_append, not_or]
  constructor
  · exact (List.nodup_cons.mp hback).1
  · intro hm
    exact hne victim hm victim List.mem_cons_self rfl

theorem mem_of_ne (hi : i ≠ victim) (hm : i ∈ l.unknown ++ [id]) : i ∈ rest ++ spared := by
  rw [h.queue] at hm
  rcases List.mem_append.mp hm with hm | hm
  · exact List.mem_append_right _ hm
  · exact List.mem_append_left _ (List.mem_of_ne_of_mem hi hm)

end Split

end Lineup

namespace Roster

variable {r : Roster}

theorem get_intake {u : Tier} (hu : u ≠ .unknown) :
    (r.intake capacity id).lineup.get u = r.lineup.get u := PerTier.get_set_of_ne _ _ hu

section

variable (hfull : ¬r.lineup.all.length < capacity)
  (q : r.lineup.Split r.referenced id spared victim rest)
include hfull q

theorem get_unknown_intake : (r.intake capacity id).lineup.get .unknown = rest ++ spared := by
  have hlineup : (r.intake capacity id).lineup = r.lineup.set .unknown (rest ++ spared) :=
    q.intake hfull
  rw [hlineup]
  rfl

theorem mem_unknown_intake (hi : i ≠ victim) (hm : i ∈ r.lineup.unknown ++ [id]) :
    i ∈ (r.intake capacity id).lineup.get .unknown := by
  rw [get_unknown_intake hfull q]
  exact q.mem_of_ne hi hm

end

end Roster

namespace Table

variable {t t' : Table W} {r : Roster} {window : W} {evicted : List Eviction}

theorem Aligned.via_window_of_idle (h : t.Aligned l) (hn : ∀ u, i ∉ l.get u) :
    t.via Page.window? i = none := by
  cases hp : t.pages[i]? with
  | none => rw [via, hp]; rfl
  | some page =>
    rw [via_of_page hp]
    exact h.window_of_idle hp hn

/-- The lists, counts and reference bits of the upper tiers stay as they are, and so does the tier
of every page. -/
structure KeepsUpper (t t' : Table W) : Prop where
  members : ∀ tier, tier ≠ .unknown → t'.members tier = t.members tier
  census : ∀ tier, tier ≠ .unknown → t'.census.get tier = t.census.get tier
  referenced : ∀ tier, tier ≠ .unknown → ∀ i ∈ t.members tier,
    (i ∈ t'.referencedIds ↔ i ∈ t.referencedIds)
  tier : ∀ (i : PageId) (page page' : Page W), t.pages[i]? = some page →
    t'.pages[i]? = some page' → page'.tier = page.tier

/-- Page `id` takes a free place. -/
structure Gains (t : Table W) (id : PageId) (window : W) (evicted : List Eviction)
    (t' : Table W) : Prop where
  evicted : evicted = []
  unknown : t'.members .unknown = t.members .unknown ++ [id]
  referenced : t'.referencedIds = t.referencedIds
  window : t'.via Page.window? id = some window
  others : ∀ i, i ≠ id → t'.via Page.window? i = t.via Page.window? i

/-- Page `id` takes the place of page `victim`, unless it is that page itself. -/
structure Exchanges (t : Table W) (id : PageId) (window : W) (spared : List PageId)
    (victim : PageId) (rest : List PageId) (evicted : List Eviction) (t' : Table W) : Prop where
  evicted : evicted.map Eviction.page = [victim]
  unknown : t'.members .unknown = rest ++ spared
  referenced : ∀ i, i ∈ t'.referencedIds ↔ i ∈ t.referencedIds ∧ i ∉ spared
  left : ∃ page, t'.pages[victim]? = some page ∧ page.isResident = false ∧
    page.isLinked = false ∧ page.prev? = none ∧ page.next? = none ∧ page.referenced = false ∧
    page.tier = .unknown
  window : id ≠ victim → t'.via Page.window? id = some window
  others : ∀ i, i ≠ id → i ≠ victim → t'.via Page.window? i = t.via Page.window? i

/-- Page `id`, which was in no list, has been admitted, and its load has ended. -/
structure Admits (t : Table W) (r : Roster) (capacity : Nat) (id : PageId) (window : W)
    (evicted : List Eviction) (t' : Table W) : Prop where
  before : t.Shows r
  lt_size : id < t.size
  idle : ∀ u, id ∉ r.lineup.get u
  after : t'.Shows (r.intake capacity id)
  size : t'.size = t.size
  evicted : evicted.map Eviction.page = r.lineup.displaced capacity r.referenced id
  own : t'.via Page.window? id = some window ∨ t'.via Page.window? id = none
  others : ∀ i, i ≠ id → t'.via Page.window? i = t.via Page.window? i ∨
    t'.via Page.window? i = none

namespace Admits

variable (h : t.Admits r capacity id window evicted t')
include h

theorem window_of_mem {u : Tier} (hm : id ∈ (r.intake capacity id).lineup.get u) :
    t'.via Page.window? id = some window := by
  rcases h.own with hw | hw
  · exact hw
  · exact absurd hm (h.after.aligned.not_mem hw u)

theorem window_of_stay (hi : i ≠ id)
    (hstay : ∀ u, i ∈ r.lineup.get u → ∃ u', i ∈ (r.intake capacity id).lineup.get u') :
    t'.via Page.window? i = t.via Page.window? i := by
  rcases h.others i hi with hw | hw
  · exact hw
  · rw [hw]
    apply (h.before.aligned.via_window_of_idle _).symm
    intro u hm
    obtain ⟨u', hm'⟩ := hstay u hm
    exact h.after.aligned.not_mem hw u' hm'

theorem keepsUpper : t.KeepsUpper t' := by
  constructor
  · intro u hu
    rw [h.after.aligned.linked.members_eq, h.before.aligned.linked.members_eq]
    exact Roster.get_intake hu
  · intro u hu
    rw [h.after.aligned.placed.census, h.before.aligned.placed.census, Roster.get_intake hu]
  · intro u hu i hm
    rw [h.before.aligned.linked.members_eq] at hm
    have hspared : i ∉ r.lineup.spared capacity r.referenced := by
      intro hx
      rw [Lineup.spared] at hx
      split at hx
      · cases hx
      · have hx : i ∈ r.lineup.get .unknown := (List.takeWhile_sublist _).mem hx
        exact hu (h.before.aligned.linked.tier_eq hx hm)
    rw [mem_referencedIds, mem_referencedIds, h.after.referenced, h.before.referenced]
    simp [Roster.intake, hspared]
  · intro i page page' hp hp'
    apply h.before.aligned.tier_eq_of_upper h.after.aligned _ hp hp'
    intro u hu
    exact Roster.get_intake hu

theorem gains (hfree : r.lineup.all.length < capacity) : t.Gains id window evicted t' := by
  have hunknown : (r.intake capacity id).lineup.get .unknown = r.lineup.get .unknown ++ [id] := by
    rw [Roster.intake, Lineup.intake, if_pos hfree]
    rfl
  constructor
  · apply List.map_eq_nil_iff.mp
    rw [h.evicted, Lineup.displaced, if_pos hfree]
  · rw [h.after.aligned.linked.members_eq, h.before.aligned.linked.members_eq]
    exact hunknown
  · apply referencedIds_congr h.size
    rw [h.after.referenced, h.before.referenced, Roster.intake, Lineup.spared, if_pos hfree]
    simp
  · apply h.window_of_mem
    rw [hunknown]
    exact List.mem_append_right _ (List.mem_singleton_self id)
  · intro i hi
    apply h.window_of_stay hi
    intro u hm
    refine ⟨u, ?_⟩
    by_cases hu : u = .unknown
    · subst hu
      rw [hunknown]
      exact List.mem_append_left _ hm
    · rw [Roster.get_intake hu]
      exact hm

section

variable (hfull : ¬r.lineup.all.length < capacity)
  (q : r.lineup.Split r.referenced id spared victim rest)
include hfull q

theorem victim_not_mem (u : Tier) : victim ∉ (r.intake capacity id).lineup.get u := by
  intro hm
  by_cases hu : u = .unknown
  · subst hu
    have hnodup : (r.lineup.unknown ++ [id]).Nodup := by
      rw [← List.concat_eq_append, List.nodup_concat]
      exact ⟨h.idle .unknown, h.before.aligned.linked.nodup .unknown⟩
    rw [Roster.get_unknown_intake hfull q] at hm
    exact q.not_mem hnodup hm
  · rw [Roster.get_intake hu] at hm
    rcases List.mem_append.mp q.victim_mem with hx | hx
    · have hx : victim ∈ r.lineup.get .unknown := hx
      exact hu (h.before.aligned.linked.tier_eq hx hm)
    · exact h.idle u (List.mem_singleton.mp hx ▸ hm)

theorem exchanges : t.Exchanges id window spared victim rest evicted t' := by
  constructor
  · rw [h.evicted]
    exact q.displaced hfull
  · rw [h.after.aligned.linked.members_eq]
    exact Roster.get_unknown_intake hfull q
  · intro i
    rw [mem_referencedIds, mem_referencedIds, h.after.referenced, h.before.referenced]
    simp [Roster.intake, q.spared_eq hfull]
  · have hlt : victim < t'.size := by
      rw [h.size]
      rcases List.mem_append.mp q.victim_mem with hx | hx
      · exact h.before.aligned.linked.lt_size (show victim ∈ r.lineup.get .unknown from hx)
      · exact List.mem_singleton.mp hx ▸ h.lt_size
    obtain ⟨page, hp⟩ := exists_page hlt
    exact ⟨page, hp, h.after.aligned.page_of_idle hp (h.victim_not_mem hfull q)⟩
  · intro hne
    apply h.window_of_mem
    exact Roster.mem_unknown_intake hfull q hne
      (List.mem_append_right _ (List.mem_singleton_self id))
  · intro i hi hne
    apply h.window_of_stay hi
    intro u hm
    by_cases hu : u = .unknown
    · subst hu
      exact ⟨.unknown, Roster.mem_unknown_intake hfull q hne (List.mem_append_left _ hm)⟩
    · exact ⟨u, (Roster.get_intake hu).symm ▸ hm⟩

end

end Admits

theorem Shows.admits (hr : t.Shows r) (hid : id < t.size) (hn : ∀ u, id ∉ r.lineup.get u)
    (hc : t.residentCount ≤ limits.capacity) (attempt : Nat) (window : W) :
    ∃ evicted t', t.complete limits id attempt (.ok window) = .ok (evicted, t') ∧
      t.Admits r limits.capacity id window evicted t' := by
  obtain ⟨page, hp⟩ := exists_page hid
  obtain ⟨evicted, u, e, a⟩ := hr.aligned.makeResident_spec hid hn hc window
  refine ⟨evicted, _, complete_finish hp a.undisturbed.loads ((settle_zero ..).trans e), hr, hid,
    hn, ?_, ?_, ?_, ?_, ?_⟩
  · have hafter : u.Shows (r.intake limits.capacity id) := by
      constructor
      · rw [Roster.intake, ← hr.referenced]
        exact a.admitted
      · funext i
        rw [a.isReferenced, hr.referenced]
        rfl
    exact hafter.recast ..
  · rw [setLoad, size_recast]
    exact size_eq_of_addressOf a.undisturbed.addresses
  · rw [a.evicted, hr.referenced]
  · rw [via_window_setLoad]
    exact a.own
  · rw [via_window_setLoad]
    exact a.others

end Table

namespace Session

theorem Free.limits_eq (h : Free limits opened s) : s.limits = limits := by
  cases h with
  | between hr => exact hr.sound.limits_eq
  | waking hr ec eb ew => exact (waking_ended hr ec eb ew).2.1

theorem Free.lt_size (h : Free limits opened s) (ht : ticket ∈ opened) :
    ticket.page < s.table.size := by
  cases h with
  | between hr => exact hr.sound.lt_size ht
  | waking hr ec eb ew =>
    obtain ⟨⟨_, _, u, e, he⟩, -⟩ := waking_ended hr ec eb ew
    rw [he, Table.setLoad, Table.size_recast,
      Table.size_eq_of_addressOf (hr.sound.settled e).addresses]
    exact hr.sound.lt_size (List.mem_cons_of_mem _ ht)

/-- A load that is in progress ends with a window, whatever has happened meanwhile. The queue is the
lowest list with the new page at its end. While a place is free, the new page takes it and nothing
else changes. Otherwise the first page of the queue without a reference bit leaves, the pages before
it lose their bits and go to the end. The upper tiers stay as they are. -/
theorem admission_gains_or_exchanges (h : Free limits opened s)
    (ht : ticket ∈ opened) (window : Stamp) :
    ∃ spared victim rest evicted table,
      s.table.members .unknown ++ [ticket.page] = spared ++ victim :: rest ∧
      (∀ i ∈ spared, i ∈ s.table.referencedIds) ∧ victim ∉ s.table.referencedIds ∧
      s.cache.complete ticket.page ticket.attempt (.ok window) =
        .ok (evicted, { s.cache with table }) ∧
      s.table.KeepsUpper table ∧
      if s.table.residentCount < limits.capacity then s.table.Gains ticket.page window evicted table
      else s.table.Exchanges ticket.page window spared victim rest evicted table := by
  obtain ⟨l, hal⟩ := h.steady.aligned
  have hr := hal.shows
  have hidle := hal.not_mem (h.steady.idle ticket ht)
  have hid := h.lt_size ht
  obtain ⟨evicted, table, e, a⟩ := hr.admits hid hidle h.steady.within ticket.attempt window
  obtain ⟨spared, victim, rest, q⟩ := l.exists_split (hr.unreferenced hid hidle)
  refine ⟨spared, victim, rest, evicted, table, ?_, ?_, ?_, ?_, a.keepsUpper, ?_⟩
  · rw [hal.linked.members_eq]
    exact q.queue
  · intro i hi
    exact Table.mem_referencedIds.mpr (q.referenced_of_mem hi)
  · intro hv
    rw [Table.mem_referencedIds] at hv
    exact Bool.false_ne_true (q.unreferenced.symm.trans hv)
  · rw [← h.limits_eq] at e
    exact congrArg (· >>= _) e
  · rw [Table.residentCount, hal.total_eq]
    split
    case isTrue hfree => exact a.gains hfree
    case isFalse hfull => exact a.exchanges hfull q

/-- Of two places the middle tier takes one. Page 0 has been demoted with its bit set, which holds
it when page 2 comes: that page leaves again at once. -/
theorem admission_exchanges_new_page_itself :
    ∃ s evicted table, Free ⟨2, 1, 1⟩ [⟨2, 1, ⟨16, 3⟩⟩] s ∧ s.table.members .unknown = [0] ∧
      s.table.members .shortTerm = [1] ∧ s.table.referencedIds = [0, 1] ∧
      s.cache.complete 2 1 (.ok ⟨16, 3⟩) = .ok (evicted, { s.cache with table }) ∧
      evicted.map Eviction.page = [2] ∧ table.members .unknown = [0] ∧
      table.members .shortTerm = [1] ∧ 0 ∉ table.referencedIds ∧ 1 ∈ table.referencedIds := by
  have h₀ : Reachable ⟨2, 1, 1⟩ [] _ := .operated (acquisition 1 none) <|
    .operated (acquisition 1 none) <| .operated (acquisition 0 none) <|
    .operated (acquisition 0 none) <| .operated (.grow 2 8) .fresh
  have h : Free ⟨2, 1, 1⟩ [⟨2, 1, ⟨16, 3⟩⟩] _ := .between (.entered 2 0 h₀ rfl rfl)
  obtain ⟨spared, victim, rest, evicted, table, hq, hspared, hv, e, hupper, hx⟩ :=
    admission_gains_or_exchanges h List.mem_cons_self ⟨16, 3⟩
  have hx := (if_neg (by decide +kernel)).mp hx
  have hq : [0, 2] = spared ++ victim :: rest := hq
  have hbits : ∀ i, i = 0 ∨ i = 1 → i ∈ [0, 1] := by simp
  rcases spared with _ | ⟨a, _ | ⟨b, more⟩⟩
  · cases hq
    exact absurd (hbits 0 (Or.inl rfl)) hv
  · cases hq
    refine ⟨_, evicted, table, h, rfl, rfl, rfl, e, hx.evicted, hx.unknown,
      hupper.members .shortTerm (by decide), ?_, ?_⟩
    · intro h₀
      exact ((hx.referenced 0).mp h₀).2 (List.mem_singleton_self 0)
    · apply (hx.referenced 1).mpr
      exact ⟨hbits 1 (Or.inr rfl), by decide⟩
  · simp at hq

end Session

end RecordCache
