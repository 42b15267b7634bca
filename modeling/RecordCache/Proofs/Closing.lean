import RecordCache.Proofs.Alike
import RecordCache.Proofs.Moments
/-! Closing a cache: evicting every page by force. It leaves lists without members, and pages that
know nothing but their addresses and the numbers and failures of their loads, which no later
operation shows. A closed cache is therefore as good as a new one with the same pages. -/
namespace RecordCache

variable {W V U : Type} {limits : Limits} {r : Roster} {ids : List PageId} {s b : Session}

namespace Table

variable {t : Table W} {u : Table V}

structure Cleared (t : Table W) : Prop where
  pages : ∀ (id : PageId) (page : Page W), t.pages[id]? = some page →
    page.isResident = false ∧ page.isLinked = false ∧ page.prev? = none ∧ page.next? = none ∧
      page.referenced = false ∧ page.tier = .unknown
  members : ∀ tier, t.members tier = []
  chains : t.chains = PerTier.const {}
  census : t.census = Census.empty

theorem Aligned.cleared (h : t.Aligned (PerTier.const [])) : t.Cleared := by
  refine ⟨?_, ?_, PerTier.ext_get fun tier => ?_, h.census_eq⟩
  · intro id page hp
    exact h.page_of_idle hp fun tier => by simp
  · intro tier
    rw [h.linked.members_eq, PerTier.get_const]
  · have hhead := h.linked.head?_eq tier
    have htail := h.linked.tail?_eq tier
    have hsize := h.linked.size tier
    rw [PerTier.get_const] at hhead htail hsize ⊢
    cases hc : t.chains.get tier
    simp_all

theorem Cleared.seen_page (h : t.Cleared) (hr : ∀ i m, t.loadOf i = some m → m.AtRest)
    (f : W → V) (i : PageId) :
    (t.seen f).pages[i]? = (t.addressOf i).map fun address => { address } := by
  rw [seen, getElem?_recast, addressOf]
  cases hp : t.pages[i]? with
  | none => rfl
  | some page =>
    obtain ⟨hw, hl, hprev, hnext, hb, ht⟩ := h.pages i page hp
    obtain ⟨hload, hwait, -⟩ := hr i page.loadState (loadOf_of_page hp)
    rw [Page.isResident, Option.isSome_eq_false_iff, Option.isNone_iff_eq_none] at hw
    rw [Page.isLinked, Option.isSome_eq_false_iff, Option.isNone_iff_eq_none] at hl
    simp only [Option.map_some, Page.recast, LoadState.seen, hw, hl, hprev, hnext, hb, ht, hload,
      hwait, Option.map_none]

theorem Cleared.seen_eq (h : t.Cleared) (h' : u.Cleared)
    (hr : ∀ i m, t.loadOf i = some m → m.AtRest) (hr' : ∀ i m, u.loadOf i = some m → m.AtRest)
    (ha : t.addressOf = u.addressOf) (f : W → U) (g : V → U) : t.seen f = u.seen g := by
  have hpages : (t.seen f).pages = (u.seen g).pages := by
    apply Array.ext_getElem?
    intro i
    rw [h.seen_page hr, h'.seen_page hr', ha]
  have hchains : (t.seen f).chains = (u.seen g).chains := h.chains.trans h'.chains.symm
  have hcensus : (t.seen f).census = (u.seen g).census := h.census.trans h'.census.symm
  exact Table.mk.injEq .. ▸ ⟨hpages, hchains, hcensus⟩

theorem addressOf_growTo_size (t : Table W) (recordsPerPage : Nat) :
    (t.growTo t.size recordsPerPage).addressOf t.size = some (t.size * recordsPerPage) := by
  simp [addressOf, growTo, size]

end Table

theorem Roster.mem_foldl_leave {i : PageId} {tier : Tier} (hd : ∀ u, (r.lineup.get u).Nodup)
    (hi : i ∈ (ids.foldl Roster.leave r).lineup.get tier) : i ∈ r.lineup.get tier ∧ i ∉ ids := by
  induction ids generalizing r with
  | nil => exact ⟨hi, List.not_mem_nil⟩
  | cons id ids ih =>
    have hd' : ∀ u, ((r.leave id).lineup.get u).Nodup := by
      intro u
      rw [Roster.leave, Lineup.get_without]
      exact (hd u).erase id
    obtain ⟨hm, hids⟩ := ih hd' hi
    obtain ⟨hne, hm⟩ := (Lineup.mem_without hd).mp hm
    exact ⟨hm, List.not_mem_cons_of_ne_of_not_mem hne hids⟩

theorem Table.Shows.evictAll_residentIds {t : Table W} (h : t.Shows r)
    (hc : t.residentCount ≤ limits.capacity) :
    ∃ evicted t', t.forceEvictAll = .ok (evicted, t') ∧
      evicted.map Eviction.page = t.residentIds ∧ t'.Aligned (PerTier.const []) ∧
      Released t t' := by
  obtain ⟨evicted, t', e, hx, h', -, ht, -⟩ :=
    h.evictAll t.nodup_residentIds (fun _ hi => h.aligned.mem_residentIds.mp hi) hc
  have hempty : (t.residentIds.foldl Roster.leave r).lineup = PerTier.const [] := by
    refine PerTier.ext_get fun tier => ?_
    rw [PerTier.get_const]
    refine List.eq_nil_iff_forall_not_mem.mpr fun i hi => ?_
    obtain ⟨hm, hn⟩ := Roster.mem_foldl_leave h.aligned.linked.nodup hi
    exact hn (h.aligned.mem_residentIds.mpr ⟨tier, hm⟩)
  exact ⟨evicted, t', e, hx, hempty ▸ h'.aligned, ht⟩

namespace Session

/-- New sessions, in which nothing but pages has been created. -/
inductive Fresh (limits : Limits) : Session → Prop where
  | new : Fresh limits (ofLimits limits)
  | grown {s : Session} (id recordsPerPage : Nat) : Fresh limits s →
      Fresh limits (s.step (.grow id recordsPerPage)).2

theorem Fresh.reachable (h : Fresh limits b) : Reachable limits [] b := by
  induction h with
  | new => exact .fresh
  | grown id recordsPerPage _ ih => exact .operated (.grow id recordsPerPage) ih

theorem Fresh.aligned (h : Fresh limits b) : b.table.Aligned (PerTier.const []) := by
  induction h with
  | new => exact .empty
  | grown id recordsPerPage _ ih =>
    simp only [step]
    exact ih.growTo id recordsPerPage

theorem Fresh.unused (h : Fresh limits b) : b.loads = 0 ∧ b.evictions = [] := by
  induction h with
  | new => exact ⟨rfl, rfl⟩
  | grown id recordsPerPage _ ih =>
    simp only [step]
    exact ih

theorem exists_fresh_of_dvd {t : Table W}
    (hd : ∀ i address, t.addressOf i = some address → i ∣ address) {n : Nat} (hn : n ≤ t.size) :
    ∃ b, Fresh limits b ∧ b.table.size = n ∧
      ∀ i < n, b.table.addressOf i = t.addressOf i := by
  induction n with
  | zero => exact ⟨ofLimits limits, .new, rfl, fun i hi => absurd hi (Nat.not_lt_zero i)⟩
  | succ n ih =>
    obtain ⟨b, hb, hsize, ha⟩ := ih (Nat.le_of_succ_le hn)
    obtain ⟨page, hp⟩ := Table.exists_page hn
    have hpage : t.addressOf n = some page.address := congrArg (Option.map Page.address) hp
    obtain ⟨recordsPerPage, hr⟩ := hd n page.address hpage
    refine ⟨_, hb.grown n recordsPerPage, ?_, ?_⟩
    · simp only [step]
      refine (Table.size_growTo ..).trans ?_
      have hsize' : b.cache.table.size = n := hsize
      omega
    · intro i hi
      simp only [step]
      by_cases hlt : i < n
      · have hib : i < b.table.size := hsize ▸ hlt
        refine Eq.trans ?_ (ha i hlt)
        exact congrArg (Option.map Page.address) (Table.getElem?_growTo_of_lt _ n _ hib)
      · obtain rfl : i = n := by omega
        have hnew := Table.addressOf_growTo_size b.table recordsPerPage
        rw [hsize] at hnew
        rw [hpage, hr]
        exact hnew

theorem Reachable.exists_fresh {opened : List Ticket} (h : Reachable limits opened s) :
    ∃ b, Fresh limits b ∧ b.table.addressOf = s.table.addressOf := by
  obtain ⟨deeds, c⟩ := h.course
  obtain ⟨r, l⟩ := c.leads_fresh
  have hd : ∀ i address, s.table.addressOf i = some address → i ∣ address := by
    intro i address hi
    exact (l.addresses i address hi).resolve_left nofun
  obtain ⟨b, hb, hsize, ha⟩ := exists_fresh_of_dvd hd (Nat.le_refl _)
  refine ⟨b, hb, funext fun i => ?_⟩
  by_cases hi : i < s.table.size
  · exact ha i hi
  · have hle : s.table.size ≤ i := Nat.le_of_not_lt hi
    have hnone : s.table.pages[i]? = none := Array.getElem?_eq_none hle
    have hnone' : b.table.pages[i]? = none := Array.getElem?_eq_none (hsize.trans_le hle)
    rw [Table.addressOf, Table.addressOf, hnone, hnone']

theorem Sound.atRest (h : Sound limits [] s) (i : PageId) (m : LoadState Stamp)
    (hm : s.table.loadOf i = some m) : m.AtRest := by
  obtain ⟨hk, hn, hl⟩ := h.loads hm
  have hnil : i ∉ ([] : List Ticket).map Ticket.page := List.not_mem_nil
  rw [h.queued_eq_zero hnil] at hn
  exact ⟨Bool.eq_false_iff.mpr (mt hl.mp hnil), hn, hk⟩

theorem Sound.blocked_eq_nil (h : Sound limits [] s) : s.blocked = [] := by
  refine List.eq_nil_iff_forall_not_mem.mpr fun w hw => ?_
  obtain ⟨ticket, ht, -⟩ := h.blocked w hw
  exact List.not_mem_nil ht

/-- What is left of the session `s` when it has been closed, with the answer. -/
structure Closes (s : Session) (x : Answer × Session) : Prop where
  answer : x.1 = .evictedAll s.table.residentIds.length
  evictions : x.2.evictions.map Eviction.page =
    s.evictions.map Eviction.page ++ s.table.residentIds
  cleared : x.2.table.Cleared
  size : x.2.table.size = s.table.size
  addresses : x.2.table.addressOf = s.table.addressOf
  loads : x.2.loads = s.loads

/-- Two runs with the same results, but for the loads and the evictions that came before the
first. -/
structure SameRun (base : Nat) (before : List Eviction) (x y : List Answer × Session) : Prop where
  answers : Answer.allSeen (fun stamp => stamp) x.1 = Answer.allSeen (Stamp.later base) y.1
  evictions : x.2.evictions = before ++ y.2.evictions
  members : ∀ tier, x.2.table.members tier = y.2.table.members tier
  referencedIds : x.2.table.referencedIds = y.2.table.referencedIds
  census : x.2.table.census = y.2.table.census
  pages : x.2.table.seen (fun stamp => stamp) = y.2.table.seen (Stamp.later base)
  loads : x.2.loads = base + y.2.loads

theorem Free.closes {opened : List Ticket} (h : Free limits opened s) :
    s.Closes (s.step .forceEvictAll) := by
  obtain ⟨l, hal⟩ := h.steady.aligned
  obtain ⟨evicted, t', e, hx, h', ht⟩ := hal.shows.evictAll_residentIds h.steady.within
  simp only [step, e]
  refine ⟨?_, ?_, h'.cleared, Table.size_eq_of_addressOf ht.addresses, ht.addresses, rfl⟩
  · rw [← hx, List.length_map]
  · rw [← hx]
    exact List.map_append

theorem Twins.sameRun {base : Nat} {before : List Eviction} {oa ob : List Ticket} {a b : Session}
    (h : Twins limits base before oa ob a b) (ops : List Op) :
    SameRun base before (a.run ops) (b.run ops) := by
  obtain ⟨answers, alike⟩ := Twins.run h ops
  obtain ⟨l, hal⟩ := (h.left.run_kept ops).sound.aligned
  obtain ⟨l', hal'⟩ := (h.right.run_kept ops).sound.aligned
  have hseen := alike.table
  have hs := hal.recast (fun stamp => stamp) fun _ => LoadState.seen
  have hs' := hal'.recast (Stamp.later base) fun _ => LoadState.seen
  have hl : l = l' := by
    change (Table.seen _ _).Aligned l at hs
    rw [hseen] at hs
    exact hs.linked.unique hs'.linked
  have hbits : (a.run ops).2.table.isReferenced = (b.run ops).2.table.isReferenced := by
    have e := congrArg Table.isReferenced hseen
    rwa [Table.seen, Table.seen, Table.isReferenced_recast, Table.isReferenced_recast] at e
  have hcensus := congrArg Table.census hseen
  refine ⟨answers, alike.evictions, fun tier => ?_, ?_, hcensus, hseen, alike.loads⟩
  · rw [hal.linked.members_eq, hal'.linked.members_eq, hl]
  · rw [Table.referencedIds_eq, Table.referencedIds_eq, Table.size_of_seen hseen, hbits]

theorem Reachable.twins_closed (h : Reachable limits [] s) (hb : Fresh limits b)
    (ha : b.table.addressOf = s.table.addressOf) :
    Twins limits s.loads (s.step .forceEvictAll).2.evictions [] []
      (s.step .forceEvictAll).2 b := by
  have hk := h.sound.step_kept .forceEvictAll
  have hc := (Free.between h).closes
  obtain ⟨hloads, hevictions⟩ := hb.unused
  have hsb := hb.reachable.sound
  refine ⟨hk.sound, hsb, rfl, hk.sound.limits_eq.trans hsb.limits_eq.symm, ?_, ?_, ?_, ?_⟩
  · exact hc.cleared.seen_eq hb.aligned.cleared hk.sound.atRest hsb.atRest
      (hc.addresses.trans ha.symm) _ _
  · rw [hk.sound.blocked_eq_nil, hsb.blocked_eq_nil]
  · rw [hloads]
    exact hc.loads
  · rw [hevictions, List.append_nil]

/-- Closing resets a cache. Every resident page is evicted, the lists and the counts are empty, and
the pages keep their addresses. After that, while nothing is in progress, the cache works like a new
one with the same pages, of which there is one: whatever operations follow, with loads, waiters and
further operations inside them, both give the same results and end up in the same state, up to the
numbers of loads. -/
theorem closing_resets (limits : Limits) :
    (∀ opened s, Free limits opened s → s.Closes (s.step .forceEvictAll)) ∧
    ∀ s, Reachable limits [] s →
      (∃ b, Fresh limits b ∧ b.table.addressOf = s.table.addressOf) ∧
      ∀ b, Fresh limits b → b.table.addressOf = s.table.addressOf → ∀ ops,
        SameRun s.loads (s.step .forceEvictAll).2.evictions
          ((s.step .forceEvictAll).2.run ops) (b.run ops) := by
  constructor
  · intro opened s h
    exact h.closes
  · intro s h
    refine ⟨h.exists_fresh, ?_⟩
    intro b hb ha ops
    exact (h.twins_closed hb ha).sameRun ops

/-- Page 1 has been handed to a caller that waited for it, without having stayed, and could not be
loaded again. Once the cache has been closed, nothing of this shows. -/
theorem closing_resets_after_failure :
    ∃ s b, Reachable ⟨1, 1, 1⟩ [] s ∧ Fresh ⟨1, 1, 1⟩ b ∧
      s.table.loadOf 1 = some { attempt := 2, failure? := some ⟨.noSuchFile⟩ } ∧
      s.table.residentIds = [0] ∧ (s.step .forceEvictAll).1 = .evictedAll 1 ∧
      SameRun 3 (s.step .forceEvictAll).2.evictions
        ((s.step .forceEvictAll).2.run [.acquire 1 none 2 [acquisition 0 none], .inspect 1])
        (b.run [.acquire 1 none 2 [acquisition 0 none], .inspect 1]) := by
  have h : Reachable ⟨1, 1, 1⟩ [] _ := .operated (acquisition 1 (some ⟨.noSuchFile⟩)) <|
    .operated (.acquire 1 none 1 []) <| .operated (acquisition 0 none) <|
    .operated (acquisition 0 none) <| .operated (.grow 1 8) .fresh
  have hb : Fresh ⟨1, 1, 1⟩ _ := .grown 1 8 .new
  obtain ⟨hcloses, hruns⟩ := closing_resets ⟨1, 1, 1⟩
  refine ⟨_, _, h, hb, rfl, rfl, (hcloses [] _ (.between h)).answer,
    (hruns _ h).2 _ hb (funext fun i => ?_) _⟩
  match i with
  | 0 | 1 | _ + 2 => rfl

end Session

end RecordCache
