import RecordCache.Proofs.Integrity
import RecordCache.Table.Integrity
/-! What the integrity check finds out. Each part of it passes exactly if what it looks at is in
order, and the parts together leave no gap: a walk that ends meets no page twice, a page that names
its list is in no other, and if as many pages are linked as the lists say they have, there is none
outside them. So the check passes on the well-formed tables and on no others. -/
namespace RecordCache

variable {W : Type} {l : Lineup} {tier : Tier} {limit limit' : Nat} {ids : List PageId}
  {cursor? : Option PageId} {result : Except Fault Unit}

theorem Fault.guard_eq_ok_iff {p : Prop} [Decidable p] {fault : Fault}
    (next : Unit → Except Fault Unit) :
    (if p then throw fault >>= next else next ()) = .ok () ↔ ¬p ∧ next () = .ok () := by
  split
  case isTrue hp => exact iff_of_false nofun fun h => h.1 hp
  case isFalse hp => exact (and_iff_right hp).symm

/-- The page is in a list exactly while it is resident, and then in the list of its tier. -/
def Page.InPlace (page : Page W) : Prop :=
  page.isResident = page.isLinked ∧ ∀ tier, page.list? = some tier → page.tier = tier

namespace Table

variable {t : Table W}

/-- One list by itself: both ways along it meet the same pages, of which there are as many as the
list says, and each of them names the list. -/
structure Coherent (t : Table W) (tier : Tier) : Prop where
  forward : Path (t.via Page.next?) (t.chains.get tier).head? (t.members tier)
  backward : Path (t.via Page.prev?) (t.chains.get tier).tail? (t.members tier).reverse
  size : (t.chains.get tier).size = (t.members tier).length
  owned : ∀ i ∈ t.members tier, t.via Page.list? i = some tier

theorem walk_mono {step : Page W → Option PageId} {found : Except Fault (List PageId)}
    (h : t.walk step limit cursor? = some found) (hl : limit ≤ limit') :
    t.walk step limit' cursor? = some found := by
  induction limit generalizing limit' cursor? found with
  | zero =>
    cases cursor? with
    | none => cases limit' <;> exact h
    | some i => cases h
  | succ limit ih =>
    obtain ⟨limit', rfl⟩ := Nat.exists_eq_add_of_le' (Nat.one_le_of_lt hl)
    cases cursor? with
    | none => exact h
    | some i =>
      rw [walk] at h ⊢
      cases hp : t.pages[i]? with
      | none =>
        rw [hp] at h
        exact h
      | some page =>
        rw [hp] at h
        obtain ⟨rest, hw, hr⟩ := Option.map_eq_some_iff.mp h
        exact Option.map_eq_some_iff.mpr ⟨rest, ih hw (Nat.le_of_succ_le_succ hl), hr⟩

/-- A walk that ends comes back to no page, so it is no longer than the table. -/
theorem length_le_size_of_path {step : Page W → Option PageId}
    (h : Path (t.via step) cursor? ids) (hs : ∀ i ∈ ids, i < t.size) : ids.length ≤ t.size :=
  length_le_of_nodup h.nodup hs

theorem members_eq_of_forward (h : t.forward limit tier = some (.ok ids)) :
    t.members tier = ids := by
  obtain ⟨hpath, -, hs⟩ := walk_eq_ok_iff.mp h
  have hwalk : t.forward t.size tier = some (.ok ids) :=
    walk_eq_ok_iff.mpr ⟨hpath, length_le_size_of_path hpath hs, hs⟩
  rw [members, hwalk]

/-- The backward walk is the walk along the other link, but that to pass its bound is a fault. -/
theorem backward_eq_ok_iff {room : Nat} : t.backward tier room cursor? = .ok ids ↔
    t.walk Page.prev? room cursor? = some (.ok ids) := by
  induction room generalizing cursor? ids with
  | zero => cases cursor? <;> simp [Table.backward, walk]
  | succ room ih =>
    cases cursor? with
    | none => simp [Table.backward, walk]
    | some i =>
      rw [Table.backward, walk]
      cases hp : t.pages[i]? with
      | none => simp
      | some page =>
        constructor
        · intro h
          cases hb : t.backward tier room page.prev? with
          | error fault => simp only [hb] at h; cases h
          | ok rest =>
            simp only [hb] at h
            cases h
            simp only [ih.mp hb]
            rfl
        · intro h
          obtain ⟨found, hw, hf⟩ := Option.map_eq_some_iff.mp h
          cases found with
          | error fault => cases hf
          | ok rest =>
            cases hf
            simp only [ih.mpr hw]
            rfl

theorem checkOwned_eq_ok_iff :
    t.checkOwned tier ids = .ok () ↔ ∀ i ∈ ids, t.via Page.list? i = some tier := by
  induction ids with
  | nil => simp [checkOwned]
  | cons i ids ih =>
    rw [checkOwned, List.forall_mem_cons, via]
    cases hp : t.pages[i]? with
    | none => simp
    | some page => by_cases hl : page.list? = some tier <;> simp [hl, ih]

theorem checkMembers_eq_ok_iff : t.checkMembers tier ids = .ok () ↔
    ids.length = (t.chains.get tier).size ∧
      t.backward tier (t.chains.get tier).size (t.chains.get tier).tail? = .ok ids.reverse ∧
      t.checkOwned tier ids = .ok () := by
  unfold checkMembers
  rw [Fault.guard_eq_ok_iff, not_not]
  refine and_congr_right fun hsize => ?_
  cases hback : t.backward tier (t.chains.get tier).size (t.chains.get tier).tail? with
  | error fault => exact iff_of_false nofun nofun
  | ok back =>
    refine (Fault.guard_eq_ok_iff fun _ => t.checkOwned tier ids).trans ?_
    rw [not_not, Except.ok.injEq, eq_comm, List.reverse_eq_iff]

theorem coherent_of_checkChain (h : t.checkChain limit tier = some (.ok ())) :
    t.Coherent tier := by
  obtain ⟨found, hforward, hfound⟩ := Option.map_eq_some_iff.mp h
  cases found with
  | error fault => cases hfound
  | ok ids =>
    obtain ⟨hsize, hback, howned⟩ := checkMembers_eq_ok_iff.mp hfound
    obtain rfl := members_eq_of_forward hforward
    exact ⟨(walk_eq_ok_iff.mp hforward).1, (walk_eq_ok_iff.mp (backward_eq_ok_iff.mp hback)).1,
      hsize.symm, checkOwned_eq_ok_iff.mp howned⟩

theorem Coherent.checkChain_eq (h : t.Coherent tier) (hl : t.size ≤ limit) :
    t.checkChain limit tier = some (.ok ()) := by
  have within : ∀ i ∈ t.members tier, i < t.size := by
    intro i hi
    obtain ⟨page, hp, -⟩ := Option.bind_eq_some_iff.mp (h.owned i hi)
    exact lt_size_of_page hp
  have hlength := length_le_size_of_path h.forward within
  have hforward : t.forward limit tier = some (.ok (t.members tier)) :=
    walk_eq_ok_iff.mpr ⟨h.forward, Nat.le_trans hlength hl, within⟩
  have hback : t.walk Page.prev? (t.chains.get tier).size (t.chains.get tier).tail? =
      some (.ok (t.members tier).reverse) := by
    refine walk_eq_ok_iff.mpr ⟨h.backward, Nat.le_of_eq ?_, fun i hi =>
      within i (List.mem_reverse.mp hi)⟩
    rw [h.size, List.length_reverse]
  rw [checkChain, hforward]
  exact congrArg some (checkMembers_eq_ok_iff.mpr
    ⟨h.size.symm, backward_eq_ok_iff.mpr hback, checkOwned_eq_ok_iff.mpr h.owned⟩)

theorem checkChains_eq_ok_iff {tiers : List Tier} : t.checkChains limit tiers = some (.ok ()) ↔
    ∀ tier ∈ tiers, t.checkChain limit tier = some (.ok ()) := by
  induction tiers with
  | nil => simp [checkChains]
  | cons tier tiers ih =>
    rw [checkChains, List.forall_mem_cons, ← ih]
    cases t.checkChain limit tier with
    | none => exact iff_of_false nofun nofun
    | some result =>
      cases result with
      | error fault => exact iff_of_false nofun nofun
      | ok passed => exact (and_iff_right rfl).symm

theorem checkCensus_eq_ok_iff {tiers : List Tier} : t.checkCensus tiers = .ok () ↔
    ∀ tier ∈ tiers, (t.chains.get tier).size = t.census.get tier := by
  induction tiers with
  | nil => simp [checkCensus]
  | cons tier tiers ih =>
    rw [checkCensus, List.forall_mem_cons]
    by_cases h : (t.chains.get tier).size = t.census.get tier <;> simp [h, ih]

theorem checkPages_eq_ok_iff {pages : List (Page W)} {id : PageId} :
    checkPages id pages = .ok () ↔ ∀ page ∈ pages, page.InPlace := by
  induction pages generalizing id with
  | nil => simp [checkPages]
  | cons page pages ih =>
    rw [checkPages, List.forall_mem_cons, Page.InPlace]
    by_cases hr : page.isResident = page.isLinked
    · cases hl : page.list? with
      | none => simp [hr, ih]
      | some tier => by_cases ht : tier = page.tier <;> simp [hr, ih, ht, eq_comm]
    · simp [hr]

theorem checkCounts_eq_ok_iff : t.checkCounts = .ok () ↔
    t.linkedCount = t.listedCount ∧ t.checkCensus Tier.all = .ok () ∧
      checkPages 0 t.pages.toList = .ok () := by
  unfold checkCounts
  rw [Fault.guard_eq_ok_iff, not_not]
  refine and_congr_right fun hcount => ?_
  cases hcensus : t.checkCensus Tier.all with
  | error fault => exact iff_of_false nofun nofun
  | ok passed => exact (and_iff_right rfl).symm

theorem checkIntegrity_eq_ok_iff : t.checkIntegrity limit = some (.ok ()) ↔
    (∀ tier, t.checkChain limit tier = some (.ok ())) ∧ t.checkCounts = .ok () := by
  have hchains : t.checkChains limit Tier.all = some (.ok ()) ↔
      ∀ tier, t.checkChain limit tier = some (.ok ()) :=
    checkChains_eq_ok_iff.trans ⟨fun h tier => h tier (Tier.mem_all tier), fun h tier _ => h tier⟩
  rw [← hchains, checkIntegrity]
  cases hc : t.checkChains limit Tier.all with
  | none => exact iff_of_false nofun nofun
  | some result =>
    cases result with
    | error fault => exact iff_of_false nofun nofun
    | ok passed => simp

theorem listedCount_eq (h : ∀ tier, (t.chains.get tier).size = (l.get tier).length) :
    t.listedCount = l.all.length := by
  have hu := h .unknown
  have hs := h .shortTerm
  have hl := h .longTerm
  simp only [PerTier.get] at hu hs hl
  simp only [listedCount, Lineup.all, List.length_append, hu, hs, hl]

theorem Threaded.linkedCount_eq (h : t.Threaded l) : t.linkedCount = t.listedCount := by
  rw [linkedCount, ← idsWhere_length, h.idsWhere_length_eq fun hp => h.isLinked_iff hp,
    listedCount_eq h.size]

/-- If as many pages are linked as the lists have members, the linked pages are these. -/
theorem threaded_of_coherent (h : ∀ tier, t.Coherent tier)
    (hcount : t.linkedCount = t.listedCount) : t.Threaded t.lineup := by
  have owned : ∀ {u i}, i ∈ t.lineup.get u → t.via Page.list? i = some u := fun {u i} hi =>
    (h u).owned i (get_lineup t u ▸ hi)
  have nodup : ∀ u, (t.lineup.get u).Nodup := fun u => get_lineup t u ▸ (h u).forward.nodup
  have hall : t.lineup.all.Nodup := Lineup.nodup_all nodup fun ha hb =>
    Option.some.inj ((owned hb).symm.trans (owned ha))
  have hsub : t.lineup.all ⊆ t.idsWhere (·.isLinked) := by
    intro i hi
    obtain ⟨u, hu⟩ := Lineup.mem_all.mp hi
    obtain ⟨page, hp, hl⟩ := Option.bind_eq_some_iff.mp (owned hu)
    exact mem_idsWhere.mpr ⟨page, hp, by rw [Page.isLinked, hl]; rfl⟩
  have hlength : (t.idsWhere (·.isLinked)).length = t.lineup.all.length := by
    rw [idsWhere_length, ← listedCount_eq fun u => (get_lineup t u).symm ▸ (h u).size]
    exact hcount
  have hperm := (hall.subperm hsub).perm_of_length_le (Nat.le_of_eq hlength)
  refine ⟨fun u => ?_, fun u => ?_, fun u => ?_, nodup, fun u i => ⟨owned, fun hi => ?_⟩⟩
  · rw [get_lineup]
    exact (h u).forward
  · rw [get_lineup]
    exact (h u).backward
  · rw [get_lineup]
    exact (h u).size
  · obtain ⟨page, hp, hl⟩ := Option.bind_eq_some_iff.mp hi
    have hlinked : i ∈ t.idsWhere (·.isLinked) :=
      mem_idsWhere.mpr ⟨page, hp, by rw [Page.isLinked, hl]; rfl⟩
    obtain ⟨v, hv⟩ := Lineup.mem_all.mp (hperm.mem_iff.mpr hlinked)
    obtain rfl : v = u := Option.some.inj ((owned hv).symm.trans hi)
    exact hv

theorem WellFormed.coherent (h : t.WellFormed) (tier : Tier) : t.Coherent tier := by
  have ht := h.chained.threaded
  refine ⟨?_, ?_, h.size tier, fun i hi => ?_⟩
  · exact get_lineup t tier ▸ ht.forward tier
  · exact get_lineup t tier ▸ ht.backward tier
  · exact (ht.listed tier i).mp ((get_lineup t tier).symm ▸ hi)

theorem WellFormed.inPlace (h : t.WellFormed) : ∀ page ∈ t.pages.toList, page.InPlace := by
  intro page hpage
  obtain ⟨i, hi⟩ := List.mem_iff_getElem?.mp hpage
  rw [Array.getElem?_toList] at hi
  exact ⟨h.resident hi, fun _ => h.tier hi⟩

theorem WellFormed.checkIntegrity_eq (h : t.WellFormed) (hl : t.size ≤ limit) :
    t.checkIntegrity limit = some (.ok ()) := by
  refine checkIntegrity_eq_ok_iff.mpr ⟨fun tier => (h.coherent tier).checkChain_eq hl, ?_⟩
  refine checkCounts_eq_ok_iff.mpr ⟨h.chained.threaded.linkedCount_eq, ?_, ?_⟩
  · exact checkCensus_eq_ok_iff.mpr fun tier _ => (h.census tier).symm
  · exact checkPages_eq_ok_iff.mpr h.inPlace

theorem Aligned.checkIntegrity_ok (h : t.Aligned l) (hl : t.size ≤ limit) :
    t.checkIntegrity limit = some (.ok ()) :=
  h.wellFormed.checkIntegrity_eq hl

theorem wellFormed_of_checkIntegrity (h : t.checkIntegrity limit = some (.ok ())) :
    t.WellFormed := by
  obtain ⟨hchains, hcounts⟩ := checkIntegrity_eq_ok_iff.mp h
  obtain ⟨hlinked, hcensus, hpages⟩ := checkCounts_eq_ok_iff.mp hcounts
  have hinPlace : ∀ {id : PageId} {page : Page W}, t.pages[id]? = some page →
      page.InPlace := by
    intro id page hp
    refine checkPages_eq_ok_iff.mp hpages page (List.mem_iff_getElem?.mpr ⟨id, ?_⟩)
    rw [Array.getElem?_toList, hp]
  have hc := (threaded_of_coherent (fun tier => coherent_of_checkChain (hchains tier))
    hlinked).chained
  exact ⟨hc.forward, hc.backward, hc.nodup, hc.size, hc.listed, fun hp => (hinPlace hp).2 _,
    fun hp => (hinPlace hp).1,
    fun tier => (checkCensus_eq_ok_iff.mp hcensus tier (Tier.mem_all tier)).symm⟩

section

variable (hl : limit ≤ limit')
include hl

theorem checkChain_mono (h : t.checkChain limit tier = some result) :
    t.checkChain limit' tier = some result := by
  obtain ⟨found, hforward, hfound⟩ := Option.map_eq_some_iff.mp h
  exact Option.map_eq_some_iff.mpr ⟨found, walk_mono hforward hl, hfound⟩

theorem checkChains_mono {tiers : List Tier} (h : t.checkChains limit tiers = some result) :
    t.checkChains limit' tiers = some result := by
  induction tiers with
  | nil => exact h
  | cons tier tiers ih =>
    rw [checkChains] at h ⊢
    cases hc : t.checkChain limit tier with
    | none => rw [hc] at h; cases h
    | some found =>
      rw [hc] at h
      rw [checkChain_mono hl hc]
      cases found with
      | error fault => exact h
      | ok passed => exact ih h

theorem checkIntegrity_mono (h : t.checkIntegrity limit = some result) :
    t.checkIntegrity limit' = some result := by
  rw [checkIntegrity] at h ⊢
  cases hc : t.checkChains limit Tier.all with
  | none => rw [hc] at h; cases h
  | some found =>
    rw [hc] at h
    rw [checkChains_mono hl hc]
    exact h

end

/-- The check passes on the well-formed tables and on no others: it ends without a fault on each of
them, and wherever it ends, it does so without a fault exactly if the table is well formed. -/
theorem check_passes_iff_wellFormed (t : Table W) :
    ((∃ limit, t.checkIntegrity limit = some (.ok ())) ↔ t.WellFormed) ∧
    ∀ limit result, t.checkIntegrity limit = some result → (result = .ok () ↔ t.WellFormed) := by
  constructor
  · constructor
    · rintro ⟨limit, h⟩
      exact wellFormed_of_checkIntegrity h
    · intro h
      exact ⟨t.size, h.checkIntegrity_eq (Nat.le_refl _)⟩
  · intro limit result h
    constructor
    · rintro rfl
      exact wellFormed_of_checkIntegrity h
    · intro hw
      have hmore := checkIntegrity_mono (Nat.le_max_left limit t.size) h
      have hpasses := hw.checkIntegrity_eq (Nat.le_max_right limit t.size)
      exact Option.some.inj (hmore.symm.trans hpasses)

/-- Every list is in order, and page 2 names a list that it is not in. Let go, it is in order. -/
theorem check_finds_orphan :
    let t : Table Nat :=
      { pages := #[
          { address := 0, list? := some .unknown, next? := some 1, window? := some 7 },
          { address := 4, list? := some .unknown, prev? := some 0, window? := some 8 },
          { address := 8, tier := .longTerm, list? := some .longTerm, window? := some 9 }]
        chains := { unknown := ⟨some 0, some 1, 2⟩, shortTerm := {}, longTerm := {} }
        census := { unknown := 2, shortTerm := 0, longTerm := 0 } }
    let released : Table Nat := { t with pages := t.pages.set! 2 { address := 8 } }
    t.checkIntegrity 2 = some (.error .orphanedPages) ∧ ¬t.WellFormed ∧
      released.checkIntegrity 2 = some (.ok ()) ∧ released.WellFormed := by
  intro t released
  have hfault : t.checkIntegrity 2 = some (.error .orphanedPages) := by decide
  have hpass : released.checkIntegrity 2 = some (.ok ()) := by decide
  have hne : (.error .orphanedPages : Except Fault Unit) ≠ .ok () := nofun
  exact ⟨hfault, mt ((check_passes_iff_wellFormed t).2 2 _ hfault).mpr hne, hpass,
    ((check_passes_iff_wellFormed released).2 2 _ hpass).mp rfl⟩

end Table

end RecordCache
