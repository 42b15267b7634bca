import Mathlib.Data.List.Perm.Subperm
import RecordCache.Proofs.Alignment
/-! Well-formed tables. Well-formedness is said with the walks along the links, the members they
meet and the pages' own records. As far as it concerns the lists, it is to be threaded along a
lineup, the one that the walks find; alignment with a lineup gives the rest. -/
namespace RecordCache

variable {W : Type} {l : Lineup} {id : PageId} {tier : Tier}

theorem length_le_of_nodup {ids : List PageId} {n : Nat} (nodup : ids.Nodup)
    (h : ∀ i ∈ ids, i < n) : ids.length ≤ n := by
  have hsub : ids ⊆ List.range n := fun i hi => List.mem_range.mpr (h i hi)
  simpa using (nodup.subperm hsub).length_le

theorem Lineup.nodup_all (hd : ∀ u, (l.get u).Nodup)
    (apart : ∀ {a b : Tier} {i : PageId}, i ∈ l.get a → i ∈ l.get b → b = a) : l.all.Nodup := by
  refine List.nodup_append.mpr ⟨List.nodup_append.mpr ⟨hd .unknown, hd .shortTerm, ?_⟩,
    hd .longTerm, ?_⟩
  · rintro i hi j hj rfl
    cases apart (show i ∈ l.get .unknown from hi) (show i ∈ l.get .shortTerm from hj)
  · rintro i hi j hj rfl
    rcases List.mem_append.mp hi with hi | hi
    · cases apart (show i ∈ l.get .unknown from hi) (show i ∈ l.get .longTerm from hj)
    · cases apart (show i ∈ l.get .shortTerm from hi) (show i ∈ l.get .longTerm from hj)

/-- The walks along both links of every list end and meet the same members, of which there are as
many as the list says; each page is in the list it names and in no other. -/
structure Table.Chained (t : Table W) : Prop where
  forward : ∀ tier, t.walk Page.next? t.size (t.chains.get tier).head? =
    some (.ok (t.members tier))
  backward : ∀ tier, t.walk Page.prev? t.size (t.chains.get tier).tail? =
    some (.ok (t.members tier).reverse)
  nodup : ∀ tier, (t.members tier).Nodup
  size : ∀ tier, (t.chains.get tier).size = (t.members tier).length
  listed : ∀ {id : PageId} {page : Page W}, t.pages[id]? = some page → ∀ tier, id ∈ t.members tier ↔
    page.list? = some tier

/-- The walks along both links of every list end and meet the same members; each page is in the list
it names and in no other, which is the list of its tier; exactly the linked pages hold windows. -/
structure Table.WellFormed (t : Table W) : Prop where
  forward : ∀ tier, t.walk Page.next? t.size (t.chains.get tier).head? =
    some (.ok (t.members tier))
  backward : ∀ tier, t.walk Page.prev? t.size (t.chains.get tier).tail? =
    some (.ok (t.members tier).reverse)
  nodup : ∀ tier, (t.members tier).Nodup
  size : ∀ tier, (t.chains.get tier).size = (t.members tier).length
  listed : ∀ {id : PageId} {page : Page W}, t.pages[id]? = some page → ∀ tier, id ∈ t.members tier ↔
    page.list? = some tier
  tier : ∀ {id : PageId} {page : Page W} {tier}, t.pages[id]? = some page →
    page.list? = some tier → page.tier = tier
  resident : ∀ {id : PageId} {page : Page W}, t.pages[id]? = some page →
    page.isResident = page.isLinked
  census : ∀ tier, t.census.get tier = (t.chains.get tier).size

namespace Table

variable {t : Table W}

def lineup (t : Table W) : Lineup :=
  { unknown := t.members .unknown
    shortTerm := t.members .shortTerm
    longTerm := t.members .longTerm }

@[simp] theorem get_lineup (t : Table W) (tier : Tier) : t.lineup.get tier = t.members tier := by
  cases tier <;> rfl

theorem walk_eq_ok_iff {step : Page W → Option PageId} {limit : Nat} {cursor? : Option PageId}
    {ids : List PageId} : t.walk step limit cursor? = some (.ok ids) ↔
      Path (t.via step) cursor? ids ∧ ids.length ≤ limit ∧ ∀ i ∈ ids, i < t.size := by
  -- On the bound: a step takes one off it, and one page off the path.
  induction limit generalizing cursor? ids with
  | zero =>
    cases cursor? with
    | none => cases ids <;> simp [walk, Path]
    | some i => cases ids <;> simp [walk, Path]
  | succ limit ih =>
    cases cursor? with
    | none => cases ids <;> simp [walk, Path]
    | some i =>
      rw [walk]
      cases hp : t.pages[i]? with
      | none =>
        refine iff_of_false (by simp) ?_
        rintro ⟨h, -, hs⟩
        cases ids with
        | nil => exact absurd h (by simp [Path])
        | cons j ids =>
          have hij : i = j := Option.some.inj h.1
          subst hij
          simp only [Array.getElem?_eq_none_iff] at hp
          exact Nat.not_lt.mpr hp (hs i List.mem_cons_self)
      | some page =>
        have hi := lt_size_of_page hp
        have hv : t.via step i = step page := via_of_page hp step
        cases ids with
        | nil =>
          refine iff_of_false (fun h => ?_) fun h => absurd h.1 (by simp [Path])
          simp only [Option.map_eq_some_iff] at h
          obtain ⟨r, -, hr⟩ := h
          cases r <;> simp [Except.map] at hr
        | cons j ids =>
          simp only [Path, List.length_cons, Nat.add_le_add_iff_right, List.forall_mem_cons,
            Option.some.injEq]
          constructor
          · intro h
            obtain ⟨r, hw, hr⟩ := Option.map_eq_some_iff.mp h
            cases r with
            | error _ => cases hr
            | ok is =>
              simp only [Except.map, Except.ok.injEq, List.cons.injEq] at hr
              obtain ⟨rfl, rfl⟩ := hr
              obtain ⟨hpath, hlen, hs⟩ := ih.mp hw
              exact ⟨⟨rfl, hv ▸ hpath⟩, hlen, hi, hs⟩
          · rintro ⟨⟨rfl, hpath⟩, hlen, -, hs⟩
            rw [ih.mpr ⟨hv ▸ hpath, hlen, hs⟩]
            rfl

theorem idsWhere_length (t : Table W) (p : Page W → Bool) :
    (t.idsWhere p).length = t.pages.toList.countP p := by
  have key : ∀ pages : List (Page W),
      (List.range pages.length).countP (fun i => pages[i]?.any p) = pages.countP p := by
    intro pages
    induction pages with
    | nil => rfl
    | cons page pages ih =>
      rw [List.length_cons, List.range_succ_eq_map, List.countP_cons, List.countP_map,
        List.countP_cons, ← ih]
      rfl
  rw [idsWhere, ← List.countP_eq_length_filter, ← key]
  simp [size]

namespace Threaded

theorem length_le_size (h : t.Threaded l) (tier : Tier) : (l.get tier).length ≤ t.size :=
  length_le_of_nodup (h.nodup tier) fun _ hi => h.lt_size hi

theorem walk_forward (h : t.Threaded l) (tier : Tier) {limit : Nat} (hl : t.size ≤ limit) :
    t.walk Page.next? limit (t.chains.get tier).head? = some (.ok (l.get tier)) :=
  walk_eq_ok_iff.mpr ⟨h.forward tier, Nat.le_trans (h.length_le_size tier) hl,
    fun _ hi => h.lt_size hi⟩

theorem walk_backward (h : t.Threaded l) (tier : Tier) {limit : Nat} (hl : t.size ≤ limit) :
    t.walk Page.prev? limit (t.chains.get tier).tail? = some (.ok (l.get tier).reverse) :=
  walk_eq_ok_iff.mpr ⟨h.backward tier,
    Nat.le_trans (by simpa using h.length_le_size tier) hl,
    fun _ hi => h.lt_size (List.mem_reverse.mp hi)⟩

theorem members_eq (h : t.Threaded l) (tier : Tier) : t.members tier = l.get tier := by
  rw [members, Table.forward, h.walk_forward tier (Nat.le_refl _)]

theorem nodup_all (h : t.Threaded l) : l.all.Nodup :=
  Lineup.nodup_all h.nodup fun ha hb => h.tier_eq ha hb

theorem idsWhere_length_eq (h : t.Threaded l) {p : Page W → Bool}
    (hp : ∀ {id page}, t.pages[id]? = some page → (p page ↔ ∃ tier, id ∈ l.get tier)) :
    (t.idsWhere p).length = l.all.length := by
  refine List.Perm.length_eq ((List.perm_ext_iff_of_nodup ?_ h.nodup_all).mpr fun i => ?_)
  · exact List.nodup_range.filter _
  · rw [mem_idsWhere, Lineup.mem_all]
    constructor
    · rintro ⟨page, hq, hx⟩
      exact (hp hq).mp hx
    · rintro ⟨tier, hm⟩
      obtain ⟨page, hq⟩ := exists_page (h.lt_size hm)
      exact ⟨page, hq, (hp hq).mpr ⟨tier, hm⟩⟩

theorem page_linked {page : Page W} (h : t.Threaded l) (hp : t.pages[id]? = some page) :
    page.list? = some tier ↔ id ∈ l.get tier := by
  rw [h.listed, via_of_page hp]

theorem isLinked_iff {page : Page W} (h : t.Threaded l) (hp : t.pages[id]? = some page) :
    page.isLinked ↔ ∃ tier, id ∈ l.get tier := by
  rw [Page.isLinked, Option.isSome_iff_exists]
  exact exists_congr fun _ => h.page_linked hp

theorem lineup_eq (h : t.Threaded l) : t.lineup = l :=
  PerTier.ext_get fun tier => (get_lineup t tier).trans (h.members_eq tier)

theorem chained (h : t.Threaded l) : t.Chained := by
  constructor
  · intro tier
    rw [h.members_eq]
    exact h.walk_forward tier (Nat.le_refl _)
  · intro tier
    rw [h.members_eq]
    exact h.walk_backward tier (Nat.le_refl _)
  · intro tier
    rw [h.members_eq]
    exact h.nodup tier
  · intro tier
    rw [h.members_eq, h.size]
  · intro id page hp tier
    rw [h.members_eq, h.page_linked hp]

end Threaded

theorem Chained.threaded (h : t.Chained) : t.Threaded t.lineup := by
  have within : ∀ {tier i}, i ∈ t.members tier → i < t.size := fun {tier i} hi =>
    (walk_eq_ok_iff.mp (h.forward tier)).2.2 i hi
  constructor
  · intro tier
    rw [get_lineup]
    exact (walk_eq_ok_iff.mp (h.forward tier)).1
  · intro tier
    rw [get_lineup]
    exact (walk_eq_ok_iff.mp (h.backward tier)).1
  · intro tier
    rw [get_lineup, h.size]
  · intro tier
    rw [get_lineup]
    exact h.nodup tier
  · intro tier i
    rw [get_lineup, via]
    cases hp : t.pages[i]? with
    | none =>
      rw [Array.getElem?_eq_none_iff] at hp
      exact iff_of_false (fun hi => Nat.not_lt.mpr hp (within hi)) (by simp)
    | some page => exact h.listed hp tier

theorem WellFormed.chained (h : t.WellFormed) : t.Chained :=
  ⟨h.forward, h.backward, h.nodup, h.size, h.listed⟩

namespace Aligned

theorem wellFormed (h : t.Aligned l) : t.WellFormed := by
  have hc := h.linked.chained
  refine ⟨hc.forward, hc.backward, hc.nodup, hc.size, hc.listed, ?_, ?_, ?_⟩
  · intro id page tier hp hl
    exact h.page_tier hp ((h.linked.page_linked hp).mp hl)
  · intro id page hp
    exact Bool.eq_iff_iff.mpr ((h.page_resident hp).trans (h.linked.isLinked_iff hp).symm)
  · intro tier
    rw [h.placed.census, h.linked.size]

theorem residentIds_length (h : t.Aligned l) : t.residentIds.length = t.residentCount := by
  rw [residentCount, h.total_eq]
  exact h.linked.idsWhere_length_eq fun hp => h.page_resident hp

end Aligned

end Table

end RecordCache
