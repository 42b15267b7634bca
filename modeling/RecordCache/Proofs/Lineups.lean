import RecordCache.Proofs.Linkage
import RecordCache.Replacement.Limits
/-! What hits and admissions do to the lists of the tiers, said on the lists alone. How many heads a
loop of demotions takes, and which page is the next victim, can be told from the lists and the
reference bits beforehand. -/
namespace RecordCache

variable {l : Lineup} {limits : Limits} {id head : PageId} {ids rest : List PageId} {n : Nat}
  {referenced : PageId → Bool} {source target tier u : Tier}

/-- A queue after its first page without a reference bit has left. The pages before that one get a
second chance behind all others. -/
def recycle (referenced : PageId → Bool) (ids : List PageId) : List PageId :=
  (ids.dropWhile referenced).tail ++ ids.takeWhile referenced

theorem exists_unreferenced (hid : referenced id = false)
    (ids : List PageId) : ∃ victim rest, referenced victim = false ∧
      (ids ++ [id]).takeWhile referenced = ids.takeWhile referenced ∧
      (ids ++ [id]).dropWhile referenced = victim :: rest := by
  induction ids with
  | nil => exact ⟨id, [], hid, by simp [hid], by simp [hid]⟩
  | cons a ids ih =>
    cases ha : referenced a with
    | true =>
      obtain ⟨victim, rest, hv, htake, hdrop⟩ := ih
      refine ⟨victim, rest, hv, ?_, ?_⟩
      · simp [ha, htake]
      · simp [ha, hdrop]
    | false => exact ⟨a, ids ++ [id], ha, by simp [ha], by simp [ha]⟩

theorem recycle_eq (referenced : PageId → Bool) (ids : List PageId) :
    recycle referenced ids = ids.drop ((ids.takeWhile referenced).length + 1) ++
      ids.takeWhile referenced := by
  have hsplit : ids.takeWhile referenced ++ ids.dropWhile referenced = ids :=
    List.takeWhile_append_dropWhile
  have hdrop : ids.drop (ids.takeWhile referenced).length = ids.dropWhile referenced :=
    (congrArg (List.drop _) hsplit.symm).trans List.drop_left
  rw [recycle, ← hdrop, List.tail_drop]

theorem mem_of_mem_recycle {i : PageId} (h : i ∈ recycle referenced ids) : i ∈ ids := by
  rw [recycle_eq] at h
  rcases List.mem_append.mp h with h | h
  · exact List.mem_of_mem_drop h
  · exact (List.takeWhile_sublist _).mem h

theorem length_recycle (hid : referenced id = false) (ids : List PageId) :
    (recycle referenced (ids ++ [id])).length = ids.length := by
  obtain ⟨victim, rest, -, -, hdrop⟩ := exists_unreferenced hid ids
  have hsplit : (ids ++ [id]).takeWhile referenced ++ (ids ++ [id]).dropWhile referenced =
      ids ++ [id] := List.takeWhile_append_dropWhile
  have hlen := congrArg List.length hsplit
  rw [hdrop] at hlen
  rw [recycle, hdrop]
  simp only [List.length_append, List.length_cons, List.length_nil, List.tail_cons] at hlen ⊢
  omega

theorem recycle_unreferenced (h : ∀ i ∈ ids, referenced i = false) :
    recycle referenced ids = ids.tail := by
  cases ids with
  | nil => rfl
  | cons head rest =>
    have hhead := h head List.mem_cons_self
    simp [recycle, hhead]

namespace Lineup

def all (l : Lineup) : List PageId := l.unknown ++ l.shortTerm ++ l.longTerm

theorem mem_all : id ∈ l.all ↔ ∃ tier, id ∈ l.get tier := by
  constructor
  · intro h
    simp only [all, List.mem_append] at h
    rcases h with (h | h) | h
    · exact ⟨.unknown, h⟩
    · exact ⟨.shortTerm, h⟩
    · exact ⟨.longTerm, h⟩
  · rintro ⟨tier, h⟩
    simp only [all, List.mem_append]
    cases tier with
    | unknown => exact Or.inl (Or.inl h)
    | shortTerm => exact Or.inl (Or.inr h)
    | longTerm => exact Or.inr h

def upper (l : Lineup) : List PageId := l.shortTerm ++ l.longTerm

theorem mem_upper : id ∈ l.upper ↔ ∃ tier, tier ≠ .unknown ∧ id ∈ l.get tier := by
  rw [upper, List.mem_append]
  constructor
  · intro h
    rcases h with h | h
    · exact ⟨.shortTerm, by decide, h⟩
    · exact ⟨.longTerm, by decide, h⟩
  · rintro ⟨tier, ht, h⟩
    cases tier with
    | unknown => exact absurd rfl ht
    | shortTerm => exact Or.inl h
    | longTerm => exact Or.inr h

theorem set_get_self (h : l.get tier = rest) : l.set tier rest = l := by
  apply PerTier.ext_get
  intro u
  rw [PerTier.get_set]
  split
  · subst_vars
    rfl
  · rfl

theorem set_set (a b : List PageId) : (l.set tier a).set tier b = l.set tier b := by
  cases tier <;> rfl

theorem moveTo_of_idle (hn : ∀ u, id ∉ l.get u) :
    l.moveTo id tier = l.set tier (l.get tier ++ [id]) := by
  apply PerTier.ext_get
  intro u
  rw [get_moveTo, PerTier.get_set, List.erase_of_not_mem (hn u)]
  split
  · subst_vars
    rfl
  · rfl

theorem moveTo_head (hl : l.get tier = head :: rest) (hn : ∀ u, u ≠ tier → head ∉ l.get u) :
    l.moveTo head tier = l.set tier (rest ++ [head]) := by
  apply PerTier.ext_get
  intro u
  rw [get_moveTo, PerTier.get_set]
  by_cases hu : u = tier
  · subst hu
    rw [if_pos rfl, if_pos rfl, hl, List.erase_cons_head]
  · rw [if_neg hu, if_neg hu, List.erase_of_not_mem (hn u hu)]

theorem without_set (hn : ∀ u, u ≠ tier → id ∉ l.get u) (ids : List PageId) :
    without (l.set tier ids) id = l.set tier (ids.erase id) := by
  apply PerTier.ext_get
  intro u
  rw [get_without, PerTier.get_set, PerTier.get_set]
  by_cases hu : u = tier
  · rw [if_pos hu, if_pos hu]
  · rw [if_neg hu, if_neg hu, List.erase_of_not_mem (hn u hu)]

theorem without_of_idle (hn : ∀ u, id ∉ l.get u) : l.without id = l := by
  apply PerTier.ext_get
  intro u
  rw [get_without, List.erase_of_not_mem (hn u)]

def demote (l : Lineup) (source target : Tier) (n : Nat) : Lineup :=
  (l.set source ((l.get source).drop n)).modify target (· ++ (l.get source).take n)

theorem get_demote (hne : source ≠ target) (l : Lineup) (n : Nat) (u : Tier) :
    (l.demote source target n).get u =
      if u = source then (l.get u).drop n
      else if u = target then l.get u ++ (l.get source).take n else l.get u := by
  rw [demote, PerTier.get_modify, PerTier.get_set]
  by_cases hs : u = source
  · subst hs
    simp [hne]
  · simp [hs]

theorem demote_zero (hne : source ≠ target) (l : Lineup) : l.demote source target 0 = l := by
  apply PerTier.ext_get
  intro u
  rw [get_demote hne]
  split
  · rfl
  · simp

theorem demote_moveTo (hne : source ≠ target) (hl : l.get source = head :: rest)
    (hn : ∀ u, u ≠ source → head ∉ l.get u) (n : Nat) :
    (l.moveTo head target).demote source target n = l.demote source target (n + 1) := by
  have hsource : (l.moveTo head target).get source = rest := by
    rw [get_moveTo, if_neg hne, hl, List.erase_cons_head]
  apply PerTier.ext_get
  intro u
  rw [get_demote hne, get_demote hne, hsource, hl]
  by_cases hs : u = source
  · subst hs
    rw [if_pos rfl, if_pos rfl, hsource, hl, List.drop_succ_cons]
  · rw [if_neg hs, if_neg hs, get_moveTo, List.erase_of_not_mem (hn u hs)]
    split
    · rw [List.take_succ_cons, List.append_assoc, List.singleton_append]
    · rfl

/-- Each upper tier that is too full gives up heads: as many as are too many, if that many stand
before the page `pinned`. -/
def enforce (l : Lineup) (limits : Limits) (pinned : PageId) : Lineup :=
  let l := l.demote .longTerm .shortTerm
    (min (l.longTerm.length - limits.longTermLimit) (l.longTerm.idxOf pinned))
  l.demote .shortTerm .unknown
    (min (l.shortTerm.length + l.longTerm.length - limits.protectedLimit)
      (l.shortTerm.idxOf pinned))

def hit (l : Lineup) (limits : Limits) (id : PageId) (tier? : Option Tier) : Lineup :=
  tier?.elim l fun tier => (l.moveTo id tier).enforce limits id

theorem mem_drop_of_le_idxOf (h : id ∈ ids) (hn : n ≤ ids.idxOf id) : id ∈ ids.drop n := by
  have hlt := List.idxOf_lt_length_of_mem h
  refine List.mem_iff_getElem.mpr ⟨ids.idxOf id - n, ?_, ?_⟩
  · rw [List.length_drop]
    omega
  · rw [List.getElem_drop]
    simp [Nat.add_sub_cancel' hn]

theorem mem_demote (hne : source ≠ target) (h : id ∈ l.get u)
    (hn : n ≤ (l.get source).idxOf id) : id ∈ (l.demote source target n).get u := by
  rw [get_demote hne]
  by_cases hs : u = source
  · subst hs
    rw [if_pos rfl]
    exact mem_drop_of_le_idxOf h hn
  · rw [if_neg hs]
    split
    · exact List.mem_append_left _ h
    · exact h

theorem mem_of_mem_moveTo {i : PageId} (h : i ∈ (l.moveTo id tier).get u) :
    i ∈ l.get u ∨ i = id := by
  rw [get_moveTo] at h
  split at h
  · rcases List.mem_append.mp h with h | h
    · exact Or.inl (List.mem_of_mem_erase h)
    · exact Or.inr (List.mem_singleton.mp h)
  · exact Or.inl (List.mem_of_mem_erase h)

theorem mem_upper_of_mem_demote {i : PageId} (hne : source ≠ target) (hs : source ≠ .unknown)
    (h : i ∈ (l.demote source target n).upper) : i ∈ l.upper := by
  rw [mem_upper] at h ⊢
  obtain ⟨u, hu, h⟩ := h
  rw [get_demote hne] at h
  split at h
  · exact ⟨u, hu, List.mem_of_mem_drop h⟩
  · split at h
    · rcases List.mem_append.mp h with h | h
      · exact ⟨u, hu, h⟩
      · exact ⟨source, hs, List.mem_of_mem_take h⟩
    · exact ⟨u, hu, h⟩

theorem mem_upper_of_mem_hit {i : PageId} {tier? : Option Tier}
    (h : i ∈ (l.hit limits id tier?).upper) : i ∈ l.upper ∨ i = id := by
  cases tier? with
  | none => exact Or.inl h
  | some tier =>
    have h : i ∈ ((l.moveTo id tier).enforce limits id).upper := h
    have h := mem_upper_of_mem_demote (by decide) (by decide)
      (mem_upper_of_mem_demote (by decide) (by decide) h)
    obtain ⟨u, hu, h⟩ := mem_upper.mp h
    rcases mem_of_mem_moveTo h with h | h
    · exact Or.inl (mem_upper.mpr ⟨u, hu, h⟩)
    · exact Or.inr h

/-- The page that was just promoted is not demoted, whatever the limits. -/
theorem mem_enforce (h : id ∈ l.get u) : id ∈ (l.enforce limits id).get u := by
  apply mem_demote (by decide)
  · exact mem_demote (by decide) h (Nat.min_le_right ..)
  · exact Nat.min_le_right ..

theorem mem_hit : id ∈ (l.hit limits id (some tier)).get tier := by
  apply mem_enforce
  rw [get_moveTo, if_pos rfl]
  exact List.mem_append_right _ (List.mem_singleton_self id)

private theorem idxOf_append_self (h : id ∉ ids) :
    (ids ++ [id]).idxOf id = ids.length := by
  simp [List.idxOf_append, h]

/-- A promotion to the middle tier. If the upper tiers then hold too many, heads of the middle tier
go down, but never the promoted page, which is its last. -/
theorem hit_shortTerm (hid : ∀ u, id ∈ l.get u → u = .unknown)
    (hl : l.longTerm.length ≤ limits.longTermLimit) :
    l.hit limits id (some .shortTerm) =
      let down := min (l.shortTerm.length + 1 + l.longTerm.length - limits.protectedLimit)
        l.shortTerm.length
      { unknown := l.unknown.erase id ++ l.shortTerm.take down
        shortTerm := l.shortTerm.drop down ++ [id]
        longTerm := l.longTerm } := by
  have hs : id ∉ l.shortTerm := fun h => by cases hid .shortTerm h
  have ht : id ∉ l.longTerm := fun h => by cases hid .longTerm h
  have hmove : l.moveTo id .shortTerm =
      ⟨l.unknown.erase id, l.shortTerm.erase id ++ [id], l.longTerm.erase id⟩ := rfl
  rw [List.erase_of_not_mem hs, List.erase_of_not_mem ht] at hmove
  have hdown : min (l.shortTerm.length + 1 + l.longTerm.length - limits.protectedLimit)
      l.shortTerm.length ≤ l.shortTerm.length := Nat.min_le_right ..
  simp only [hit, Option.elim_some, hmove, enforce, Nat.sub_eq_zero_of_le hl, Nat.zero_min]
  rw [demote_zero (by decide)]
  simp only [List.length_append, List.length_singleton, idxOf_append_self hs, demote,
    PerTier.modify, PerTier.set, PerTier.get]
  rw [List.take_append_of_le_length hdown, List.drop_append_of_le_length hdown]

theorem hit_longTerm (hid : ∀ u, id ∈ l.get u → u = .shortTerm) (hd : l.shortTerm.Nodup) :
    l.hit limits id (some .longTerm) =
      let excess := min (l.longTerm.length + 1 - limits.longTermLimit) l.longTerm.length
      let shortTerm := l.shortTerm.erase id ++ l.longTerm.take excess
      let longTerm := l.longTerm.drop excess ++ [id]
      let down := min (shortTerm.length + longTerm.length - limits.protectedLimit)
        shortTerm.length
      { unknown := l.unknown ++ shortTerm.take down
        shortTerm := shortTerm.drop down
        longTerm } := by
  have hu : id ∉ l.unknown := fun h => by cases hid .unknown h
  have ht : id ∉ l.longTerm := fun h => by cases hid .longTerm h
  have hmove : l.moveTo id .longTerm =
      ⟨l.unknown.erase id, l.shortTerm.erase id, l.longTerm.erase id ++ [id]⟩ := rfl
  rw [List.erase_of_not_mem hu, List.erase_of_not_mem ht] at hmove
  have hover : min (l.longTerm.length + 1 - limits.longTermLimit) l.longTerm.length ≤
      l.longTerm.length := Nat.min_le_right ..
  -- The promoted page is not in the middle tier, so it stops none of the second loop's demotions.
  have hs : id ∉ l.shortTerm.erase id ++
      l.longTerm.take (min (l.longTerm.length + 1 - limits.longTermLimit) l.longTerm.length) := by
    rw [List.mem_append, not_or]
    exact ⟨hd.not_mem_erase, fun h => ht (List.mem_of_mem_take h)⟩
  simp only [hit, Option.elim_some, hmove, enforce, demote, PerTier.modify, PerTier.set,
    PerTier.get, List.length_append, List.length_singleton, idxOf_append_self ht]
  rw [List.take_append_of_le_length hover, List.drop_append_of_le_length hover,
    List.idxOf_of_notMem hs]
  simp only [List.length_append, List.length_singleton]

def intake (l : Lineup) (capacity : Nat) (referenced : PageId → Bool) (id : PageId) : Lineup :=
  l.set .unknown <|
    if l.all.length < capacity then l.unknown ++ [id] else recycle referenced (l.unknown ++ [id])

def displaced (l : Lineup) (capacity : Nat) (referenced : PageId → Bool) (id : PageId) :
    List PageId :=
  if l.all.length < capacity then [] else ((l.unknown ++ [id]).dropWhile referenced).take 1

def spared (l : Lineup) (capacity : Nat) (referenced : PageId → Bool) : List PageId :=
  if l.all.length < capacity then [] else l.unknown.takeWhile referenced

end Lineup

/-- All that replacement goes by: the lists, and who has a reference bit. -/
structure Roster where
  lineup : Lineup
  referenced : PageId → Bool

namespace Roster

variable {r : Roster}

def promotion? (r : Roster) (id : PageId) : Tier → Option Tier
  | .unknown => some .shortTerm
  | .shortTerm => if r.referenced id then some .longTerm else none
  | .longTerm => none

theorem promotion?_eq_some (h : r.promotion? id source = some tier) :
    source.promoted? = some tier := by
  cases source with
  | unknown => exact h
  | shortTerm =>
    rw [promotion?] at h
    split at h
    · exact h
    · cases h
  | longTerm => cases h

def hit (r : Roster) (limits : Limits) (source : Tier) (id : PageId) : Roster :=
  { lineup := r.lineup.hit limits id (r.promotion? id source)
    referenced := fun i => r.referenced i || i = id }

theorem mem_upper_hit (hm : id ∈ r.lineup.get source) :
    id ∈ (r.hit limits source id).lineup.upper := by
  rw [Lineup.mem_upper]
  cases source with
  | unknown => exact ⟨.shortTerm, by decide, Lineup.mem_hit⟩
  | shortTerm =>
    by_cases hr : r.referenced id
    · refine ⟨.longTerm, by decide, ?_⟩
      rw [hit, promotion?, if_pos hr]
      exact Lineup.mem_hit
    · refine ⟨.shortTerm, by decide, ?_⟩
      rw [hit, promotion?, if_neg hr]
      exact hm
  | longTerm => exact ⟨.longTerm, by decide, hm⟩

def intake (r : Roster) (capacity : Nat) (id : PageId) : Roster :=
  { lineup := r.lineup.intake capacity r.referenced id
    referenced := fun i => r.referenced i && i ∉ r.lineup.spared capacity r.referenced }

end Roster

end RecordCache
