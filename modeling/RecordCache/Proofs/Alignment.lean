import RecordCache.Proofs.Lineups
import RecordCache.Replacement.Hit
/-! Tables whose pages, lists and census tell the same story. A table is aligned with a lineup if it
is linked along it, exactly the members hold windows, every member is in the list of its own tier
and the census counts the members. The moves below keep a table aligned and never fault. -/
namespace RecordCache

variable {W : Type} {l : Lineup} {id : PageId} {tier source : Tier}

namespace Lineup

theorem mem_without (hd : ∀ u, (l.get u).Nodup) {i : PageId} {u : Tier} :
    i ∈ (l.without id).get u ↔ i ≠ id ∧ i ∈ l.get u := by
  rw [get_without, (hd u).mem_erase_iff]

theorem mem_moveTo (hd : ∀ u, (l.get u).Nodup) {i : PageId} {u : Tier} :
    i ∈ (l.moveTo id tier).get u ↔ if i = id then u = tier else i ∈ l.get u := by
  rw [get_moveTo]
  by_cases hi : i = id <;> by_cases hu : u = tier <;> simp [(hd u).mem_erase_iff, hi, hu]

theorem length_without (hm : id ∈ l.get source) (hs : ∀ u, id ∈ l.get u → u = source) (u : Tier) :
    ((l.without id).get u).length =
      if u = source then (l.get u).length - 1 else (l.get u).length := by
  rw [get_without]
  split <;> rename_i hu
  · rw [List.length_erase_of_mem (hu ▸ hm)]
  · rw [List.erase_of_not_mem fun hi => hu (hs u hi)]

theorem length_moveTo (hm : id ∈ l.get source) (hs : ∀ u, id ∈ l.get u → u = source) (u : Tier) :
    ((l.moveTo id tier).get u).length =
      (if u = source then (l.get u).length - 1 else (l.get u).length) +
        if u = tier then 1 else 0 := by
  rw [← length_without hm hs, moveTo, PerTier.get_modify]
  split <;> simp

end Lineup

namespace Census

variable {c : Census}

theorem decrement_of_pos (h : 0 < c.get tier) : c.decrement tier = .ok (c.modify tier (· - 1)) :=
  if_neg (Nat.ne_of_gt h)

theorem get_increment (u : Tier) :
    (c.increment tier).get u = if u = tier then c.get u + 1 else c.get u := PerTier.get_modify ..

theorem transfer_of_pos (tier : Tier) (h : 0 < c.get source) :
    ∃ c', c.transfer source tier = .ok c' ∧ c'.total = c.total ∧
      ∀ u, c'.get u =
        (if u = source then c.get u - 1 else c.get u) + if u = tier then 1 else 0 := by
  have hd := decrement_of_pos h
  refine ⟨_, by rw [transfer, hd]; rfl, ?_, fun u => ?_⟩
  · have := total_decrement hd
    rw [total_increment]
    omega
  · rw [get_increment, PerTier.get_modify]
    by_cases hu : u = tier <;> simp [hu]

end Census

structure Page.Inert (f : Page W → Page W) : Prop where
  links : ∀ p, (f p).next? = p.next? ∧ (f p).prev? = p.prev? ∧ (f p).list? = p.list?
  unlinked : ∀ p, (f p).unlinked = f p.unlinked
  tier : ∀ p, (f p).tier = p.tier
  resident : ∀ p, (f p).isResident = p.isResident

theorem Page.inert_referenced (b : Bool) :
    Page.Inert fun p : Page W => { p with referenced := b } :=
  ⟨fun _ => ⟨rfl, rfl, rfl⟩, fun _ => rfl, fun _ => rfl, fun _ => rfl⟩

/-- The pages, apart from their links, and the census agree with the lineup. -/
structure Placed (content : PageId → Option (Page W)) (census : Census) (l : Lineup) : Prop where
  resident : ∀ {id page}, content id = some page → (page.isResident ↔ ∃ tier, id ∈ l.get tier)
  tier_eq : ∀ {id page tier}, content id = some page → id ∈ l.get tier → page.tier = tier
  idle : ∀ {id page}, content id = some page → (∀ tier, id ∉ l.get tier) →
    page.tier = .unknown ∧ page.referenced = false
  census : ∀ tier, census.get tier = (l.get tier).length

theorem Placed.update {content content' : PageId → Option (Page W)} {census census' : Census}
    {l' : Lineup} {page : Page W} (h : Placed content census l)
    (hc : ∀ i, i ≠ id → content' i = content i)
    (hm : ∀ i u, i ≠ id → (i ∈ l'.get u ↔ i ∈ l.get u)) (hp : content' id = some page)
    (hr : page.isResident ↔ ∃ u, id ∈ l'.get u) (ht : ∀ u, id ∈ l'.get u → page.tier = u)
    (hi : (∀ u, id ∉ l'.get u) → page.tier = .unknown ∧ page.referenced = false)
    (hn : ∀ u, census'.get u = (l'.get u).length) : Placed content' census' l' := by
  refine ⟨fun {i q} hq => ?_, fun {i q u} hq hu => ?_, fun {i q} hq ho => ?_, hn⟩ <;>
    by_cases he : i = id
  · subst he
    exact Option.some.inj (hp.symm.trans hq) ▸ hr
  · simp only [hm i _ he]
    exact h.resident ((hc i he).symm.trans hq)
  · subst he
    exact Option.some.inj (hp.symm.trans hq) ▸ ht u hu
  · exact h.tier_eq ((hc i he).symm.trans hq) ((hm i u he).mp hu)
  · subst he
    exact Option.some.inj (hp.symm.trans hq) ▸ hi ho
  · exact h.idle ((hc i he).symm.trans hq) fun u hu => ho u ((hm i u he).mpr hu)

namespace Table

variable {t t' : Table W}

structure Aligned (t : Table W) (l : Lineup) : Prop where
  linked : t.Linked l
  placed : Placed t.content t.census l

def bare (t : Table W) (id : PageId) : Option (Page W) :=
  (t.content id).map fun p => { p with tier := .unknown }

theorem Rewired.bare (h : Rewired t t') : t'.bare = t.bare := by
  funext i
  rw [Table.bare, Table.bare, h.content]

theorem content_of_page {page : Page W} (h : t.pages[id]? = some page) :
    t.content id = some page.unlinked := by
  simp [content, h]

theorem content_modify {f : Page W → Page W} (hf : ∀ p, (f p).unlinked = f p.unlinked)
    (i : PageId) : ({ t with pages := t.pages.modify id f } : Table W).content i =
      if i = id then (t.content i).map f else t.content i := by
  simp only [content, Array.getElem?_modify]
  by_cases hi : id = i
  · subst hi
    cases t.pages[id]? <;> simp [hf]
  · simp [hi, Ne.symm hi]

theorem Linked.modify {f : Page W → Page W} (h : t.Linked l)
    (hf : ∀ p, (f p).next? = p.next? ∧ (f p).prev? = p.prev? ∧ (f p).list? = p.list?) :
    ({ t with pages := t.pages.modify id f } : Table W).Linked l := by
  refine ⟨⟨?_, ?_, h.size, h.nodup, ?_⟩, ?_⟩
  · rw [via_modify_of_inert fun p => (hf p).1]; exact h.forward
  · rw [via_modify_of_inert fun p => (hf p).2.1]; exact h.backward
  · rw [via_modify_of_inert fun p => (hf p).2.2]; exact h.listed
  · rw [Loose, via_modify_of_inert fun p => (hf p).1, via_modify_of_inert fun p => (hf p).2.1,
      via_modify_of_inert fun p => (hf p).2.2]
    exact h.loose

theorem Linked.withCensus (h : t.Linked l) (c : Census) :
    ({ t with census := c } : Table W).Linked l :=
  ⟨⟨h.forward, h.backward, h.size, h.nodup, h.listed⟩, h.loose⟩

theorem page_growTo {page : Page W} {i n : Nat} (h : (t.growTo id n).pages[i]? = some page) :
    t.pages[i]? = some page ∨ t.size ≤ i ∧ page = { address := page.address } := by
  by_cases hi : i < t.size
  · exact Or.inl ((getElem?_growTo_of_lt t id n hi).symm.trans h)
  · refine Or.inr ⟨Nat.le_of_not_lt hi, ?_⟩
    simp only [size] at hi
    simp only [growTo, Array.getElem?_append, hi, ↓reduceIte, List.getElem?_toArray,
      List.getElem?_map, Option.map_eq_some_iff] at h
    obtain ⟨_, _, rfl⟩ := h
    rfl

theorem via_window_growTo (t : Table W) (id n : Nat) (i : PageId) :
    (t.growTo id n).via Page.window? i = t.via Page.window? i := by
  by_cases hi : i < t.size
  · exact congrArg (·.bind Page.window?) (getElem?_growTo_of_lt t id n hi)
  · have hnone : t.pages[i]? = none := Array.getElem?_eq_none (Nat.le_of_not_lt hi)
    rw [via, via, hnone]
    cases hp : (t.growTo id n).pages[i]? with
    | none => rfl
    | some page =>
      rcases page_growTo hp with hp | ⟨-, hp⟩
      · rw [hnone] at hp
        cases hp
      · rw [hp]
        rfl

namespace Aligned

theorem empty : (Table.empty : Table W).Aligned (PerTier.const []) := by
  have hp : ∀ {i q}, (Table.empty : Table W).content i = some q → False := by
    intro i q hq
    simp [content, Table.empty] at hq
  refine ⟨⟨⟨fun u => ?_, fun u => ?_, fun u => ?_, fun u => ?_, fun u i => ?_⟩, fun i _ => ?_⟩,
    ⟨fun hq => (hp hq).elim, fun hq _ => (hp hq).elim, fun hq _ => (hp hq).elim, fun u => ?_⟩⟩
  · simp [Table.empty, Path]
  · simp [Table.empty, Path]
  · simp [Table.empty]
  · simp
  · simp [Table.empty, via]
  · simp [Table.empty, via]
  · simp [Table.empty, Census.empty]

theorem page_tier {page : Page W} (h : t.Aligned l) (hp : t.pages[id]? = some page)
    (hm : id ∈ l.get tier) : page.tier = tier := by
  simpa using h.placed.tier_eq (content_of_page hp) hm

theorem page_resident {page : Page W} (h : t.Aligned l) (hp : t.pages[id]? = some page) :
    page.isResident ↔ ∃ tier, id ∈ l.get tier := by
  simpa using h.placed.resident (content_of_page hp)

theorem mem_residentIds (h : t.Aligned l) : id ∈ t.residentIds ↔ ∃ u, id ∈ l.get u := by
  rw [residentIds, mem_idsWhere]
  constructor
  · rintro ⟨page, hp, hr⟩
    exact (h.page_resident hp).mp hr
  · rintro ⟨u, hu⟩
    obtain ⟨page, hp⟩ := exists_page (h.linked.lt_size hu)
    exact ⟨page, hp, (h.page_resident hp).mpr ⟨u, hu⟩⟩

theorem referenced_of_idle {page : Page W} (h : t.Aligned l) (hp : t.pages[id]? = some page)
    (hn : ∀ u, id ∉ l.get u) : page.referenced = false :=
  (h.placed.idle (content_of_page hp) hn).2

theorem window_of_idle {page : Page W} (h : t.Aligned l) (hp : t.pages[id]? = some page)
    (hn : ∀ u, id ∉ l.get u) : page.window? = none := by
  have hr : ¬page.isResident := by
    rw [h.page_resident hp]
    rintro ⟨u, hu⟩
    exact hn u hu
  simpa [Page.isResident] using hr

theorem page_of_idle {page : Page W} (h : t.Aligned l) (hp : t.pages[id]? = some page)
    (hn : ∀ u, id ∉ l.get u) : page.isResident = false ∧ page.isLinked = false ∧
      page.prev? = none ∧ page.next? = none ∧ page.referenced = false ∧ page.tier = .unknown := by
  obtain ⟨ht, hb⟩ := h.placed.idle (content_of_page hp) hn
  have hw := h.window_of_idle hp hn
  have hl : t.via Page.list? id = none := by
    apply Option.eq_none_iff_forall_ne_some.mpr
    intro u hx
    exact hn u ((h.linked.listed u id).mpr hx)
  obtain ⟨hnext, hprev⟩ := h.linked.loose id hl
  rw [via_of_page hp] at hl hnext hprev
  exact ⟨by rw [Page.isResident, hw]; rfl, by rw [Page.isLinked, hl]; rfl, hprev, hnext, hb, ht⟩

theorem census_pos (h : t.Aligned l) (hm : id ∈ l.get tier) : 0 < t.census.get tier := by
  rw [h.placed.census]
  exact List.length_pos_of_mem hm

theorem total_eq (h : t.Aligned l) : t.census.total = l.all.length := by
  have hu := h.placed.census .unknown
  have hs := h.placed.census .shortTerm
  have hl := h.placed.census .longTerm
  simp only [PerTier.get] at hu hs hl
  simp only [Census.total, Lineup.all, List.length_append, hu, hs, hl]

theorem setTier_spec (h : t.Aligned l) (hm : id ∈ l.get source) (tier : Tier) :
    ∃ t', t.setTier id tier = .ok t' ∧ t'.Aligned (l.moveTo id tier) ∧ t'.bare = t.bare ∧
      t'.census.total = t.census.total := by
  have hid := h.linked.lt_size hm
  obtain ⟨page, hp⟩ := exists_page hid
  have hs := h.page_tier hp hm
  let f : Page W → Page W := fun p => { p with tier }
  obtain ⟨c, e₂, ht, hc⟩ := Census.transfer_of_pos tier (h.census_pos hm)
  let t₂ : Table W := { t with pages := t.pages.modify id f, census := c }
  have h₂ : t₂.Linked l := (h.linked.modify (f := f) fun _ => ⟨rfl, rfl, rfl⟩).withCensus c
  have hid₂ : id < t₂.size := by simpa [t₂, size] using hid
  obtain ⟨t₃, e₃, r, h₃⟩ := h₂.append_spec hid₂ tier
  have content₃ : ∀ i, t₃.content i = if i = id then (t.content i).map f else t.content i :=
    fun i => (congrFun r.content i).trans (content_modify (f := f) (fun _ => rfl) i)
  refine ⟨t₃, ?_, ⟨h₃, ?_⟩, funext fun i => ?_, by rw [r.census]; exact ht⟩
  · rw [setTier, get_of_page hp]
    simp only [bind, Except.bind, modify_of_lt hid, hs, e₂]
    exact e₃
  · refine h.placed.update (fun i hi => (content₃ i).trans (if_neg hi))
      (fun i u hi => by rw [Lineup.mem_moveTo h.linked.nodup, if_neg hi])
      (by rw [content₃, if_pos rfl, content_of_page hp]; rfl) ?_ (fun u hu => ?_) (fun hn => ?_)
      fun u => ?_
    · simp only [Lineup.mem_moveTo h.linked.nodup, ↓reduceIte]
      exact iff_of_true ((h.page_resident hp).mpr ⟨_, hm⟩) ⟨tier, rfl⟩
    · rw [Lineup.mem_moveTo h.linked.nodup, if_pos rfl] at hu
      exact hu.symm
    · refine absurd ?_ (hn tier)
      rw [Lineup.mem_moveTo h.linked.nodup, if_pos rfl]
    · rw [r.census, Lineup.length_moveTo hm fun u => h.linked.tier_eq hm]
      exact (hc u).trans (by rw [h.placed.census])
  · rw [bare, bare, content₃]
    by_cases hi : i = id
    · subst hi; simp [content_of_page hp, f]
    · rw [if_neg hi]

/-- An edit that leaves place and residency of a page alone. The reference bit may change on members
only. -/
theorem edit {f : Page W → Page W} (h : t.Aligned l) (hid : id < t.size) (hf : Page.Inert f)
    (hr : (∀ p, (f p).referenced = p.referenced) ∨ ∃ tier, id ∈ l.get tier) :
    ({ t with pages := t.pages.modify id f } : Table W).Aligned l := by
  obtain ⟨page, hp⟩ := exists_page hid
  have hq := content_of_page hp
  refine ⟨h.linked.modify hf.links, h.placed.update (fun i hi => ?_) (fun _ _ _ => Iff.rfl)
    (by rw [content_modify hf.unlinked, if_pos rfl, hq]; rfl) ?_ (fun u hu => ?_) (fun hn => ?_)
    h.placed.census⟩
  · rw [content_modify hf.unlinked, if_neg hi]
  · rw [hf.resident]
    exact h.placed.resident hq
  · rw [hf.tier]
    exact h.placed.tier_eq hq hu
  · rcases hr with hr | ⟨u, hu⟩
    · rw [hf.tier, hr]
      exact h.placed.idle hq hn
    · exact absurd hu (hn u)

theorem growTo (h : t.Aligned l) (id : PageId) (recordsPerPage : Nat) :
    (t.growTo id recordsPerPage).Aligned l := by
  have old : ∀ {i}, i < t.size → (t.growTo id recordsPerPage).pages[i]? = t.pages[i]? :=
    fun hi => getElem?_growTo_of_lt t id recordsPerPage hi
  have same : ∀ {α : Type} (g : Page W → Option α) {i}, i < t.size →
      (t.growTo id recordsPerPage).via g i = t.via g i := fun g i hi => by rw [via, via, old hi]
  -- Each page is an old one, unchanged, or a blank one, which no list has.
  refine ⟨⟨⟨fun u => ?_, fun u => ?_, h.linked.size, h.linked.nodup, fun u i => ?_⟩,
      fun i hv => ?_⟩,
    ⟨fun {i q} hq => ?_, fun {i q u} hq hu => ?_, fun {i q} hq ho => ?_, h.placed.census⟩⟩
  · exact (h.linked.forward u).congr fun i hi => same _ (h.linked.lt_size hi)
  · exact (h.linked.backward u).congr fun i hi =>
      same _ (h.linked.lt_size (List.mem_reverse.mp hi))
  · by_cases hi : i < t.size
    · rw [same _ hi, h.linked.listed]
    · refine iff_of_false (fun hm => hi (h.linked.lt_size hm)) fun hv => ?_
      obtain ⟨page, hp, hl⟩ := Option.bind_eq_some_iff.mp hv
      rcases page_growTo hp with hp | ⟨-, hp⟩
      · exact hi (lt_size_of_page hp)
      · rw [hp] at hl
        cases hl
  · by_cases hi : i < t.size
    · rw [same _ hi] at hv
      rw [same _ hi, same _ hi]
      exact h.linked.loose i hv
    · cases hp : (t.growTo id recordsPerPage).pages[i]? with
      | none => rw [via, via, hp]; exact ⟨rfl, rfl⟩
      | some page =>
        rcases page_growTo hp with hp' | ⟨-, hp'⟩
        · exact absurd (lt_size_of_page hp') hi
        · rw [via_of_page hp, via_of_page hp, hp']
          exact ⟨rfl, rfl⟩
  · obtain ⟨page, hp, rfl⟩ := Option.map_eq_some_iff.mp hq
    rcases page_growTo hp with hp | ⟨hi, hp⟩
    · exact h.placed.resident (content_of_page hp)
    · rw [hp]
      refine iff_of_false Bool.false_ne_true ?_
      rintro ⟨u, hu⟩
      exact Nat.not_lt.mpr hi (h.linked.lt_size hu)
  · obtain ⟨page, hp, rfl⟩ := Option.map_eq_some_iff.mp hq
    rw [old (h.linked.lt_size hu)] at hp
    exact h.placed.tier_eq (content_of_page hp) hu
  · obtain ⟨page, hp, rfl⟩ := Option.map_eq_some_iff.mp hq
    rcases page_growTo hp with hp | ⟨-, hp⟩
    · exact h.placed.idle (content_of_page hp) ho
    · rw [hp]
      exact ⟨rfl, rfl⟩

end Aligned

end Table

end RecordCache
