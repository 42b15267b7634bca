import RecordCache.Proofs.Path
import RecordCache.Table.Links
/-! Link surgery against plain lists. A table is threaded along a lineup, the members of each tier's
list, if links, ends, lengths and the pages' own tags all spell out that lineup; it is linked if
pages outside the lists, besides, carry no links. Taking a page out of its list and moving it to the
tail of a list then act on the lineup alone. -/
namespace RecordCache

variable {W α : Type}

/-- The members of the list of each tier, head first. -/
abbrev Lineup := PerTier (List PageId)

namespace Lineup

def without (l : Lineup) (id : PageId) : Lineup := l.map (·.erase id)

def moveTo (l : Lineup) (id : PageId) (tier : Tier) : Lineup :=
  (l.without id).modify tier (· ++ [id])

@[simp] theorem get_without (l : Lineup) (id : PageId) (tier : Tier) :
    (l.without id).get tier = (l.get tier).erase id := PerTier.get_map ..

theorem get_moveTo (l : Lineup) (id : PageId) (tier u : Tier) :
    (l.moveTo id tier).get u =
      if u = tier then (l.get u).erase id ++ [id] else (l.get u).erase id := by
  rw [moveTo, PerTier.get_modify, get_without]

end Lineup

def Page.unlinked (p : Page W) : Page W := { p with list? := none, prev? := none, next? := none }

@[simp] theorem Page.unlinked_tier (p : Page W) : p.unlinked.tier = p.tier := rfl

@[simp] theorem Page.unlinked_isResident (p : Page W) : p.unlinked.isResident = p.isResident := rfl

namespace Table

variable {t t' : Table W} {l : Lineup} {id : PageId} {tier : Tier}

def via (t : Table W) (f : Page W → Option α) (id : PageId) : Option α := t.pages[id]?.bind f

def content (t : Table W) (id : PageId) : Option (Page W) := t.pages[id]?.map Page.unlinked

structure Threaded (t : Table W) (l : Lineup) : Prop where
  forward : ∀ tier, Path (t.via Page.next?) (t.chains.get tier).head? (l.get tier)
  backward : ∀ tier, Path (t.via Page.prev?) (t.chains.get tier).tail? (l.get tier).reverse
  size : ∀ tier, (t.chains.get tier).size = (l.get tier).length
  nodup : ∀ tier, (l.get tier).Nodup
  listed : ∀ tier id, id ∈ l.get tier ↔ t.via Page.list? id = some tier

def Loose (t : Table W) : Prop :=
  ∀ id, t.via Page.list? id = none → t.via Page.next? id = none ∧ t.via Page.prev? id = none

structure Linked (t : Table W) (l : Lineup) : Prop extends t.Threaded l where
  loose : t.Loose

namespace Threaded

theorem lt_size (h : t.Threaded l) (hid : id ∈ l.get tier) : id < t.size := by
  have := (h.listed tier id).mp hid
  simp only [via, Option.bind_eq_some_iff] at this
  obtain ⟨page, hp, _⟩ := this
  exact (Array.getElem?_eq_some_iff.mp hp).1

theorem tier_eq (h : t.Threaded l) {u : Tier} (ht : id ∈ l.get tier) (hu : id ∈ l.get u) :
    u = tier :=
  Option.some.inj (((h.listed u id).mp hu).symm.trans ((h.listed tier id).mp ht))

theorem head?_eq (h : t.Threaded l) (tier : Tier) :
    (t.chains.get tier).head? = (l.get tier).head? := (h.forward tier).cursor_eq

theorem tail?_eq (h : t.Threaded l) (tier : Tier) :
    (t.chains.get tier).tail? = (l.get tier).getLast? := by
  rw [(h.backward tier).cursor_eq, List.head?_reverse]

end Threaded

theorem Linked.unique {l' : Lineup} (h : t.Linked l) (h' : t.Linked l') : l = l' :=
  PerTier.ext_get fun tier => (h.forward tier).unique (h'.forward tier)

theorem content_eq_none_iff : t.content id = none ↔ t.size ≤ id := by
  simp [content, size]

/-- The tables differ in links only. -/
structure Rewired (t t' : Table W) : Prop where
  content : t'.content = t.content
  census : t'.census = t.census

namespace Rewired

variable {t'' : Table W}

theorem refl (t : Table W) : Rewired t t := ⟨rfl, rfl⟩

theorem trans (h : Rewired t t') (k : Rewired t' t'') : Rewired t t'' :=
  ⟨k.content.trans h.content, k.census.trans h.census⟩

theorem size_le (h : Rewired t t') : t'.size ≤ t.size :=
  content_eq_none_iff.mp ((congrFun h.content _).trans (content_eq_none_iff.mpr (Nat.le_refl _)))

theorem size_eq (h : Rewired t t') : t'.size = t.size :=
  Nat.le_antisymm h.size_le (size_le ⟨h.content.symm, h.census.symm⟩)

end Rewired

theorem modify_of_lt (h : id < t.size) (f : Page W → Page W) :
    t.modify id f = .ok { t with pages := t.pages.modify id f } := if_pos h

theorem exists_page (h : id < t.size) : ∃ page, t.pages[id]? = some page :=
  ⟨_, Array.getElem?_eq_getElem h⟩

theorem get_of_page {page : Page W} (h : t.pages[id]? = some page) : t.get id = .ok page := by
  simp [get, h]

theorem lt_size_of_page {page : Page W} (h : t.pages[id]? = some page) : id < t.size :=
  (Array.getElem?_eq_some_iff.mp h).1

theorem via_of_page {page : Page W} (h : t.pages[id]? = some page) (f : Page W → Option α) :
    t.via f id = f page := by
  simp [via, h]

theorem Rewired.modify {f : Page W → Page W} (hf : ∀ p, (f p).unlinked = p.unlinked) :
    Rewired t { t with pages := t.pages.modify id f } := by
  refine ⟨funext fun i => ?_, rfl⟩
  simp only [Table.content, Array.getElem?_modify]
  split <;> simp [Function.comp_def, hf]

theorem via_modify (f : Page W → Page W) (g : Page W → Option α) (i : PageId) :
    ({ t with pages := t.pages.modify id f } : Table W).via g i =
      if id = i then t.via (g ∘ f) i else t.via g i := by
  simp only [via, Array.getElem?_modify]
  split
  · cases t.pages[i]? <;> rfl
  · rfl

theorem via_modify_of_inert {f : Page W → Page W} {g : Page W → Option α}
    (h : ∀ p, g (f p) = g p) :
    ({ t with pages := t.pages.modify id f } : Table W).via g = t.via g := by
  funext i
  rw [via_modify, show g ∘ f = g from funext h, ite_self]

theorem setNext_spec (tier : Tier) (place? next? : Option PageId)
    (hp : ∀ i, place? = some i → i < t.size) :
    ∃ t', t.setNext tier place? next? = .ok t' ∧ Rewired t t' ∧
      (∀ u, t'.chains.get u = if u = tier ∧ place? = none then
        { t.chains.get u with head? := next? } else t.chains.get u) ∧
      (∀ i, t'.via Page.next? i = if place? = some i then next? else t.via Page.next? i) ∧
      t'.via Page.prev? = t.via Page.prev? ∧ t'.via Page.list? = t.via Page.list? := by
  cases place? with
  | none =>
    refine ⟨_, rfl, ⟨rfl, rfl⟩, fun u => ?_, fun i => by simp [via, modifyChain], rfl, rfl⟩
    simp [modifyChain, PerTier.get_modify]
  | some id =>
    have hid := hp id rfl
    obtain ⟨page, hpage⟩ := exists_page hid
    refine ⟨_, modify_of_lt hid _, Rewired.modify fun _ => rfl, fun u => by simp, fun i => ?_,
      via_modify_of_inert fun _ => rfl, via_modify_of_inert fun _ => rfl⟩
    rw [via_modify]
    by_cases hi : id = i
    · subst hi; simp [via_of_page hpage]
    · simp [hi]

theorem setPrev_spec (tier : Tier) (place? prev? : Option PageId)
    (hp : ∀ i, place? = some i → i < t.size) :
    ∃ t', t.setPrev tier place? prev? = .ok t' ∧ Rewired t t' ∧
      (∀ u, t'.chains.get u = if u = tier ∧ place? = none then
        { t.chains.get u with tail? := prev? } else t.chains.get u) ∧
      (∀ i, t'.via Page.prev? i = if place? = some i then prev? else t.via Page.prev? i) ∧
      t'.via Page.next? = t.via Page.next? ∧ t'.via Page.list? = t.via Page.list? := by
  cases place? with
  | none =>
    refine ⟨_, rfl, ⟨rfl, rfl⟩, fun u => ?_, fun i => by simp [via, modifyChain], rfl, rfl⟩
    simp [modifyChain, PerTier.get_modify]
  | some id =>
    have hid := hp id rfl
    obtain ⟨page, hpage⟩ := exists_page hid
    refine ⟨_, modify_of_lt hid _, Rewired.modify fun _ => rfl, fun u => by simp, fun i => ?_,
      via_modify_of_inert fun _ => rfl, via_modify_of_inert fun _ => rfl⟩
    rw [via_modify]
    by_cases hi : id = i
    · subst hi; simp [via_of_page hpage]
    · simp [hi]

private theorem erase_reverse {ids : List PageId} (hd : ids.Nodup) :
    (ids.erase id).reverse = ids.reverse.erase id := by
  rw [hd.erase_eq_filter, (List.nodup_reverse.mpr hd).erase_eq_filter, List.filter_reverse]

/-- What the links of a table must look like after page `id` was cut out of the list of `tier`. -/
structure Cut (t t' : Table W) (id : PageId) (tier : Tier) : Prop where
  chain : ∀ u, t'.chains.get u = if u = tier then
    { head? := if t.via Page.prev? id = none then t.via Page.next? id
        else (t.chains.get u).head?
      tail? := if t.via Page.next? id = none then t.via Page.prev? id
        else (t.chains.get u).tail?
      size := (t.chains.get u).size - 1 } else t.chains.get u
  next : ∀ i, i ≠ id → t'.via Page.next? i =
    if t.via Page.prev? id = some i then t.via Page.next? id else t.via Page.next? i
  prev : ∀ i, i ≠ id → t'.via Page.prev? i =
    if t.via Page.next? id = some i then t.via Page.prev? id else t.via Page.prev? i
  list : ∀ i, t'.via Page.list? i = if i = id then none else t.via Page.list? i
  loose : t'.via Page.next? id = none ∧ t'.via Page.prev? id = none

theorem Threaded.cut (h : t.Threaded l) (hm : id ∈ l.get tier) (c : Cut t t' id tier) :
    t'.Threaded (l.without id) := by
  have hd := h.nodup tier
  have hr := List.nodup_reverse.mpr hd
  have hmr := List.mem_reverse.mpr hm
  have other : ∀ {u}, u ≠ tier → id ∉ l.get u := fun hu hi => hu (h.tier_eq hm hi)
  have foreign : ∀ {u i}, u ≠ tier → i ∈ l.get u → i ≠ id ∧ t.via Page.prev? id ≠ some i ∧
      t.via Page.next? id ≠ some i := by
    intro u i hu hi
    refine ⟨fun e => other hu (e ▸ hi), fun e => ?_, fun e => ?_⟩
    · exact hu (h.tier_eq (List.mem_reverse.mp ((h.backward tier).next_mem hmr e)) hi)
    · exact hu (h.tier_eq ((h.forward tier).next_mem hm e) hi)
  -- The list of the page closes up around it. No link of any other list names the page.
  refine ⟨fun u => ?_, fun u => ?_, fun u => ?_, fun u => ?_, fun u i => ?_⟩
  · rw [Lineup.get_without, c.chain]
    by_cases hu : u = tier
    · subst hu
      have he := (h.forward u).erase (t'.via Page.next?) id hd fun i hi hne => by
        rw [c.next i hne]
        simp only [(h.forward u).next_iff_prev (h.backward u) hd hi hm]
      have hh : t.via Page.prev? id = none ↔ (t.chains.get u).head? = some id := by
        rw [(h.backward u).next_eq_none_iff hr hmr, List.getLast?_reverse, h.head?_eq]
      simpa only [↓reduceIte, hh] using he
    · rw [List.erase_of_not_mem (other hu), if_neg hu]
      exact (h.forward u).congr fun i hi => by
        rw [c.next i (foreign hu hi).1, if_neg (foreign hu hi).2.1]
  · rw [Lineup.get_without, c.chain]
    by_cases hu : u = tier
    · subst hu
      have he := (h.backward u).erase (t'.via Page.prev?) id hr fun i hi hne => by
        rw [c.prev i hne]
        simp only [(h.forward u).next_iff_prev (h.backward u) hd hm (List.mem_reverse.mp hi)]
      have hh : t.via Page.next? id = none ↔ (t.chains.get u).tail? = some id := by
        rw [(h.forward u).next_eq_none_iff hd hm, h.tail?_eq]
      rw [erase_reverse hd]
      simpa only [↓reduceIte, hh] using he
    · rw [List.erase_of_not_mem (other hu), if_neg hu]
      exact (h.backward u).congr fun i hi => by
        rw [c.prev i (foreign hu (List.mem_reverse.mp hi)).1,
          if_neg (foreign hu (List.mem_reverse.mp hi)).2.2]
  · rw [Lineup.get_without, c.chain]
    by_cases hu : u = tier
    · subst hu; simp [h.size, List.length_erase_of_mem hm]
    · rw [if_neg hu, h.size, List.erase_of_not_mem (other hu)]
  · rw [Lineup.get_without]
    exact (h.nodup u).erase _
  · rw [Lineup.get_without, (h.nodup u).mem_erase_iff, c.list, h.listed]
    by_cases hi : i = id <;> simp [hi]

theorem Threaded.loose_cut (h : t.Threaded l) (hm : id ∈ l.get tier) (c : Cut t t' id tier)
    (hl : t.Loose) : t'.Loose := by
  intro i hi
  by_cases he : i = id
  · exact he ▸ c.loose
  · -- A page beside the one that is cut out is in the same list.
    rw [c.list, if_neg he] at hi
    have hout : i ∉ l.get tier := fun hm => by
      rw [h.listed, hi] at hm
      cases hm
    have hprev : t.via Page.prev? id ≠ some i := fun e =>
      hout (List.mem_reverse.mp ((h.backward tier).next_mem (List.mem_reverse.mpr hm) e))
    have hnext : t.via Page.next? id ≠ some i := fun e => hout ((h.forward tier).next_mem hm e)
    rw [c.next i he, c.prev i he, if_neg hprev, if_neg hnext]
    exact hl i hi

theorem detach_of_unlinked {page : Page W} (hp : t.pages[id]? = some page)
    (hl : page.list? = none) : t.detach id = .ok (false, t) := by
  simp [detach, get_of_page hp, hl, bind, Except.bind, pure, Except.pure]

/-- A page in a list is cut out of it, and no link points outside the table meanwhile. -/
theorem Threaded.detach_of_mem (h : t.Threaded l) (hm : id ∈ l.get tier) :
    ∃ t', t.detach id = .ok (true, t') ∧ Rewired t t' ∧ Cut t t' id tier := by
  obtain ⟨page, hpage⟩ := exists_page (h.lt_size hm)
  have hl : page.list? = some tier :=
    (via_of_page hpage Page.list?).symm.trans ((h.listed tier id).mp hm)
  have hn : t.via Page.next? id = page.next? := via_of_page hpage _
  have hp : t.via Page.prev? id = page.prev? := via_of_page hpage _
  have nextIn : ∀ i, page.next? = some i → i < t.size := fun i hi =>
    h.lt_size ((h.forward tier).next_mem hm (hn.trans hi))
  have prevIn : ∀ i, page.prev? = some i → i < t.size := fun i hi =>
    h.lt_size (List.mem_reverse.mp
      ((h.backward tier).next_mem (List.mem_reverse.mpr hm) (hp.trans hi)))
  have e₁ := modify_of_lt (h.lt_size hm) Page.unlinked
  have r₁ : Rewired t { t with pages := t.pages.modify id Page.unlinked } :=
    Rewired.modify fun _ => rfl
  obtain ⟨t₂, e₂, r₂, c₂, n₂, p₂, l₂⟩ := setNext_spec tier page.prev? page.next?
    fun i hi => r₁.size_eq.symm ▸ prevIn i hi
  obtain ⟨t₃, e₃, r₃, c₃, p₃, n₃, l₃⟩ := setPrev_spec tier page.next? page.prev?
    fun i hi => r₂.size_eq.symm ▸ r₁.size_eq.symm ▸ nextIn i hi
  have hs : (t₃.chains.get tier).size ≠ 0 := by
    have := List.length_pos_of_mem hm
    rw [c₃, c₂]
    split <;> split <;> simp only [h.size] <;> omega
  refine ⟨t₃.modifyChain tier fun c => { c with size := c.size - 1 }, ?_,
    r₁.trans (r₂.trans (r₃.trans ⟨rfl, rfl⟩)), ?_⟩
  · change t.modify id (fun p => { p with list? := none, prev? := none, next? := none }) = _ at e₁
    simp [detach, get_of_page hpage, hl, e₁, e₂, e₃, shorten, hs, bind, Except.bind, pure,
      Except.pure]
  · refine ⟨fun u => ?_, fun i hi => ?_, fun i hi => ?_, fun i => ?_, ?_⟩
    · simp only [modifyChain, PerTier.get_modify, c₃, c₂, hn, hp]
      by_cases hu : u = tier
      · subst hu
        simp only [true_and, ↓reduceIte]
        split <;> split <;> rfl
      · simp [hu]
    · change t₃.via _ i = _
      rw [n₃, n₂, via_modify, if_neg (Ne.symm hi), hn, hp]
    · change t₃.via _ i = _
      rw [p₃, p₂, via_modify, if_neg (Ne.symm hi), hn, hp]
    · change t₃.via _ i = _
      rw [l₃, l₂, via_modify]
      by_cases hi : i = id
      · subst hi; simp [via_of_page hpage, Page.unlinked]
      · simp [hi, Ne.symm hi]
    · have hn' := (h.forward tier).next_ne_self (h.nodup tier) hm
      have hp' := (h.backward tier).next_ne_self (List.nodup_reverse.mpr (h.nodup tier))
        (List.mem_reverse.mpr hm)
      rw [hn] at hn'
      rw [hp] at hp'
      change t₃.via _ id = _ ∧ t₃.via _ id = _
      rw [n₃, n₂, p₃, p₂, if_neg hp', if_neg hn', via_modify, if_pos rfl, via_modify, if_pos rfl]
      simp [via_of_page hpage, Page.unlinked]

theorem Threaded.detach_spec (h : t.Threaded l) (hid : id < t.size) :
    ∃ t', t.detach id = .ok ((t.via Page.list? id).isSome, t') ∧ Rewired t t' ∧
      t'.Threaded (l.without id) ∧ t'.via Page.list? id = none ∧ (t.Loose → t'.Loose) ∧
      if (t.via Page.list? id).isSome then
        t'.via Page.next? id = none ∧ t'.via Page.prev? id = none
      else t' = t := by
  cases hl : t.via Page.list? id with
  | none =>
    obtain ⟨page, hp⟩ := exists_page hid
    have hw : l.without id = l := PerTier.ext_get fun u => by
      rw [Lineup.get_without, List.erase_of_not_mem]
      simp [h.listed, hl]
    exact ⟨t, detach_of_unlinked hp ((via_of_page hp _).symm.trans hl), Rewired.refl t,
      hw.symm ▸ h, hl, fun loose => loose, rfl⟩
  | some tier =>
    have hm := (h.listed tier id).mpr hl
    obtain ⟨t', e, r, c⟩ := h.detach_of_mem hm
    exact ⟨t', e, r, h.cut hm c, by rw [c.list, if_pos rfl], h.loose_cut hm c, c.loose⟩

theorem Linked.detach_spec (h : t.Linked l) (hid : id < t.size) :
    ∃ t', t.detach id = .ok ((t.via Page.list? id).isSome, t') ∧ Rewired t t' ∧
      t'.Linked (l.without id) ∧ t'.via Page.list? id = none := by
  obtain ⟨t', e, r, h', hn, loose, -⟩ := h.toThreaded.detach_spec hid
  exact ⟨t', e, r, ⟨h', loose h.loose⟩, hn⟩

/-- What the links of a table must look like after page `id`, which was in no list, was put at the
tail of the list of `tier`. -/
structure Joined (t t' : Table W) (id : PageId) (tier : Tier) : Prop where
  chain : ∀ u, t'.chains.get u = if u = tier then
    { head? := (t.chains.get u).head?.or (some id)
      tail? := some id
      size := (t.chains.get u).size + 1 } else t.chains.get u
  next : ∀ i, t'.via Page.next? i = if (t.chains.get tier).tail? = some i then some id
    else if i = id then none else t.via Page.next? i
  prev : ∀ i, t'.via Page.prev? i =
    if i = id then (t.chains.get tier).tail? else t.via Page.prev? i
  list : ∀ i, t'.via Page.list? i = if i = id then some tier else t.via Page.list? i

theorem Threaded.join (h : t.Threaded l) (hid : t.via Page.list? id = none)
    (j : Joined t t' id tier) : t'.Threaded (l.modify tier (· ++ [id])) := by
  have out : ∀ u, id ∉ l.get u := fun u hm => by
    rw [h.listed, hid] at hm
    cases hm
  have inList : ∀ {u i}, i ∈ l.get u → i ≠ id := fun hi e => out _ (e ▸ hi)
  have notLast : ∀ {u i}, u ≠ tier → i ∈ l.get u → (t.chains.get tier).tail? ≠ some i := by
    intro u i hu hi ht
    rw [h.tail?_eq] at ht
    exact hu (h.tier_eq (List.mem_of_getLast? ht) hi)
  -- Of the pages that were in lists, only the last one of this list gets another link.
  refine ⟨fun u => ?_, fun u => ?_, fun u => ?_, fun u => ?_, fun u i => ?_⟩
  all_goals
    rw [PerTier.get_modify]
    by_cases hu : u = tier
  · subst hu
    simp only [j.chain, ↓reduceIte]
    refine (h.forward u).append_singleton (h.nodup u) ?_ fun i hi => ?_
    · rw [j.next, if_neg, if_pos rfl]
      rw [h.tail?_eq]
      exact fun e => out u (List.mem_of_getLast? e)
    · rw [j.next, if_neg (inList hi), h.tail?_eq]
  · rw [if_neg hu, j.chain, if_neg hu]
    exact (h.forward u).congr fun i hi => by
      rw [j.next, if_neg (notLast hu hi), if_neg (inList hi)]
  · subst hu
    simp only [j.chain, ↓reduceIte, List.reverse_append, List.reverse_singleton,
      List.singleton_append]
    refine ⟨rfl, ?_⟩
    rw [j.prev, if_pos rfl]
    exact (h.backward u).congr fun i hi => by
      rw [j.prev, if_neg (inList (List.mem_reverse.mp hi))]
  · rw [if_neg hu, j.chain, if_neg hu]
    exact (h.backward u).congr fun i hi => by
      rw [j.prev, if_neg (inList (List.mem_reverse.mp hi))]
  · subst hu; simp [j.chain, h.size]
  · rw [if_neg hu, j.chain, if_neg hu, h.size]
  · subst hu
    rw [if_pos rfl, ← List.concat_eq_append]
    exact (h.nodup u).concat (out u)
  · rw [if_neg hu]; exact h.nodup u
  · subst hu
    by_cases hi : i = id
    · subst hi; simp [j.list]
    · simp [j.list, hi, h.listed]
  · rw [if_neg hu, j.list, h.listed]
    by_cases hi : i = id
    · subst hi; simp [hid, Ne.symm hu]
    · simp [hi]

theorem Threaded.loose_join (h : t.Threaded l) (j : Joined t t' id tier) (hl : t.Loose) :
    t'.Loose := by
  intro i hi
  rw [j.list] at hi
  split at hi
  · cases hi
  · rename_i hne
    have hlast : (t.chains.get tier).tail? ≠ some i := fun e => by
      rw [h.tail?_eq] at e
      have hm := (h.listed tier i).mp (List.mem_of_getLast? e)
      rw [hi] at hm
      cases hm
    rw [j.next, j.prev, if_neg hlast, if_neg hne, if_neg hne]
    exact hl i hi

theorem Threaded.append_spec (h : t.Threaded l) (hid : id < t.size) (tier : Tier) :
    ∃ t', t.append id tier = .ok t' ∧ Rewired t t' ∧ t'.Threaded (l.moveTo id tier) ∧
      (t.Loose → t'.Loose) := by
  obtain ⟨t₁, e₁, r₁, h₁, hn, loose₁, -⟩ := h.detach_spec hid
  have hid₁ : id < t₁.size := r₁.size_eq.symm ▸ hid
  obtain ⟨page, hpage⟩ := exists_page hid₁
  have hne : (t₁.chains.get tier).tail? ≠ some id := fun e => by
    rw [h₁.tail?_eq] at e
    have := (h₁.listed tier id).mp (List.mem_of_getLast? e)
    rw [hn] at this
    cases this
  let f : Page W → Page W := fun p =>
    { p with prev? := (t₁.chains.get tier).tail?, next? := none, list? := some tier }
  have e₂ := modify_of_lt hid₁ f
  have r₂ : Rewired t₁ { t₁ with pages := t₁.pages.modify id f } := Rewired.modify fun _ => rfl
  obtain ⟨t₃, e₃, r₃, c₃, n₃, p₃, l₃⟩ := setNext_spec tier (t₁.chains.get tier).tail? (some id)
    fun i hi => by
      rw [h₁.tail?_eq] at hi
      exact r₂.size_eq.symm ▸ h₁.lt_size (List.mem_of_getLast? hi)
  let t₄ := t₃.modifyChain tier fun c => { c with tail? := some id, size := c.size + 1 }
  have e₄ : t.append id tier = .ok t₄ := by
    simp only [f] at e₂ e₃
    simp [append, e₁, e₂, e₃, t₄, bind, Except.bind, pure, Except.pure]
  suffices joined : Joined t₁ t₄ id tier from
    ⟨t₄, e₄, r₁.trans (r₂.trans (r₃.trans ⟨rfl, rfl⟩)), h₁.join hn joined,
      fun loose => h₁.loose_join joined (loose₁ loose)⟩
  refine ⟨fun u => ?_, fun i => ?_, fun i => ?_, fun i => ?_⟩
  · simp only [t₄, modifyChain, PerTier.get_modify, c₃]
    by_cases hu : u = tier
    · subst hu
      have : (t₁.chains.get u).tail? = none ↔ (t₁.chains.get u).head? = none := by
        rw [h₁.tail?_eq, h₁.head?_eq]; simp
      simp only [true_and, ↓reduceIte, this]
      split <;> rename_i hh
      · simp [hh]
      · obtain ⟨i, hi⟩ := Option.ne_none_iff_exists'.mp hh
        simp [hi]
    · simp [hu]
  · change t₃.via _ i = _
    rw [n₃, via_modify]
    by_cases hi : i = id
    · subst hi; simp [hne, f, via, hpage]
    · simp [hi, Ne.symm hi]
  · change t₃.via _ i = _
    rw [p₃, via_modify]
    by_cases hi : i = id
    · subst hi; simp [f, via, hpage]
    · simp [hi, Ne.symm hi]
  · change t₃.via _ i = _
    rw [l₃, via_modify]
    by_cases hi : i = id
    · subst hi; simp [f, via, hpage]
    · simp [hi, Ne.symm hi]

theorem Linked.append_spec (h : t.Linked l) (hid : id < t.size) (tier : Tier) :
    ∃ t', t.append id tier = .ok t' ∧ Rewired t t' ∧ t'.Linked (l.moveTo id tier) := by
  obtain ⟨t', e, r, h', loose⟩ := h.toThreaded.append_spec hid tier
  exact ⟨t', e, r, h', loose h.loose⟩

end Table

end RecordCache
