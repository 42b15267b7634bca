import RecordCache.Proofs.IntegrityCheck
/-! Link surgery on the lists that walks find. On a chained table, whatever links the pages outside
the lists may carry, moving a page to the tail of a list and taking it out of its list always go
through. The table is chained afterwards, its lists are those of before without the page and with it
at the tail it was moved to, and of the pages nothing but their places in the lists has changed. -/
namespace RecordCache.Table

variable {W : Type} {t t' : Table W} {id : PageId} {page : Page W}

theorem Rewired.page_eq_unlinked (r : Rewired t t') (hp : t.pages[id]? = some page)
    (hlist : t'.via Page.list? id = none) (hnext : t'.via Page.next? id = none)
    (hprev : t'.via Page.prev? id = none) : t'.pages[id]? = some page.unlinked := by
  have hid : id < t'.size := r.size_eq.symm ▸ lt_size_of_page hp
  obtain ⟨page', hp'⟩ := exists_page hid
  have hcontent := congrFun r.content id
  rw [content_of_page hp', content_of_page hp, Option.some.injEq] at hcontent
  rw [via_of_page hp'] at hlist hnext hprev
  have hself : page'.unlinked = page' := by
    cases page'
    simp_all [Page.unlinked]
  rw [hp', ← hcontent, hself]

theorem Chained.get_without (h : t.Chained) (id : PageId) (u : Tier) :
    (t.lineup.without id).get u = (t.members u).filter (· != id) := by
  rw [Lineup.get_without, get_lineup, (h.nodup u).erase_eq_filter]

theorem Chained.isLinked_iff (h : t.Chained) (hp : t.pages[id]? = some page) :
    page.isLinked ↔ ∃ u, id ∈ t.members u := by
  simp only [h.threaded.isLinked_iff hp, get_lineup]

theorem Chained.append_spec (h : t.Chained) (hid : id < t.size) (tier : Tier) :
    ∃ t', t.append id tier = .ok t' ∧ t'.Chained ∧ Rewired t t' ∧ (t.Loose → t'.Loose) ∧
      t'.members tier = (t.members tier).filter (· != id) ++ [id] ∧
      ∀ u ≠ tier, t'.members u = (t.members u).filter (· != id) := by
  obtain ⟨t', e, r, h', loose⟩ := h.threaded.append_spec hid tier
  refine ⟨t', e, h'.chained, r, loose, ?_, fun u hu => ?_⟩
  · rw [h'.members_eq, Lineup.moveTo, PerTier.get_modify, if_pos rfl, h.get_without]
  · rw [h'.members_eq, Lineup.moveTo, PerTier.get_modify, if_neg hu, h.get_without]

theorem Chained.detach_spec (h : t.Chained) (hp : t.pages[id]? = some page) :
    ∃ t', t.detach id = .ok (page.isLinked, t') ∧ t'.Chained ∧ Rewired t t' ∧
      (t.Loose → t'.Loose) ∧ (∀ u, t'.members u = (t.members u).filter (· != id)) ∧
      if page.isLinked then t'.pages[id]? = some page.unlinked else t' = t := by
  obtain ⟨t', e, r, h', hgone, loose, hrest⟩ := h.threaded.detach_spec (lt_size_of_page hp)
  have hlinked : (t.via Page.list? id).isSome = page.isLinked := by
    rw [via_of_page hp, Page.isLinked]
  rw [hlinked] at e hrest
  refine ⟨t', e, h'.chained, r, loose, fun u => ?_, ?_⟩
  · rw [h'.members_eq, h.get_without]
  · cases hl : page.isLinked with
    | false =>
      rw [hl] at hrest
      exact hrest
    | true =>
      rw [hl] at hrest
      exact r.page_eq_unlinked hp hgone hrest.1 hrest.2

/-- Link surgery is what it is on plain lists. Moving a page to a tier takes it out of every list
and puts it behind the last member of that tier's; taking it out only does the first, tells whether
the page was in a list, leaves it without links and changes nothing if it was in none. Both always
go through on chained tables, which they keep chained, and leave all but lists and links alone. -/
theorem surgery_on_lists (h : t.Chained) (hp : t.pages[id]? = some page) (tier : Tier) :
    (∃ t', t.append id tier = .ok t' ∧ t'.Chained ∧ Rewired t t' ∧ (t.Loose → t'.Loose) ∧
      t'.members tier = (t.members tier).filter (· != id) ++ [id] ∧
      ∀ u ≠ tier, t'.members u = (t.members u).filter (· != id)) ∧
    (page.isLinked ↔ ∃ u, id ∈ t.members u) ∧
    ∃ t', t.detach id = .ok (page.isLinked, t') ∧ t'.Chained ∧ Rewired t t' ∧
      (t.Loose → t'.Loose) ∧ (∀ u, t'.members u = (t.members u).filter (· != id)) ∧
      if page.isLinked then t'.pages[id]? = some page.unlinked else t' = t :=
  ⟨h.append_spec (lt_size_of_page hp) tier, h.isLinked_iff hp, h.detach_spec hp⟩

/-- A page between two others moves behind the one of another tier, or is taken out. Page 4 is in no
list and has links all the same. -/
theorem surgery_on_middle_page :
    let t : Table Nat :=
      { pages := #[
          { address := 0, list? := some .unknown, next? := some 1, window? := some 7 },
          { address := 4, list? := some .unknown, prev? := some 0, next? := some 2,
            window? := some 8 },
          { address := 8, list? := some .unknown, prev? := some 1, window? := some 9 },
          { address := 12, tier := .shortTerm, list? := some .shortTerm, window? := some 10 },
          { address := 16, prev? := some 1, next? := some 0 }]
        chains := { unknown := ⟨some 0, some 2, 3⟩, shortTerm := ⟨some 3, some 3, 1⟩, longTerm := {} }
        census := { unknown := 3, shortTerm := 1, longTerm := 0 } }
    t.Chained ∧ ¬t.Loose ∧ ∃ page t₁ t₂, t.pages[1]? = some page ∧
      t.append 1 .shortTerm = .ok t₁ ∧ t₁.Chained ∧ t₁.members .shortTerm = [3, 1] ∧
      t₁.members .unknown = [0, 2] ∧ t.detach 1 = .ok (true, t₂) ∧ t₂.Chained ∧
      t₂.members .unknown = [0, 2] ∧ t₂.members .shortTerm = [3] ∧
      t₂.pages[1]? = some page.unlinked := by
  intro t
  have h : t.Chained := (wellFormed_of_checkIntegrity (show t.checkIntegrity 3 = some (.ok ()) by
    decide)).chained
  have hstray : ¬t.Loose := fun loose => absurd (loose 4 rfl).1 nofun
  obtain ⟨⟨t₁, e₁, h₁, -, -, hshort, hother⟩, -, t₂, e₂, h₂, -, -, hmembers, hpage⟩ :=
    surgery_on_lists h (show t.pages[1]? = some _ from rfl) .shortTerm
  refine ⟨h, hstray, _, t₁, t₂, rfl, e₁, h₁, hshort.trans (by decide),
    (hother .unknown nofun).trans (by decide), e₂, h₂, (hmembers .unknown).trans (by decide),
    (hmembers .shortTerm).trans (by decide), hpage⟩

end RecordCache.Table
