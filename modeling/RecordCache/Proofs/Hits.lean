import RecordCache.Proofs.Alignment
/-! Hits keep a table aligned. A hit changes the bit of its own page, and of all pages only the
places, which end up as the lists alone tell. -/
namespace RecordCache.Table

variable {W : Type} {t t' : Table W} {l : Lineup} {id pinned : PageId} {source target : Tier}

structure Demotion (source target : Tier) (t : Table W) (l : Lineup) (head : PageId)
    (t' : Table W) : Prop where
  aligned : t.Aligned l
  head_eq : (l.get source).head? = some head
  moved : t'.Aligned (l.moveTo head target)

theorem Demotion.census_eq {head : PageId} (d : Demotion source target t l head t')
    (u : Tier) : t'.census.get u =
      (if u = source then t.census.get u - 1 else t.census.get u) +
        if u = target then 1 else 0 := by
  have hm := List.mem_of_head? d.head_eq
  rw [d.moved.placed.census, d.aligned.placed.census]
  exact Lineup.length_moveTo hm (fun u => d.aligned.linked.tier_eq hm) u

theorem bare_modify (t : Table W) (id : PageId) {f : Page W → Page W} (hf : Page.Inert f)
    (ht : ∀ p tier, f { p with tier } = { f p with tier }) (i : PageId) :
    ({ t with pages := t.pages.modify id f } : Table W).bare i =
      if i = id then (t.bare i).map f else t.bare i := by
  simp only [bare, content_modify hf.unlinked]
  split
  · cases t.content i with
    | none => rfl
    | some p => exact congrArg some (ht p .unknown).symm
  · rfl

namespace Aligned

theorem edit_referenced (h : t.Aligned l) (hm : id ∈ l.get source) (b : Bool) :
    ({ t with pages := t.pages.modify id fun p => { p with referenced := b } } :
      Table W).Aligned l :=
  h.edit (h.linked.lt_size hm) (Page.inert_referenced b) (Or.inr ⟨_, hm⟩)

theorem census_eq (h : t.Aligned l) : t.census = l.map List.length := by
  apply PerTier.ext_get
  intro u
  rw [h.placed.census, PerTier.get_map]

/-- A loop of demotions, each of which takes one off the surplus. It takes as many heads as the
surplus says, or those before the page `pinned`. -/
theorem demoteHeads_spec (pinned : PageId) {excess : Census → Bool} {surplus : Census → Nat}
    (hne : source ≠ target) (hx : ∀ c, excess c = decide (0 < surplus c))
    (hs : ∀ {t : Table W} {l head t'}, Demotion source target t l head t' →
      surplus t'.census = surplus t.census - 1)
    {steps : Nat} (h : t.Aligned l) (hn : (l.get source).length ≤ steps) :
    ∃ t', demoteHeads excess source target pinned steps t = .ok t' ∧
      t'.Aligned (l.demote source target
        (min (surplus t.census) ((l.get source).idxOf pinned))) ∧
      t'.bare = t.bare ∧ t'.census.total = t.census.total := by
  -- On the steps, of which there are enough for the whole list. A turn moves one head at most.
  induction steps generalizing t l with
  | zero =>
    have hl : l.get source = [] := List.eq_nil_of_length_eq_zero (Nat.le_zero.mp hn)
    refine ⟨t, rfl, ?_, rfl, rfl⟩
    rw [hl, List.idxOf_nil, Nat.min_zero, Lineup.demote_zero hne]
    exact h
  | succ steps ih =>
    rw [demoteHeads, h.linked.head?_eq, hx]
    by_cases hp : 0 < surplus t.census
    · rw [if_pos (decide_eq_true hp)]
      cases hl : l.get source with
      | nil =>
        refine ⟨t, rfl, ?_, rfl, rfl⟩
        rw [List.idxOf_nil, Nat.min_zero, Lineup.demote_zero hne]
        exact h
      | cons head rest =>
        by_cases hpin : head = pinned
        · refine ⟨t, if_pos hpin, ?_, rfl, rfl⟩
          rw [hpin, List.idxOf_cons_self, Nat.min_zero, Lineup.demote_zero hne]
          exact h
        · have hhead : (l.get source).head? = some head := by rw [hl]; rfl
          have hm := List.mem_of_head? hhead
          obtain ⟨t₁, e₁, h₁, b₁, c₁⟩ := h.setTier_spec hm target
          have d : Demotion source target t l head t₁ := ⟨h, hhead, h₁⟩
          have hrest : (l.moveTo head target).get source = rest := by
            rw [Lineup.get_moveTo, if_neg hne, hl, List.erase_cons_head]
          rw [hl] at hn
          obtain ⟨t₂, e₂, h₂, b₂, c₂⟩ := ih h₁ (hrest ▸ Nat.le_of_succ_le_succ hn)
          have hcount : min (surplus t₁.census) (rest.idxOf pinned) + 1 =
              min (surplus t.census) ((head :: rest).idxOf pinned) := by
            rw [hs d, List.idxOf_cons_ne _ hpin]
            omega
          rw [hrest, Lineup.demote_moveTo hne hl
            (fun u hu hi => hu (h.linked.tier_eq hm hi)), hcount] at h₂
          refine ⟨t₂, ?_, h₂, b₂.trans b₁, c₂.trans c₁⟩
          simp only [List.head?_cons, if_neg hpin, e₁]
          exact e₂
    · rw [if_neg (by simpa using hp)]
      refine ⟨t, rfl, ?_, rfl, rfl⟩
      rw [Nat.eq_zero_of_not_pos hp, Nat.zero_min, Lineup.demote_zero hne]
      exact h

theorem enforceLimits_spec (h : t.Aligned l) (limits : Limits) (pinned : PageId) :
    ∃ t', t.enforceLimits limits pinned = .ok t' ∧ t'.Aligned (l.enforce limits pinned) ∧
      t'.bare = t.bare ∧ t'.census.total = t.census.total := by
  have lower : ∀ {t : Table W} {l head t'}, Demotion .longTerm .shortTerm t l head t' →
      t'.census.longTerm - limits.longTermLimit =
        t.census.longTerm - limits.longTermLimit - 1 := by
    intro t l head t' d
    have hl := d.census_eq .longTerm
    simp only [PerTier.get, ↓reduceIte, reduceCtorEq] at hl
    omega
  have lower' : ∀ {t : Table W} {l head t'}, Demotion .shortTerm .unknown t l head t' →
      t'.census.protectedCount - limits.protectedLimit =
        t.census.protectedCount - limits.protectedLimit - 1 := by
    intro t l head t' d
    have hs := d.census_eq .shortTerm
    have hl := d.census_eq .longTerm
    have hpos := d.aligned.census_pos (List.mem_of_head? d.head_eq)
    simp only [PerTier.get, ↓reduceIte, reduceCtorEq] at hs hl hpos
    rw [Census.protectedCount, Census.protectedCount]
    omega
  have hsteps : l.longTerm.length ≤ t.census.longTerm :=
    Nat.le_of_eq (h.placed.census .longTerm).symm
  obtain ⟨t₁, e₁, h₁, b₁, c₁⟩ := h.demoteHeads_spec pinned (by decide)
    (fun c => decide_eq_decide.mpr Nat.sub_pos_iff_lt.symm) lower hsteps
  have hsteps' : (l.demote .longTerm .shortTerm (min (t.census.longTerm - limits.longTermLimit)
      (l.longTerm.idxOf pinned))).shortTerm.length ≤ t₁.census.shortTerm :=
    Nat.le_of_eq (h₁.placed.census .shortTerm).symm
  obtain ⟨t₂, e₂, h₂, b₂, c₂⟩ := h₁.demoteHeads_spec pinned (by decide)
    (fun c => decide_eq_decide.mpr Nat.sub_pos_iff_lt.symm) lower' hsteps'
  rw [h.census_eq] at h₂
  rw [h₁.census_eq, h.census_eq] at h₂
  refine ⟨t₂, ?_, h₂, b₂.trans b₁, c₂.trans c₁⟩
  rw [enforceLimits, e₁]
  exact e₂

theorem recordHit_spec {page : Page W} (h : t.Aligned l) (hp : t.pages[id]? = some page)
    (hm : id ∈ l.get source) (limits : Limits) :
    ∃ t', t.recordHit limits id = .ok t' ∧ t'.Aligned (l.hit limits id page.promotion?) ∧
      t'.census.total = t.census.total ∧
      ∀ i, t'.bare i =
        if i = id then (t.bare i).map fun p => { p with referenced := true } else t.bare i := by
  have h₁ := h.edit_referenced hm true
  have b₁ := t.bare_modify id (Page.inert_referenced true) fun _ _ => rfl
  rw [recordHit, get_of_page hp]
  simp only [bind, Except.bind, modify_of_lt (lt_size_of_page hp)]
  cases page.promotion? with
  | none => exact ⟨_, rfl, h₁, rfl, b₁⟩
  | some tier =>
    obtain ⟨t₂, e₂, h₂, b₂, c₂⟩ := h₁.setTier_spec hm tier
    obtain ⟨t₃, e₃, h₃, b₃, c₃⟩ := h₂.enforceLimits_spec limits id
    refine ⟨t₃, ?_, h₃, c₃.trans c₂, fun i => ?_⟩
    · simp only [e₂]
      exact e₃
    · rw [b₃, b₂]
      exact b₁ i

end Aligned

end RecordCache.Table
