import RecordCache.Proofs.Moments
/-! The bounds of the upper tiers. The top tier stays within its limit. Both together stay within
theirs only if that limit leaves room for a page beside a full top tier, since the heads that go
down to the lowest tier are taken from the middle one alone. -/
namespace RecordCache

variable {W : Type} {limits : Limits} {capacity : Nat} {protectedFraction longTermFraction : Float}
  {opened : List Ticket} {s : Session} {l : Lineup} {id : PageId} {source tier : Tier}
  {ids : List PageId}

namespace Limits

theorem of_fractions (h : ofFractions capacity protectedFraction longTermFraction = .ok limits) :
    limits.capacity = capacity ∧ limits.protectedLimit ≤ capacity ∧ 1 ≤ limits.longTermLimit := by
  rw [ofFractions] at h
  split at h
  · cases h
  · rename_i hc
    cases h
    exact ⟨rfl, shareOf_le _ (Nat.pos_of_ne_zero hc), one_le_shareOf ..⟩

theorem ofFractions_of_shares {protectedLimit longTermLimit : Nat} (hc : capacity ≠ 0)
    (hp : shareOf capacity protectedFraction = protectedLimit)
    (hl : shareOf capacity longTermFraction = longTermLimit) :
    ofFractions capacity protectedFraction longTermFraction =
      .ok ⟨capacity, protectedLimit, longTermLimit⟩ := by
  subst hp hl
  exact if_neg hc

end Limits

namespace Lineup

structure Bounded (limits : Limits) (l : Lineup) : Prop where
  longTerm : l.longTerm.length ≤ limits.longTermLimit
  upper : l.shortTerm.length + l.longTerm.length ≤
    max limits.protectedLimit (limits.longTermLimit + 1)

theorem Bounded.mono {l' : Lineup} (h : l.Bounded limits)
    (hs : l'.shortTerm.length ≤ l.shortTerm.length) (ht : l'.longTerm.length ≤ l.longTerm.length) :
    l'.Bounded limits :=
  ⟨Nat.le_trans ht h.longTerm, Nat.le_trans (Nat.add_le_add hs ht) h.upper⟩

/-- A promotion makes room for its page if it can. What may be left over is the promoted page
itself, beside a top tier within its limit. -/
theorem Bounded.hit (h : l.Bounded limits) (hn : 1 ≤ limits.longTermLimit)
    (hd : l.shortTerm.Nodup) (hs : ∀ u, id ∈ l.get u → u = source)
    (hp : source.promoted? = some tier) : (l.hit limits id (some tier)).Bounded limits := by
  cases source with
  | unknown =>
    cases hp
    rw [hit_shortTerm hs h.longTerm]
    have hle := h.longTerm
    refine ⟨hle, ?_⟩
    simp only [List.length_append, List.length_drop, List.length_singleton]
    omega
  | shortTerm =>
    cases hp
    rw [hit_longTerm hs hd]
    have hle := h.longTerm
    constructor
    · simp only [List.length_append, List.length_drop, List.length_singleton]
      omega
    · simp only [List.length_append, List.length_drop, List.length_singleton]
      omega
  | longTerm => cases hp

theorem Bounded.getLast?_hit (h : l.Bounded limits) (hd : l.shortTerm.Nodup)
    (hs : ∀ u, id ∈ l.get u → u = source) (hp : source.promoted? = some tier) :
    ((l.hit limits id (some tier)).get tier).getLast? = some id := by
  cases source with
  | unknown =>
    cases hp
    rw [hit_shortTerm hs h.longTerm]
    exact List.getLast?_concat ..
  | shortTerm =>
    cases hp
    rw [hit_longTerm hs hd]
    exact List.getLast?_concat ..
  | longTerm => cases hp

theorem intake_first (capacity : Nat) (referenced : PageId → Bool) (hc : ids.length < capacity) :
    intake ⟨[], [], ids⟩ capacity referenced id = ⟨[id], [], ids⟩ := by
  have hfull : (all ⟨[], [], ids⟩).length < capacity := hc
  rw [intake, if_pos hfull]
  rfl

theorem hit_first (hn : id ∉ ids) (hl : ids.length ≤ limits.longTermLimit) :
    hit ⟨[id], [], ids⟩ limits id (some .shortTerm) = ⟨[], [id], ids⟩ := by
  rw [hit_shortTerm (fun u hu => ?_) hl]
  · simp
  · cases u with
    | unknown => rfl
    | shortTerm => cases hu
    | longTerm => exact absurd hu hn

theorem hit_second (hn : id ∉ ids) (hl : ids.length < limits.longTermLimit) :
    hit ⟨[], [id], ids⟩ limits id (some .longTerm) = ⟨[], [], ids ++ [id]⟩ := by
  rw [hit_longTerm (fun u hu => ?_) (List.nodup_singleton id)]
  · simp [Nat.sub_eq_zero_of_le (Nat.succ_le_of_lt hl)]
  · cases u with
    | unknown => cases hu
    | shortTerm => rfl
    | longTerm => exact absurd hu hn

end Lineup

theorem Roster.Effect.bounded {r r' : Roster} {deed : Deed} (e : r.Effect limits deed r')
    (h : r.Proper limits) (hn : 1 ≤ limits.longTermLimit) (hb : r.lineup.Bounded limits) :
    r'.lineup.Bounded limits := by
  cases e with
  | @hit source id hm =>
    rw [Roster.hit]
    cases hx : r.promotion? id source with
    | none => exact hb
    | some tier =>
      exact hb.hit hn (h.nodup .shortTerm) (fun _ => h.tier_eq hm) (Roster.promotion?_eq_some hx)
  | loaded _ => exact hb.mono (Nat.le_refl _) (Nat.le_refl _)
  | forcedOut _ => exact hb.mono (List.length_erase_le ..) (List.length_erase_le ..)

namespace Table

variable {t t' : Table W}

def LastOf (t : Table W) (id : PageId) (tier : Tier) : Prop :=
  (t.members tier).getLast? = some id ∧ ∃ page, t.pages[id]? = some page ∧ page.tier = tier

theorem Shows.lastOf_of_hit {r : Roster} (h : t.Shows (r.hit limits source id))
    (hb : r.lineup.Bounded limits) (hr : r.Proper limits) (hm : id ∈ r.lineup.get source)
    (hx : r.promotion? id source = some tier) : t.LastOf id tier := by
  have hlast := hb.getLast?_hit (hr.nodup .shortTerm) (fun _ => hr.tier_eq hm)
    (Roster.promotion?_eq_some hx)
  have ha := h.aligned
  rw [Roster.hit, hx] at ha
  obtain ⟨page, hp⟩ := exists_page (ha.linked.lt_size (List.mem_of_getLast? hlast))
  refine ⟨?_, page, hp, ha.page_tier hp (List.mem_of_getLast? hlast)⟩
  rw [ha.linked.members_eq]
  exact hlast

end Table

namespace Session

theorem Free.bounded (h : Free limits opened s) (hn : 1 ≤ limits.longTermLimit) :
    ∃ r, s.table.Shows r ∧ r.Proper limits ∧ r.lineup.Bounded limits := by
  have empty : Roster.empty.lineup.Bounded limits := ⟨Nat.zero_le _, Nat.zero_le _⟩
  exact h.invariant empty fun hp e hb => e.bounded hp hn hb

/-- The top tier stays within its limit, and no hit demotes the page that it promotes: that page is
the tail of its new tier. -/
theorem long_term_bounded_and_promoted_last
    (h : Limits.ofFractions capacity protectedFraction longTermFraction = .ok limits)
    (hs : Free limits opened s) :
    (s.table.members .longTerm).length ≤ limits.longTermLimit ∧
      ∀ id page window tier, s.table.pages[id]? = some page → page.window? = some window →
        page.promotion? = some tier →
        (∀ awaited?, ∃ t', s.table.lap limits awaited? id = .ok (.hit window, t') ∧
          t'.LastOf id tier) ∧
        ∀ attempt, page.parkedFor? attempt = none → ∃ t',
          s.table.runOn limits id attempt = .ok (.hit window, t') ∧ t'.LastOf id tier := by
  obtain ⟨-, -, hn⟩ := Limits.of_fractions h
  obtain ⟨r, hr, hproper, hb⟩ := hs.bounded hn
  constructor
  · rw [hr.aligned.linked.members_eq]
    exact hb.longTerm
  · intro id page window tier hp hw ht
    obtain ⟨source, hm⟩ := (hr.aligned.page_resident hp).mp (by rw [Page.isResident, hw]; rfl)
    rw [hr.promotion?_eq hp hm] at ht
    constructor
    · intro awaited?
      obtain ⟨t', e, h'⟩ := hr.lap hp hw hm limits awaited?
      exact ⟨t', e, h'.lastOf_of_hit hb hproper hm ht⟩
    · intro attempt hk
      obtain ⟨t', e, h'⟩ := hr.runOn hp hw hm limits hk
      exact ⟨t', e, h'.lastOf_of_hit hb hproper hm ht⟩

/-- The top tier holds page 0 and is full. A fourth acquisition of page 1 takes it there, and page 0
goes down. -/
theorem promoted_last_over_full_tier :
    ∃ s t', Free ⟨2, 2, 1⟩ [] s ∧ s.table.members .longTerm = [0] ∧
      s.table.lap ⟨2, 2, 1⟩ none 1 = .ok (.hit ⟨8, 2⟩, t') ∧ t'.LastOf 1 .longTerm := by
  have h : Limits.ofFractions 2 1.0 0.5 = .ok ⟨2, 2, 1⟩ :=
    Limits.ofFractions_of_shares (by decide) (by decide +kernel) (by decide +kernel)
  have hs : Free ⟨2, 2, 1⟩ [] _ := .between <|
    .operated (acquisition 1 none) <| .operated (acquisition 1 none) <|
    .operated (acquisition 0 none) <| .operated (acquisition 0 none) <|
    .operated (acquisition 0 none) <| .operated (.grow 1 8) .fresh
  obtain ⟨t', e, hlast⟩ := ((long_term_bounded_and_promoted_last h hs).2 1 _ _ _ rfl rfl rfl).1 none
  exact ⟨_, t', hs, rfl, e, hlast⟩

theorem Reachable.touch {referenced : PageId → Bool} (h : Reachable limits [] s)
    (hr : s.table.Shows ⟨⟨[], [], ids⟩, referenced⟩) (hid : id < s.table.size) (hn : id ∉ ids)
    (hc : ids.length < limits.capacity) (hl : ids.length ≤ limits.longTermLimit) :
    ∃ s' referenced', Reachable limits [] s' ∧ s'.table.addressOf = s.table.addressOf ∧
      s'.table.Shows ⟨⟨[], [id], ids⟩, referenced'⟩ ∧ referenced' id := by
  have hidle : ∀ u, id ∉ (⟨[], [], ids⟩ : Lineup).get u := by
    intro u hu
    cases u with
    | unknown => cases hu
    | shortTerm => cases hu
    | longTerm => exact hn hu
  obtain ⟨_, _, s₁, m⟩ := h.sound.quiet.step_miss hr hid hidle none
  have h₁ := h.operated (acquisition id none)
  have hr₁ := m.roster
  rw [m.step_eq] at h₁
  rw [if_pos rfl, Roster.intake, Lineup.intake_first _ _ hc] at hr₁
  obtain ⟨_, s₂, e₂, -, hr₂, -, ha₂⟩ := m.quiet.step_hit hr₁
    (show id ∈ PerTier.get _ .unknown from List.mem_singleton_self id) none
  have h₂ := h₁.operated (acquisition id none)
  rw [e₂] at h₂
  rw [Roster.hit, Roster.promotion?, Lineup.hit_first hn hl] at hr₂
  exact ⟨s₂, _, h₂, ha₂.trans m.addresses, hr₂, by simp⟩

theorem Reachable.fill (hc : limits.protectedLimit < limits.capacity)
    (hl : limits.protectedLimit ≤ limits.longTermLimit) :
    ∀ k ≤ limits.protectedLimit, ∃ s referenced, Reachable limits [] s ∧
      limits.protectedLimit < s.table.size ∧
      s.table.Shows ⟨⟨[], [], List.range k⟩, referenced⟩ := by
  intro k
  induction k with
  | zero =>
    intro _
    refine ⟨_, _, .operated (.grow limits.protectedLimit 1) .fresh, ?_, ?_, rfl⟩
    · exact Nat.lt_of_lt_of_eq (Nat.lt_of_lt_of_le (Nat.lt_succ_self _) (Nat.le_max_right ..))
        (Table.size_growTo ..).symm
    · exact Table.Aligned.empty.growTo limits.protectedLimit 1
  | succ k ih =>
    intro hk
    obtain ⟨s, _, h, hs, hr⟩ := ih (Nat.le_of_succ_le hk)
    have hn : k ∉ List.range k := List.not_mem_range_self
    have hlen : (List.range k).length < limits.protectedLimit := by
      rw [List.length_range]
      exact hk
    obtain ⟨s₁, f, h₁, ha₁, hr₁, hf⟩ := h.touch hr (Nat.lt_trans hk hs) hn (Nat.lt_trans hlen hc)
      (Nat.le_of_lt (Nat.lt_of_lt_of_le hlen hl))
    obtain ⟨_, s₂, e₂, -, hr₂, -, ha₂⟩ := h₁.sound.quiet.step_hit hr₁
      (show k ∈ PerTier.get _ .shortTerm from List.mem_singleton_self k) none
    have h₂ := h₁.operated (acquisition k none)
    rw [e₂] at h₂
    simp only [Roster.hit, Roster.promotion?, hf, ↓reduceIte,
      Lineup.hit_second hn (Nat.lt_of_lt_of_le hlen hl), ← List.range_succ] at hr₂
    exact ⟨s₂, _, h₂, Table.size_eq_of_addressOf (ha₂.trans ha₁) ▸ hs, hr₂⟩

/-- A top tier that may take as many pages as both tiers together can be filled that far, and then
there is no head to make room for one more. -/
theorem Reachable.overfill (hc : limits.protectedLimit < limits.capacity)
    (hl : limits.protectedLimit ≤ limits.longTermLimit) :
    ∃ s, Reachable limits [] s ∧ (s.table.members .shortTerm).length = 1 ∧
      (s.table.members .longTerm).length = limits.protectedLimit := by
  have hlen : (List.range limits.protectedLimit).length = limits.protectedLimit := List.length_range
  obtain ⟨s, _, h, hs, hr⟩ := Reachable.fill hc hl _ (Nat.le_refl _)
  obtain ⟨s', _, h', -, hr', -⟩ :=
    h.touch hr hs List.not_mem_range_self (hlen.symm ▸ hc) (hlen.symm ▸ hl)
  refine ⟨s', h', ?_, ?_⟩
  · rw [hr'.aligned.linked.members_eq]
    rfl
  · rw [hr'.aligned.linked.members_eq]
    exact hlen

/-- Whether both upper tiers together stay within their limit depends on the limits alone: either
the top tier has to leave room for another page, or the limit has to be the capacity. In any case no
more than one page comes on top of what the top tier may hold. -/
theorem upper_tiers_within_iff
    (h : Limits.ofFractions capacity protectedFraction longTermFraction = .ok limits) :
    ((∀ opened s, Free limits opened s →
        (s.table.members .shortTerm).length + (s.table.members .longTerm).length ≤
          limits.protectedLimit) ↔
      limits.longTermLimit < limits.protectedLimit ∨ limits.protectedLimit = capacity) ∧
    ∀ opened s, Free limits opened s →
      (s.table.members .shortTerm).length + (s.table.members .longTerm).length ≤
        max limits.protectedLimit (limits.longTermLimit + 1) := by
  obtain ⟨hcap, hp, hn⟩ := Limits.of_fractions h
  refine ⟨⟨fun hall => ?_, fun hcase opened s hs => ?_⟩, fun opened s hs => ?_⟩
  · by_contra hcase
    obtain ⟨hl, hne⟩ := not_or.mp hcase
    have hl := Nat.le_of_not_lt hl
    have hc : limits.protectedLimit < limits.capacity := hcap ▸ Nat.lt_of_le_of_ne hp hne
    obtain ⟨s, hr, h₁, h₂⟩ := Reachable.overfill hc hl
    have hle := hall [] s (.between hr)
    rw [h₁, h₂] at hle
    omega
  · obtain ⟨r, hr, hproper, hb⟩ := hs.bounded hn
    rw [hr.aligned.linked.members_eq, hr.aligned.linked.members_eq]
    rcases hcase with hlt | hfull
    · exact Nat.le_trans hb.upper (Nat.max_le.mpr ⟨Nat.le_refl _, hlt⟩)
    · have hc := hproper.within
      rw [Lineup.all, List.length_append, List.length_append] at hc
      rw [hfull, ← hcap]
      exact Nat.le_trans (Nat.add_le_add_right (Nat.le_add_left ..) _) hc
  · obtain ⟨r, hr, -, hb⟩ := hs.bounded hn
    rw [hr.aligned.linked.members_eq, hr.aligned.linked.members_eq]
    exact hb.upper

theorem upper_tiers_within_three_of_four :
    Limits.ofFractions 4 0.75 0.5 = .ok ⟨4, 3, 2⟩ ∧ ∀ opened s, Free ⟨4, 3, 2⟩ opened s →
      (s.table.members .shortTerm).length + (s.table.members .longTerm).length ≤ 3 := by
  have h : Limits.ofFractions 4 0.75 0.5 = .ok ⟨4, 3, 2⟩ :=
    Limits.ofFractions_of_shares (by decide) (by decide +kernel) (by decide +kernel)
  exact ⟨h, (upper_tiers_within_iff h).1.mpr (Or.inl (by decide))⟩

/-- A half of two pages for the upper tiers together, and all of them for the top tier. Page 0 is
acquired three times, page 1 twice, and the upper tiers hold both. -/
theorem upper_tiers_over_limit :
    ∃ limits s, Limits.ofFractions 2 0.5 1.0 = .ok limits ∧ Free limits [] s ∧
      s.table.members .shortTerm = [1] ∧ s.table.members .longTerm = [0] ∧
      ¬(s.table.members .shortTerm).length + (s.table.members .longTerm).length ≤
        limits.protectedLimit := by
  have h : Limits.ofFractions 2 0.5 1.0 = .ok ⟨2, 1, 2⟩ :=
    Limits.ofFractions_of_shares (by decide) (by decide +kernel) (by decide +kernel)
  have hs : Free ⟨2, 1, 2⟩ [] _ := .between <|
    .operated (acquisition 1 none) <| .operated (acquisition 1 none) <|
    .operated (acquisition 0 none) <| .operated (acquisition 0 none) <|
    .operated (acquisition 0 none) <| .operated (.grow 1 8) .fresh
  exact ⟨_, _, h, hs, rfl, rfl, by decide +kernel⟩

end Session

end RecordCache
