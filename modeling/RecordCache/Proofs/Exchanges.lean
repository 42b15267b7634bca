import RecordCache.Proofs.Closing
/-! Who comes to a table and who leaves it. Between operations a table is calm: nothing is being
loaded, and the resident pages fit the capacity. Every operation takes a calm table to a calm one,
lets at most one page in, and reports exactly the pages that leave. -/
namespace RecordCache

variable {W : Type} {l : Lineup} {id : PageId} {capacity recordsPerPage : Nat}

theorem Lineup.perm_intake (l : Lineup) (capacity : Nat) (referenced : PageId → Bool)
    (id : PageId) : (l.displaced capacity referenced id ++
      (l.intake capacity referenced id).all).Perm (id :: l.all) := by
  have hall (ids : List PageId) : all (l.set .unknown ids) = ids ++ (l.shortTerm ++ l.longTerm) :=
    List.append_assoc ..
  have hid : (l.unknown ++ [id] ++ (l.shortTerm ++ l.longTerm)).Perm (id :: l.all) := by
    rw [all, List.append_assoc, List.append_assoc]
    exact List.perm_middle
  rw [displaced, intake, hall]
  split
  · exact hid
  · refine List.Perm.trans ?_ hid
    rw [← List.append_assoc]
    refine List.Perm.append_right _ ?_
    -- the victim and what stands behind it come before the pages that the search passed over
    generalize l.unknown ++ [id] = ids
    calc (ids.dropWhile referenced).take 1 ++ recycle referenced ids
      _ = ids.dropWhile referenced ++ ids.takeWhile referenced := by
        rw [recycle, ← List.append_assoc, ← List.drop_one, List.take_append_drop]
      List.Perm _ (ids.takeWhile referenced ++ ids.dropWhile referenced) := List.perm_append_comm
      _ = ids := List.takeWhile_append_dropWhile

namespace Table

variable {t t' t'' : Table W} {entered? : Option (PageId × W)} {left : List PageId}

theorem mem_residentIds {i : PageId} :
    i ∈ t.residentIds ↔ ∃ w, t.via Page.window? i = some w := by
  rw [residentIds, mem_idsWhere]
  constructor
  · rintro ⟨page, hp, hr⟩
    rw [via_of_page hp]
    exact Option.isSome_iff_exists.mp hr
  · rintro ⟨w, hw⟩
    obtain ⟨page, hp, hx⟩ := Option.bind_eq_some_iff.mp hw
    exact ⟨page, hp, Option.isSome_iff_exists.mpr ⟨w, hx⟩⟩

theorem perm_residentIds
    (h : ∀ i, (t'.via Page.window? i).isSome = (t.via Page.window? i).isSome) :
    t'.residentIds.Perm t.residentIds := by
  refine (List.perm_ext_iff_of_nodup t'.nodup_residentIds t.nodup_residentIds).mpr fun i => ?_
  rw [mem_residentIds, mem_residentIds, ← Option.isSome_iff_exists, ← Option.isSome_iff_exists, h]

theorem Aligned.perm_all (h : t.Aligned l) : t.residentIds.Perm l.all := by
  refine (List.perm_ext_iff_of_nodup t.nodup_residentIds h.linked.nodup_all).mpr fun i => ?_
  rw [h.mem_residentIds, Lineup.mem_all]

/-- A page may have come in, with its window, and the pages `left` are gone. The others kept their
windows. -/
structure Exchange (t : Table W) (entered? : Option (PageId × W)) (left : List PageId)
    (t' : Table W) : Prop where
  balance : (left ++ t'.residentIds).Perm ((entered?.map Prod.fst).toList ++ t.residentIds)
  window : ∀ {i w}, t'.via Page.window? i = some w →
    t.via Page.window? i = some w ∨ entered? = some (i, w)

theorem Exchange.of_window (h : t'.via Page.window? = t.via Page.window?) :
    t.Exchange none [] t' := by
  constructor
  · apply perm_residentIds
    intro i
    rw [h]
  · intro i w hw
    rw [h] at hw
    exact .inl hw

theorem Exchange.trans_window (h : t.Exchange entered? left t')
    (hw : t''.via Page.window? = t'.via Page.window?) : t.Exchange entered? left t'' := by
  constructor
  · exact ((Exchange.of_window hw).balance.append_left left).trans h.balance
  · intro i w hi
    rw [hw] at hi
    exact h.window hi

theorem Exchange.of_window_trans (hw : t'.via Page.window? = t.via Page.window?)
    (h : t'.Exchange entered? left t'') : t.Exchange entered? left t'' := by
  constructor
  · exact h.balance.trans ((Exchange.of_window hw).balance.append_left _)
  · intro i w hi
    rw [← hw]
    exact h.window hi

/-- Between operations: the resident pages fit, nothing is being loaded, and the pages cover the
records in their order. -/
structure Calm (capacity recordsPerPage : Nat) (t : Table W) : Prop where
  aligned : ∃ l, t.Aligned l
  within : t.residentCount ≤ capacity
  idle : ∀ i m, t.loadOf i = some m → m.loading = false
  address : ∀ i a, t.addressOf i = some a → a = i * recordsPerPage

namespace Calm

theorem of_undisturbed (h : t.Calm capacity recordsPerPage) (hu : Undisturbed t t')
    (ha : ∃ l, t'.Aligned l) (hc : t'.residentCount ≤ capacity) :
    t'.Calm capacity recordsPerPage := by
  refine ⟨ha, hc, ?_, ?_⟩
  · rw [hu.loads]
    exact h.idle
  · rw [hu.addresses]
    exact h.address

theorem empty : (Table.empty : Table W).Calm capacity recordsPerPage := by
  refine ⟨⟨_, Aligned.empty⟩, Nat.zero_le _, ?_, ?_⟩
  · intro i m hm
    simp [loadOf, Table.empty] at hm
  · intro i a ha
    simp [addressOf, Table.empty] at ha

theorem growTo (h : t.Calm capacity recordsPerPage) (id : PageId) :
    (t.growTo id recordsPerPage).Calm capacity recordsPerPage := by
  obtain ⟨l, hal⟩ := h.aligned
  refine ⟨⟨l, hal.growTo id recordsPerPage⟩, h.within, ?_, ?_⟩
  · intro i m hm
    obtain ⟨page, hp, rfl⟩ := Option.map_eq_some_iff.mp hm
    rcases page_growTo hp with hp | ⟨-, hp⟩
    · exact h.idle i _ (loadOf_of_page hp)
    · rw [hp]
      rfl
  · intro i a ha
    rcases addressOf_of_growTo ha with ha | rfl
    · exact h.address i a ha
    · rfl

theorem setLoad {load : LoadState W} (h : t.Calm capacity recordsPerPage)
    (hl : load.loading = false) (id : PageId) :
    (t.setLoad id load).Calm capacity recordsPerPage := by
  obtain ⟨l, hal⟩ := h.aligned
  refine ⟨⟨l, hal.recast ..⟩, h.within, ?_, ?_⟩
  · intro i m hm
    rw [loadOf_setLoad] at hm
    split at hm
    · obtain ⟨_, -, rfl⟩ := Option.map_eq_some_iff.mp hm
      exact hl
    · exact h.idle i m hm
  · intro i a ha
    rw [Table.setLoad, addressOf_recast] at ha
    exact h.address i a ha

theorem recordHit {w : W} (h : t.Calm capacity recordsPerPage)
    (hw : t.via Page.window? id = some w) (limits : Limits) :
    ∃ t', t.recordHit limits id = .ok t' ∧ t'.Calm capacity recordsPerPage ∧
      t'.via Page.window? = t.via Page.window? := by
  obtain ⟨l, hal⟩ := h.aligned
  obtain ⟨t', l', e, hal', hr⟩ := hal.recordHit_retains hw limits
  have hc : t'.residentCount ≤ capacity := Nat.le_trans (Nat.le_of_eq hr.total) h.within
  exact ⟨t', e, h.of_undisturbed hr.toUndisturbed ⟨l', hal'⟩ hc, hr.window⟩

/-- A page that is loaded comes in with its window, and the page displaced leaves, if there is one.
It may be the page itself. -/
theorem makeResident {limits : Limits} (h : t.Calm limits.capacity recordsPerPage)
    (hid : id < t.size) (hw : t.via Page.window? id = none) (w : W) :
    ∃ evicted t', t.makeResident limits id w = .ok (evicted, t') ∧ Undisturbed t t' ∧
      t'.Calm limits.capacity recordsPerPage ∧
      t.Exchange (some (id, w)) (evicted.map Eviction.page) t' := by
  obtain ⟨l, hal⟩ := h.aligned
  obtain ⟨evicted, t', e, a⟩ := hal.makeResident_spec hid (hal.not_mem hw) h.within w
  refine ⟨evicted, t', e, a.undisturbed,
    h.of_undisturbed a.undisturbed ⟨_, a.admitted⟩ a.within, ?_, ?_⟩
  · rw [a.evicted]
    calc l.displaced limits.capacity t.isReferenced id ++ t'.residentIds
      List.Perm _ (l.displaced limits.capacity t.isReferenced id ++
          (l.intake limits.capacity t.isReferenced id).all) := a.admitted.perm_all.append_left _
      List.Perm _ (id :: l.all) := l.perm_intake limits.capacity t.isReferenced id
      List.Perm _ (id :: t.residentIds) := hal.perm_all.symm.cons id
  · intro i v hv
    by_cases hi : i = id
    · subst hi
      rcases a.own with hown | hown
      · rw [hown] at hv
        cases hv
        exact .inr rfl
      · rw [hown] at hv
        cases hv
    · rcases a.others i hi with hother | hother
      · exact .inl (hother.symm.trans hv)
      · rw [hother] at hv
        cases hv

theorem evict (h : t.Calm capacity recordsPerPage) (hid : id < t.size) :
    ∃ eviction? t', t.evict id = .ok (eviction?, t') ∧ t'.Calm capacity recordsPerPage ∧
      t'.addressOf = t.addressOf ∧
      (eviction?.map Eviction.page = if id ∈ t.residentIds then some id else none) ∧
      t.Exchange none (eviction?.toList.map Eviction.page) t' := by
  obtain ⟨l, hal⟩ := h.aligned
  by_cases hm : id ∈ t.residentIds
  · obtain ⟨u, hu⟩ := hal.mem_residentIds.mp hm
    obtain ⟨x, t', e, rfl, -, hal', hc, hb⟩ := hal.evict_spec hu
    have hrelease : Released t t' := by
      apply Released.of_bare
      intro i
      rw [hb]
      split <;> simp
    have hwindow (i : PageId) : t'.via Page.window? i =
        if i = x.page then none else t.via Page.window? i := by
      rw [via_window_eq, hb]
      split
      · cases t.bare i <;> rfl
      · exact (via_window_eq t i).symm
    have hleft : x.page ∉ t'.residentIds := by
      rw [Table.mem_residentIds, hwindow, if_pos rfl]
      rintro ⟨w, hw⟩
      cases hw
    have hwithin : t'.residentCount ≤ capacity := by
      have := h.within
      rw [residentCount] at this ⊢
      omega
    refine ⟨some x, t', e, h.of_undisturbed hrelease.toUndisturbed ⟨_, hal'⟩ hwithin,
      hrelease.addresses, (if_pos hm).symm, ?_, ?_⟩
    · refine (List.perm_ext_iff_of_nodup (List.nodup_cons.mpr ⟨hleft, t'.nodup_residentIds⟩)
        t.nodup_residentIds).mpr fun i => ?_
      rw [List.mem_cons, Table.mem_residentIds, Table.mem_residentIds, hwindow]
      by_cases hi : i = x.page
      · subst hi
        exact iff_of_true (.inl rfl) (Table.mem_residentIds.mp hm)
      · simp [hi]
    · intro i w hw
      rw [hwindow] at hw
      split at hw
      · cases hw
      · exact .inl hw
  · have hn : ∀ u, id ∉ l.get u := fun u hu => hm (hal.mem_residentIds.mpr ⟨u, hu⟩)
    exact ⟨none, t, hal.evict_of_idle hid hn, h, rfl, (if_neg hm).symm, .of_window rfl⟩

theorem forceEvict (h : t.Calm capacity recordsPerPage) (id : PageId) :
    ∃ eviction? t', t.forceEvict id = .ok (eviction?, t') ∧ t'.Calm capacity recordsPerPage ∧
      t'.addressOf = t.addressOf ∧
      (eviction?.map Eviction.page = if id ∈ t.residentIds then some id else none) ∧
      t.Exchange none (eviction?.toList.map Eviction.page) t' := by
  rw [Table.forceEvict]
  split
  case isTrue hid => exact h.evict hid
  case isFalse hid =>
    have hm : id ∉ t.residentIds := by
      intro hm
      obtain ⟨page, hp, -⟩ := mem_idsWhere.mp hm
      exact hid (lt_size_of_page hp)
    exact ⟨none, t, rfl, h, rfl, (if_neg hm).symm, .of_window rfl⟩

theorem forceEvictAll {limits : Limits} (h : t.Calm limits.capacity recordsPerPage) :
    ∃ evicted t', t.forceEvictAll = .ok (evicted, t') ∧
      t'.Calm limits.capacity recordsPerPage ∧ t'.addressOf = t.addressOf ∧
      evicted.map Eviction.page = t.residentIds ∧ t'.residentIds = [] ∧
      t.Exchange none (evicted.map Eviction.page) t' := by
  obtain ⟨l, hal⟩ := h.aligned
  obtain ⟨evicted, t', e, hx, hal', hr⟩ := hal.shows.evictAll_residentIds h.within
  have hempty (i : PageId) : i ∉ t'.residentIds := by
    rw [hal'.mem_residentIds]
    rintro ⟨u, hu⟩
    rw [PerTier.get_const] at hu
    exact List.not_mem_nil hu
  have hnil : t'.residentIds = [] := List.eq_nil_iff_forall_not_mem.mpr hempty
  have hwithin : t'.residentCount ≤ limits.capacity := by
    rw [← hal'.residentIds_length, hnil]
    exact Nat.zero_le _
  refine ⟨evicted, t', e, h.of_undisturbed hr.toUndisturbed ⟨_, hal'⟩ hwithin, hr.addresses, hx,
    hnil, ?_, ?_⟩
  · rw [hx, hnil, List.append_nil]
    exact .refl _
  · intro i w hw
    exact absurd (Table.mem_residentIds.mpr ⟨w, hw⟩) (hempty i)

end Calm

end Table

end RecordCache
