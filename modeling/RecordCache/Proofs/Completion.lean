import RecordCache.Proofs.Postponed
import RecordCache.Proofs.Reachable
/-! A miss takes effect when its load completes. Operations that do not ask for the page of an open
load cannot tell that the load is open. -/
namespace RecordCache

variable {limits : Limits} {opened : List Ticket} {ticket : Ticket} {failure? : Option LoadError}
  {rest : LoadState Stamp} {s : Session} {id page : PageId} {n first last : Nat} {during : List Op}

mutual

def Op.Avoids (id : PageId) : Op → Prop
  | .acquire page _ _ during => page ≠ id ∧ Op.AllAvoid id during
  | .grow _ _ | .forceEvict _ | .forceEvictAll | .inspect _ => True

def Op.AllAvoid (id : PageId) : List Op → Prop
  | [] => True
  | op :: ops => op.Avoids id ∧ Op.AllAvoid id ops

end

namespace Session

theorem without_hit (h : Sound limits opened s) (hr : rest.AtRest) {r : Nat → Nat} {stamp : Stamp}
    (hw : s.table.via Page.window? page = some stamp) :
    (s.step (.acquire page failure? n during)).2.without r id rest =
      ((s.without r id rest).step (.acquire page failure? n during)).2 := by
  obtain ⟨t, e, eo, -⟩ := h.openLoad_hit hw
  have hw' : (s.without r id rest).table.via Page.window? page = some (stamp.renumber r) := by
    rw [without_via_window, hw]
    rfl
  obtain ⟨t', e', eo', -⟩ := (h.without hr r id).openLoad_hit hw'
  have hrecast : (s.without r id rest).table.recordHit s.limits page =
      .ok (t.recast (Stamp.renumber r) (loadWithout r id rest)) := by
    refine (Table.recordHit_recast ..).trans ?_
    rw [e]
    rfl
  cases e'.symm.trans hrecast
  simp only [step, eo, eo']
  rfl

theorem without_miss (h : Sound limits opened s) (hr : rest.AtRest) {r : Nat → Nat}
    (hpos : 0 < s.loads)
    (hnext : r (s.loads + 1) = s.loads - 1 + 1) (hm : s.Misses ticket) (hne : ticket.page ≠ id)
    (hrun : ((s.entered ticket n).run during).2.without r id rest =
      (((s.entered ticket n).without r id rest).run during).2) :
    (s.step (.acquire ticket.page failure? n during)).2.without r id rest =
      ((s.without r id rest).step (.acquire ticket.page failure? n during)).2 := by
  have ho := h.without hr r id
  have hm' : (s.without r id rest).Misses (ticket.renumber r) := hm.without hne hnext
  obtain ⟨evicted, u, e, es⟩ := h.step_of_misses hm failure? ((h.entered hm n).run_kept during)
  obtain ⟨evicted', u', e', es'⟩ :=
    ho.step_of_misses hm' failure? ((ho.entered hm' n).run_kept during)
  rw [without_entered hne hpos] at hrun
  rw [← hrun, Ticket.result_renumber] at e'
  have hsettle := Table.settle_recast (Stamp.renumber r) (loadWithout r id rest)
    ((s.entered ticket n).run during).2.table limits ticket.page (ticket.result failure?) n
  rw [e] at hsettle
  cases e'.symm.trans hsettle
  refine (congrArg (fun x => Session.without r id rest (Prod.snd x)) es).trans ?_
  refine Eq.trans ?_ (congrArg Prod.snd es').symm
  rw [without_closed hne, hrun]

theorem without_acquire (h : Sound limits opened s) (hr : rest.AtRest) (hpos : 0 < first)
    (hf : first ≤ s.loads) (hne : page ≠ id)
    (hl : (s.step (.acquire page failure? n during)).2.loads ≤ last)
    (hrun : ∀ ticket, s.Misses ticket → ((s.entered ticket n).run during).2.loads ≤ last →
      ((s.entered ticket n).run during).2.without (postpone first last) id rest =
        (((s.entered ticket n).without (postpone first last) id rest).run during).2) :
    (s.step (.acquire page failure? n during)).2.without (postpone first last) id rest =
      ((s.without (postpone first last) id rest).step (.acquire page failure? n during)).2 := by
  have ho := h.without hr (postpone first last) id
  rcases h.acquire_cases page with hp | hp | ⟨stamp, hw⟩ | ⟨ticket, rfl, hm⟩
  · have hp' : (s.without (postpone first last) id rest).table.size ≤ page :=
      Nat.le_trans (Nat.le_of_eq (Table.size_recast ..)) hp
    simp only [step, Sound.openLoad_of_size_le hp, Sound.openLoad_of_size_le hp']
  · have hp' : page ∈ (opened.filter (·.page ≠ id)).map Ticket.page := by
      obtain ⟨ticket, ht, rfl⟩ := List.mem_map.mp hp
      exact List.mem_map.mpr ⟨ticket, List.mem_filter.mpr ⟨ht, decide_eq_true hne⟩, rfl⟩
    simp only [step, h.openLoad_of_opened hp, ho.openLoad_of_opened hp']
  · exact without_hit h hr hw
  · have hk := (h.entered hm n).run_kept during
    obtain ⟨evicted, u, -, es⟩ := h.step_of_misses hm failure? hk
    rw [es] at hl
    have hlast : s.loads + 1 ≤ last := Nat.le_trans hk.loads hl
    have hnext : postpone first last (s.loads + 1) = s.loads - 1 + 1 := by
      rw [postpone_succ hf hlast]
      omega
    exact without_miss h hr (by omega) hnext hm hne (hrun ticket hm hl)

mutual

theorem step_without {opened : List Ticket} {s : Session} (h : Sound limits opened s)
    (hid : id ∈ opened.map Ticket.page) (hr : rest.AtRest) (hpos : 0 < first)
    (hf : first ≤ s.loads) : ∀ op : Op, op.Avoids id → (s.step op).2.loads ≤ last →
    (s.step op).2.without (postpone first last) id rest =
      ((s.without (postpone first last) id rest).step op).2
  | .grow page recordsPerPage, _, _ => by
    obtain ⟨ticket, ht, rfl⟩ := List.mem_map.mp hid
    have hblank : ∀ i, s.table.size ≤ i →
        loadWithout (postpone first last) ticket.page rest i {} = {} := by
      intro i hi
      have hne : i ≠ ticket.page := by
        rintro rfl
        exact Nat.not_lt.mpr hi (h.lt_size ht)
      exact if_neg hne
    have hgrow := Table.growTo_recast (Stamp.renumber (postpone first last))
      (loadWithout (postpone first last) ticket.page rest) s.table page recordsPerPage hblank
    simp only [step]
    exact congrArg (s.without (postpone first last) ticket.page rest).withTable hgrow.symm
  | .acquire page failure? n during, ha, hl => by
    rw [Op.Avoids] at ha
    refine without_acquire h hr hpos hf ha.1 hl fun ticket hm hl' => ?_
    exact run_without (h.entered hm n) (List.mem_cons_of_mem _ hid) hr hpos
      (Nat.le_succ_of_le hf) during ha.2 hl'
  | .forceEvict page, _, _ => by
    have hrecast : (s.without (postpone first last) id rest).table.forceEvict page = _ :=
      Table.forceEvict_recast ..
    simp only [step, hrecast]
    cases s.table.forceEvict page <;> rfl
  | .forceEvictAll, _, _ => by
    have hrecast : (s.without (postpone first last) id rest).table.forceEvictAll = _ :=
      Table.forceEvictAll_recast ..
    simp only [step, hrecast]
    cases s.table.forceEvictAll <;> rfl
  | .inspect _, _, _ => by simp only [step]

theorem run_without {opened : List Ticket} {s : Session} (h : Sound limits opened s)
    (hid : id ∈ opened.map Ticket.page) (hr : rest.AtRest) (hpos : 0 < first)
    (hf : first ≤ s.loads) : ∀ ops, Op.AllAvoid id ops → (s.run ops).2.loads ≤ last →
    (s.run ops).2.without (postpone first last) id rest =
      ((s.without (postpone first last) id rest).run ops).2
  | [], _, _ => by simp only [run]
  | op :: ops, ha, hl => by
    rw [Op.AllAvoid] at ha
    simp only [run] at hl ⊢
    have hk := h.step_kept op
    have hk' := hk.sound.run_kept ops
    rw [run_without hk.sound hid hr hpos (Nat.le_trans hf hk.loads) ops ha.2 hl,
      step_without h hid hr hpos hf op ha.1 (Nat.le_trans hk'.loads hl)]

end

theorem without_entered_self (h : Sound limits opened s) (hst : s.Stamped) (hm : s.Misses ticket)
    (hload : s.table.loadOf ticket.page = some rest) {r : Nat → Nat}
    (hr : ∀ k, k ≤ s.loads → r k = k) : (s.entered ticket n).without r ticket.page rest = s := by
  have htable : (s.table.setLoad ticket.page (.started ticket.attempt n)).recast
      (Stamp.renumber r) (loadWithout r ticket.page rest) = s.table := by
    rw [Table.setLoad, Table.recast_recast]
    refine Table.recast_eq_self (fun i stamp hw => ?_) fun i m hm => ?_
    · simp only [Function.comp_apply, Stamp.renumber, hr _ (hst i stamp hw)]
    · by_cases hi : i = ticket.page
      · subst hi
        rw [loadWithout, if_pos rfl]
        exact Option.some.inj (hload.symm.trans hm)
      · rw [loadWithout, if_neg hi, if_neg hi]
        exact LoadState.map_of_parked _ (h.loads hm).1
  exact Session.ext (congrArg (Cache.mk s.limits) htable) (h.elsewhere_entered hm) rfl rfl

theorem run_hits {stamp : Stamp} (h : Sound limits opened s)
    (hw : s.table.via Page.window? id = some stamp) (n : Nat) :
    ∃ t, Table.hits s.limits id n s.table = .ok t ∧
      (s.run (List.replicate n (.acquire id none 0 []))).2 = s.withTable t := by
  induction n generalizing s with
  | zero => exact ⟨s.table, rfl, by simp only [List.replicate_zero, run]; rfl⟩
  | succ n ih =>
    obtain ⟨l, hal⟩ := h.aligned
    obtain ⟨t₁, e₁, eo, h₁⟩ := h.openLoad_hit hw
    obtain ⟨_, _, e₁', -, hr⟩ := hal.recordHit_retains hw s.limits
    cases e₁.symm.trans e₁'
    obtain ⟨t₂, e₂, er⟩ := ih h₁ ((congrFun hr.window id).trans hw)
    refine ⟨t₂, ?_, ?_⟩
    · rw [Table.hits, e₁]
      exact e₂
    · simp only [List.replicate_succ, run, step, eo]
      exact er

theorem mem_residentIds {t : Table Stamp} :
    id ∈ t.residentIds ↔ (t.via Page.window? id).isSome := by
  rw [Table.residentIds, Table.mem_idsWhere, Table.via]
  cases t.pages[id]? <;> simp [Page.isResident]

theorem misses_without (h : Sound limits (ticket :: opened) s) (hr : rest.AtRest)
    (ha : s.table.addressOf ticket.page = some ticket.stamp.address)
    (hattempt : ticket.attempt = rest.attempt + 1) {r : Nat → Nat}
    (hserial : r ticket.stamp.serial = s.loads - 1 + 1) :
    (s.without r ticket.page rest).Misses (ticket.renumber r) := by
  obtain ⟨page, hp, haddress⟩ := Option.map_eq_some_iff.mp ha
  have hw := (h.tickets ticket List.mem_cons_self).1
  rw [Table.via_of_page hp] at hw
  have hg : loadWithout r ticket.page rest ticket.page = fun _ => rest :=
    funext fun m => if_pos rfl
  have hq : (s.without r ticket.page rest).table.pages[ticket.page]? =
      some (page.recast (Stamp.renumber r) fun _ => rest) := by
    refine (Table.getElem?_recast ..).trans ?_
    rw [hg]
    exact congrArg _ hp
  refine ⟨_, hq, ?_, hr.loading, hattempt, ?_⟩
  · rw [Page.recast, hw]
    rfl
  · simp only [Ticket.renumber, Stamp.renumber, hserial, ← haddress]
    rfl

theorem renumber_closed {r : Nat → Nat} {evicted : List Eviction} {u : Table Stamp}
    (hpos : 0 < s.loads) : (s.closed ticket failure? evicted u).renumber r =
      (((s.without r ticket.page rest).entered (ticket.renumber r) 0).closed (ticket.renumber r)
        failure? evicted (u.recast (Stamp.renumber r)
          (loadWithout r ticket.page (.started ticket.attempt 0)))) := by
  have htable : (u.setLoad ticket.page { attempt := ticket.attempt, failure? }).recast
      (Stamp.renumber r) (fun _ m => m.map (Stamp.renumber r)) =
        (u.recast (Stamp.renumber r) (loadWithout r ticket.page
          (.started ticket.attempt 0))).setLoad ticket.page
            { attempt := ticket.attempt, failure? } := by
    rw [Table.setLoad, Table.setLoad, Table.recast_recast, Table.recast_recast]
    refine Table.recast_congr fun i m _ => ?_
    by_cases hi : i = ticket.page
    · rw [if_pos hi, if_pos hi]
      rfl
    · rw [if_neg hi, if_neg hi, loadWithout, if_neg hi]
  have hblocked : elsewhere ticket.page s.blocked =
      elsewhere ticket.page (elsewhere ticket.page s.blocked ++ []) := by
    simp [elsewhere]
  exact Session.ext (congrArg (Cache.mk s.limits) htable) hblocked
    (Nat.sub_add_cancel hpos).symm rfl

theorem table_entered_without {r : Nat → Nat} :
    ((s.without r ticket.page rest).entered (ticket.renumber r) n).table =
      s.table.recast (Stamp.renumber r)
        (loadWithout r ticket.page (.started ticket.attempt n)) := by
  refine (Table.recast_recast ..).trans (Table.recast_congr fun i m _ => ?_)
  by_cases hi : i = ticket.page
  · simp [loadWithout, Ticket.renumber, hi]
  · simp [loadWithout, Ticket.renumber, hi]

/-- A load that is opened only now, in the session without it, does what the load does on the table
of the session with it. -/
theorem step_postponed {r : Nat → Nat} {b : Session} (h : Sound limits (ticket :: opened) s)
    (hb : s.without r ticket.page rest = b) (ho : Sound limits opened b)
    (hm : b.Misses (ticket.renumber r)) (failure? : Option LoadError) :
    ∃ evicted u, s.table.settle limits ticket.page (ticket.result failure?) 0 =
        .ok (evicted, u) ∧
      s.table.Settled u limits.capacity ticket.page (ticket.result failure?) ∧
      (b.step (.acquire ticket.page failure? 0 [])).2 =
        (b.entered (ticket.renumber r) 0).closed (ticket.renumber r) failure? evicted
          (u.recast (Stamp.renumber r)
            (loadWithout r ticket.page (.started ticket.attempt 0))) := by
  have hk : Kept limits (ticket.renumber r :: opened) (b.entered (ticket.renumber r) 0)
      ((b.entered (ticket.renumber r) 0).run []).2 := (ho.entered hm 0).run_kept []
  obtain ⟨evicted₀, u₀, e₀, es⟩ := ho.step_of_misses hm failure? hk
  have hstep := congrArg Prod.snd es
  simp only [run] at e₀ hstep
  obtain ⟨evicted, u, e, hs⟩ := h.settle_spec failure? 0
  have hsettle := Table.settle_recast (Stamp.renumber r)
    (loadWithout r ticket.page (.started ticket.attempt 0)) s.table limits ticket.page
    (ticket.result failure?) 0
  rw [e] at hsettle
  rw [← hb, table_entered_without, Ticket.result_renumber] at e₀
  cases e₀.symm.trans hsettle
  exact ⟨evicted, u, e, hs, hstep⟩

/-- A load ends that was opened before; or the load is opened only now, in the session without it,
and its waiters acquire the page afterwards. -/
theorem closed_without {r : Nat → Nat} {evicted : List Eviction} {u : Table Stamp} {b : Session}
    (h : Sound limits (ticket :: opened) s) (hb : s.without r ticket.page rest = b)
    (ho : Sound limits opened b) (hm : b.Misses (ticket.renumber r)) (hpos : 0 < s.loads)
    (e : s.table.settle limits ticket.page (ticket.result failure?) n = .ok (evicted, u)) :
    let loaded := (b.step (.acquire ticket.page failure? 0 [])).2
    (s.closed ticket failure? evicted u).renumber r =
      if ticket.page ∈ loaded.table.residentIds then
        (loaded.run (List.replicate n (.acquire ticket.page none 0 []))).2
      else loaded := by
  intro loaded
  have hkept : Kept limits opened b loaded := ho.step_kept _
  obtain ⟨evicted₁, u₁, e₁, hs, hloaded⟩ := step_postponed h hb ho hm failure?
  have hloaded : loaded = _ := hloaded
  rw [Table.settle_eq (h.tickets ticket List.mem_cons_self).1, e₁] at e
  have hvia : loaded.table.via Page.window? ticket.page =
      (u₁.via Page.window? ticket.page).map (Stamp.renumber r) := by
    rw [hloaded]
    exact (congrFun (Table.via_window_setLoad ..) _).trans (Table.via_window_recast ..)
  rcases hs.own with hx | ⟨stamp, -, hx⟩
  · simp only [bind, Except.bind, hx, Option.isSome_none, Bool.false_eq_true, ↓reduceIte] at e
    cases e
    rw [if_neg (by rw [mem_residentIds, hvia, hx]; exact Bool.false_ne_true), hloaded, ← hb]
    exact renumber_closed hpos
  · have hx' : loaded.table.via Page.window? ticket.page = some (stamp.renumber r) := by
      rw [hvia, hx]
      rfl
    -- The waiters hit the page on either side, and a hit sees neither windows nor load states.
    obtain ⟨l, hal⟩ := hs.aligned
    obtain ⟨u₂, -, e₂, -⟩ := hal.hits_retains (n := n) hx limits
    obtain ⟨t, et, er⟩ := run_hits hkept.sound hx' n
    simp only [bind, Except.bind, hx, Option.isSome_some, ↓reduceIte, e₂] at e
    cases e
    have hhits : Table.hits limits ticket.page n loaded.table =
        .ok ((u.recast (Stamp.renumber r) (loadWithout r ticket.page
          (.started ticket.attempt 0))).setLoad ticket.page
            { attempt := ticket.attempt, failure? }) := by
      rw [hloaded]
      refine (Table.hits_recast ..).trans ?_
      rw [Table.hits_recast, e₂]
      rfl
    rw [hkept.sound.limits_eq, hhits] at et
    cases et
    rw [if_pos (by rw [mem_residentIds, hx']; rfl), er, hloaded, ← hb]
    exact renumber_closed hpos

/-- A miss takes effect at the moment its load completes. Up to the numbering of the loads, running
`during` inside the load of a page is running it first, then acquiring the page, and then, if that
left the page resident, acquiring it once for each caller that has waited. -/
theorem miss_takes_effect_at_completion (h : Reachable limits opened s) {page : Page Stamp}
    (hp : s.table.pages[id]? = some page) (hw : page.window? = none) (hl : page.loading = false)
    (hd : Op.AllAvoid id during) (failure? : Option LoadError) (n : Nat) :
    let final := (s.step (.acquire id failure? n during)).2
    let loaded := ((s.run during).2.step (.acquire id failure? 0 [])).2
    Function.Injective (postpone (s.loads + 1) final.loads) ∧
      final.renumber (postpone (s.loads + 1) final.loads) =
        if id ∈ loaded.table.residentIds then
          (loaded.run (List.replicate n (.acquire id none 0 []))).2
        else loaded := by
  intro final loaded
  let ticket : Ticket := ⟨id, page.attempt + 1, ⟨page.address, s.loads + 1⟩⟩
  have hs := h.sound
  have hm : s.Misses ticket := ⟨page, hp, hw, hl, rfl, rfl⟩
  have hload := Table.loadOf_of_page hp
  have haddress : s.table.addressOf id = some page.address := by
    rw [Table.addressOf, hp]
    rfl
  obtain ⟨hparked, hwaiters, -⟩ := hs.loads hload
  have hrest : page.loadState.AtRest :=
    ⟨hl, hwaiters.trans (hs.queued_eq_zero (hs.not_mem_of_misses hm)), hparked⟩
  have hin := hs.entered hm n
  have hk := hin.run_kept during
  obtain ⟨evicted, u, e, es⟩ := hs.step_of_misses hm failure? hk
  have hfinal : final = ((s.entered ticket n).run during).2.closed ticket failure? evicted u :=
    congrArg Prod.snd es
  have hloads : final.loads = ((s.entered ticket n).run during).2.loads := by
    rw [hfinal]
    rfl
  have hb : ((s.entered ticket n).run during).2.without (postpone (s.loads + 1) final.loads) id
      page.loadState = (s.run during).2 := by
    rw [run_without hin List.mem_cons_self hrest (Nat.succ_pos _) (Nat.le_refl _) during hd
      (Nat.le_of_eq hloads.symm)]
    rw [without_entered_self hs h.stamped hm hload fun k hk =>
      postpone_of_lt (Nat.lt_succ_of_le hk)]
  have hserial : postpone (s.loads + 1) final.loads ticket.stamp.serial =
      ((s.entered ticket n).run during).2.loads - 1 + 1 := by
    have hle : s.loads + 1 ≤ ((s.entered ticket n).run during).2.loads := hk.loads
    rw [hloads]
    refine (postpone_self hle).trans ?_
    omega
  have hm' := misses_without hk.sound hrest
    (hk.addresses _ _ ((congrFun (Table.addressOf_recast ..) _).trans haddress)) rfl hserial
  refine ⟨postpone_injective _ _, ?_⟩
  have hpos : 0 < ((s.entered ticket n).run during).2.loads :=
    Nat.lt_of_lt_of_le (Nat.succ_pos _) hk.loads
  rw [hfinal] at hb hm' ⊢
  exact closed_without hk.sound hb (hs.run_kept during).sound (hb ▸ hm') hpos e

/-- Page 0 is resident, and is evicted and loaded anew while page 1 is being loaded. -/
theorem miss_takes_effect_after_nested_load :
    ∃ s, Reachable ⟨2, 1, 1⟩ [] s ∧
      let during := [.forceEvict 0, .acquire 0 none 1 []]
      let final := (s.step (.acquire 1 none 2 during)).2
      let loaded := ((s.run during).2.step (.acquire 1 none 0 [])).2
      1 ∈ loaded.table.residentIds ∧ final.loads = 3 ∧
        final.renumber (postpone (s.loads + 1) final.loads) =
          (loaded.run [.acquire 1 none 0 [], .acquire 1 none 0 []]).2 := by
  let s := (((ofLimits ⟨2, 1, 1⟩).step (.grow 1 8)).2.step (.acquire 0 none 0 [])).2
  have h : Reachable ⟨2, 1, 1⟩ [] s :=
    .operated (.acquire 0 none 0 []) (.operated (.grow 1 8) .fresh)
  have ha : Op.AllAvoid 1 [.forceEvict 0, .acquire 0 none 1 []] :=
    ⟨trivial, ⟨by decide, trivial⟩, trivial⟩
  have hr : 1 ∈ ((s.run [.forceEvict 0, .acquire 0 none 1 []]).2.step
      (.acquire 1 none 0 [])).2.table.residentIds := by decide +kernel
  have he := (miss_takes_effect_at_completion h rfl rfl rfl ha none 2).2.trans (if_pos hr)
  exact ⟨s, h, hr, by decide +kernel, he⟩

end Session

end RecordCache
