import RecordCache.Proofs.Turns
/-! The accounts of a pool. Every read that is not refused hits, loads or fails; every page that a
read has loaded is resident or has been logged as evicted. -/
namespace RecordCache.Pool

def Answer.window? : Answer → Option Window
  | .window (.ok w) => some w
  | _ => none

theorem Answer.eq_window_of_window? {answer : Answer} {w : Window} (h : answer.window? = some w) :
    answer = .window (.ok w) := by
  unfold window? at h
  split at h
  · cases h
    rfl
  · cases h

namespace Turn

def page? (x : Turn) : Option PageId :=
  match x.op with
  | .acquire position _ => (x.before.pageNumber position).toOption
  | _ => none

def window? (x : Turn) : Option Window := x.answer.window?

def callsSource (x : Turn) : Bool := x.before.source.calls < x.after.source.calls

def loaded? (x : Turn) : Option (PageId × Window) :=
  if x.callsSource then x.page?.bind fun id => x.window?.map (id, ·) else none

def isHit (x : Turn) : Bool :=
  x.page?.any (· ∈ x.before.table.residentIds) && x.window?.isSome

def isFailure (x : Turn) : Bool :=
  match x.answer with
  | .window (.error (.storage ..)) => true
  | _ => false

def isDirect (x : Turn) : Bool :=
  match x.op with
  | .load _ => true
  | _ => false

end Turn

variable {config : PoolConfig} {source : Source} {p p' q : Pool} {turns : List Turn} {op : Op}
  {answer : Answer} {id : PageId} {position : Nat}

theorem filterMap_pageEvicted (evicted : List Eviction) :
    (evicted.map Event.pageEvicted).filterMap Event.evictedPage? = evicted.map Eviction.page := by
  rw [List.filterMap_map, ← List.filterMap_eq_map]
  rfl

theorem evictedPages_of_log (h : q.log = p.log) : q.evictedPages = p.evictedPages ++ [] := by
  rw [List.append_nil, evictedPages, h, evictedPages]

/-- What a turn changes of all that is counted, and where a window that it loads comes from. -/
structure Turn.Accounted (x : Turn) : Prop where
  exchange : ∃ left, x.before.table.Exchange x.loaded? left x.after.table ∧
    x.after.evictedPages = x.before.evictedPages ++ left
  store : x.before.source.store.bytes <+: x.after.source.store.bytes
  origin : ∀ id w, x.loaded? = some (id, w) →
    x.before.source.store.window (x.before.wanted id) = .ok (.ok w)
  mapped : x.isDirect = false → x.after.mapped = x.before.mapped + x.loaded?.isSome.toNat
  acquired : x.after.acquired = x.before.acquired + x.isHit.toNat + x.isFailure.toNat +
    x.loaded?.isSome.toNat

namespace Turn

variable {x : Turn}

theorem loaded?_of_window (h : x.window? = none) : x.loaded? = none := by
  rw [loaded?, h]
  cases x.page? <;> exact ite_self none

theorem isHit_of_window (h : x.window? = none) : x.isHit = false := by
  rw [isHit, h]
  exact Bool.and_false _

/-- A turn that hands out no window and does not fail to load a page counts for nothing. -/
theorem accounted_of_still (hw : x.window? = none) (hf : x.isFailure = false)
    (he : ∃ left, x.before.table.Exchange none left x.after.table ∧
      x.after.evictedPages = x.before.evictedPages ++ left)
    (hs : x.before.source.store.bytes <+: x.after.source.store.bytes)
    (hm : x.isDirect = false → x.after.mapped = x.before.mapped)
    (ha : x.after.acquired = x.before.acquired) : x.Accounted := by
  have hl := loaded?_of_window hw
  refine ⟨by rwa [hl], hs, ?_, ?_, ?_⟩
  · intro id w h
    rw [hl] at h
    cases h
  · rw [hl]
    exact hm
  · rw [hl, hf, isHit_of_window hw]
    exact ha

end Turn

def Turn.ofRead (p : Pool) (position : Nat) (id : PageId) (result : Except LoadError Window)
    (q : Pool) : Turn :=
  ⟨p, .acquire position .read, .window (q.concluded position id result).1,
    (q.concluded position id result).2⟩

section

variable {result : Except LoadError Window} (page : p.pageNumber position = .ok id)

theorem Turn.window?_ofRead (p : Pool) (position : Nat) (id : PageId)
    (result : Except LoadError Window) (q : Pool) :
    (ofRead p position id result q).window? = result.toOption := by
  cases result <;> rfl

theorem Turn.isFailure_ofRead (p : Pool) (position : Nat) (id : PageId)
    (result : Except LoadError Window) (q : Pool) :
    (ofRead p position id result q).isFailure = !result.toOption.isSome := by
  cases result <;> rfl

include page

theorem Turn.page?_ofRead : (ofRead p position id result q).page? = some id := by
  simp only [page?, ofRead, page, Except.toOption]

theorem Turn.isHit_ofRead : (ofRead p position id result q).isHit =
    (decide (id ∈ p.table.residentIds) && result.toOption.isSome) := by
  rw [isHit, page?_ofRead page, window?_ofRead]
  rfl

theorem Turn.loaded?_ofRead : (ofRead p position id result q).loaded? =
    if p.source.calls < q.source.calls then result.toOption.map (id, ·) else none := by
  rw [loaded?, page?_ofRead page, window?_ofRead, callsSource]
  have hsource : (ofRead p position id result q).after.source = q.source :=
    (q.unmoved_concluded position id result).source
  rw [hsource]
  by_cases hcalls : p.source.calls < q.source.calls
  · rw [if_pos hcalls]
    exact if_pos (decide_eq_true hcalls)
  · rw [if_neg hcalls]
    exact if_neg (fun h => hcalls (of_decide_eq_true h))

end

theorem via_window_counted (p : Pool) (id : PageId) :
    (p.counted id).table.via Page.window? = p.table.via Page.window? :=
  funext fun i => Table.via_window_growTo p.table id p.recordsPerPage i

theorem accounted_ofRead {result : Except LoadError Window} (loaded? : Option (PageId × Window))
    (page : p.pageNumber position = .ok id)
    (hl : loaded? = if p.source.calls < q.source.calls then result.toOption.map (id, ·) else none)
    (he : ∃ left, p.table.Exchange loaded? left q.table ∧
      q.evictedPages = p.evictedPages ++ left)
    (hs : q.source.store = p.source.store)
    (ho : ∀ w, loaded? = some (id, w) → p.source.store.window (p.wanted id) = .ok (.ok w))
    (hm : q.mapped = p.mapped + loaded?.isSome.toNat)
    (ha : q.acquired = p.acquired + (decide (id ∈ p.table.residentIds) &&
      result.toOption.isSome).toNat + (!result.toOption.isSome).toNat + loaded?.isSome.toNat) :
    (Turn.ofRead p position id result q).Accounted := by
  have hu := q.unmoved_concluded position id result
  have hloaded : (Turn.ofRead p position id result q).loaded? = loaded? :=
    (Turn.loaded?_ofRead page).trans hl.symm
  refine ⟨?_, ?_, ?_, ?_, ?_⟩
  · rw [hloaded]
    obtain ⟨left, hexchange, hleft⟩ := he
    have htable : (q.concluded position id result).2.table = q.table :=
      congrArg Cache.table hu.cache
    exact ⟨left, htable ▸ hexchange, hu.evictedPages.trans hleft⟩
  · have hstore : (q.concluded position id result).2.source.store = p.source.store :=
      (congrArg Source.store hu.source).trans hs
    exact hstore ▸ List.prefix_refl p.source.store.bytes
  · intro i w hi
    rw [hloaded] at hi
    have hid : i = id := by
      rw [hl] at hi
      split at hi
      · obtain ⟨w', -, hw⟩ := Option.map_eq_some_iff.mp hi
        exact (congrArg Prod.fst hw).symm
      · cases hi
    subst hid
    exact ho w hi
  · intro _
    rw [hloaded]
    exact hu.mapped.trans hm
  · rw [hloaded, Turn.isHit_ofRead page, Turn.isFailure_ofRead]
    exact hu.acquired.trans ha

theorem Sound.accounted_read {result : Except LoadError Window} (h : p.Sound config)
    (page : p.pageNumber position = .ok id) (fetched : (p.counted id).Fetched id result q) :
    (Turn.ofRead p position id result q).Accounted := by
  have hcalm := (h.counted id).calm
  cases fetched with
  | @hit w t resident recorded =>
    obtain ⟨t', e, -, hwindow⟩ := hcalm.recordHit resident p.limits
    cases recorded.symm.trans e
    rw [via_window_counted] at hwindow resident
    have hmem : id ∈ p.table.residentIds := Table.mem_residentIds.mpr ⟨w, resident⟩
    apply accounted_ofRead none page
    · exact (if_neg (Nat.lt_irrefl _)).symm
    · exact ⟨[], .of_window hwindow, evictedPages_of_log rfl⟩
    · rfl
    · intro w hw
      cases hw
    · rfl
    · rw [decide_eq_true hmem]
      rfl
  | @failed cause source load absent refused ended =>
    obtain ⟨hcalls, hstore, -⟩ := Source.window_eq_ok refused
    apply accounted_ofRead none page
    · exact (ite_self none).symm
    · refine ⟨[], .of_window ?_, evictedPages_of_log rfl⟩
      exact (Table.via_window_setLoad ..).trans (via_window_counted p id)
    · exact hstore
    · intro w hw
      cases hw
    · rfl
    · rw [Except.toOption, Option.isSome_none, Bool.and_false]
      rfl
  | @loaded w source evicted t load absent mapped admitted ended =>
    obtain ⟨hcalls, hstore, horigin⟩ := Source.window_eq_ok mapped
    obtain ⟨evicted', t', e, -, -, hexchange⟩ :=
      hcalm.makeResident (p.lt_size_counted id) absent w
    cases admitted.symm.trans e
    rw [via_window_counted] at absent
    have hmem : id ∉ p.table.residentIds := by
      rw [Table.mem_residentIds, absent]
      rintro ⟨w, hw⟩
      cases hw
    apply accounted_ofRead (some (id, w)) page
    · exact (if_pos (hcalls ▸ Nat.lt_succ_self _)).symm
    · refine ⟨_, .of_window_trans (via_window_counted p id)
        (hexchange.trans_window (Table.via_window_setLoad ..)), ?_⟩
      rw [evictedPages_tell, filterMap_pageEvicted]
      rfl
    · exact hstore
    · intro w' hw
      cases hw
      exact horigin w rfl
    · rfl
    · rw [decide_eq_false hmem]
      rfl

theorem pageNumber_eq_ok_iff :
    p.pageNumber position = .ok id ↔ position / p.recordsPerPage = id ∧ id ≤ PageId.max := by
  unfold pageNumber
  simp only
  split
  case isTrue hfar =>
    refine iff_of_false nofun ?_
    rintro ⟨rfl, hnear⟩
    exact Nat.not_lt.mpr hnear hfar
  case isFalse hnear =>
    rw [Except.ok.injEq]
    constructor
    · rintro rfl
      exact ⟨rfl, Nat.not_lt.mp hnear⟩
    · exact And.left

theorem pageNumber_eq_error {e : PoolError} (h : p.pageNumber position = .error e) :
    e = .positionOverflow position p.recordsPerPage (position / p.recordsPerPage) := by
  unfold pageNumber at h
  simp only at h
  split at h
  · cases h
    rfl
  · cases h

theorem exchange_self (p : Pool) : ∃ left, p.table.Exchange none left p.table ∧
    p.evictedPages = p.evictedPages ++ left :=
  ⟨[], .of_window rfl, evictedPages_of_log rfl⟩

theorem Sound.accounted (h : p.Sound config) (hp : p.Happens op answer p') :
    (Turn.mk p op answer p').Accounted := by
  cases hp with
  | read page fetched => exact h.accounted_read page fetched
  | overflow page =>
    obtain rfl := pageNumber_eq_error page
    exact Turn.accounted_of_still rfl rfl p.exchange_self (List.prefix_refl _) (fun _ => rfl) rfl
  | @load address result source asked =>
    have hstore : source.store = p.source.store := (Source.window_eq_ok asked).2.1
    refine Turn.accounted_of_still rfl rfl p.exchange_self ?_ ?_ rfl
    · exact hstore ▸ List.prefix_refl p.source.store.bytes
    · intro hdirect
      cases hdirect
  | @forceEvict id eviction? t evicted =>
    obtain ⟨_, _, e, -, -, -, hexchange⟩ := h.calm.forceEvict id
    cases evicted.symm.trans e
    refine Turn.accounted_of_still rfl rfl ⟨_, hexchange, ?_⟩ (List.prefix_refl _) (fun _ => rfl)
      rfl
    exact (evictedPages_tell ..).trans (congrArg _ (filterMap_pageEvicted _))
  | close emptied =>
    obtain ⟨_, _, e, -, -, -, -, hexchange⟩ := h.calm.forceEvictAll
    cases emptied.symm.trans e
    refine Turn.accounted_of_still rfl rfl ⟨_, hexchange, ?_⟩ (List.prefix_refl _) (fun _ => rfl)
      rfl
    refine (unmoved_tell _ rfl).evictedPages.trans ?_
    exact (evictedPages_tell ..).trans (congrArg _ (filterMap_pageEvicted _))
  | append =>
    exact Turn.accounted_of_still rfl rfl p.exchange_self (List.prefix_append ..) (fun _ => rfl) rfl
  | unsupported | failNext | wait =>
    exact Turn.accounted_of_still rfl rfl p.exchange_self (List.prefix_refl _) (fun _ => rfl) rfl

theorem Run.accounted {x : Turn} (h : Run config source turns p) (hx : x ∈ turns) :
    x.Accounted := by
  obtain ⟨hs, hp⟩ := h.happens hx
  exact hs.accounted hp

def loadedPages (turns : List Turn) : List PageId := turns.filterMap fun x => x.loaded?.map Prod.fst

theorem loadedPages_snoc (turns : List Turn) (x : Turn) :
    loadedPages (turns ++ [x]) = loadedPages turns ++ (x.loaded?.map Prod.fst).toList := by
  rw [loadedPages, List.filterMap_append]
  cases hx : x.loaded? <;> simp [loadedPages, hx]

theorem countP_snoc (f : Turn → Bool) (turns : List Turn) (x : Turn) :
    (turns ++ [x]).countP f = turns.countP f + (f x).toNat := by
  rw [List.countP_append, List.countP_singleton]
  cases f x <;> rfl

theorem length_loadedPages (turns : List Turn) :
    (loadedPages turns).length = turns.countP fun x => x.loaded?.isSome := by
  induction turns with
  | nil => rfl
  | cons x turns ih =>
    rw [List.countP_cons, ← ih, loadedPages, List.filterMap_cons]
    cases x.loaded? <;> rfl

theorem Run.accounted_last (h : Run config source turns p) (e : p.perform op = .ok (answer, p')) :
    (Turn.mk p op answer p').Accounted :=
  h.sound.accounted (h.sound.happens e)

/-- Every page that a read has loaded has been evicted since or is resident. -/
theorem Run.balance (h : Run config source turns p) :
    (p.evictedPages ++ p.table.residentIds).Perm (loadedPages turns) := by
  induction h with
  | @opened p e =>
    have ho := opened_of_ofSource e
    have hempty : p.table.residentIds = [] := by
      apply List.eq_nil_iff_forall_not_mem.mpr
      intro id hid
      obtain ⟨w, hw⟩ := Table.mem_residentIds.mp hid
      rw [ho.window_eq_none] at hw
      cases hw
    rw [ho.unused.2.2, hempty]
    exact .refl _
  | @turn turns p p' op answer run e ih =>
    obtain ⟨left, hexchange, hleft⟩ := (run.accounted_last e).exchange
    rw [loadedPages_snoc]
    generalize (Turn.mk p op answer p').loaded? = entered? at hexchange
    change p'.evictedPages = p.evictedPages ++ left at hleft
    calc p'.evictedPages ++ p'.table.residentIds
      _ = p.evictedPages ++ (left ++ p'.table.residentIds) := by
        rw [hleft, List.append_assoc]
      List.Perm _ (p.evictedPages ++
          ((entered?.map Prod.fst).toList ++ p.table.residentIds)) :=
        hexchange.balance.append_left _
      List.Perm _ (p.evictedPages ++
          (p.table.residentIds ++ (entered?.map Prod.fst).toList)) :=
        List.perm_append_comm.append_left _
      _ = p.evictedPages ++ p.table.residentIds ++ (entered?.map Prod.fst).toList :=
        (List.append_assoc ..).symm
      List.Perm _ (loadedPages turns ++ (entered?.map Prod.fst).toList) := ih.append_right _

theorem Run.mapped_eq (h : Run config source turns p) (hd : turns.countP Turn.isDirect = 0) :
    p.mapped = turns.countP fun x => x.loaded?.isSome := by
  induction h with
  | opened e => exact (opened_of_ofSource e).unused.2.1
  | @turn turns p p' op answer run e ih =>
    rw [countP_snoc, Nat.add_eq_zero_iff, Bool.toNat_eq_zero] at hd
    rw [countP_snoc, ← ih hd.1]
    exact (run.accounted_last e).mapped hd.2

theorem Run.acquired_eq (h : Run config source turns p) :
    p.acquired = turns.countP Turn.isHit + turns.countP Turn.isFailure +
      turns.countP fun x => x.loaded?.isSome := by
  induction h with
  | opened e => exact (opened_of_ofSource e).unused.1
  | turn run e ih =>
    have hlast := (run.accounted_last e).acquired
    rw [countP_snoc, countP_snoc, countP_snoc]
    simp only [ih] at hlast
    omega

/-- The windows of a pool balance. As many have been mapped as pages are resident and as evictions
have been logged, and each page has been loaded once for each of its evictions, and once more if it
is resident. -/
theorem Run.windows_balance (h : Run config source turns p)
    (hd : turns.countP Turn.isDirect = 0) :
    p.mapped = p.table.residentCount + p.evictedPages.length ∧
      ∀ id, (loadedPages turns).count id =
        p.evictedPages.count id + if id ∈ p.table.residentIds then 1 else 0 := by
  have hbalance := h.balance
  constructor
  · obtain ⟨l, hal⟩ := h.sound.calm.aligned
    rw [h.mapped_eq hd, ← length_loadedPages, ← hbalance.length_eq, List.length_append,
      hal.residentIds_length, Nat.add_comm]
  · intro id
    rw [← hbalance.count_eq, List.count_append, p.table.nodup_residentIds.count]

/-- Page 0 is loaded and then displaced by page 1, which cannot be loaded at first. -/
theorem Run.windows_balance_after_failure :
    ∃ turns p,
      Run { bytesPerRecord := 8, targetBytesPerPage := 16, capacity := 1 }
        { store := ⟨.memory, numberedRecords 3 8⟩ } turns p ∧
      turns.countP Turn.isDirect = 0 ∧ loadedPages turns = [0, 1] ∧ p.evictedPages = [0] ∧
      p.table.residentIds = [1] ∧ p.mapped = p.table.residentCount + p.evictedPages.length ∧
      ∀ id, (loadedPages turns).count id =
        p.evictedPages.count id + if id ∈ p.table.residentIds then 1 else 0 := by
  obtain ⟨turns, p, h, hseen⟩ := Run.exists_of_run?
    { bytesPerRecord := 8, targetBytesPerPage := 16, capacity := 1 }
    { store := ⟨.memory, numberedRecords 3 8⟩ }
    [.acquire 0 .read, .failNext 1 ⟨.other, "gone"⟩, .acquire 2 .read, .acquire 3 .read]
    (fun r => (r.1.countP Turn.isDirect, loadedPages r.1, r.2.evictedPages, r.2.table.residentIds))
    (0, [0, 1], [0], [1]) (by decide +kernel)
  simp only [Prod.mk.injEq] at hseen
  obtain ⟨hd, hloaded, hevicted, hresident⟩ := hseen
  exact ⟨turns, p, h, hd, hloaded, hevicted, hresident, h.windows_balance hd⟩

/-- What is called a miss is a read that mapped a window. What is called a hit is a read that found
its page resident, or one that could not load it, so the hits are right only as long as no load has
failed. -/
theorem Run.hitCount_eq_iff (h : Run config source turns p)
    (hd : turns.countP Turn.isDirect = 0) :
    p.snapshot.missCount = (turns.countP fun x => x.loaded?.isSome) ∧
      p.snapshot.hitCount = turns.countP Turn.isHit + turns.countP Turn.isFailure ∧
      (p.snapshot.hitCount = turns.countP Turn.isHit ↔ turns.countP Turn.isFailure = 0) := by
  have hmapped := h.mapped_eq hd
  have hacquired := h.acquired_eq
  have hhit : p.acquired - p.mapped = turns.countP Turn.isHit + turns.countP Turn.isFailure := by
    omega
  refine ⟨hmapped, hhit, ?_⟩
  change p.acquired - p.mapped = _ ↔ _
  omega

/-- A hit, a failure and a load. -/
theorem Run.hitCount_with_failure :
    ∃ turns p,
      Run { bytesPerRecord := 8, targetBytesPerPage := 16, capacity := 1 }
        { store := ⟨.memory, numberedRecords 3 8⟩ } turns p ∧
      turns.countP Turn.isDirect = 0 ∧ turns.countP Turn.isHit = 1 ∧ p.snapshot.hitCount = 2 ∧
      p.snapshot.missCount = (turns.countP fun x => x.loaded?.isSome) ∧
      p.snapshot.hitCount = turns.countP Turn.isHit + turns.countP Turn.isFailure ∧
      (p.snapshot.hitCount = turns.countP Turn.isHit ↔ turns.countP Turn.isFailure = 0) := by
  obtain ⟨turns, p, h, hseen⟩ := Run.exists_of_run?
    { bytesPerRecord := 8, targetBytesPerPage := 16, capacity := 1 }
    { store := ⟨.memory, numberedRecords 3 8⟩ }
    [.acquire 0 .read, .failNext 1 ⟨.other, "gone"⟩, .acquire 2 .read, .acquire 1 .read]
    (fun r => (r.1.countP Turn.isDirect, r.1.countP Turn.isHit, r.2.snapshot.hitCount))
    (0, 1, 2) (by decide +kernel)
  simp only [Prod.mk.injEq] at hseen
  obtain ⟨hd, hhits, hcount⟩ := hseen
  exact ⟨turns, p, h, hd, hhits, hcount, h.hitCount_eq_iff hd⟩

/-- Nothing is ever resident here, and still there is a hit. -/
theorem Run.hit_without_window :
    ∃ turns p,
      Run { bytesPerRecord := 8, targetBytesPerPage := 16, capacity := 1 }
        { store := ⟨.memory, numberedRecords 3 8⟩ } turns p ∧
      turns.countP Turn.isDirect = 0 ∧ turns.countP Turn.isHit = 0 ∧ p.snapshot.hitCount = 1 := by
  obtain ⟨turns, p, h, hseen⟩ := Run.exists_of_run?
    { bytesPerRecord := 8, targetBytesPerPage := 16, capacity := 1 }
    { store := ⟨.memory, numberedRecords 3 8⟩ }
    [.failNext 1 ⟨.other, "gone"⟩, .acquire 0 .read]
    (fun r => (r.1.countP Turn.isDirect, r.1.countP Turn.isHit, r.2.snapshot.hitCount))
    (0, 0, 1) (by decide +kernel)
  simp only [Prod.mk.injEq] at hseen
  exact ⟨turns, p, h, hseen⟩

end RecordCache.Pool
