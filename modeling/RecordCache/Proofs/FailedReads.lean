import RecordCache.Proofs.Sampling
/-! Reads that fail. A read that is refused leaves no trace. One whose page cannot be loaded counts
as a read and has asked the source once, but changes nothing of what is resident, and the next read
of its position asks the source again. -/
namespace RecordCache

namespace Table

variable {W : Type} {t t' t'' : Table W} {l : Lineup}

theorem idsWhere_growTo {f : Page W → Bool} (hf : ∀ address, f { address } = false) (t : Table W)
    (id n : Nat) : (t.growTo id n).idsWhere f = t.idsWhere f := by
  have hsize : (t.growTo id n).size = t.size + (id + 1 - t.size) := by
    rw [size_growTo]
    omega
  rw [idsWhere, hsize, List.range_add, List.filter_append]
  have hold : (List.range t.size).filter (fun i => (t.growTo id n).pages[i]?.any f) =
      t.idsWhere f := by
    apply List.filter_congr
    intro i hi
    rw [getElem?_growTo_of_lt t id n (List.mem_range.mp hi)]
  rw [hold]
  apply List.append_right_eq_self.mpr
  apply List.filter_eq_nil_iff.mpr
  intro i hi hany
  obtain ⟨k, -, rfl⟩ := List.mem_map.mp hi
  obtain ⟨page, hp, hpage⟩ := (Option.any_eq_true ..).mp hany
  rcases page_growTo hp with hp | ⟨-, hp⟩
  · exact absurd (lt_size_of_page hp) (Nat.not_lt.mpr (Nat.le_add_right ..))
  · rw [hp, hf] at hpage
    contradiction

/-- The same pages are resident, with the same windows, in the same lists and with the same bits. -/
structure SameResidents (t t' : Table W) : Prop where
  residentIds : t'.residentIds = t.residentIds
  window : t'.via Page.window? = t.via Page.window?
  members : ∀ tier, t'.members tier = t.members tier
  referencedIds : t'.referencedIds = t.referencedIds
  census : t'.census = t.census

namespace SameResidents

theorem refl (t : Table W) : t.SameResidents t := ⟨rfl, rfl, fun _ => rfl, rfl, rfl⟩

theorem trans (h : t.SameResidents t') (k : t'.SameResidents t'') : t.SameResidents t'' :=
  ⟨k.residentIds.trans h.residentIds, k.window.trans h.window,
    fun tier => (k.members tier).trans (h.members tier),
    k.referencedIds.trans h.referencedIds, k.census.trans h.census⟩

theorem growTo (h : t.Aligned l) (id n : Nat) : t.SameResidents (t.growTo id n) := by
  constructor
  · exact t.idsWhere_growTo (fun _ => rfl) id n
  · exact funext (t.via_window_growTo id n)
  · intro tier
    rw [h.linked.members_eq, (h.growTo id n).linked.members_eq]
  · exact t.idsWhere_growTo (fun _ => rfl) id n
  · rfl

theorem setLoad (h : t.Aligned l) (id : PageId) (load : LoadState W) :
    t.SameResidents (t.setLoad id load) := by
  have hload : (t.setLoad id load).Aligned l := h.recast ..
  have hsize : (t.setLoad id load).size = t.size := size_recast ..
  constructor
  · exact residentIds_congr hsize (via_window_setLoad ..)
  · exact via_window_setLoad ..
  · intro tier
    rw [h.linked.members_eq, hload.linked.members_eq]
  · exact referencedIds_congr hsize (isReferenced_recast ..)
  · rfl

end SameResidents

end Table

namespace Pool

variable {config : PoolConfig} {source : Source} {p p' q : Pool} {turns played : List Turn}
  {ops : List Op} {id : PageId} {position : Nat} {operation : Operation} {cause : LoadError}

theorem loadedPages_cons (x : Turn) (turns : List Turn) :
    loadedPages (x :: turns) = (x.loaded?.map Prod.fst).toList ++ loadedPages turns := by
  rw [loadedPages, List.filterMap_cons]
  cases x.loaded? <;> rfl

/-- The pool was asked for page `id`, and the source refused it. What comes of it is that the read
counts, that the table reaches the page, and that a sample is taken if one is due. -/
structure Refused (p : Pool) (position : Nat) (id : PageId) (cause : LoadError) (p' : Pool) :
    Prop where
  page : p.pageNumber position = .ok id
  asked : p.source.window (p.wanted id) = .ok (.error cause.cause, p'.source)
  calls : p'.source.calls = p.source.calls + 1
  acquired : p'.acquired = p.acquired + 1
  table : ∃ load : LoadState Window, load.loading = false ∧
    p'.table = (p.table.growTo id p.recordsPerPage).setLoad id load
  unchanged : p'.config = p.config ∧ p'.name = p.name ∧ p'.recordsPerPage = p.recordsPerPage ∧
    p'.limits = p.limits ∧ p'.clock = p.clock
  undue : Sampler.isDue p.config.reportInterval p'.acquired = false →
    p'.sampler = p.sampler ∧ p'.samples = p.samples ∧
      p'.log = p.log ++ [.loadFailed p.name position (p.byteOffset position) id cause]
  due : Sampler.isDue p.config.reportInterval p'.acquired = true →
    p'.sampler = (p.sampler.sample p'.acquired p.mapped p.clock).2 ∧
      p'.samples = (if p.config.hasListener then p.samples ++ [(p.counted id).nextSample]
        else p.samples) ∧
      p'.log = p.log ++ [.sampled (p.counted id).nextSample,
        .loadFailed p.name position (p.byteOffset position) id cause]

def AsksSource (p : Pool) (position : Nat) (id : PageId) : Prop :=
  match p.acquire position .read with
  | .ok (_, p') => p'.source.calls = p.source.calls + 1
  | .error fault => p.source.window (p.wanted id) = .error fault

theorem Sound.asksSource (h : p.Sound config) (page : p.pageNumber position = .ok id)
    (absent : p.table.via Page.window? id = none) : p.AsksSource position id := by
  rw [← via_window_counted] at absent
  rw [AsksSource, acquire_read page]
  rcases (h.counted id).fetch_of_absent (p.lt_size_counted id) absent with
    ⟨fault, hs, hfetch⟩ | ⟨result, q, hfetch, hfetched⟩
  · rw [hfetch]
    exact hs
  · rw [hfetch]
    have hsource := (q.unmoved_concluded position id result).source
    have hcalls : q.source.calls = p.source.calls + 1 := by
      cases hfetched with
      | hit resident _ =>
        rw [absent] at resident
        cases resident
      | failed _ refused _ => exact (Source.window_eq_ok refused).1
      | loaded _ mapped _ _ => exact (Source.window_eq_ok mapped).1
    exact (congrArg Source.calls hsource).trans hcalls

/-- A page that is not resident does not become so but by a read that loads it. -/
theorem Run.window_eq_none_of_play (h : Run config source turns p)
    (absent : p.table.via Page.window? id = none) (e : p.play? ops = some (played, q))
    (hloaded : id ∉ loadedPages played) : q.table.via Page.window? id = none := by
  induction ops generalizing turns p played with
  | nil =>
    cases e
    exact absent
  | cons op ops ih =>
    rw [play?] at e
    cases hp : p.perform op with
    | error fault => rw [hp] at e; cases e
    | ok performed =>
      obtain ⟨answer, p'⟩ := performed
      rw [hp] at e
      obtain ⟨⟨rest, q'⟩, hrest, hq⟩ := Option.map_eq_some_iff.mp e
      cases hq
      rw [loadedPages_cons, List.mem_append, not_or] at hloaded
      obtain ⟨left, hexchange, -⟩ := (h.accounted_last hp).exchange
      apply ih (h.turn hp) _ hrest hloaded.2
      cases hw : p'.table.via Page.window? id with
      | none => rfl
      | some w =>
        rcases hexchange.window hw with hbefore | hentered
        · cases absent.symm.trans hbefore
        · apply absurd _ hloaded.1
          rw [hentered]
          exact List.mem_singleton.mpr rfl

theorem concluded_error (p : Pool) (position : Nat) (id : PageId) (cause : LoadError) :
    (p.concluded position id (.error cause)).1 =
      .error (.storage position (p.byteOffset position) cause) := by
  have hconfig := p.unmoved_reportIfDue.config
  simp only [concluded, byteOffset, hconfig]

theorem concluded_error_of_isDue (position : Nat) (id : PageId) (cause : LoadError)
    (hdue : Sampler.isDue p.config.reportInterval p.acquired = true) :
    (p.concluded position id (.error cause)).2 =
      { p with
        sampler := (p.sampler.sample p.acquired p.mapped p.clock).2
        samples := if p.config.hasListener then p.samples ++ [p.nextSample] else p.samples
        log := p.log ++ [.sampled p.nextSample,
          .loadFailed p.name position (p.byteOffset position) id cause] } := by
  simp only [concluded, reportIfDue, if_pos hdue, tell, List.append_assoc]
  rfl

theorem concluded_error_of_not_isDue (position : Nat) (id : PageId) (cause : LoadError)
    (hdue : ¬Sampler.isDue p.config.reportInterval p.acquired = true) :
    (p.concluded position id (.error cause)).2 =
      { p with
        log := p.log ++ [.loadFailed p.name position (p.byteOffset position) id cause] } := by
  simp only [concluded, reportIfDue, if_neg hdue, tell]

theorem refused_of_asked {cause : IoError} {load : LoadState Window}
    (page : p.pageNumber position = .ok id)
    (asked : p.source.window (p.wanted id) = .ok (.error cause, source))
    (ended : load.loading = false) :
    p.Refused position id ⟨cause⟩
      (concluded { (p.counted id).withTable ((p.counted id).table.setLoad id load) with source }
        position id (.error ⟨cause⟩)).2 := by
  have hcalls := (Source.window_eq_ok asked).1
  by_cases hdue : Sampler.isDue p.config.reportInterval (p.acquired + 1) = true
  · rw [concluded_error_of_isDue position id ⟨cause⟩ hdue]
    simp only [withTable, counted, table]
    refine ⟨page, asked, hcalls, rfl, ⟨load, ended, rfl⟩, ⟨rfl, rfl, rfl, rfl, rfl⟩, ?_, ?_⟩
    · intro hundue
      cases hdue.symm.trans hundue
    · intro _
      exact ⟨rfl, rfl, rfl⟩
  · rw [concluded_error_of_not_isDue position id ⟨cause⟩ hdue]
    simp only [withTable, counted, table]
    refine ⟨page, asked, hcalls, rfl, ⟨load, ended, rfl⟩, ⟨rfl, rfl, rfl, rfl, rfl⟩, ?_, ?_⟩
    · intro _
      exact ⟨rfl, rfl, rfl⟩
    · intro hdue'
      exact absurd hdue' hdue

theorem Sound.sameResidents_of_refused (h : p.Sound config) (r : p.Refused position id cause p') :
    p.table.SameResidents p'.table := by
  obtain ⟨l, hal⟩ := h.calm.aligned
  obtain ⟨load, -, htable⟩ := r.table
  rw [htable]
  exact (Table.SameResidents.growTo hal id p.recordsPerPage).trans
    (.setLoad (hal.growTo id p.recordsPerPage) id load)

/-- A refused read leaves the pool as it is. One whose page the source refuses asks the source once
and counts, but maps nothing and leaves every resident page as it is, and until a read loads the
page, reads of the position ask the source again. -/
theorem Run.failed_read_keeps_residents {error : PoolError} (h : Run config source turns p)
    (e : p.acquire position operation = .ok (.error error, p')) :
    p.table.SameResidents p'.table ∧ p'.mapped = p.mapped ∧
      (p' = p ∧ (error = .unsupportedOperation operation ∨
          error = .positionOverflow position p.recordsPerPage (position / p.recordsPerPage)) ∨
        ∃ id cause, error = .storage position (p.byteOffset position) cause ∧
          p.Refused position id cause p' ∧
          ∀ ops played q, p'.play? ops = some (played, q) → id ∉ loadedPages played →
            q.AsksSource position id) := by
  have hp : p.perform (.acquire position operation) = .ok (.window (.error error), p') := by
    rw [perform, e]
    rfl
  generalize hanswer : Answer.window (.error error) = answer at hp
  have hrun := h.turn hp
  cases h.sound.happens hp with
  | unsupported =>
    cases hanswer
    exact ⟨.refl _, rfl, .inl ⟨rfl, .inl rfl⟩⟩
  | overflow page =>
    cases hanswer
    exact ⟨.refl _, rfl, .inl ⟨rfl, .inr (pageNumber_eq_error page)⟩⟩
  | @read _ id _ q page fetched =>
    cases fetched with
    | hit => cases hanswer
    | loaded => cases hanswer
    | @failed cause source load absent asked ended =>
      rw [concluded_error] at hanswer
      cases hanswer
      have hrefused := refused_of_asked page asked ended
      have hsame := h.sound.sameResidents_of_refused hrefused
      rw [via_window_counted] at absent
      refine ⟨hsame, (unmoved_concluded ..).mapped, .inr ⟨id, ⟨cause⟩, rfl, hrefused, ?_⟩⟩
      intro ops played q hplay hloaded
      have hq := (hrun.play hplay).sound
      apply hq.asksSource
      · rw [pageNumber_eq_ok_iff, h.sound.recordsPerPage_eq hq]
        exact pageNumber_eq_ok_iff.mp page
      · exact hrun.window_eq_none_of_play ((congrFun hsame.window id).trans absent) hplay hloaded

/-- A page past the table cannot be loaded. The table grows to it, and a sample is due. -/
theorem Run.failed_read_past_table :
    let error : PoolError := .storage 9 72 ⟨⟨.other, "gone"⟩⟩
    ∃ turns p p',
      Run { bytesPerRecord := 8, targetBytesPerPage := 16, capacity := 1, reportInterval := 2 }
        { store := ⟨.memory, numberedRecords 3 8⟩ } turns p ∧
      p.acquire 9 .read = .ok (.error error, p') ∧ p.table.size = 2 ∧ p'.table.size = 5 ∧
      p'.log.length = p.log.length + 2 ∧
      p.table.SameResidents p'.table ∧ p'.mapped = p.mapped ∧
      (p' = p ∧ (error = .unsupportedOperation .read ∨
          error = .positionOverflow 9 p.recordsPerPage (9 / p.recordsPerPage)) ∨
        ∃ id cause, error = .storage 9 (p.byteOffset 9) cause ∧ p.Refused 9 id cause p' ∧
          ∀ ops played q, p'.play? ops = some (played, q) → id ∉ loadedPages played →
            q.AsksSource 9 id) := by
  intro error
  obtain ⟨turns, p, h, hseen⟩ := Run.exists_of_run?
    { bytesPerRecord := 8, targetBytesPerPage := 16, capacity := 1, reportInterval := 2 }
    { store := ⟨.memory, numberedRecords 3 8⟩ }
    [.acquire 0 .read, .failNext 1 ⟨.other, "gone"⟩]
    (fun r => (r.2.acquire 9 .read).toOption.map fun x =>
      (match x.1 with
        | .error error => some error
        | .ok _ => none,
        r.2.table.size, x.2.table.size, r.2.log.length, x.2.log.length))
    (some (some error, 2, 5, 1, 3)) (by decide +kernel)
  cases e : p.acquire 9 .read with
  | error fault =>
    rw [e] at hseen
    cases hseen
  | ok acquired =>
    obtain ⟨result, p'⟩ := acquired
    rw [e] at hseen
    cases result with
    | ok w => cases hseen
    | error refusal =>
      simp only [Except.toOption, Option.map_some, Option.some.injEq, Prod.mk.injEq] at hseen
      obtain ⟨rfl, hsize, hgrown, hlog, htold⟩ := hseen
      refine ⟨turns, p, p', h, e, hsize, hgrown, ?_, h.failed_read_keeps_residents e⟩
      rw [htold, hlog]

end Pool

end RecordCache
