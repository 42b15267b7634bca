import RecordCache.Proofs.Fetches
/-! Runs of a pool, turn by turn: reads and refused writes, loads past the cache, forced evictions
and closing, while the store grows, the source fails as it is told to and time goes by. A run ends
where a turn faults. -/
namespace RecordCache

def Event.evictedPage? : Event → Option PageId
  | .pageEvicted eviction => some eviction.page
  | _ => none

namespace Pool

inductive Op where
  | acquire (position : Nat) (operation : Operation)
  | load (address : Nat)
  | forceEvict (page : PageId)
  | close
  | append (bytes : List UInt8)
  | failNext (count : Nat) (error : IoError)
  | wait (nanoseconds : Nat)

inductive Answer where
  | window (result : Except PoolError Window)
  | loaded (result : Except LoadError Window)
  | evicted (released : Bool)
  | done

def perform (p : Pool) : Op → Except Fault (Answer × Pool)
  | .acquire position operation =>
    (p.acquire position operation).map fun (result, p) => (.window result, p)
  | .load address => (p.load address).map fun (result, p) => (.loaded result, p)
  | .forceEvict page => (p.forceEvict page).map fun (released, p) => (.evicted released, p)
  | .close => p.close.map fun p => (.done, p)
  | .append bytes => .ok (.done, { p with source := p.source.append bytes })
  | .failNext count error => .ok (.done, { p with source := p.source.failNext count error })
  | .wait nanoseconds => .ok (.done, { p with clock := p.clock + nanoseconds })

def evictedPages (p : Pool) : List PageId := p.log.filterMap Event.evictedPage?

structure Turn where
  before : Pool
  op : Op
  answer : Answer
  after : Pool

/-- Runs of a pool that was opened over a source. -/
inductive Run (config : PoolConfig) (source : Source) : List Turn → Pool → Prop where
  | opened {p : Pool} (e : ofSource config source = .ok (.ok p)) : Run config source [] p
  | turn {turns : List Turn} {p p' : Pool} {op : Op} {answer : Answer}
      (run : Run config source turns p) (e : p.perform op = .ok (answer, p')) :
      Run config source (turns ++ [⟨p, op, answer, p'⟩]) p'

def play? (p : Pool) : List Op → Option (List Turn × Pool)
  | [] => some ([], p)
  | op :: ops =>
    match p.perform op with
    | .error _ => none
    | .ok (answer, p') => (p'.play? ops).map fun (turns, q) => (⟨p, op, answer, p'⟩ :: turns, q)

def run? (config : PoolConfig) (source : Source) (ops : List Op) : Option (List Turn × Pool) :=
  match ofSource config source with
  | .ok (.ok p) => p.play? ops
  | _ => none

variable {config : PoolConfig} {source : Source} {p p' q : Pool} {turns : List Turn} {op : Op}
  {answer : Answer} {id : PageId} {position : Nat}

theorem Run.play {ops : List Op} {played : List Turn} (h : Run config source turns p)
    (e : p.play? ops = some (played, q)) : Run config source (turns ++ played) q := by
  induction ops generalizing turns p played with
  | nil =>
    cases e
    rw [List.append_nil]
    exact h
  | cons op ops ih =>
    rw [play?] at e
    cases hp : p.perform op with
    | error fault => rw [hp] at e; cases e
    | ok performed =>
      rw [hp] at e
      obtain ⟨⟨rest, q'⟩, hrest, hq⟩ := Option.map_eq_some_iff.mp e
      cases hq
      have hrun := ih (h.turn hp) hrest
      rw [List.append_assoc] at hrun
      exact hrun

theorem Run.exists_of_run? (config : PoolConfig) (source : Source) (ops : List Op) {α : Type}
    (f : List Turn × Pool → α) (a : α) (e : (run? config source ops).map f = some a) :
    ∃ turns p, Run config source turns p ∧ f (turns, p) = a := by
  obtain ⟨⟨turns, p⟩, hr, hf⟩ := Option.map_eq_some_iff.mp e
  refine ⟨turns, p, ?_, hf⟩
  rw [run?] at hr
  split at hr
  case h_1 opened hopened => exact (Run.opened hopened).play hr
  case h_2 => cases hr

theorem evictedPages_tell (p : Pool) (events : List Event) :
    (p.tell events).evictedPages = p.evictedPages ++ events.filterMap Event.evictedPage? :=
  List.filterMap_append ..

/-- The two pools differ at most in their clocks, their samples and what they have logged besides
evictions. -/
structure Unmoved (p q : Pool) : Prop where
  config : q.config = p.config
  source : q.source = p.source
  recordsPerPage : q.recordsPerPage = p.recordsPerPage
  cache : q.cache = p.cache
  acquired : q.acquired = p.acquired
  mapped : q.mapped = p.mapped
  evictedPages : q.evictedPages = p.evictedPages

theorem unmoved_tell (p : Pool) {events : List Event}
    (h : events.filterMap Event.evictedPage? = []) : p.Unmoved (p.tell events) := by
  refine ⟨rfl, rfl, rfl, rfl, rfl, rfl, ?_⟩
  rw [evictedPages_tell, h, List.append_nil]

theorem unmoved_reportIfDue (p : Pool) : p.Unmoved p.reportIfDue := by
  unfold reportIfDue
  split
  · refine ⟨rfl, rfl, rfl, rfl, rfl, rfl, ?_⟩
    exact (evictedPages_tell ..).trans (List.append_nil _)
  · exact ⟨rfl, rfl, rfl, rfl, rfl, rfl, rfl⟩

theorem Unmoved.trans {r : Pool} (h : p.Unmoved q) (k : q.Unmoved r) : p.Unmoved r :=
  ⟨k.config.trans h.config, k.source.trans h.source, k.recordsPerPage.trans h.recordsPerPage,
    k.cache.trans h.cache, k.acquired.trans h.acquired, k.mapped.trans h.mapped,
    k.evictedPages.trans h.evictedPages⟩

/-- Page `id` was asked for: the table reaches it, and the read counts. -/
def counted (p : Pool) (id : PageId) : Pool :=
  { p.withTable (p.table.growTo id p.recordsPerPage) with acquired := p.acquired + 1 }

def concluded (p : Pool) (position : Nat) (id : PageId) (result : Except LoadError Window) :
    Except PoolError Window × Pool :=
  let p := p.reportIfDue
  match result with
  | .ok window => (.ok window, p)
  | .error cause =>
    let offset := p.byteOffset position
    (.error (.storage position offset cause), p.tell [.loadFailed p.name position offset id cause])

theorem unmoved_concluded (p : Pool) (position : Nat) (id : PageId)
    (result : Except LoadError Window) : p.Unmoved (p.concluded position id result).2 := by
  cases result with
  | ok window => exact p.unmoved_reportIfDue
  | error cause => exact p.unmoved_reportIfDue.trans (unmoved_tell _ rfl)

theorem acquire_read (h : p.pageNumber position = .ok id) :
    p.acquire position .read = (p.counted id).fetch id >>= fun (result, q) =>
      .ok (q.concluded position id result) := by
  simp only [acquire, resolve, h, Except.map]
  refine congrArg ((p.counted id).fetch id >>= ·) (funext fun (result, q) => ?_)
  cases result <;> rfl

inductive Happens (p : Pool) : Op → Answer → Pool → Prop where
  | unsupported {position : Nat} :
      Happens p (.acquire position .write) (.window (.error (.unsupportedOperation .write))) p
  | overflow {position : Nat} {e : PoolError} (page : p.pageNumber position = .error e) :
      Happens p (.acquire position .read) (.window (.error e)) p
  | read {position : Nat} {id : PageId} {result : Except LoadError Window} {q : Pool}
      (page : p.pageNumber position = .ok id) (fetched : (p.counted id).Fetched id result q) :
      Happens p (.acquire position .read) (.window (q.concluded position id result).1)
        (q.concluded position id result).2
  | load {address : Nat} {result : Except IoError Window} {source : Source}
      (asked : p.source.window ⟨address, p.recordsPerPage, p.config.bytesPerRecord⟩ =
        .ok (result, source)) :
      Happens p (.load address) (.loaded (result.mapError LoadError.mk))
        { p with source, mapped := p.mapped + if result.toOption.isSome then 1 else 0 }
  | forceEvict {id : PageId} {eviction? : Option Eviction} {t : Table Window}
      (evicted : p.table.forceEvict id = .ok (eviction?, t)) :
      Happens p (.forceEvict id) (.evicted eviction?.isSome)
        ((p.withTable t).tell (eviction?.toList.map .pageEvicted))
  | close {evicted : List Eviction} {t : Table Window}
      (emptied : p.table.forceEvictAll = .ok (evicted, t)) :
      Happens p .close .done (((p.withTable t).tell (evicted.map .pageEvicted)).tell
        [.poolClosed p.name evicted.length p.acquired p.mapped])
  | append {bytes : List UInt8} :
      Happens p (.append bytes) .done { p with source := p.source.append bytes }
  | failNext {count : Nat} {error : IoError} :
      Happens p (.failNext count error) .done { p with source := p.source.failNext count error }
  | wait {nanoseconds : Nat} :
      Happens p (.wait nanoseconds) .done { p with clock := p.clock + nanoseconds }

theorem Sound.congr (h : p.Sound config) (hc : q.config = p.config)
    (hr : q.recordsPerPage = p.recordsPerPage) (hk : q.cache = p.cache) : q.Sound config := by
  refine ⟨hc.trans h.config_eq, hr ▸ h.valid, ?_⟩
  rw [table, limits, hr, hk]
  exact h.calm

theorem Sound.recordsPerPage_eq (h : p.Sound config) (h' : q.Sound config) :
    q.recordsPerPage = p.recordsPerPage :=
  Except.ok.inj (h'.valid.symm.trans h.valid)

theorem Unmoved.sound (hu : p.Unmoved q) (h : p.Sound config) : q.Sound config :=
  h.congr hu.config hu.recordsPerPage hu.cache

theorem Sound.withTable {t : Table Window} (h : p.Sound config)
    (ht : t.Calm p.limits.capacity p.recordsPerPage) : (p.withTable t).Sound config :=
  ⟨h.config_eq, h.valid, ht⟩

theorem Sound.counted (h : p.Sound config) (id : PageId) : (p.counted id).Sound config :=
  (h.withTable (h.calm.growTo id)).congr rfl rfl rfl

theorem lt_size_counted (p : Pool) (id : PageId) : id < (p.counted id).table.size := by
  have hsize : (p.counted id).table.size = max p.table.size (id + 1) := Table.size_growTo ..
  rw [hsize]
  exact Nat.lt_of_lt_of_le (Nat.lt_succ_self id) (Nat.le_max_right ..)

theorem Sound.happens (h : p.Sound config) (e : p.perform op = .ok (answer, p')) :
    p.Happens op answer p' := by
  cases op with
  | acquire position operation =>
    cases operation with
    | write => cases e; exact .unsupported
    | read =>
      cases hpage : p.pageNumber position with
      | error refusal =>
        simp only [perform, acquire, resolve, hpage, Except.map] at e
        cases e
        exact .overflow hpage
      | ok id =>
        rw [perform, acquire_read hpage] at e
        cases hfetch : (p.counted id).fetch id with
        | error fault => rw [hfetch] at e; cases e
        | ok fetched =>
          rw [hfetch] at e
          cases e
          exact .read hpage ((h.counted id).fetched (p.lt_size_counted id) hfetch)
  | load address =>
    rw [perform, Pool.load] at e
    cases hs : p.source.window ⟨address, p.recordsPerPage, p.config.bytesPerRecord⟩ with
    | error fault => rw [hs] at e; cases e
    | ok asked =>
      obtain ⟨result, source⟩ := asked
      rw [hs] at e
      cases result with
      | error cause => cases e; exact .load hs
      | ok window => cases e; exact .load hs
  | forceEvict page =>
    rw [perform, Pool.forceEvict] at e
    cases hs : p.table.forceEvict page with
    | error fault => rw [hs] at e; cases e
    | ok evicted => rw [hs] at e; cases e; exact .forceEvict hs
  | close =>
    rw [perform, Pool.close] at e
    cases hs : p.table.forceEvictAll with
    | error fault => rw [hs] at e; cases e
    | ok emptied => rw [hs] at e; cases e; exact .close hs
  | append bytes => cases e; exact .append
  | failNext count error => cases e; exact .failNext
  | wait nanoseconds => cases e; exact .wait

theorem Sound.fetched_sound {result : Except LoadError Window} (h : p.Sound config)
    (hid : id < p.table.size) (hf : p.Fetched id result q) : q.Sound config := by
  cases hf with
  | hit resident recorded =>
    obtain ⟨t', e, hcalm, -⟩ := h.calm.recordHit resident p.limits
    cases recorded.symm.trans e
    exact h.withTable hcalm
  | failed absent refused ended =>
    exact (h.withTable (h.calm.setLoad ended id)).congr rfl rfl rfl
  | @loaded w source evicted t load absent mapped admitted ended =>
    obtain ⟨evicted', t', e, -, hcalm, -⟩ := h.calm.makeResident hid absent w
    cases admitted.symm.trans e
    exact (h.withTable (hcalm.setLoad ended id)).congr rfl rfl rfl

theorem Sound.after (h : p.Sound config) (hp : p.Happens op answer p') : p'.Sound config := by
  cases hp with
  | unsupported | overflow => exact h
  | @read position id result q page fetched =>
    exact (q.unmoved_concluded position id result).sound
      ((h.counted id).fetched_sound (p.lt_size_counted id) fetched)
  | forceEvict evicted =>
    obtain ⟨eviction?, t, e, hcalm, -⟩ := h.calm.forceEvict _
    cases evicted.symm.trans e
    exact (h.withTable hcalm).congr rfl rfl rfl
  | close emptied =>
    obtain ⟨evicted, t, e, hcalm, -⟩ := h.calm.forceEvictAll
    cases emptied.symm.trans e
    exact (h.withTable hcalm).congr rfl rfl rfl
  | load | append | failNext | wait => exact h.congr rfl rfl rfl

def blank (config : PoolConfig) (source : Source) (recordsPerPage : Nat) (limits : Limits) : Pool :=
  { config
    name := fileName config.storeName
    source
    recordsPerPage
    cache := { limits }
    sampler := { store := fileName config.storeName } }

theorem ofSource_eq {recordsPerPage fileSize : Nat} {limits : Limits}
    (hv : config.validate = .ok recordsPerPage)
    (hl : Limits.ofFractions config.capacity config.protectedFraction config.longTermFraction =
      .ok limits)
    (hs : source.size = .ok fileSize) :
    ofSource config source = .ok (((blank config source recordsPerPage limits).resolve
      (fileSize / config.bytesPerRecord)).map fun (_, p) => p.tell
        [.poolOpened (fileName config.storeName) fileSize config.bytesPerRecord recordsPerPage
          config.capacity p.table.size]) := by
  simp only [ofSource, hv, hl, hs, bind, Except.bind, pure, Except.pure]
  unfold blank
  cases resolve _ _ <;> rfl

structure Opened (config : PoolConfig) (source : Source) (p : Pool) : Prop where
  config_eq : p.config = config
  source_eq : p.source = source
  valid : config.validate = .ok p.recordsPerPage
  limits : Limits.ofFractions config.capacity config.protectedFraction config.longTermFraction =
    .ok p.limits
  table : ∃ fileSize, source.size = .ok fileSize ∧ ∃ id,
    p.pageNumber (fileSize / config.bytesPerRecord) = .ok id ∧
      p.table = Table.empty.growTo id p.recordsPerPage
  unused : p.acquired = 0 ∧ p.mapped = 0 ∧ p.evictedPages = []

theorem opened_of_ofSource (e : ofSource config source = .ok (.ok p)) :
    Opened config source p := by
  cases hv : config.validate with
  | error refusal =>
    rw [ofSource, hv] at e
    cases e
  | ok recordsPerPage =>
    cases hl : Limits.ofFractions config.capacity config.protectedFraction
        config.longTermFraction with
    | error fault =>
      simp only [ofSource, hv, hl] at e
      cases e
    | ok limits =>
      cases hs : source.size with
      | error cause =>
        simp only [ofSource, hv, hl, hs] at e
        cases e
      | ok fileSize =>
        rw [ofSource_eq hv hl hs, resolve] at e
        cases hpage : (blank config source recordsPerPage limits).pageNumber
            (fileSize / config.bytesPerRecord) with
        | error refusal => rw [hpage] at e; cases e
        | ok id =>
          rw [hpage] at e
          cases e
          exact ⟨rfl, rfl, hv, hl, ⟨fileSize, hs, id, hpage, rfl⟩, rfl, rfl, rfl⟩

theorem Opened.window_eq_none (h : Opened config source p) (id : PageId) :
    p.table.via Page.window? id = none := by
  obtain ⟨fileSize, -, last, -, htable⟩ := h.table
  rw [htable, Table.via_window_growTo]
  simp [Table.via, Table.empty]

theorem Opened.sound (h : Opened config source p) : p.Sound config := by
  refine ⟨h.config_eq, h.valid, ?_⟩
  obtain ⟨fileSize, -, id, -, htable⟩ := h.table
  rw [htable]
  exact Table.Calm.empty.growTo id

theorem Run.sound (h : Run config source turns p) : p.Sound config := by
  induction h with
  | opened e => exact (opened_of_ofSource e).sound
  | turn run e ih => exact ih.after (ih.happens e)

theorem Run.happens {x : Turn} (h : Run config source turns p) (hx : x ∈ turns) :
    x.before.Sound config ∧ x.before.Happens x.op x.answer x.after := by
  induction h with
  | opened e => cases hx
  | turn run e ih =>
    rcases List.mem_append.mp hx with hx | hx
    · exact ih hx
    · cases List.mem_singleton.mp hx
      exact ⟨run.sound, run.sound.happens e⟩

/-- The turns before a turn of a run are the run that leads to it. -/
theorem Run.split {before after : List Turn} {x : Turn}
    (h : Run config source (before ++ x :: after) p) :
    Run config source before x.before ∧ x.before.perform x.op = .ok (x.answer, x.after) := by
  generalize ht : before ++ x :: after = turns at h
  induction h generalizing after with
  | opened e => simp at ht
  | @turn turns p p' op answer run e ih =>
    rcases List.eq_nil_or_concat' after with rfl | ⟨after, y, rfl⟩
    · obtain ⟨rfl, hx⟩ := List.append_inj' ht rfl
      cases hx
      exact ⟨run, e⟩
    · rw [← List.cons_append, ← List.append_assoc] at ht
      exact ih (List.append_inj' ht rfl).1

end Pool

end RecordCache
