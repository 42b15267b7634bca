import RecordCache.Pool.Basic
import RecordCache.Proofs.Exchanges
/-! Fetching a page of a pool between operations. A page that is resident is hit; any other is asked
of the source once, and admitted unless the source refuses. -/
namespace RecordCache

theorem Source.window_eq_ok {s s' : Source} {r : WindowRequest} {result : Except IoError Window}
    (h : s.window r = .ok (result, s')) : s'.calls = s.calls + 1 ∧ s'.store = s.store ∧
      ∀ w, result = .ok w → s.store.window r = .ok (.ok w) := by
  unfold window at h
  simp only at h
  split at h
  · cases h
    exact ⟨rfl, rfl, fun w hw => by cases hw⟩
  · cases hs : s.store.window r with
    | error fault => rw [hs] at h; cases h
    | ok answer =>
      rw [hs] at h
      cases h
      exact ⟨rfl, rfl, fun w hw => by rw [hw]⟩

namespace Pool

variable {p q : Pool} {id : PageId} {result : Except LoadError Window}

def withTable (p : Pool) (table : Table Window) : Pool := { p with cache := { p.cache with table } }

def wanted (p : Pool) (id : PageId) : WindowRequest :=
  ⟨id * p.recordsPerPage, p.recordsPerPage, p.config.bytesPerRecord⟩

structure Sound (config : PoolConfig) (p : Pool) : Prop where
  config_eq : p.config = config
  valid : config.validate = .ok p.recordsPerPage
  calm : p.table.Calm p.limits.capacity p.recordsPerPage

inductive Fetched (p : Pool) (id : PageId) : Except LoadError Window → Pool → Prop where
  | hit {w : Window} {t : Table Window} (resident : p.table.via Page.window? id = some w)
      (recorded : p.table.recordHit p.limits id = .ok t) : Fetched p id (.ok w) (p.withTable t)
  | failed {e : IoError} {source : Source} {load : LoadState Window}
      (absent : p.table.via Page.window? id = none)
      (refused : p.source.window (p.wanted id) = .ok (.error e, source))
      (ended : load.loading = false) :
      Fetched p id (.error ⟨e⟩) { p.withTable (p.table.setLoad id load) with source }
  | loaded {w : Window} {source : Source} {evicted : List Eviction} {t : Table Window}
      {load : LoadState Window} (absent : p.table.via Page.window? id = none)
      (mapped : p.source.window (p.wanted id) = .ok (.ok w, source))
      (admitted : p.table.makeResident p.limits id w = .ok (evicted, t))
      (ended : load.loading = false) :
      Fetched p id (.ok w)
        ({ p.withTable (t.setLoad id load) with source, mapped := p.mapped + 1 }.tell
          (evicted.map .pageEvicted))

section

variable {config : PoolConfig} {page : Page Window} (h : p.Sound config)
  (hp : p.table.pages[id]? = some page)
include h hp

theorem Sound.loading_eq : page.loading = false := h.calm.idle id _ (Table.loadOf_of_page hp)

theorem Sound.address_eq : page.address = id * p.recordsPerPage :=
  h.calm.address id _ (congrArg (Option.map Page.address) hp)

theorem Sound.fetch_of_resident {w : Window} (hw : page.window? = some w) :
    ∃ t, p.table.recordHit p.limits id = .ok t ∧ p.fetch id = .ok (.ok w, p.withTable t) := by
  obtain ⟨t, e, -, -⟩ := h.calm.recordHit ((Table.via_of_page hp Page.window?).trans hw) p.limits
  refine ⟨t, e, ?_⟩
  rw [fetch, Cache.request_of_resident hp hw (h.loading_eq hp) e]
  rfl

theorem Sound.fetch_of_idle (hw : page.window? = none) {outcome : Except IoError Window}
    {source : Source} (e : p.source.window (p.wanted id) = .ok (outcome, source))
    {evicted : List Eviction} {t : Table Window} (ht : t.loadOf = p.table.loadOf)
    (hs : p.table.settle p.limits id (outcome.mapError LoadError.mk) 0 = .ok (evicted, t)) :
    ∃ load : LoadState Window, load.loading = false ∧ p.fetch id =
      .ok (outcome.mapError LoadError.mk, { p.withTable (t.setLoad id load) with
        source, mapped := p.mapped + if outcome.toOption.isSome then 1 else 0 }.tell
          (evicted.map .pageEvicted)) := by
  obtain ⟨load, hload, hcomplete⟩ := Cache.complete_of_started (c := p.cache) hp ht hs
    { page.loadState with loading := true, attempt := page.attempt + 1, failure? := none }
    (page.attempt + 1)
  refine ⟨load, hload, ?_⟩
  rw [wanted] at e
  rw [fetch, Cache.request_of_idle hp hw (h.loading_eq hp), h.address_eq hp]
  simp only [table] at hcomplete
  cases outcome with
  | error _ =>
    simp only [Except.mapError] at hcomplete
    simp only [Pool.load, e, hcomplete, bind, Except.bind, pure, Except.pure]
    rfl
  | ok _ =>
    simp only [Except.mapError] at hcomplete
    simp only [Pool.load, e, hcomplete, bind, Except.bind, pure, Except.pure]
    rfl

end

theorem tell_nil (p : Pool) : p.tell [] = p := by
  rw [tell, List.append_nil]

/-- A page that is not resident is asked of the source. Only if the source faults does the fetch. -/
theorem Sound.fetch_of_absent {config : PoolConfig} (h : p.Sound config) (hid : id < p.table.size)
    (absent : p.table.via Page.window? id = none) :
    (∃ fault, p.source.window (p.wanted id) = .error fault ∧ p.fetch id = .error fault) ∨
      ∃ result q, p.fetch id = .ok (result, q) ∧ p.Fetched id result q := by
  obtain ⟨page, hp⟩ := Table.exists_page hid
  have hw : page.window? = none := (Table.via_of_page hp Page.window?).symm.trans absent
  cases hs : p.source.window (p.wanted id) with
  | error fault =>
    refine Or.inl ⟨fault, rfl, ?_⟩
    rw [wanted] at hs
    rw [fetch, Cache.request_of_idle hp hw (h.loading_eq hp), h.address_eq hp]
    simp only [Pool.load, hs, bind, Except.bind]
  | ok answer =>
    right
    obtain ⟨outcome, source⟩ := answer
    cases outcome with
    | error cause =>
      obtain ⟨load, hload, hfetch⟩ := h.fetch_of_idle hp hw hs rfl rfl
      rw [List.map_nil, tell_nil] at hfetch
      exact ⟨_, _, hfetch, .failed absent hs hload⟩
    | ok w =>
      obtain ⟨evicted, t, hadmitted, hu, -, -⟩ := h.calm.makeResident hid absent w
      obtain ⟨load, hload, hfetch⟩ := h.fetch_of_idle hp hw hs hu.loads
        ((Table.settle_zero ..).trans hadmitted)
      exact ⟨_, _, hfetch, .loaded absent hs hadmitted hload⟩

theorem Sound.fetched {config : PoolConfig} (h : p.Sound config) (hid : id < p.table.size)
    (e : p.fetch id = .ok (result, q)) : p.Fetched id result q := by
  obtain ⟨page, hp⟩ := Table.exists_page hid
  cases hw : page.window? with
  | some w =>
    obtain ⟨t, hrecorded, hfetch⟩ := h.fetch_of_resident hp hw
    cases e.symm.trans hfetch
    exact .hit ((Table.via_of_page hp Page.window?).trans hw) hrecorded
  | none =>
    have absent := (Table.via_of_page hp Page.window?).trans hw
    rcases h.fetch_of_absent hid absent with ⟨fault, -, hfetch⟩ | ⟨_, _, hfetch, hfetched⟩
    · cases e.symm.trans hfetch
    · cases e.symm.trans hfetch
      exact hfetched

end Pool

end RecordCache
