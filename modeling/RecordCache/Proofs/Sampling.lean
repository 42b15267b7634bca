import Mathlib
import RecordCache.Proofs.Accounts
/-! The samples of a pool. A sample is taken whenever the reads that count fill another interval. It
covers the reads of that interval and the windows mapped since the last sample, so the samples add
up to the totals. Totals are not bounded here: they stand for counters of 64 bits as long as a run
has fewer than `2 ^ 64` reads. -/
namespace RecordCache

def Event.sample? : Event → Option Sample
  | .sampled sample => some sample
  | _ => none

namespace Pool

variable {config : PoolConfig} {source : Source} {p p' q : Pool} {turns before after : List Turn}
  {x : Turn} {op : Op} {answer : Answer} {id : PageId} {position interval reads : Nat}

def taken (p : Pool) : List Sample := p.log.filterMap Event.sample?

/-- The samples up to the latest cover as many reads and windows as there were then. -/
structure Paced (interval reads : Nat) (p : Pool) : Prop where
  config : p.config.reportInterval = interval
  length : p.taken.length = reads / interval
  acquired : ∀ sample ∈ p.taken, sample.acquired = interval
  lastAcquired : p.sampler.lastAcquired = reads / interval * interval
  lastMapped : p.sampler.lastMapped = (p.taken.map Sample.mapped).sum
  behind : p.sampler.lastMapped ≤ p.mapped
  heard : p.samples = if p.config.hasListener then p.taken else []

/-- Since the latest sample, no more windows have been mapped than reads were made, and so it was
between any two. -/
structure Frugal (interval reads : Nat) (p : Pool) : Prop where
  recent : p.mapped + p.sampler.lastAcquired ≤ reads + p.sampler.lastMapped
  taken : ∀ sample ∈ p.taken, sample.mapped ≤ interval

structure Quiet (p q : Pool) : Prop where
  config : q.config = p.config
  sampler : q.sampler = p.sampler
  samples : q.samples = p.samples
  taken : q.taken = p.taken

def nextSample (p : Pool) : Sample := (p.sampler.sample p.acquired p.mapped p.clock).1

def Turn.isCounted (x : Turn) : Bool :=
  match x.op with
  | .acquire position .read => (x.before.pageNumber position).isOk
  | _ => false

theorem taken_tell (p : Pool) (events : List Event) :
    (p.tell events).taken = p.taken ++ events.filterMap Event.sample? :=
  List.filterMap_append ..

theorem Quiet.tell (hq : p.Quiet q) {events : List Event}
    (h : events.filterMap Event.sample? = []) : p.Quiet (q.tell events) := by
  refine ⟨hq.config, hq.sampler, hq.samples, ?_⟩
  rw [taken_tell, h, List.append_nil, hq.taken]

theorem filterMap_sample?_pageEvicted (evicted : List Eviction) :
    (evicted.map Event.pageEvicted).filterMap Event.sample? = [] := by
  rw [List.filterMap_map]
  exact List.filterMap_eq_nil_iff.mpr fun _ _ => rfl

theorem Quiet.paced (hq : p.Quiet q) (h : p.Paced interval reads) (hm : p.mapped ≤ q.mapped) :
    q.Paced interval reads := by
  refine ⟨hq.config ▸ h.config, hq.taken ▸ h.length, hq.taken ▸ h.acquired,
    hq.sampler ▸ h.lastAcquired, ?_, ?_, ?_⟩
  · rw [hq.sampler, hq.taken]
    exact h.lastMapped
  · rw [hq.sampler]
    exact h.behind.trans hm
  · rw [hq.samples, hq.config, hq.taken]
    exact h.heard

theorem Quiet.frugal (hq : p.Quiet q) (h : p.Frugal interval reads) {reads' : Nat}
    (hm : q.mapped + reads ≤ p.mapped + reads') : q.Frugal interval reads' := by
  have hrecent := h.recent
  refine ⟨?_, hq.taken ▸ h.taken⟩
  rw [hq.sampler]
  omega

/-- A read that fills an interval is a whole interval behind the latest sample. -/
theorem Paced.lastAcquired_add (h : p.Paced interval reads) (hdvd : interval ∣ reads + 1) :
    p.sampler.lastAcquired + interval = reads + 1 :=
  calc p.sampler.lastAcquired + interval
    _ = (reads / interval + 1) * interval := by rw [h.lastAcquired, Nat.succ_mul]
    _ = (reads + 1) / interval * interval := by rw [Nat.succ_div_of_dvd hdvd]
    _ = reads + 1 := Nat.div_mul_cancel hdvd

section

variable (h : p.Paced interval reads) (ha : p.acquired = reads + 1)
include h ha

theorem Paced.isDue_iff :
    Sampler.isDue p.config.reportInterval p.acquired = true ↔ interval ∣ reads + 1 := by
  rw [Sampler.isDue, h.config, ha, decide_eq_true_iff]
  constructor
  · rintro ⟨-, -, hmod⟩
    exact Nat.dvd_of_mod_eq_zero hmod
  · intro hdvd
    refine ⟨?_, Nat.succ_ne_zero reads, Nat.mod_eq_zero_of_dvd hdvd⟩
    rintro rfl
    exact Nat.succ_ne_zero reads (Nat.eq_zero_of_zero_dvd hdvd)

theorem Paced.reportIfDue_of_not_dvd (hdvd : ¬interval ∣ reads + 1) : p.reportIfDue = p := by
  rw [Pool.reportIfDue, if_neg (mt (h.isDue_iff ha).mp hdvd)]

theorem Paced.taken_reportIfDue (hdvd : interval ∣ reads + 1) :
    p.reportIfDue.taken = p.taken ++ [p.nextSample] := by
  rw [Pool.reportIfDue, if_pos ((h.isDue_iff ha).mpr hdvd)]
  exact taken_tell ..

theorem Paced.told_reportIfDue (hdvd : interval ∣ reads + 1) :
    p.reportIfDue.sampler.lastAcquired = reads + 1 ∧
      p.reportIfDue.sampler.lastMapped = p.mapped ∧
      p.reportIfDue.samples =
        if p.config.hasListener then p.samples ++ [p.nextSample] else p.samples := by
  have hacquired : p.sampler.lastAcquired ≤ p.acquired := by
    have hlast := h.lastAcquired_add hdvd
    omega
  rw [Pool.reportIfDue, if_pos ((h.isDue_iff ha).mpr hdvd)]
  exact ⟨(Nat.max_eq_right hacquired).trans ha, Nat.max_eq_right h.behind, rfl⟩

theorem Paced.nextSample_eq (hdvd : interval ∣ reads + 1) : p.nextSample.acquired = interval ∧
    p.sampler.lastMapped + p.nextSample.mapped = p.mapped := by
  constructor
  · change p.acquired - p.sampler.lastAcquired = interval
    have hlast := h.lastAcquired_add hdvd
    omega
  · exact Nat.add_sub_cancel' h.behind

theorem Paced.sum_taken (hdvd : interval ∣ reads + 1) :
    ((p.taken ++ [p.nextSample]).map Sample.mapped).sum = p.mapped := by
  rw [List.map_append, List.sum_append, ← h.lastMapped]
  exact (h.nextSample_eq ha hdvd).2

theorem Paced.reportIfDue : p.reportIfDue.Paced interval (reads + 1) := by
  have hu := p.unmoved_reportIfDue
  by_cases hdvd : interval ∣ reads + 1
  · have htaken := h.taken_reportIfDue ha hdvd
    obtain ⟨hacquired, hmapped, hsamples⟩ := h.told_reportIfDue ha hdvd
    refine ⟨hu.config ▸ h.config, ?_, ?_, ?_, ?_, ?_, ?_⟩
    · rw [htaken, List.length_append, h.length, Nat.succ_div_of_dvd hdvd]
      rfl
    · intro sample hs
      rw [htaken, List.mem_append, List.mem_singleton] at hs
      rcases hs with hs | rfl
      · exact h.acquired sample hs
      · exact (h.nextSample_eq ha hdvd).1
    · rw [hacquired, Nat.div_mul_cancel hdvd]
    · rw [hmapped, htaken, h.sum_taken ha hdvd]
    · rw [hmapped, hu.mapped]
    · rw [hsamples, htaken, hu.config, h.heard]
      split <;> rfl
  · rw [h.reportIfDue_of_not_dvd ha hdvd]
    -- no interval is full, so the number of full ones is what it was
    have hdiv := Nat.succ_div_of_not_dvd hdvd
    exact ⟨h.config, hdiv ▸ h.length, h.acquired, hdiv ▸ h.lastAcquired, h.lastMapped, h.behind,
      h.heard⟩

theorem Paced.frugal_reportIfDue (hf : p.Frugal interval (reads + 1)) :
    p.reportIfDue.Frugal interval (reads + 1) := by
  by_cases hdvd : interval ∣ reads + 1
  · obtain ⟨hacquired, hmapped, -⟩ := h.told_reportIfDue ha hdvd
    constructor
    · rw [hacquired, hmapped, p.unmoved_reportIfDue.mapped, Nat.add_comm]
    · intro sample hs
      rw [h.taken_reportIfDue ha hdvd, List.mem_append, List.mem_singleton] at hs
      rcases hs with hs | rfl
      · exact hf.taken sample hs
      · -- the windows since the latest sample are no more than the reads, which are an interval
        have hrecent := hf.recent
        have hlast := h.lastAcquired_add hdvd
        change p.mapped - p.sampler.lastMapped ≤ interval
        omega
  · rw [h.reportIfDue_of_not_dvd ha hdvd]
    exact hf

end

/-- What a read that counts does to the totals: `q` is the pool once the page has been fetched and
before a sample is taken. -/
structure ReadCounts (p q p' : Pool) : Prop where
  fetched : p.Quiet q
  acquired : q.acquired = p.acquired + 1
  mapped : p.mapped ≤ q.mapped ∧ q.mapped ≤ p.mapped + 1
  told : q.reportIfDue.Quiet p'
  totals : p'.acquired = q.acquired ∧ p'.mapped = q.mapped

theorem quiet_concluded (q : Pool) (position : Nat) (id : PageId)
    (result : Except LoadError Window) :
    q.reportIfDue.Quiet (q.concluded position id result).2 := by
  cases result with
  | ok window => exact ⟨rfl, rfl, rfl, rfl⟩
  | error cause => exact Quiet.tell ⟨rfl, rfl, rfl, rfl⟩ rfl

theorem Fetched.quiet {result : Except LoadError Window} (hf : p.Fetched id result q) :
    p.Quiet q ∧ q.acquired = p.acquired ∧ p.mapped ≤ q.mapped ∧ q.mapped ≤ p.mapped + 1 := by
  cases hf with
  | hit resident recorded => exact ⟨⟨rfl, rfl, rfl, rfl⟩, rfl, Nat.le_refl _, Nat.le_succ _⟩
  | failed absent refused ended =>
    exact ⟨⟨rfl, rfl, rfl, rfl⟩, rfl, Nat.le_refl _, Nat.le_succ _⟩
  | @loaded w source evicted t load absent mapped admitted ended =>
    have hq : p.Quiet { p.withTable (t.setLoad id load) with source, mapped := p.mapped + 1 } :=
      ⟨rfl, rfl, rfl, rfl⟩
    exact ⟨hq.tell (filterMap_sample?_pageEvicted evicted), rfl, Nat.le_succ _, Nat.le_refl _⟩

theorem Fetched.readCounts {result : Except LoadError Window}
    (hf : (p.counted id).Fetched id result q) (position : Nat) :
    p.ReadCounts q (q.concluded position id result).2 := by
  obtain ⟨hq, hacquired, hmapped⟩ := hf.quiet
  have hu := q.unmoved_concluded position id result
  exact ⟨⟨hq.config, hq.sampler, hq.samples, hq.taken⟩, hacquired, hmapped,
    quiet_concluded q position id result, hu.acquired, hu.mapped⟩

/-- A turn is a read that counts, or takes no sample and leaves the reads as they were. -/
theorem Happens.counts (hp : p.Happens op answer p') :
    (Turn.mk p op answer p').isCounted = true ∧ (∃ q, p.ReadCounts q p') ∨
      (Turn.mk p op answer p').isCounted = false ∧ p.Quiet p' ∧ p'.acquired = p.acquired ∧
        p.mapped ≤ p'.mapped ∧
        ((Turn.mk p op answer p').isDirect = false → p'.mapped = p.mapped) := by
  cases hp with
  | @read position id result q page fetched =>
    left
    refine ⟨?_, q, fetched.readCounts position⟩
    simp only [Turn.isCounted, page]
    rfl
  | @overflow position e page =>
    right
    refine ⟨?_, ⟨rfl, rfl, rfl, rfl⟩, rfl, Nat.le_refl _, fun _ => rfl⟩
    simp only [Turn.isCounted, page]
    rfl
  | load asked =>
    right
    refine ⟨rfl, ⟨rfl, rfl, rfl, rfl⟩, rfl, Nat.le_add_right .., ?_⟩
    intro hdirect
    cases hdirect
  | @forceEvict id eviction? t evicted =>
    have hq : p.Quiet (p.withTable t) := ⟨rfl, rfl, rfl, rfl⟩
    exact .inr ⟨rfl, hq.tell (filterMap_sample?_pageEvicted _), rfl, Nat.le_refl _, fun _ => rfl⟩
  | @close evicted t emptied =>
    have hq : p.Quiet (p.withTable t) := ⟨rfl, rfl, rfl, rfl⟩
    have hevicted := hq.tell (filterMap_sample?_pageEvicted evicted)
    exact .inr ⟨rfl, hevicted.tell rfl, rfl, Nat.le_refl _, fun _ => rfl⟩
  | unsupported | append | failNext | wait =>
    exact .inr ⟨rfl, ⟨rfl, rfl, rfl, rfl⟩, rfl, Nat.le_refl _, fun _ => rfl⟩

theorem ReadCounts.paced (c : p.ReadCounts q p') (h : p.Paced interval p.acquired) :
    p'.Paced interval p'.acquired := by
  have hreported := (c.fetched.paced h c.mapped.1).reportIfDue c.acquired
  rw [c.totals.1, c.acquired]
  refine c.told.paced hreported (Nat.le_of_eq ?_)
  rw [c.totals.2, q.unmoved_reportIfDue.mapped]

theorem ReadCounts.frugal (c : p.ReadCounts q p') (h : p.Paced interval p.acquired)
    (hf : p.Frugal interval p.acquired) : p'.Frugal interval p'.acquired := by
  have hmapped := c.mapped.2
  have hfetched : q.Frugal interval (p.acquired + 1) := c.fetched.frugal hf (by omega)
  have hreported := (c.fetched.paced h c.mapped.1).frugal_reportIfDue c.acquired hfetched
  rw [c.totals.1, c.acquired]
  refine c.told.frugal hreported (Nat.le_of_eq ?_)
  rw [c.totals.2, q.unmoved_reportIfDue.mapped]

theorem ReadCounts.taken_cases (c : p.ReadCounts q p') (h : p.Paced interval p.acquired) :
    (p'.taken = p.taken ∧ ¬interval ∣ p.acquired + 1) ∨
      ∃ sample, p'.taken = p.taken ++ [sample] ∧
        p.acquired + 1 = (p.taken.length + 1) * interval ∧
        (p'.taken.map Sample.mapped).sum = p'.mapped := by
  have hq := c.fetched.paced h c.mapped.1
  by_cases hdvd : interval ∣ p.acquired + 1
  · right
    have htaken : p'.taken = p.taken ++ [q.nextSample] := by
      rw [c.told.taken, hq.taken_reportIfDue c.acquired hdvd, c.fetched.taken]
    refine ⟨q.nextSample, htaken, ?_, ?_⟩
    · rw [h.length, ← Nat.succ_div_of_dvd hdvd, Nat.div_mul_cancel hdvd]
    · rw [htaken, ← c.fetched.taken, hq.sum_taken c.acquired hdvd, c.totals.2]
  · left
    refine ⟨?_, hdvd⟩
    rw [c.told.taken, hq.reportIfDue_of_not_dvd c.acquired hdvd, c.fetched.taken]

theorem unsampled_of_ofSource (e : ofSource config source = .ok (.ok p)) :
    p.taken = [] ∧ p.sampler.lastAcquired = 0 ∧ p.sampler.lastMapped = 0 ∧ p.samples = [] := by
  have ho := opened_of_ofSource e
  obtain ⟨fileSize, hs, -⟩ := ho.table
  have hv := ho.valid
  have hl := ho.limits
  generalize p.recordsPerPage = recordsPerPage at hv
  generalize p.limits = limits at hl
  rw [ofSource_eq hv hl hs, resolve] at e
  cases hpage : (blank config source recordsPerPage limits).pageNumber
      (fileSize / config.bytesPerRecord) with
  | error refusal => rw [hpage] at e; cases e
  | ok id =>
    rw [hpage] at e
    cases e
    exact ⟨rfl, rfl, rfl, rfl⟩

theorem Run.acquired_eq_countP (h : Run config source turns p) :
    p.acquired = turns.countP Turn.isCounted := by
  induction h with
  | opened e => exact (opened_of_ofSource e).unused.1
  | turn run e ih =>
    rw [countP_snoc, ← ih]
    rcases (run.sound.happens e).counts with ⟨hcounted, q, c⟩ | ⟨hcounted, -, hacquired, -⟩
    · rw [hcounted, c.totals.1, c.acquired]
      rfl
    · rw [hcounted, hacquired]
      rfl

theorem Run.paced (h : Run config source turns p) : p.Paced config.reportInterval p.acquired := by
  induction h with
  | @opened p e =>
    have ho := opened_of_ofSource e
    obtain ⟨htaken, hacquired, hmapped, hsamples⟩ := unsampled_of_ofSource e
    have hnone : p.acquired / config.reportInterval = 0 := by rw [ho.unused.1, Nat.zero_div]
    refine ⟨by rw [ho.config_eq], ?_, ?_, ?_, ?_, ?_, ?_⟩
    · rw [htaken, hnone]
      rfl
    · rw [htaken]
      exact nofun
    · rw [hacquired, hnone, Nat.zero_mul]
    · rw [hmapped, htaken]
      rfl
    · rw [hmapped]
      exact Nat.zero_le _
    · rw [hsamples, htaken, ite_self]
  | turn run e ih =>
    rcases (run.sound.happens e).counts with ⟨-, q, c⟩ | ⟨-, hq, hacquired, hmapped, -⟩
    · exact c.paced ih
    · rw [hacquired]
      exact hq.paced ih hmapped

theorem Run.frugal (h : Run config source turns p) (hd : turns.countP Turn.isDirect = 0) :
    p.Frugal config.reportInterval p.acquired := by
  induction h with
  | @opened p e =>
    have ho := opened_of_ofSource e
    obtain ⟨htaken, hacquired, hmapped, -⟩ := unsampled_of_ofSource e
    constructor
    · rw [ho.unused.1, ho.unused.2.1, hacquired, hmapped]
    · rw [htaken]
      exact nofun
  | turn run e ih =>
    rw [countP_snoc, Nat.add_eq_zero_iff, Bool.toNat_eq_zero] at hd
    rcases (run.sound.happens e).counts with ⟨-, q, c⟩ | ⟨-, hq, hacquired, -, hmapped⟩
    · exact c.frugal run.paced (ih hd.1)
    · refine hq.frugal (ih hd.1) (Nat.le_of_eq ?_)
      rw [hacquired, hmapped hd.2]

theorem Run.taken_prefix (h : Run config source turns p) (hx : x ∈ turns) :
    x.after.taken <+: p.taken := by
  induction h with
  | opened e => cases hx
  | @turn turns p p' op answer run e ih =>
    have hlast : p.taken <+: p'.taken := by
      rcases (run.sound.happens e).counts with ⟨-, q, c⟩ | ⟨-, hq, -⟩
      · rcases c.taken_cases run.paced with ⟨hsame, -⟩ | ⟨sample, hmore, -⟩
        · exact hsame ▸ List.prefix_refl p.taken
        · exact hmore ▸ List.prefix_append p.taken [sample]
      · exact hq.taken ▸ List.prefix_refl p.taken
    rcases List.mem_append.mp hx with hx | hx
    · exact (ih hx).trans hlast
    · cases List.mem_singleton.mp hx
      exact List.prefix_refl p'.taken

/-- The samples of a pool keep pace with its reads. With an interval of `n`, the `k`-th sample is
taken in the turn that makes the read number `k * n` of those that count, be it a hit, a load or a
failure, and in no other turn; if `n` is zero there are none. Each covers `n` reads, and the windows
of the samples so far add up to those mapped by then. Unless windows are loaded past the cache, a
sample has no more windows than reads. -/
theorem Run.samples_keep_pace (h : Run config source turns p) :
    let n := config.reportInterval
    (n = 0 → p.taken = []) ∧
    p.taken.length = turns.countP Turn.isCounted / n ∧
    (∀ sample ∈ p.taken, sample.acquired = n) ∧
    (turns.countP Turn.isDirect = 0 → ∀ sample ∈ p.taken, sample.mapped ≤ n) ∧
    p.samples = (if config.hasListener then p.taken else []) ∧
    ∀ (before : List Turn) (x : Turn) (after : List Turn), turns = before ++ x :: after →
      x.after.taken <+: p.taken ∧
      (x.after.taken = x.before.taken ∧
          ¬(x.isCounted = true ∧ n ∣ before.countP Turn.isCounted + 1) ∨
        ∃ sample, x.after.taken = x.before.taken ++ [sample] ∧ x.isCounted = true ∧
          before.countP Turn.isCounted + 1 = (x.before.taken.length + 1) * n ∧
          (x.after.taken.map Sample.mapped).sum = x.after.mapped) := by
  intro n
  have hpaced := h.paced
  have hlength : p.taken.length = turns.countP Turn.isCounted / n :=
    h.acquired_eq_countP ▸ hpaced.length
  refine ⟨?_, hlength, hpaced.acquired, fun hd => (h.frugal hd).taken, ?_, ?_⟩
  · intro hn
    rw [hn, Nat.div_zero] at hlength
    exact List.eq_nil_of_length_eq_zero hlength
  · rw [hpaced.heard, h.sound.config_eq]
  · rintro before x after rfl
    have hmem : x ∈ before ++ x :: after := List.mem_append_right _ List.mem_cons_self
    obtain ⟨hrun, e⟩ := h.split
    refine ⟨h.taken_prefix hmem, ?_⟩
    -- the pool before the turn has counted the reads before it
    rw [← hrun.acquired_eq_countP]
    rcases (hrun.sound.happens e).counts with ⟨hcounted, q, c⟩ | ⟨hcounted, hq, -⟩
    · rcases c.taken_cases hrun.paced with ⟨hsame, hdvd⟩ | ⟨sample, hmore, hnumber, hsum⟩
      · exact .inl ⟨hsame, fun hdue => hdvd hdue.2⟩
      · exact .inr ⟨sample, hmore, hcounted, hnumber, hsum⟩
    · left
      refine ⟨hq.taken, ?_⟩
      rintro ⟨hdue, -⟩
      cases hcounted.symm.trans hdue

/-- A load and a hit, then a failure and a load, and a hit that fills no interval. Refused writes,
positions that are too far and closing the pool do not count. -/
theorem Run.samples_keep_pace_with_failure :
    ∃ turns p,
      Run { bytesPerRecord := 8, targetBytesPerPage := 16, capacity := 1, reportInterval := 2 }
        { store := ⟨.memory, numberedRecords 3 8⟩ } turns p ∧
      turns.countP Turn.isDirect = 0 ∧ turns.countP Turn.isCounted = 5 ∧ p.taken.length = 5 / 2 ∧
      p.taken.map Sample.mapped = [1, 1] ∧ (∀ sample ∈ p.taken, sample.acquired = 2) ∧
      ∀ sample ∈ p.taken, sample.mapped ≤ 2 := by
  obtain ⟨turns, p, h, hseen⟩ := Run.exists_of_run?
    { bytesPerRecord := 8, targetBytesPerPage := 16, capacity := 1, reportInterval := 2 }
    { store := ⟨.memory, numberedRecords 3 8⟩ }
    [.acquire 0 .read, .acquire 1 .write, .acquire 1 .read, .failNext 1 ⟨.other, "gone"⟩,
      .acquire 2 .read, .acquire (twoTo 40) .read, .close, .acquire 2 .read, .acquire 2 .read]
    (fun r => (r.1.countP Turn.isDirect, r.1.countP Turn.isCounted, r.2.taken.map Sample.mapped))
    (0, 5, [1, 1]) (by decide +kernel)
  simp only [Prod.mk.injEq] at hseen
  obtain ⟨hd, hcounted, hmapped⟩ := hseen
  obtain ⟨-, hlength, hacquired, hbounded, -⟩ := h.samples_keep_pace
  rw [hcounted] at hlength
  exact ⟨turns, p, h, hd, hcounted, hlength, hmapped, hacquired, hbounded hd⟩

/-- Two windows are loaded past the cache, so the one read of the interval comes with three. -/
example :
    (run? { bytesPerRecord := 8, targetBytesPerPage := 16, capacity := 1, reportInterval := 1 }
      { store := ⟨.memory, numberedRecords 3 8⟩ } [.load 0, .load 0, .acquire 0 .read]).map
        (fun r => r.2.taken.map fun sample => (sample.acquired, sample.mapped)) =
      some [(1, 3)] := by
  decide +kernel

end Pool

end RecordCache
