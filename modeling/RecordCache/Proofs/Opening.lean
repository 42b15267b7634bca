import RecordCache.Proofs.Addressing
/-! Opening a pool. The checks come in such an order that no number is divided by zero, clamped
between bounds that cross or made longer than 64 bits, whatever the configuration and whatever the
source answers for its size. To see this, opening is written once more with every such operation
refusing what it is not made for: nothing is ever refused, and both ways of opening agree. -/
namespace RecordCache

variable {W : Type} {n d : Nat}

def quotient? (n d : Nat) : Option Nat := if d = 0 then none else some (n / d)

def clamp? (low high n : Nat) : Option Nat :=
  if low ≤ high then some (max low (min n high)) else none

theorem quotient?_of_ne (h : d ≠ 0) : quotient? n d = some (n / d) := if_neg h

def shareOf? (whole : Nat) (fraction : Float) : Option Nat :=
  let fraction := if fraction.isFinite then clampUnit fraction else 1.0
  clamp? 1 whole (ceilNat (Float.ofNat whole * fraction))

theorem shareOf?_of_ne {whole : Nat} (h : whole ≠ 0) (fraction : Float) :
    shareOf? whole fraction = some (shareOf whole fraction) :=
  if_pos (Nat.one_le_iff_ne_zero.mpr h)

def Limits.ofFractions? (capacity : Nat) (protectedFraction longTermFraction : Float) :
    Option Limits :=
  if capacity = 0 then none
  else do
    let protectedLimit ← shareOf? capacity protectedFraction
    let longTermLimit ← shareOf? capacity longTermFraction
    return { capacity, protectedLimit, longTermLimit }

theorem Limits.ofFractions?_of_ne {capacity : Nat} (h : capacity ≠ 0)
    (protectedFraction longTermFraction : Float) :
    ofFractions? capacity protectedFraction longTermFraction =
      some ⟨capacity, shareOf capacity protectedFraction, shareOf capacity longTermFraction⟩ := by
  rw [ofFractions?, if_neg h, shareOf?_of_ne h, shareOf?_of_ne h]
  rfl

/-- A table grown by pages whose first records are numbers of 64 bits. -/
def Table.growTo? (t : Table W) (id : PageId) (recordsPerPage : Nat) : Option (Table W) :=
  if (List.range' t.size (id + 1 - t.size)).all (· * recordsPerPage < twoTo 64) then
    some (t.growTo id recordsPerPage)
  else none

theorem Table.growTo?_eq (t : Table W) {id recordsPerPage : Nat} (hid : id ≤ PageId.max)
    (hr : recordsPerPage < twoTo 32) :
    t.growTo? id recordsPerPage = some (t.growTo id recordsPerPage) := by
  refine if_pos (List.all_eq_true.mpr fun i hi => decide_eq_true ?_)
  have hle : i ≤ id + 1 := by
    rw [List.mem_range'_1] at hi
    omega
  calc i * recordsPerPage
    _ ≤ (id + 1) * recordsPerPage := Nat.mul_le_mul_right _ hle
    _ < twoTo 64 := endOfPage_lt hid hr

theorem Table.growTo_of_lt {t : Table W} {id : PageId} (h : id < t.size) (recordsPerPage : Nat) :
    t.growTo id recordsPerPage = t := by
  have hnone : id + 1 - t.size = 0 := Nat.sub_eq_zero_of_le h
  rw [growTo, hnone]
  simp

namespace PoolConfig

/-- A page has room for a record, and a record for a byte. -/
def Fits (c : PoolConfig) : Prop := 1 ≤ c.bytesPerRecord ∧ c.bytesPerRecord ≤ c.targetBytesPerPage

instance (c : PoolConfig) : Decidable c.Fits :=
  inferInstanceAs (Decidable (1 ≤ c.bytesPerRecord ∧ c.bytesPerRecord ≤ c.targetBytesPerPage))

def records (c : PoolConfig) : Nat := c.targetBytesPerPage / c.bytesPerRecord

def limits (c : PoolConfig) : Limits :=
  { capacity := c.capacity
    protectedLimit := shareOf c.capacity c.protectedFraction
    longTermLimit := shareOf c.capacity c.longTermFraction }

/-- The page of the position behind the last record of a store of `fileSize` bytes. -/
def lastPage (c : PoolConfig) (fileSize : Nat) : PageId := fileSize / c.bytesPerRecord / c.records

def validate? (c : PoolConfig) : Option (Except PoolError Nat) :=
  if c.bytesPerRecord = 0 ∨ c.targetBytesPerPage < c.bytesPerRecord then
    some (.error (.invalidRecordSize c.bytesPerRecord c.targetBytesPerPage))
  else do
    let records ← quotient? c.targetBytesPerPage c.bytesPerRecord
    return if c.capacity = 0 then .error (.invalidCapacity c.capacity) else .ok records

variable {c : PoolConfig}

theorem not_fits_iff :
    ¬c.Fits ↔ c.bytesPerRecord = 0 ∨ c.targetBytesPerPage < c.bytesPerRecord := by
  unfold Fits
  omega

theorem validate_of_not_fits (h : ¬c.Fits) :
    c.validate = .error (.invalidRecordSize c.bytesPerRecord c.targetBytesPerPage) := by
  rw [validate, recordsPerPage, if_pos (not_fits_iff.mp h)]
  rfl

theorem Fits.validate_eq (h : c.Fits) : c.validate =
    if c.capacity = 0 then .error (.invalidCapacity c.capacity) else .ok c.records := by
  rw [validate, recordsPerPage, if_neg fun hn => not_fits_iff.mpr hn h]
  by_cases hc : c.capacity = 0 <;>
    simp [records, hc, bind, Except.bind, pure, Except.pure, throw, throwThe, MonadExceptOf.throw]

theorem validate?_eq (c : PoolConfig) : c.validate? = some c.validate := by
  rw [validate?]
  by_cases h : c.Fits
  · have hne : c.bytesPerRecord ≠ 0 := Nat.one_le_iff_ne_zero.mp h.1
    rw [if_neg fun hn => not_fits_iff.mpr hn h, quotient?_of_ne hne, h.validate_eq]
    rfl
  · rw [if_pos (not_fits_iff.mp h), validate_of_not_fits h]

theorem ofFractions_eq (h : c.capacity ≠ 0) :
    Limits.ofFractions c.capacity c.protectedFraction c.longTermFraction = .ok c.limits :=
  if_neg h

theorem Fits.records_pos (h : c.Fits) : 0 < c.records := Nat.div_pos h.2 h.1

theorem records_lt (h : c.targetBytesPerPage < twoTo 32) : c.records < twoTo 32 :=
  Nat.lt_of_le_of_lt (Nat.div_le_self ..) h

end PoolConfig

namespace Pool

variable {config : PoolConfig} {source : Source} {p : Pool} {fileSize : Nat}

def ofSource? (config : PoolConfig) (source : Source) : Option (Except PoolError Pool) := do
  match ← config.validate? with
  | .error e => return .error e
  | .ok records =>
    let limits ← Limits.ofFractions? config.capacity config.protectedFraction
      config.longTermFraction
    match source.size with
    | .error e => return .error (.io e)
    | .ok fileSize =>
      let position ← quotient? fileSize config.bytesPerRecord
      let number ← quotient? position records
      if PageId.max < number then return .error (.positionOverflow position records number)
      else
        let table ← Table.empty.growTo? number records
        return .ok (((blank config source records limits).withTable table).tell
          [.poolOpened (fileName config.storeName) fileSize config.bytesPerRecord records
            config.capacity table.size])

inductive Opening (config : PoolConfig) (source : Source) : Except PoolError Pool → Prop where
  | recordSize (misfit : ¬config.Fits) : Opening config source
      (.error (.invalidRecordSize config.bytesPerRecord config.targetBytesPerPage))
  | capacity (fits : config.Fits) (empty : config.capacity = 0) :
      Opening config source (.error (.invalidCapacity config.capacity))
  | io {e : IoError} (fits : config.Fits) (room : config.capacity ≠ 0)
      (size : source.size = .error e) : Opening config source (.error (.io e))
  | overflow {fileSize : Nat} (fits : config.Fits) (room : config.capacity ≠ 0)
      (size : source.size = .ok fileSize) (far : PageId.max < config.lastPage fileSize) :
      Opening config source (.error (.positionOverflow (fileSize / config.bytesPerRecord)
        config.records (config.lastPage fileSize)))
  | opened {p : Pool} {fileSize : Nat} (fits : config.Fits) (room : config.capacity ≠ 0)
      (size : source.size = .ok fileSize) (near : config.lastPage fileSize ≤ PageId.max)
      (opened : Opened config source p) : Opening config source (.ok p)

/-- With a page size, limits and a size of the source, both ways of opening resolve the position
behind the last record. -/
theorem ofSource?_eq {records : Nat} {limits : Limits} (hv : config.validate = .ok records)
    (hl : Limits.ofFractions? config.capacity config.protectedFraction config.longTermFraction =
      some limits)
    (hs : source.size = .ok fileSize) (hbytes : config.bytesPerRecord ≠ 0) (hpos : records ≠ 0)
    (hlt : records < twoTo 32) :
    ofSource? config source = some (((blank config source records limits).resolve
      (fileSize / config.bytesPerRecord)).map fun (_, p) => p.tell
        [.poolOpened (fileName config.storeName) fileSize config.bytesPerRecord records
          config.capacity p.table.size]) := by
  simp only [ofSource?, PoolConfig.validate?_eq, hv, hl, hs, quotient?_of_ne hbytes,
    quotient?_of_ne hpos, Option.bind_eq_bind, Option.bind_some]
  by_cases hfar : PageId.max < fileSize / config.bytesPerRecord / records
  · have hpage : (blank config source records limits).pageNumber
        (fileSize / config.bytesPerRecord) = .error _ := if_pos hfar
    rw [if_pos hfar, resolve, hpage]
    rfl
  · have hpage : (blank config source records limits).pageNumber
        (fileSize / config.bytesPerRecord) = .ok _ := if_neg hfar
    rw [if_neg hfar, resolve, hpage, Table.growTo?_eq _ (Nat.le_of_not_lt hfar) hlt]
    rfl

theorem opening (config : PoolConfig) (source : Source)
    (htarget : config.targetBytesPerPage < twoTo 32) :
    ∃ result, ofSource config source = .ok result ∧ ofSource? config source = some result ∧
      Opening config source result := by
  by_cases hfits : config.Fits
  case neg =>
    refine ⟨_, ?_, ?_, .recordSize hfits⟩
    · rw [ofSource, PoolConfig.validate_of_not_fits hfits]
    · rw [ofSource?, PoolConfig.validate?_eq, PoolConfig.validate_of_not_fits hfits]
      rfl
  have hvalid := hfits.validate_eq
  by_cases hcapacity : config.capacity = 0
  case pos =>
    rw [if_pos hcapacity] at hvalid
    refine ⟨_, ?_, ?_, .capacity hfits hcapacity⟩
    · rw [ofSource, hvalid]
    · rw [ofSource?, PoolConfig.validate?_eq, hvalid]
      rfl
  rw [if_neg hcapacity] at hvalid
  have hlimits := PoolConfig.ofFractions_eq hcapacity
  have hlimits? := Limits.ofFractions?_of_ne hcapacity config.protectedFraction
    config.longTermFraction
  cases hsize : source.size with
  | error e =>
    refine ⟨_, ?_, ?_, .io hfits hcapacity hsize⟩
    · simp only [ofSource, hvalid, hlimits, hsize]
      rfl
    · simp only [ofSource?, PoolConfig.validate?_eq, hvalid, hlimits?, hsize]
      rfl
  | ok fileSize =>
    have hopen := ofSource_eq hvalid hlimits hsize
    have hopen? := ofSource?_eq hvalid hlimits? hsize (Nat.one_le_iff_ne_zero.mp hfits.1)
      (Nat.ne_of_gt hfits.records_pos) (PoolConfig.records_lt htarget)
    refine ⟨_, hopen, hopen?, ?_⟩
    by_cases hfar : PageId.max < config.lastPage fileSize
    · have hpage : (blank config source config.records config.limits).pageNumber
          (fileSize / config.bytesPerRecord) = .error _ := if_pos hfar
      rw [resolve, hpage]
      exact .overflow hfits hcapacity hsize hfar
    · have hpage : (blank config source config.records config.limits).pageNumber
          (fileSize / config.bytesPerRecord) = .ok _ := if_neg hfar
      rw [resolve, hpage] at hopen ⊢
      exact .opened hfits hcapacity hsize (Nat.le_of_not_lt hfar) (opened_of_ofSource hopen)

namespace Opening

variable {result : Except PoolError Pool} (h : Opening config source result)
include h

theorem recordSize_iff (bytes target : Nat) : result = .error (.invalidRecordSize bytes target) ↔
    ¬config.Fits ∧ config.bytesPerRecord = bytes ∧ config.targetBytesPerPage = target := by
  cases h <;> simp_all

theorem capacity_iff (capacity : Nat) : result = .error (.invalidCapacity capacity) ↔
    config.Fits ∧ config.capacity = 0 ∧ config.capacity = capacity := by
  cases h <;> simp_all

theorem io_iff (e : IoError) : result = .error (.io e) ↔
    config.Fits ∧ config.capacity ≠ 0 ∧ source.size = .error e := by
  cases h <;> simp_all

theorem overflow_iff (position records number : Nat) :
    result = .error (.positionOverflow position records number) ↔
      config.Fits ∧ config.capacity ≠ 0 ∧ ∃ fileSize, source.size = .ok fileSize ∧
        PageId.max < config.lastPage fileSize ∧ fileSize / config.bytesPerRecord = position ∧
        config.records = records ∧ config.lastPage fileSize = number := by
  cases h <;> simp_all

theorem opened_iff : (∃ p, result = .ok p) ↔
    config.Fits ∧ config.capacity ≠ 0 ∧ ∃ fileSize, source.size = .ok fileSize ∧
      config.lastPage fileSize ≤ PageId.max := by
  cases h <;> simp_all

end Opening

namespace Opened

variable (h : Opened config source p)
include h

theorem recordsPerPage_eq : p.recordsPerPage = config.records :=
  (PoolConfig.validate_eq_ok_iff.mp h.valid).2.2.symm

theorem limits_within : 1 ≤ p.limits.protectedLimit ∧ p.limits.protectedLimit ≤ config.capacity ∧
    1 ≤ p.limits.longTermLimit ∧ p.limits.longTermLimit ≤ config.capacity := by
  have hcapacity : config.capacity ≠ 0 := (PoolConfig.validate_eq_ok_iff.mp h.valid).2.1
  have hsame : p.limits = config.limits :=
    Except.ok.inj (h.limits.symm.trans (PoolConfig.ofFractions_eq hcapacity))
  have hpos := Nat.one_le_iff_ne_zero.mpr hcapacity
  rw [hsame]
  exact ⟨one_le_shareOf .., shareOf_le _ hpos, one_le_shareOf .., shareOf_le _ hpos⟩

theorem residentIds_eq_nil : p.table.residentIds = [] := by
  refine List.eq_nil_iff_forall_not_mem.mpr fun i hi => ?_
  obtain ⟨page, hp, hresident⟩ := Table.mem_idsWhere.mp hi
  have hwindow := h.window_eq_none i
  rw [Table.via_of_page hp] at hwindow
  rw [Page.isResident, hwindow] at hresident
  cases hresident

theorem residentCount_eq_zero : p.table.residentCount = 0 := by
  obtain ⟨fileSize, -, id, -, htable⟩ := h.table
  rw [htable]
  rfl

variable (hs : source.size = .ok fileSize)
include hs

theorem size_eq : p.table.size = config.lastPage fileSize + 1 := by
  obtain ⟨fileSize', hs', id, hpage, htable⟩ := h.table
  cases hs.symm.trans hs'
  rw [htable, Table.size_growTo, ← (pageNumber_eq_ok_iff.mp hpage).1, h.recordsPerPage_eq]
  exact Nat.max_eq_right (Nat.zero_le _)

theorem resolve_eq {position : Nat} (hposition : position < fileSize / config.bytesPerRecord) :
    ∃ id < p.table.size, p.resolve position = .ok (id, p) := by
  obtain ⟨fileSize', hs', last, hpage, -⟩ := h.table
  cases hs.symm.trans hs'
  obtain ⟨hlast, hmax⟩ := pageNumber_eq_ok_iff.mp hpage
  have hle : position / p.recordsPerPage ≤ last := hlast ▸ Nat.div_le_div_right hposition.le
  have hid : position / p.recordsPerPage < p.table.size := by
    rw [h.size_eq hs, PoolConfig.lastPage, ← h.recordsPerPage_eq, hlast]
    exact Nat.lt_succ_of_le hle
  refine ⟨_, hid, ?_⟩
  rw [resolve, pageNumber_eq_ok_iff.mpr ⟨rfl, Nat.le_trans hle hmax⟩]
  have hcache : p.cache.resolve (position / p.recordsPerPage) p.recordsPerPage = p.cache := by
    rw [Cache.resolve, show p.cache.table.growTo _ _ = p.cache.table from
      Table.growTo_of_lt hid _]
  simp only [Except.map, hcache]

end Opened

/-- Opening a pool comes to a pool or to an error, and nothing is refused on the way: no division by
zero, no clamping between bounds that cross and no address of more than 64 bits. It fails because a
record is empty or too long for a page; else because there is no room for a page; else because the
source does not tell its size; else because the page behind the last record has too great a number;
and for no other reason. A pool that is opened has limits of one page at least and at most the
capacity, no resident page, and a table that ends with the page behind the last record, so that it
need not grow for any record there is. -/
theorem opening_settled (config : PoolConfig) (source : Source)
    (htarget : config.targetBytesPerPage < twoTo 32) :
    ∃ result, ofSource config source = .ok result ∧ ofSource? config source = some result ∧
      (∀ bytes target, result = .error (.invalidRecordSize bytes target) ↔
        ¬config.Fits ∧ config.bytesPerRecord = bytes ∧ config.targetBytesPerPage = target) ∧
      (∀ capacity, result = .error (.invalidCapacity capacity) ↔
        config.Fits ∧ config.capacity = 0 ∧ config.capacity = capacity) ∧
      (∀ e, result = .error (.io e) ↔
        config.Fits ∧ config.capacity ≠ 0 ∧ source.size = .error e) ∧
      (∀ position records number, result = .error (.positionOverflow position records number) ↔
        config.Fits ∧ config.capacity ≠ 0 ∧ ∃ fileSize, source.size = .ok fileSize ∧
          twoTo 32 - 2 < config.lastPage fileSize ∧ fileSize / config.bytesPerRecord = position ∧
          config.records = records ∧ config.lastPage fileSize = number) ∧
      ((∃ p, result = .ok p) ↔ config.Fits ∧ config.capacity ≠ 0 ∧
        ∃ fileSize, source.size = .ok fileSize ∧ config.lastPage fileSize ≤ twoTo 32 - 2) ∧
      ∀ p fileSize, result = .ok p → source.size = .ok fileSize →
        (1 ≤ p.limits.protectedLimit ∧ p.limits.protectedLimit ≤ config.capacity ∧
          1 ≤ p.limits.longTermLimit ∧ p.limits.longTermLimit ≤ config.capacity) ∧
        p.table.residentIds = [] ∧ p.table.residentCount = 0 ∧
        p.table.size = config.lastPage fileSize + 1 ∧
        ∀ position < fileSize / config.bytesPerRecord,
          ∃ id < p.table.size, p.resolve position = .ok (id, p) := by
  obtain ⟨result, hopen, hopen?, h⟩ := opening config source htarget
  refine ⟨result, hopen, hopen?, h.recordSize_iff, h.capacity_iff, h.io_iff, h.overflow_iff,
    h.opened_iff, ?_⟩
  rintro p fileSize rfl hs
  have ho := opened_of_ofSource hopen
  exact ⟨ho.limits_within, ho.residentIds_eq_nil, ho.residentCount_eq_zero, ho.size_eq hs,
    fun position hposition => ho.resolve_eq hs hposition⟩

/-- One fraction is no number and the other infinite below zero. A store of five records takes three
pages of two; one of `2 ^ 64 - 1` records, a page each, takes too many. -/
theorem opening_settled_without_fractions :
    let config : PoolConfig :=
      { bytesPerRecord := 8, targetBytesPerPage := 20, capacity := 3
        protectedFraction := 0.0 / 0.0, longTermFraction := -1.0 / 0.0 }
    let source : Source := { store := ⟨.memory, numberedRecords 5 8⟩ }
    let crowded : PoolConfig := { config with bytesPerRecord := 1, targetBytesPerPage := 1 }
    let huge : Source := { source with reported? := some (.ok (twoTo 64 - 1)) }
    config.targetBytesPerPage < twoTo 32 ∧ config.limits = ⟨3, 3, 3⟩ ∧
      (∃ p, ofSource config source = .ok (.ok p) ∧ ofSource? config source = some (.ok p) ∧
        p.table.residentIds = [] ∧ p.table.size = 3 ∧
        ∀ position < 5, ∃ id < p.table.size, p.resolve position = .ok (id, p)) ∧
      ofSource crowded huge =
        .ok (.error (.positionOverflow (twoTo 64 - 1) 1 (twoTo 64 - 1))) := by
  intro config source crowded huge
  have htarget : config.targetBytesPerPage < twoTo 32 := by decide
  refine ⟨htarget, by decide +kernel, ?_, ?_⟩
  · obtain ⟨result, hopen, hopen?, -, -, -, -, hopened, hfacts⟩ :=
      opening_settled config source htarget
    obtain ⟨p, rfl⟩ := hopened.mpr ⟨by decide, by decide, 40, by decide, by decide⟩
    obtain ⟨-, hnone, -, hsize, hcovered⟩ := hfacts p 40 rfl (by decide)
    have hrecords : 40 / config.bytesPerRecord = 5 := by decide
    rw [hrecords] at hcovered
    exact ⟨p, hopen, hopen?, hnone, hsize.trans (by decide), hcovered⟩
  · obtain ⟨result, hopen, -, -, -, -, hoverflow, -⟩ := opening_settled crowded huge (by decide)
    rw [hopen, (hoverflow (twoTo 64 - 1) 1 (twoTo 64 - 1)).mpr
      ⟨by decide, by decide, twoTo 64 - 1, rfl, by decide, by decide, by decide, by decide⟩]

end Pool

end RecordCache
