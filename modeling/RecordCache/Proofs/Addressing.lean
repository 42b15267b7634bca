import RecordCache.Proofs.Backings
import RecordCache.Proofs.Coverage
/-! The numbers that a pool computes with. A page is at most as long as the target page size, which
is of 32 bits, and there are fewer than `2 ^ 32` pages: so what is computed of a position that is
not too far for the table, and of the window of its page, takes no more than 64 bits. A load past
the cache is told by its caller where to start: it is bounded as far as that is where a page of the
table starts. -/
namespace RecordCache

theorem PoolConfig.recordsPerPage_eq_ok_iff {bytesPerRecord target records : Nat} :
    recordsPerPage bytesPerRecord target = .ok records ↔
      1 ≤ records ∧ records * bytesPerRecord ≤ target ∧
        target < (records + 1) * bytesPerRecord := by
  unfold recordsPerPage
  by_cases hsize : bytesPerRecord = 0 ∨ target < bytesPerRecord
  · rw [if_pos hsize]
    refine iff_of_false nofun ?_
    rintro ⟨hone, hlow, hhigh⟩
    have hle := Nat.le_mul_of_pos_left bytesPerRecord hone
    rcases hsize with rfl | hlt
    · exact Nat.not_lt_zero _ hhigh
    · omega
  · have hpos : 0 < bytesPerRecord := by omega
    rw [if_neg hsize, Except.ok.injEq, Nat.div_eq_iff hpos, Nat.add_mul]
    constructor
    · rintro ⟨hlow, hhigh⟩
      refine ⟨?_, by omega, by omega⟩
      refine Nat.pos_of_ne_zero ?_
      rintro rfl
      omega
    · rintro ⟨-, hlow, hhigh⟩
      omega

theorem endOfPage_lt {id length : Nat} (hid : id ≤ PageId.max) (hlength : length < twoTo 32) :
    (id + 1) * length < twoTo 64 := by
  have hpages : id + 1 ≤ twoTo 32 - 1 := Nat.succ_le_succ hid
  calc (id + 1) * length
    _ ≤ (twoTo 32 - 1) * (twoTo 32 - 1) := Nat.mul_le_mul hpages (Nat.le_sub_one_of_lt hlength)
    _ < twoTo 64 := by decide

theorem WindowRequest.lookup_le_span {r : WindowRequest} {mapped : Bool} {bytes : List UInt8}
    {position : Nat} (h : (r.window mapped bytes).contains position) :
    (position - r.firstRecord) * r.bytesPerRecord + r.bytesPerRecord ≤ r.span := by
  have hlt : position - r.firstRecord < r.recordsPerPage := (of_decide_eq_true h).2
  calc (position - r.firstRecord) * r.bytesPerRecord + r.bytesPerRecord
    _ = (position - r.firstRecord + 1) * r.bytesPerRecord := (Nat.succ_mul ..).symm
    _ ≤ r.span := Nat.mul_le_mul_right _ hlt

theorem Source.refusal_cases {s s' : Source} {r : WindowRequest} {e : IoError}
    (h : s.window r = .ok (.error e, s')) (near : r.offset < twoTo 64) :
    0 < s.failing ∧ e = s.failure ∨ e = .invalidArgument := by
  unfold window at h
  simp only at h
  split at h
  case isTrue hfailing =>
    cases h
    exact .inl ⟨hfailing, rfl⟩
  case isFalse hserving =>
    right
    have hserved := s.store.served [] r
    change Store.Served _ _ (s.store.window r) at hserved
    cases hs : s.store.window r with
    | error fault => rw [hs] at h; cases h
    | ok answer =>
      rw [hs] at h hserved
      cases h
      cases hserved with
      | unaddressable far => exact absurd near (Nat.not_lt.mpr far)
      | unseekable near read far => rfl

namespace Pool

def Answer.failure? : Answer → Option LoadError
  | .window (.error (.storage _ _ cause)) => some cause
  | _ => none

theorem Answer.eq_of_failure? {answer : Answer} {cause : LoadError}
    (h : answer.failure? = some cause) :
    ∃ position offset, answer = .window (.error (.storage position offset cause)) := by
  unfold failure? at h
  split at h
  · cases h
    exact ⟨_, _, rfl⟩
  · cases h

variable {config : PoolConfig} {source : Source} {p p' q : Pool} {turns : List Turn} {id : PageId}
  {position : Nat}

theorem offset_wanted (p : Pool) (id : PageId) :
    (p.wanted id).offset = id * (p.wanted id).span :=
  Nat.mul_assoc ..

section

variable (hrecords : PoolConfig.recordsPerPage p.config.bytesPerRecord
    p.config.targetBytesPerPage = .ok p.recordsPerPage)
  (htarget : p.config.targetBytesPerPage < twoTo 32)
include hrecords htarget

theorem span_wanted_lt (id : PageId) : (p.wanted id).span < twoTo 32 :=
  Nat.lt_of_le_of_lt (PoolConfig.recordsPerPage_eq_ok_iff.mp hrecords).2.1 htarget

theorem endOfWanted_lt (hid : id ≤ PageId.max) :
    (p.wanted id).offset + (p.wanted id).span < twoTo 64 := by
  rw [offset_wanted, ← Nat.succ_mul]
  exact endOfPage_lt hid (span_wanted_lt hrecords htarget id)

theorem offset_wanted_lt (hid : id ≤ PageId.max) : (p.wanted id).offset < twoTo 64 :=
  Nat.lt_of_le_of_lt (Nat.le_add_right ..) (endOfWanted_lt hrecords htarget hid)

theorem firstRecord_wanted_lt (hid : id ≤ PageId.max) : (p.wanted id).firstRecord < twoTo 64 := by
  have hhigh := (PoolConfig.recordsPerPage_eq_ok_iff.mp hrecords).2.2
  have hbytes : 0 < p.config.bytesPerRecord :=
    Nat.pos_of_mul_pos_left (Nat.zero_lt_of_lt hhigh)
  calc (p.wanted id).firstRecord
    _ ≤ (p.wanted id).firstRecord * p.config.bytesPerRecord := Nat.le_mul_of_pos_right _ hbytes
    _ < twoTo 64 := offset_wanted_lt hrecords htarget hid

theorem range_wanted (hid : id ≤ PageId.max) (fileLength : Nat) :
    (p.wanted id).range fileLength = .ok ((p.wanted id).offset,
      min (fileLength - (p.wanted id).offset) (p.wanted id).span) :=
  if_pos (offset_wanted_lt hrecords htarget hid)

theorem mul_bytesPerRecord_lt (page : p.pageNumber position = .ok id) :
    position * p.config.bytesPerRecord < twoTo 64 := by
  obtain ⟨hone, hlow, hhigh⟩ := PoolConfig.recordsPerPage_eq_ok_iff.mp hrecords
  obtain ⟨hdiv, hid⟩ := pageNumber_eq_ok_iff.mp page
  have hposition : position ≤ (id + 1) * p.recordsPerPage :=
    Nat.le_of_lt ((Nat.div_lt_iff_lt_mul hone).mp (hdiv ▸ Nat.lt_succ_self _))
  calc position * p.config.bytesPerRecord
    _ ≤ (id + 1) * p.recordsPerPage * p.config.bytesPerRecord := Nat.mul_le_mul_right _ hposition
    _ = (id + 1) * (p.wanted id).span := Nat.mul_assoc ..
    _ < twoTo 64 := endOfPage_lt hid (span_wanted_lt hrecords htarget id)

theorem byteOffset_eq (page : p.pageNumber position = .ok id) :
    p.byteOffset position = position * p.config.bytesPerRecord :=
  Nat.min_eq_left (Nat.le_sub_one_of_lt (mul_bytesPerRecord_lt hrecords htarget page))

end

theorem Sound.recordsPerPage_eq_ok (h : p.Sound config) : PoolConfig.recordsPerPage
    p.config.bytesPerRecord p.config.targetBytesPerPage = .ok p.recordsPerPage := by
  obtain ⟨hsize, -, hcount⟩ := PoolConfig.validate_eq_ok_iff.mp h.valid
  rw [h.config_eq, PoolConfig.recordsPerPage, if_neg (by omega), hcount]

/-- A page that is fetched without success was refused by the source, which does not do so because
the page is too far. -/
theorem Sound.cause_of_fetched (h : p.Sound config) (htarget : config.targetBytesPerPage < twoTo 32)
    (hid : id ≤ PageId.max) {cause : LoadError} (hf : p.Fetched id (.error cause) q) :
    0 < p.source.failing ∧ cause = ⟨p.source.failure⟩ ∨ cause = ⟨.invalidArgument⟩ := by
  cases hf with
  | failed absent refused ended =>
    have hnear := offset_wanted_lt h.recordsPerPage_eq_ok (h.config_eq ▸ htarget) hid
    rcases Source.refusal_cases refused hnear with ⟨hfailing, rfl⟩ | rfl
    · exact .inl ⟨hfailing, rfl⟩
    · exact .inr rfl

theorem Sound.storage_of_read (h : p.Sound config) (htarget : config.targetBytesPerPage < twoTo 32)
    {position' offset : Nat} {cause : LoadError}
    (e : p.perform (.acquire position .read) =
      .ok (.window (.error (.storage position' offset cause)), p')) :
    position' = position ∧ offset = position * config.bytesPerRecord ∧
      (0 < p.source.failing ∧ cause = ⟨p.source.failure⟩ ∨ cause = ⟨.invalidArgument⟩) := by
  have hp := h.happens e
  generalize ha : Answer.window (.error (.storage position' offset cause)) = answer at hp
  cases hp with
  | overflow page =>
    cases pageNumber_eq_error page
    cases ha
  | @read position id result q page fetched =>
    have hid := (pageNumber_eq_ok_iff.mp page).2
    have hq := (h.counted id).fetched_sound (p.lt_size_counted id) fetched
    cases result with
    | ok w => cases ha
    | error cause =>
      cases ha
      refine ⟨rfl, ?_, (h.counted id).cause_of_fetched htarget hid fetched⟩
      have hlt := mul_bytesPerRecord_lt h.recordsPerPage_eq_ok (h.config_eq ▸ htarget) page
      rw [h.config_eq] at hlt
      rw [byteOffset, (q.unmoved_reportIfDue.sound hq).config_eq]
      exact Nat.min_eq_left (Nat.le_sub_one_of_lt hlt)

/-- No number that a pool computes with takes more than 64 bits. A page has as many whole records as
fit the target size, and a position is accepted if its page has a number that fits a table. Of an
accepted position, the page's first record, the window's length and place and the places of records
in the window are then exact; the window is within the range of files, and so is that of any page a
run has put into its table. A read that fails tells the exact place of its record, and it fails
because the source was made to fail or could not seek. -/
theorem addresses_fit {config : PoolConfig} {records : Nat}
    (hrecords : PoolConfig.recordsPerPage config.bytesPerRecord config.targetBytesPerPage =
      .ok records)
    (htarget : config.targetBytesPerPage < twoTo 32) :
    (1 ≤ records ∧ records * config.bytesPerRecord ≤ config.targetBytesPerPage ∧
      config.targetBytesPerPage < (records + 1) * config.bytesPerRecord) ∧
    (∀ p : Pool, p.config = config → p.recordsPerPage = records → ∀ position,
      ((∃ id, p.pageNumber position = .ok id) ↔ position / records ≤ twoTo 32 - 2) ∧
      ∀ id, p.pageNumber position = .ok id →
        let address := position / records * records
        let offset := address * config.bytesPerRecord
        let span := records * config.bytesPerRecord
        p.wanted id = ⟨address, records, config.bytesPerRecord⟩ ∧
        address < twoTo 64 ∧ offset + span < twoTo 64 ∧
        (∀ fileLength, (p.wanted id).range fileLength =
          .ok (offset, min (fileLength - offset) span)) ∧
        (∀ mapped bytes q, ((p.wanted id).window mapped bytes).contains q →
          (q - address) * config.bytesPerRecord + config.bytesPerRecord ≤ span) ∧
        position * config.bytesPerRecord < twoTo 64 ∧
        p.byteOffset position = position * config.bytesPerRecord) ∧
    ∀ source turns p, Run config source turns p →
      (∀ id < p.table.size, p.table.addressOf id = some (p.wanted id).firstRecord ∧
        ∀ fileLength e, (p.wanted id).range fileLength ≠ .error e) ∧
      ∀ position position' offset cause p', p.perform (.acquire position .read) =
          .ok (.window (.error (.storage position' offset cause)), p') →
        position' = position ∧ offset = position * config.bytesPerRecord ∧
          (0 < p.source.failing ∧ cause = ⟨p.source.failure⟩ ∨ cause = ⟨.invalidArgument⟩) := by
  refine ⟨PoolConfig.recordsPerPage_eq_ok_iff.mp hrecords, ?_, ?_⟩
  · rintro p rfl rfl position
    constructor
    · constructor
      · rintro ⟨id, page⟩
        obtain ⟨rfl, hid⟩ := pageNumber_eq_ok_iff.mp page
        exact hid
      · intro hid
        exact ⟨_, pageNumber_eq_ok_iff.mpr ⟨rfl, hid⟩⟩
    · intro id page
      obtain ⟨rfl, hid⟩ := pageNumber_eq_ok_iff.mp page
      exact ⟨rfl, firstRecord_wanted_lt hrecords htarget hid, endOfWanted_lt hrecords htarget hid,
        range_wanted hrecords htarget hid, fun _ _ _ => WindowRequest.lookup_le_span,
        mul_bytesPerRecord_lt hrecords htarget page, byteOffset_eq hrecords htarget page⟩
  · intro source turns p h
    refine ⟨?_, fun _ _ _ _ _ => h.sound.storage_of_read htarget⟩
    intro id hid
    have hrange := range_wanted h.sound.recordsPerPage_eq_ok (h.sound.config_eq ▸ htarget)
      (h.le_max_of_lt_size hid)
    constructor
    · rw [h.sound.calm.addressOf_eq, if_pos hid]
      rfl
    · intro fileLength e he
      rw [hrange] at he
      cases he

/-- The last position that pages of `2 ^ 29 - 1` records have, and a read that fails. -/
theorem addresses_fit_last_position :
    let config : PoolConfig :=
      { bytesPerRecord := 8, targetBytesPerPage := twoTo 32 - 1, capacity := 1 }
    let records := twoTo 29 - 1
    let position := (twoTo 32 - 1) * records - 1
    PoolConfig.recordsPerPage config.bytesPerRecord config.targetBytesPerPage = .ok records ∧
      config.targetBytesPerPage < twoTo 32 ∧ twoTo 63 ≤ position * 8 ∧
      ∃ turns p p', Run config { store := ⟨.memory, numberedRecords 3 8⟩ } turns p ∧
        p.pageNumber position = .ok PageId.max ∧ p.byteOffset position = position * 8 ∧
        ¬(∃ id, p.pageNumber (position + 1) = .ok id) ∧
        p.perform (.acquire 2 .read) =
          .ok (.window (.error (.storage 2 (2 * 8) ⟨⟨.other, "gone"⟩⟩)), p') := by
  intro config records position
  have hrecords : PoolConfig.recordsPerPage config.bytesPerRecord config.targetBytesPerPage =
      .ok records := by decide
  have htarget : config.targetBytesPerPage < twoTo 32 := by decide
  obtain ⟨-, hpositions, hruns⟩ := addresses_fit hrecords htarget
  obtain ⟨turns, p, h, hseen⟩ := Run.exists_of_run? config
    { store := ⟨.memory, numberedRecords 3 8⟩ } [.failNext 1 ⟨.other, "gone"⟩]
    (fun r => (r.2.recordsPerPage,
      (r.2.perform (.acquire 2 .read)).toOption.bind fun x => x.1.failure?))
    (records, some ⟨⟨.other, "gone"⟩⟩) (by decide +kernel)
  rw [Prod.mk.injEq] at hseen
  obtain ⟨hp, hfailed⟩ := hseen
  obtain ⟨haccepted, hexact⟩ := hpositions p h.sound.config_eq hp position
  obtain ⟨id, page⟩ := haccepted.mpr (by decide)
  obtain ⟨-, -, -, -, -, -, hoffset⟩ := hexact id page
  have hlast : id = PageId.max := by
    rw [(pageNumber_eq_ok_iff.mp page).1.symm, hp]
    decide
  have hbehind : ¬∃ id, p.pageNumber (position + 1) = .ok id := by
    rw [(hpositions p h.sound.config_eq hp (position + 1)).1]
    decide
  cases e : p.perform (.acquire 2 .read) with
  | error fault => rw [e] at hfailed; cases hfailed
  | ok performed =>
    obtain ⟨answer, p'⟩ := performed
    rw [e] at hfailed
    obtain ⟨position', offset, rfl⟩ := Answer.eq_of_failure? hfailed
    obtain ⟨-, hread⟩ := hruns _ turns p h
    obtain ⟨rfl, rfl, -⟩ := hread _ _ _ _ _ e
    exact ⟨hrecords, htarget, by decide, turns, p, p', h, hlast ▸ page, hoffset, hbehind, e⟩

end Pool

end RecordCache
