import Mathlib.Order.Interval.Finset.Nat
import RecordCache.Proofs.Accounts
import RecordCache.Proofs.Backings
/-! What a read hands out. A window holds the records that were wholly in the store when it was
loaded, and since the store only grows, they are what the store still holds. A page keeps its window
as long as it is resident, so a hit may miss records that have been appended since. -/
namespace RecordCache

theorem Store.slice_of_prefix {s s' : Store} {offset length : Nat} (h : s.bytes <+: s'.bytes)
    (hin : offset + length ≤ s.size) : s'.slice offset length = s.slice offset length := by
  obtain ⟨more, hmore⟩ := h
  rw [size] at hin
  rw [slice, slice, ← hmore, List.drop_append_of_le_length (by omega),
    List.take_append_of_le_length (by rw [List.length_drop]; omega)]

namespace WindowRequest

variable {r : WindowRequest} {id : Nat}

theorem bytesFrom_window (mapped : Bool) (s : Store) (j : Nat) :
    (r.window mapped (r.present s.bytes)).bytesFrom (r.firstRecord + j) =
      s.slice ((r.firstRecord + j) * r.bytesPerRecord) (r.span - j * r.bytesPerRecord) := by
  rw [Window.bytesFrom]
  change (r.present s.bytes).drop ((r.firstRecord + j - r.firstRecord) * r.bytesPerRecord) = _
  rw [Nat.add_sub_cancel_left, present, List.drop_take, List.drop_drop, Store.slice, Nat.add_mul]
  rfl

section

variable (hfirst : r.firstRecord = id * r.recordsPerPage) (hrecords : 0 < r.recordsPerPage)
include hfirst hrecords

theorem contains_window (mapped : Bool) (bytes : List UInt8) (position : Nat) :
    (r.window mapped bytes).contains position = true ↔ position / r.recordsPerPage = id := by
  rw [Window.contains, decide_eq_true_iff]
  change r.firstRecord ≤ position ∧ position - r.firstRecord < r.recordsPerPage ↔ _
  rw [hfirst, Nat.div_eq_iff hrecords]
  omega

/-- A window shows the records of its page that are wholly in the store. -/
theorem record?_window (hbytes : 0 < r.bytesPerRecord) (mapped : Bool) (s : Store)
    (position : Nat) : (r.window mapped (r.present s.bytes)).record? position =
      if position / r.recordsPerPage = id ∧ (position + 1) * r.bytesPerRecord ≤ s.size then
        some (s.slice (position * r.bytesPerRecord) r.bytesPerRecord)
      else none := by
  have hcontains := contains_window hfirst hrecords mapped (r.present s.bytes) position
  rw [Window.record?]
  by_cases hpage : position / r.recordsPerPage = id
  · rw [if_pos (hcontains.mpr hpage)]
    obtain ⟨hlow, hhigh⟩ := (Nat.div_eq_iff hrecords).mp hpage
    obtain ⟨j, rfl⟩ : ∃ j, position = r.firstRecord + j := Nat.exists_eq_add_of_le (hfirst ▸ hlow)
    rw [bytesFrom_window]
    -- the record ends within the page, so the end of the page cuts nothing off
    have hspan : (j + 1) * r.bytesPerRecord ≤ r.span := Nat.mul_le_mul_right _ (by omega)
    rw [Nat.add_mul, Nat.one_mul] at hspan
    have hsize : r.bytesPerRecord ≤ (s.slice ((r.firstRecord + j) * r.bytesPerRecord)
          (r.span - j * r.bytesPerRecord)).length ↔
        (r.firstRecord + j + 1) * r.bytesPerRecord ≤ s.size := by
      rw [Store.slice, List.length_take, List.length_drop, ← Store.size, Nat.add_mul _ 1,
        Nat.one_mul]
      omega
    have htake : (s.slice ((r.firstRecord + j) * r.bytesPerRecord)
          (r.span - j * r.bytesPerRecord)).take r.bytesPerRecord =
        s.slice ((r.firstRecord + j) * r.bytesPerRecord) r.bytesPerRecord := by
      rw [Store.slice, Store.slice, List.take_take, Nat.min_eq_left (by omega)]
    change (if r.bytesPerRecord ≤ _ then some (List.take r.bytesPerRecord _) else none) = _
    rw [htake]
    simp only [hsize, hpage, true_and]
  · rw [if_neg (mt hcontains.mp hpage), if_neg (fun h => hpage h.1)]

theorem available_window (hbytes : 0 < r.bytesPerRecord) (hsmall : r.recordsPerPage < twoTo 32)
    (mapped : Bool) (s : Store) : ∃ shown : Finset Nat,
      (∀ position, position ∈ shown ↔ position / r.recordsPerPage = id ∧
        (position + 1) * r.bytesPerRecord ≤ s.size) ∧
      (r.window mapped (r.present s.bytes)).available = .ok shown.card := by
  have hlength : (r.present s.bytes).length = min r.span (s.size - r.offset) := by
    rw [present, List.length_take, List.length_drop, Store.size]
  refine ⟨Finset.Ico r.firstRecord
    (r.firstRecord + (r.present s.bytes).length / r.bytesPerRecord), ?_, ?_⟩
  · intro position
    rw [Finset.mem_Ico, Nat.div_eq_iff hrecords, ← hfirst]
    by_cases hlow : r.firstRecord ≤ position
    · obtain ⟨j, rfl⟩ := Nat.exists_eq_add_of_le hlow
      have hcount : j < (r.present s.bytes).length / r.bytesPerRecord ↔
          j < r.recordsPerPage ∧ (r.firstRecord + j + 1) * r.bytesPerRecord ≤ s.size := by
        rw [← Nat.add_one_le_iff, Nat.le_div_iff_mul_le hbytes, hlength, Nat.le_min, span,
          Nat.mul_le_mul_right_iff hbytes, Nat.add_assoc, Nat.add_mul r.firstRecord]
        have hpos : 0 < (j + 1) * r.bytesPerRecord := Nat.mul_pos (Nat.succ_pos j) hbytes
        rw [offset]
        omega
      omega
    · omega
  · have hle : (r.present s.bytes).length / r.bytesPerRecord ≤ r.recordsPerPage := by
      apply Nat.div_le_of_le_mul
      rw [hlength, Nat.mul_comm]
      exact Nat.min_le_left ..
    rw [Window.available, Nat.card_Ico, Nat.add_sub_cancel_left]
    change (if r.bytesPerRecord = 0 then _ else _) = _
    rw [if_neg (Nat.ne_of_gt hbytes)]
    exact congrArg _ (Nat.mod_eq_of_lt (Nat.lt_of_le_of_lt hle hsmall))

end

end WindowRequest

namespace Store

theorem eq_window_of_window {s : Store} {r : WindowRequest} {w : Window}
    (h : s.window r = .ok (.ok w)) : ∃ mapped, w = r.window mapped (r.present s.bytes) := by
  have hserved := s.served [] r
  rw [window] at h
  rw [h] at hserved
  exact hserved.eq_window

end Store

namespace Pool

variable {config : PoolConfig} {source : Source} {p p' q : Pool} {turns : List Turn} {op : Op}
  {answer : Answer} {id : PageId} {position : Nat} {w : Window} {store : Store} {x : Turn}

/-- The window of page `id` was loaded from `store`, as the store was at the time, and the page has
held it since. -/
def LoadedFrom (turns : List Turn) (id : PageId) (w : Window) (store : Store) : Prop :=
  ∃ before x after, turns = before ++ x :: after ∧ x.loaded? = some (id, w) ∧
    x.before.source.store = store ∧ ∀ y ∈ after, y.before.table.via Page.window? id = some w

theorem LoadedFrom.snoc (h : LoadedFrom turns id w store)
    (hx : x.before.table.via Page.window? id = some w) :
    LoadedFrom (turns ++ [x]) id w store := by
  obtain ⟨before, y, after, rfl, hy, hstore, hafter⟩ := h
  refine ⟨before, y, after ++ [x], by rw [List.append_assoc, List.cons_append], hy, hstore, ?_⟩
  intro z hz
  rcases List.mem_append.mp hz with hz | hz
  · exact hafter z hz
  · rw [List.mem_singleton.mp hz]
    exact hx

theorem loadedFrom_last (turns : List Turn) (hx : x.loaded? = some (id, w)) :
    LoadedFrom (turns ++ [x]) id w x.before.source.store := by
  refine ⟨turns, x, [], rfl, hx, rfl, ?_⟩
  intro y hy
  cases hy

theorem Run.resident_loaded (h : Run config source turns p)
    (hw : p.table.via Page.window? id = some w) : ∃ store, LoadedFrom turns id w store := by
  induction h with
  | opened e =>
    rw [(opened_of_ofSource e).window_eq_none] at hw
    cases hw
  | @turn turns p p' op answer run e ih =>
    obtain ⟨left, hexchange, -⟩ := (run.accounted_last e).exchange
    rcases hexchange.window hw with hbefore | hloaded
    · obtain ⟨store, hstore⟩ := ih hbefore
      exact ⟨store, hstore.snoc hbefore⟩
    · exact ⟨_, loadedFrom_last turns hloaded⟩

theorem Run.store_grows (h : Run config source turns p) (hx : x ∈ turns) :
    x.before.source.store.bytes <+: p.source.store.bytes := by
  induction h with
  | opened e => cases hx
  | @turn turns p p' op answer run e ih =>
    have hlast := (run.accounted_last e).store
    rcases List.mem_append.mp hx with hx | hx
    · exact (ih hx).trans hlast
    · rw [List.mem_singleton.mp hx]
      exact hlast

theorem pageNumber_eq_ok (h : p.pageNumber position = .ok id) :
    id = position / p.recordsPerPage :=
  (pageNumber_eq_ok_iff.mp h).1.symm

/-- A read that hands out a window hands out that of the page of its position, which was resident or
has been loaded by the read. -/
theorem Run.read_loaded (h : Run config source turns p)
    (e : p.perform (.acquire position .read) = .ok (.window (.ok w), p')) :
    ∃ store, LoadedFrom (turns ++ [⟨p, .acquire position .read, .window (.ok w), p'⟩])
      (position / p.recordsPerPage) w store := by
  have hp := h.sound.happens e
  generalize ha : Answer.window (.ok w) = a at hp
  cases hp with
  | overflow page => cases pageNumber_eq_error page; cases ha
  | @read position id result q page fetched =>
    obtain rfl := pageNumber_eq_ok page
    cases result with
    | error cause => cases ha
    | ok w' =>
      cases ha
      cases fetched with
      | hit resident recorded =>
        rw [via_window_counted] at resident
        obtain ⟨store, hstore⟩ := h.resident_loaded resident
        exact ⟨store, hstore.snoc resident⟩
      | loaded absent mapped admitted ended =>
        have hcalls := (Source.window_eq_ok mapped).1
        refine ⟨_, loadedFrom_last turns ((Turn.loaded?_ofRead page).trans (if_pos ?_))⟩
        exact hcalls ▸ Nat.lt_succ_self _

theorem Sound.wanted_eq (h : p.Sound config) (h' : q.Sound config) (id : PageId) :
    q.wanted id = p.wanted id := by
  rw [wanted, wanted, h.recordsPerPage_eq h', h.config_eq, h'.config_eq]

theorem Run.eq_window_of_loaded (h : Run config source turns p)
    (hl : LoadedFrom turns id w store) :
    (∃ mapped, w = (p.wanted id).window mapped ((p.wanted id).present store.bytes)) ∧
      store.bytes <+: p.source.store.bytes := by
  obtain ⟨before, x, after, rfl, hx, rfl, -⟩ := hl
  have hmem : x ∈ before ++ x :: after := List.mem_append_right _ List.mem_cons_self
  have horigin := (h.accounted hmem).origin id w hx
  rw [h.sound.wanted_eq (h.happens hmem).1] at horigin
  exact ⟨Store.eq_window_of_window horigin, h.store_grows hmem⟩

/-- Reads are right. A read that is answered gives a window over the page of its position. It was
loaded, in this turn or in the one that made the page resident, and it shows exactly the records of
its page that were wholly in the store then, with the bytes that the store holds for them now. -/
theorem Run.read_correct (h : Run config source turns p)
    (hpage : config.targetBytesPerPage < twoTo 32)
    (e : p.perform (.acquire position .read) = .ok (.window (.ok w), p')) :
    config.validate = .ok p.recordsPerPage ∧
      w.firstRecord = position / p.recordsPerPage * p.recordsPerPage ∧
      w.contains position = true ∧
      ∃ store, LoadedFrom (turns ++ [⟨p, .acquire position .read, .window (.ok w), p'⟩])
          (position / p.recordsPerPage) w store ∧
        (∀ q, (w.record? q).isSome ↔ q / p.recordsPerPage = position / p.recordsPerPage ∧
          (q + 1) * config.bytesPerRecord ≤ store.size) ∧
        (∀ q bytes, w.record? q = some bytes →
          bytes = p'.source.store.slice (q * config.bytesPerRecord) config.bytesPerRecord) ∧
        ∃ shown : Finset Nat, (∀ q, q ∈ shown ↔ (w.record? q).isSome) ∧
          w.available = .ok shown.card := by
  obtain ⟨store, hloaded⟩ := h.read_loaded e
  obtain ⟨⟨mapped, hw⟩, hprefix⟩ := (h.turn e).eq_window_of_loaded hloaded
  rw [h.sound.wanted_eq (h.turn e).sound] at hw
  obtain ⟨⟨hbytes, hfits⟩, -, hcount⟩ := PoolConfig.validate_eq_ok_iff.mp h.sound.valid
  have hrecords : 0 < p.recordsPerPage := hcount ▸ Nat.div_pos hfits hbytes
  have hsmall : p.recordsPerPage < twoTo 32 :=
    Nat.lt_of_le_of_lt (hcount ▸ Nat.div_le_self ..) hpage
  rw [← h.sound.config_eq] at hbytes ⊢
  have hrecord (q : Nat) : w.record? q =
      if q / p.recordsPerPage = position / p.recordsPerPage ∧
          (q + 1) * p.config.bytesPerRecord ≤ store.size then
        some (store.slice (q * p.config.bytesPerRecord) p.config.bytesPerRecord)
      else none := by
    rw [hw]
    exact WindowRequest.record?_window rfl hrecords hbytes mapped store q
  have hshown (q : Nat) : (w.record? q).isSome ↔
      q / p.recordsPerPage = position / p.recordsPerPage ∧
        (q + 1) * p.config.bytesPerRecord ≤ store.size := by
    rw [hrecord]
    split <;> simp_all
  obtain ⟨shown, hmem, hcard⟩ := WindowRequest.available_window
    (r := p.wanted (position / p.recordsPerPage)) rfl hrecords hbytes hsmall mapped store
  refine ⟨h.sound.config_eq ▸ h.sound.valid, by rw [hw]; rfl, ?_, store, hloaded, hshown, ?_, shown,
    fun q => (hmem q).trans (hshown q).symm, hw ▸ hcard⟩
  · rw [hw]
    exact (WindowRequest.contains_window rfl hrecords mapped _ position).mpr rfl
  · intro q bytes hq
    rw [hrecord] at hq
    split at hq
    case isTrue hin =>
      cases hq
      have hend : q * p.config.bytesPerRecord + p.config.bytesPerRecord ≤ store.size := by
        rw [← Nat.succ_mul]
        exact hin.2
      exact (Store.slice_of_prefix hprefix hend).symm
    case isFalse hout => cases hq

/-- Page 1 is loaded when its second record is still missing. The record is appended, and the read
of it hits the window that does not show it. -/
theorem Run.read_correct_before_append :
    let config : PoolConfig := { bytesPerRecord := 8, targetBytesPerPage := 16, capacity := 1 }
    ∃ turns p w p',
      Run config { store := ⟨.memory, numberedRecords 3 8⟩ } turns p ∧
      config.targetBytesPerPage < twoTo 32 ∧
      p.perform (.acquire 3 .read) = .ok (.window (.ok w), p') ∧
      (w.record? 2).isSome = true ∧ w.record? 3 = none ∧ p'.source.store.size = 32 ∧
      config.validate = .ok p.recordsPerPage ∧
      w.firstRecord = 3 / p.recordsPerPage * p.recordsPerPage ∧ w.contains 3 = true ∧
      ∃ store, LoadedFrom (turns ++ [⟨p, .acquire 3 .read, .window (.ok w), p'⟩])
          (3 / p.recordsPerPage) w store ∧
        (∀ q, (w.record? q).isSome ↔ q / p.recordsPerPage = 3 / p.recordsPerPage ∧
          (q + 1) * config.bytesPerRecord ≤ store.size) ∧
        (∀ q bytes, w.record? q = some bytes →
          bytes = p'.source.store.slice (q * config.bytesPerRecord) config.bytesPerRecord) ∧
        ∃ shown : Finset Nat, (∀ q, q ∈ shown ↔ (w.record? q).isSome) ∧
          w.available = .ok shown.card := by
  intro config
  have hpage : config.targetBytesPerPage < twoTo 32 := by decide
  obtain ⟨turns, p, h, hseen⟩ := Run.exists_of_run? config
    { store := ⟨.memory, numberedRecords 3 8⟩ }
    [.acquire 2 .read, .append [0, 0, 0, 0, 0, 0, 0, 7]]
    (fun r => (r.2.perform (.acquire 3 .read)).toOption.bind fun x => x.1.window?.map fun w =>
      ((w.record? 2).isSome, w.record? 3, x.2.source.store.size))
    (some (true, none, 32)) (by decide +kernel)
  cases e : p.perform (.acquire 3 .read) with
  | error fault =>
    rw [e] at hseen
    cases hseen
  | ok performed =>
    obtain ⟨answer, p'⟩ := performed
    rw [e] at hseen
    obtain ⟨w, hw, hobserved⟩ := Option.map_eq_some_iff.mp hseen
    obtain rfl := Answer.eq_window_of_window? hw
    simp only [Prod.mk.injEq] at hobserved
    obtain ⟨hpresent, habsent, hsize⟩ := hobserved
    exact ⟨turns, p, w, p', h, hpage, e, hpresent, habsent, hsize, h.read_correct hpage e⟩

end Pool

end RecordCache
