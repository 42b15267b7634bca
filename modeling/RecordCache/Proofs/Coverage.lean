import Mathlib.Order.Bounds.Basic
import RecordCache.Proofs.Accounts
/-! How far the page table of a pool reaches. Its pages lie one behind the other, so its length says
all there is to say of where they start. The length is that of the pages behind the last record of
the store as it was opened and of the positions read since, each of which has been reached; nothing
else makes a table longer, and nothing makes it shorter. -/
namespace RecordCache

namespace Table

variable {W : Type} {capacity recordsPerPage : Nat} {t : Table W}

theorem Calm.addressOf_eq (h : t.Calm capacity recordsPerPage) (i : PageId) :
    t.addressOf i = if i < t.size then some (i * recordsPerPage) else none := by
  by_cases hi : i < t.size
  · obtain ⟨page, hp⟩ := exists_page hi
    have ha : t.addressOf i = some page.address := congrArg (Option.map Page.address) hp
    rw [if_pos hi, ha, h.address i _ ha]
  · have hnone : t.pages[i]? = none := Array.getElem?_eq_none (Nat.le_of_not_lt hi)
    rw [if_neg hi, addressOf, hnone]
    rfl

end Table

namespace Pool

variable {config : PoolConfig} {source source' : Source} {p p' q : Pool} {turns turns' : List Turn}
  {x : Turn} {op : Op} {answer : Answer} {id : PageId} {position : Nat} {positions : List Nat}

def Turn.readPosition? (x : Turn) : Option Nat :=
  match x.op with
  | .acquire position .read => some position
  | _ => none

def readPositions (turns : List Turn) : List Nat := turns.filterMap Turn.readPosition?

/-- The pages of those positions that are not too far for the table. -/
def pagesOf (p : Pool) (positions : List Nat) : Set PageId :=
  {id | ∃ position ∈ positions, p.pageNumber position = .ok id}

theorem Turn.readPosition?_eq_some_iff :
    x.readPosition? = some position ↔ x.op = .acquire position .read := by
  unfold readPosition?
  split
  case h_1 position' e => simp [e]
  case h_2 hother => exact iff_of_false nofun fun e => hother _ e

theorem readPositions_snoc (turns : List Turn) (x : Turn) :
    readPositions (turns ++ [x]) = readPositions turns ++ x.readPosition?.toList := by
  rw [readPositions, List.filterMap_append]
  cases hx : x.readPosition? <;> simp [readPositions, hx]

theorem pagesOf_singleton (h : p.pageNumber position = .ok id) : p.pagesOf [position] = {id} := by
  ext i
  simp only [pagesOf, List.mem_singleton, exists_eq_left, Set.mem_ofPred_eq, Set.mem_singleton_iff,
    h, Except.ok.injEq]
  exact eq_comm

theorem pagesOf_snoc (h : p.pageNumber position = .ok id) :
    p.pagesOf (positions ++ [position]) = insert id (p.pagesOf positions) := by
  ext i
  simp only [pagesOf, List.mem_append, List.mem_singleton, or_and_right, exists_or,
    exists_eq_left, Set.mem_ofPred_eq, Set.mem_insert_iff, h, Except.ok.injEq]
  rw [or_comm, eq_comm]

theorem pagesOf_snoc_of_error {e : PoolError} (h : p.pageNumber position = .error e) :
    p.pagesOf (positions ++ [position]) = p.pagesOf positions := by
  ext i
  simp only [pagesOf, List.mem_append, List.mem_singleton, or_and_right, exists_or,
    exists_eq_left, Set.mem_ofPred_eq, h, reduceCtorEq, or_false]

theorem Sound.pagesOf_eq (h : p.Sound config) (h' : q.Sound config) : q.pagesOf = p.pagesOf := by
  funext positions
  simp only [pagesOf, pageNumber, h.recordsPerPage_eq h']

theorem Sound.addressOf_of_size_le (h : p.Sound config) (h' : q.Sound config)
    (hs : p.table.size ≤ q.table.size) {i : PageId} {address : Nat}
    (hi : p.table.addressOf i = some address) : q.table.addressOf i = some address := by
  rw [h.calm.addressOf_eq] at hi
  rw [h'.calm.addressOf_eq, h.recordsPerPage_eq h', ← hi]
  split at hi
  case isTrue hlt => rw [if_pos hlt, if_pos (Nat.lt_of_lt_of_le hlt hs)]
  case isFalse hle => cases hi

theorem Sound.addressOf_congr (h : p.Sound config) (h' : q.Sound config)
    (hs : q.table.size = p.table.size) : q.table.addressOf = p.table.addressOf := by
  funext i
  rw [h'.calm.addressOf_eq, h.calm.addressOf_eq, hs, h.recordsPerPage_eq h']

theorem Sound.size_fetched {result : Except LoadError Window} (h : p.Sound config)
    (hid : id < p.table.size) (hf : p.Fetched id result q) : q.table.size = p.table.size := by
  cases hf with
  | hit resident recorded =>
    obtain ⟨l, hal⟩ := h.calm.aligned
    obtain ⟨t', l', e, -, hr⟩ := hal.recordHit_retains resident p.limits
    cases recorded.symm.trans e
    exact Table.size_eq_of_addressOf hr.addresses
  | failed absent refused ended => exact Table.size_recast ..
  | @loaded w source evicted t load absent mapped admitted ended =>
    obtain ⟨evicted', t', e, hu, -⟩ := h.calm.makeResident hid absent w
    cases admitted.symm.trans e
    exact (Table.size_recast ..).trans (Table.size_eq_of_addressOf hu.addresses)

/-- What a turn does to the length of the table. Whether the page that a read asks for can be loaded
makes no difference. -/
theorem Sound.size_after (h : p.Sound config) (hp : p.Happens op answer p') :
    (∃ position id, op = .acquire position .read ∧ p.pageNumber position = .ok id ∧
      p'.table.size = max p.table.size (id + 1)) ∨
    (∀ position id, op = .acquire position .read → p.pageNumber position ≠ .ok id) ∧
      p'.table.size = p.table.size := by
  cases hp with
  | @read position id result q page fetched =>
    left
    refine ⟨position, id, rfl, page, ?_⟩
    have hcache := (q.unmoved_concluded position id result).cache
    have hq := (h.counted id).size_fetched (p.lt_size_counted id) fetched
    calc (q.concluded position id result).2.table.size
      _ = q.table.size := congrArg (Table.size ∘ Cache.table) hcache
      _ = (p.counted id).table.size := hq
      _ = max p.table.size (id + 1) := Table.size_growTo ..
  | @overflow position e page =>
    right
    refine ⟨?_, rfl⟩
    intro position' id hop hid
    cases hop
    rw [page] at hid
    cases hid
  | @forceEvict id eviction? t evicted =>
    obtain ⟨_, _, e, -, haddress, -⟩ := h.calm.forceEvict id
    cases evicted.symm.trans e
    exact .inr ⟨nofun, Table.size_eq_of_addressOf haddress⟩
  | close emptied =>
    obtain ⟨_, _, e, -, haddress, -⟩ := h.calm.forceEvictAll
    cases emptied.symm.trans e
    exact .inr ⟨nofun, Table.size_eq_of_addressOf haddress⟩
  | unsupported | load | append | failNext | wait => exact .inr ⟨nofun, rfl⟩

theorem Opened.greatest (h : Opened config source p) : ∃ fileSize last,
    source.size = .ok fileSize ∧ IsGreatest (p.pagesOf [fileSize / config.bytesPerRecord]) last ∧
      p.table.size = last + 1 := by
  obtain ⟨fileSize, hsize, id, page, htable⟩ := h.table
  refine ⟨fileSize, id, hsize, ?_, ?_⟩
  · rw [pagesOf_singleton page]
    exact isGreatest_singleton
  · rw [htable, Table.size_growTo]
    exact Nat.max_eq_right (Nat.zero_le _)

/-- The table of a run ends with the greatest of the pages behind the last record and of the
positions read. -/
theorem Run.greatest (h : Run config source turns p) : ∃ fileSize last,
    source.size = .ok fileSize ∧
      IsGreatest (p.pagesOf (fileSize / config.bytesPerRecord :: readPositions turns)) last ∧
      p.table.size = last + 1 := by
  induction h with
  | opened e => exact (opened_of_ofSource e).greatest
  | @turn turns p p' op answer run e ih =>
    obtain ⟨fileSize, last, hsize, hgreatest, hlast⟩ := ih
    simp only [readPositions_snoc, ← List.cons_append, run.sound.pagesOf_eq (run.turn e).sound]
    rcases run.sound.size_after (run.sound.happens e) with
      ⟨position, id, rfl, page, hgrown⟩ | ⟨hidle, hkept⟩
    · refine ⟨fileSize, max id last, hsize, ?_, ?_⟩
      · change IsGreatest (p.pagesOf (_ ++ [position])) _
        rw [pagesOf_snoc page]
        exact hgreatest.insert id
      · omega
    · refine ⟨fileSize, last, hsize, ?_, hkept.trans hlast⟩
      cases hread : Turn.readPosition? ⟨p, op, answer, p'⟩ with
      | none => rwa [Option.toList_none, List.append_nil]
      | some position =>
        have hop : op = .acquire position .read := Turn.readPosition?_eq_some_iff.mp hread
        cases page : p.pageNumber position with
        | ok id => exact absurd page (hidle position id hop)
        -- the position has been read, but it has no page that could count
        | error refusal => rwa [Option.toList_some, pagesOf_snoc_of_error page]

theorem Run.le_max_of_lt_size (h : Run config source turns p) (hid : id < p.table.size) :
    id ≤ PageId.max := by
  obtain ⟨fileSize, last, -, ⟨⟨position, -, page⟩, -⟩, hlast⟩ := h.greatest
  rw [hlast] at hid
  exact (Nat.le_of_lt_succ hid).trans (pageNumber_eq_ok_iff.mp page).2

theorem Run.size_eq (h : Run config source turns p) (h' : Run config source' turns' p')
    (hs : source'.size = source.size)
    (hr : ∀ position, position ∈ readPositions turns' ↔ position ∈ readPositions turns) :
    p'.table.size = p.table.size := by
  obtain ⟨fileSize, last, hsize, hgreatest, hlast⟩ := h.greatest
  obtain ⟨fileSize', last', hsize', hgreatest', hlast'⟩ := h'.greatest
  cases (hs.symm.trans hsize').symm.trans hsize
  have hpages : p'.pagesOf (fileSize / config.bytesPerRecord :: readPositions turns') =
      p.pagesOf (fileSize / config.bytesPerRecord :: readPositions turns) := by
    rw [h.sound.pagesOf_eq h'.sound]
    ext i
    simp only [pagesOf, List.mem_cons, hr]
  rw [hpages] at hgreatest'
  rw [hlast, hlast', hgreatest.unique hgreatest']

theorem Sound.pageInfo_of_pageNumber (h : p.Sound config) (page : p.pageNumber position = .ok id) :
    ∃ info?, p.pageInfo position = .ok info? ∧ (info?.isSome ↔ id < p.table.size) ∧
      ∀ info ∈ info?, info.id = id ∧ info.address = id * p.recordsPerPage := by
  refine ⟨p.table.info? id, by rw [pageInfo, page, Except.map], ?_, ?_⟩
  · rw [Table.info?, Option.isSome_map, isSome_getElem?]
    exact .rfl
  · intro info hinfo
    obtain ⟨found, hp, rfl⟩ := Option.map_eq_some_iff.mp hinfo
    exact ⟨rfl, h.address_eq hp⟩

/-- The table of a pool reaches as far as it was ever asked to. Its last page is the greatest of the
one behind the last record of the store as it was opened and those of the positions read that are
not too far for a table, whether their pages could be loaded or not. Page `i` starts at record `i *
recordsPerPage`. No turn moves a page or makes the table shorter, and none but such a read makes it
longer: the order and the repetition of the reads leave no trace. Asking about a page tells whether
the table has it, and does not add it. -/
theorem Run.table_covers (h : Run config source turns p) :
    (∃ fileSize last, source.size = .ok fileSize ∧
      IsGreatest (p.pagesOf (fileSize / config.bytesPerRecord :: readPositions turns)) last ∧
      p.table.size = last + 1) ∧
    (∀ i, p.table.addressOf i =
      if i < p.table.size then some (i * p.recordsPerPage) else none) ∧
    (∀ x ∈ turns, x.before.table.size ≤ x.after.table.size ∧
      (∀ i address, x.before.table.addressOf i = some address →
        x.after.table.addressOf i = some address) ∧
      ((∀ position id, x.op = .acquire position .read → x.before.pageNumber position ≠ .ok id) →
        x.after.table.addressOf = x.before.table.addressOf)) ∧
    (∀ source' turns' p', Run config source' turns' p' → source'.size = source.size →
      (∀ position, position ∈ readPositions turns' ↔ position ∈ readPositions turns) →
      p'.table.addressOf = p.table.addressOf) ∧
    ∀ position id, p.pageNumber position = .ok id →
      ∃ info?, p.pageInfo position = .ok info? ∧ (info?.isSome ↔ id < p.table.size) ∧
        ∀ info ∈ info?, info.id = id ∧ info.address = id * p.recordsPerPage := by
  refine ⟨h.greatest, h.sound.calm.addressOf_eq, ?_, ?_, fun _ _ => h.sound.pageInfo_of_pageNumber⟩
  · intro x hx
    obtain ⟨hs, hp⟩ := h.happens hx
    have hs' := hs.after hp
    have hgrows : x.before.table.size ≤ x.after.table.size := by
      rcases hs.size_after hp with ⟨_, _, -, -, hgrown⟩ | ⟨-, hkept⟩
      · rw [hgrown]
        exact Nat.le_max_left ..
      · exact Nat.le_of_eq hkept.symm
    refine ⟨hgrows, fun _ _ => hs.addressOf_of_size_le hs' hgrows, ?_⟩
    intro hidle
    rcases hs.size_after hp with ⟨position, id, hop, page, -⟩ | ⟨-, hkept⟩
    · exact absurd page (hidle position id hop)
    · exact hs.addressOf_congr hs' hkept
  · intro source' turns' p' h' hs hr
    exact h.sound.addressOf_congr h'.sound (h.size_eq h' hs hr)

/-- The page of record 9 cannot be loaded, record 2 ^ 40 is too far, and the rest does not count. -/
theorem Run.table_covers_failed_read :
    ∃ turns p,
      Run { bytesPerRecord := 8, targetBytesPerPage := 16, capacity := 1 }
        { store := ⟨.memory, numberedRecords 3 8⟩ } turns p ∧
      readPositions turns = [9, twoTo 40, 0] ∧ p.table.size = 5 ∧
      IsGreatest (p.pagesOf [3, 9, twoTo 40, 0]) 4 ∧
      ∀ i, p.table.addressOf i = if i < 5 then some (i * 2) else none := by
  obtain ⟨turns, p, h, hseen⟩ := Run.exists_of_run?
    { bytesPerRecord := 8, targetBytesPerPage := 16, capacity := 1 }
    { store := ⟨.memory, numberedRecords 3 8⟩ }
    [.failNext 1 ⟨.other, "gone"⟩, .acquire 9 .read, .acquire (twoTo 40) .read,
      .acquire 100 .write, .acquire 0 .read, .forceEvict 0, .close]
    (fun r => (readPositions r.1, r.2.table.size, r.2.recordsPerPage))
    ([9, twoTo 40, 0], 5, 2) (by decide +kernel)
  simp only [Prod.mk.injEq] at hseen
  obtain ⟨hread, hsize, hrecords⟩ := hseen
  obtain ⟨⟨fileSize, last, hfile, hgreatest, hlast⟩, haddress, -⟩ := h.table_covers
  cases hfile
  obtain rfl : last = 4 := Nat.succ.inj (hlast.symm.trans hsize)
  rw [hread] at hgreatest
  rw [hsize, hrecords] at haddress
  exact ⟨turns, p, h, hread, hsize, hgreatest, haddress⟩

end Pool

end RecordCache
