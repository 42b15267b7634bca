import Mathlib.Data.List.DropRight
import RecordCache.Proofs.Acquisitions
/-! Scans: one acquisition after another of distinct pages, none of which is resident. A scan goes
through the lowest tier as through a queue. Reference bits in that tier hold pages up for a while,
but no longer than the queue has places. -/
namespace RecordCache

variable {limits : Limits} {capacity n : Nat} {s : Session} {r : Roster} {id : PageId}
  {ids : List PageId}

theorem rtake_append_rtake (ids ids' : List PageId) (n : Nat) :
    (ids.rtake n ++ ids').rtake n = (ids ++ ids').rtake n := by
  simp [List.rtake_eq_reverse_take_reverse, List.take_append, List.take_take]

theorem rtake_of_length_le (h : ids.length ≤ n) : ids.rtake n = ids := by
  rw [List.rtake, Nat.sub_eq_zero_of_le h, List.drop_zero]

theorem rtake_append (ids ids' : List PageId) : (ids ++ ids').rtake ids'.length = ids' := by
  rw [List.rtake, List.length_append, Nat.add_sub_cancel, List.drop_left]

theorem length_rtake_le (ids : List PageId) (n : Nat) : (ids.rtake n).length ≤ n := by
  rw [List.rtake, List.length_drop]
  omega

namespace Roster

/-- The places that the upper tiers leave to the lowest. -/
def room (r : Roster) (capacity : Nat) : Nat :=
  capacity - (r.lineup.shortTerm.length + r.lineup.longTerm.length)

def withUnknown (r : Roster) (ids : List PageId) : Roster :=
  { r with lineup := r.lineup.set .unknown ids }

@[simp] theorem unknown_withUnknown : (r.withUnknown ids).lineup.unknown = ids := rfl

@[simp] theorem room_withUnknown : (r.withUnknown ids).room capacity = r.room capacity := rfl

@[simp] theorem withUnknown_withUnknown (ids ids' : List PageId) :
    (r.withUnknown ids).withUnknown ids' = r.withUnknown ids' := rfl

def intakeAll (r : Roster) (capacity : Nat) (ids : List PageId) : Roster :=
  ids.foldl (fun r id => r.intake capacity id) r

theorem all_length_lt_iff :
    r.lineup.all.length < capacity ↔ r.lineup.unknown.length < r.room capacity := by
  rw [Lineup.all, List.length_append, List.length_append, room]
  omega

@[simp] theorem room_intake : (r.intake capacity id).room capacity = r.room capacity := rfl

theorem intake_of_lt (h : r.lineup.unknown.length < r.room capacity) :
    r.intake capacity id = r.withUnknown (r.lineup.unknown ++ [id]) := by
  have h := all_length_lt_iff.mpr h
  simp [intake, Lineup.intake, Lineup.spared, h, withUnknown]

theorem intake_of_full (h : ¬r.lineup.unknown.length < r.room capacity) :
    r.intake capacity id =
      { r.withUnknown (recycle r.referenced (r.lineup.unknown ++ [id])) with
        referenced := fun i => r.referenced i && i ∉ r.lineup.unknown.takeWhile r.referenced } := by
  have h := mt all_length_lt_iff.mp h
  simp only [intake, Lineup.intake, Lineup.spared, if_neg h, withUnknown]

theorem mem_intake {u : Tier} {i : PageId} (h : i ∈ (r.intake capacity id).lineup.get u) :
    i ∈ r.lineup.get u ∨ i = id := by
  by_cases hu : u = .unknown
  · subst hu
    have hmem : i ∈ r.lineup.unknown ++ [id] := by
      by_cases hlt : r.lineup.unknown.length < r.room capacity
      · rw [intake_of_lt hlt] at h
        exact h
      · rw [intake_of_full hlt] at h
        exact mem_of_mem_recycle h
    exact (List.mem_append.mp hmem).imp (fun h => h) List.mem_singleton.mp
  · exact Or.inl ((PerTier.get_set_of_ne r.lineup _ hu) ▸ h)

theorem referenced_intake {i : PageId} (h : r.referenced i = false) :
    (r.intake capacity id).referenced i = false := by
  simp [intake, h]

theorem length_intake_le (hid : r.referenced id = false)
    (h : r.lineup.unknown.length ≤ r.room capacity) :
    (r.intake capacity id).lineup.unknown.length ≤ r.room capacity := by
  by_cases hlt : r.lineup.unknown.length < r.room capacity
  · rw [intake_of_lt hlt]
    exact (List.length_append ..).symm ▸ hlt
  · rw [intake_of_full hlt]
    exact (length_recycle hid _).symm ▸ h

/-- While no page of the lowest tier has its reference bit set, that tier is a queue. -/
theorem intake_unreferenced (hr : ∀ i ∈ r.lineup.unknown, r.referenced i = false)
    (hid : r.referenced id = false) (h : r.lineup.unknown.length ≤ r.room capacity) :
    r.intake capacity id =
      r.withUnknown ((r.lineup.unknown ++ [id]).rtake (r.room capacity)) := by
  by_cases hlt : r.lineup.unknown.length < r.room capacity
  · rw [intake_of_lt hlt, rtake_of_length_le]
    exact (List.length_append ..).symm ▸ hlt
  · have hfull := Nat.le_antisymm h (Nat.le_of_not_lt hlt)
    have hnone : r.lineup.unknown.takeWhile r.referenced = [] := by
      cases hu : r.lineup.unknown with
      | nil => rfl
      | cons head rest =>
        rw [hu] at hr
        simp [hr head List.mem_cons_self]
    have hqueue : ∀ i ∈ r.lineup.unknown ++ [id], r.referenced i = false := by
      intro i hi
      rcases List.mem_append.mp hi with hi | hi
      · exact hr i hi
      · exact (List.mem_singleton.mp hi) ▸ hid
    rw [intake_of_full hlt, recycle_unreferenced hqueue, hnone, List.rtake, ← hfull]
    simp [withUnknown]

theorem intakeAll_unreferenced (hr : ∀ i ∈ r.lineup.unknown, r.referenced i = false)
    (hids : ∀ i ∈ ids, r.referenced i = false)
    (h : r.lineup.unknown.length ≤ r.room capacity) :
    r.intakeAll capacity ids =
      r.withUnknown ((r.lineup.unknown ++ ids).rtake (r.room capacity)) := by
  induction ids generalizing r with
  | nil =>
    rw [List.append_nil, rtake_of_length_le h]
    rfl
  | cons id ids ih =>
    have hid := hids id List.mem_cons_self
    have hrest : ∀ i ∈ ids, r.referenced i = false := fun i hi => hids i (List.mem_cons_of_mem _ hi)
    have hnext : ∀ i ∈ (r.lineup.unknown ++ [id]).rtake (r.room capacity),
        r.referenced i = false := by
      intro i hi
      rcases List.mem_append.mp (List.mem_of_mem_drop hi) with hi | hi
      · exact hr i hi
      · exact (List.mem_singleton.mp hi) ▸ hid
    have hqueue := ih (r := r.withUnknown ((r.lineup.unknown ++ [id]).rtake (r.room capacity)))
      hnext hrest (length_rtake_le ..)
    rw [unknown_withUnknown, room_withUnknown, withUnknown_withUnknown, rtake_append_rtake,
      List.append_assoc, List.singleton_append] at hqueue
    rw [intakeAll, List.foldl_cons, intake_unreferenced hr hid h]
    exact hqueue

/-- After `n` more admissions the lowest tier is full and has no reference bits. What is to be made
up for is the places that are free, and the pages up to the last with its bit set. -/
def Settles (r : Roster) (capacity n : Nat) : Prop :=
  ∃ m, (∀ i ∈ r.lineup.unknown.drop m, r.referenced i = false) ∧
    r.room capacity - r.lineup.unknown.length + m ≤ n

theorem settles_room (h : r.lineup.unknown.length ≤ r.room capacity) :
    r.Settles capacity (r.room capacity) := by
  refine ⟨r.lineup.unknown.length, fun i hi => ?_, Nat.le_of_eq (Nat.sub_add_cancel h)⟩
  rw [List.drop_length] at hi
  cases hi

theorem Settles.mono {n' : Nat} (h : r.Settles capacity n) (hn : n ≤ n') :
    r.Settles capacity n' := by
  obtain ⟨m, hm, hle⟩ := h
  exact ⟨m, hm, Nat.le_trans hle hn⟩

theorem Settles.unreferenced (h : r.Settles capacity 0) :
    ∀ i ∈ r.lineup.unknown, r.referenced i = false := by
  obtain ⟨m, hm, hn⟩ := h
  have hm₀ : m = 0 := by omega
  subst hm₀
  exact hm

/-- An admission takes a free place. If there is none, the last page with its bit set comes at least
one place forward, or loses the bit. -/
theorem Settles.intake (h : r.Settles capacity (n + 1)) (hid : r.referenced id = false)
    (hc : r.lineup.unknown.length ≤ r.room capacity) :
    (r.intake capacity id).Settles capacity n := by
  obtain ⟨m, hm, hn⟩ := h
  have hqueue : ∀ i ∈ (r.lineup.unknown ++ [id]).drop m, r.referenced i = false := by
    intro i hi
    rw [List.drop_append] at hi
    rcases List.mem_append.mp hi with hi | hi
    · exact hm i hi
    · exact List.mem_singleton.mp (List.mem_of_mem_drop hi) ▸ hid
  by_cases hlt : r.lineup.unknown.length < r.room capacity
  · refine ⟨m, ?_, ?_⟩
    · rw [intake_of_lt hlt]
      exact hqueue
    · rw [room_intake, intake_of_lt hlt]
      rw [unknown_withUnknown, List.length_append, List.length_singleton]
      omega
  -- At least one page leaves the front, and those that go to the tail have lost their bits.
  · rw [intake_of_full hlt]
    refine ⟨m - 1, fun i hi => ?_, ?_⟩
    · obtain ⟨-, -, -, htake, -⟩ := exists_unreferenced hid r.lineup.unknown
      have hi : i ∈ (recycle r.referenced (r.lineup.unknown ++ [id])).drop (m - 1) := hi
      rw [recycle_eq, htake, List.drop_append, List.drop_drop] at hi
      refine Bool.and_eq_false_iff.mpr ((List.mem_append.mp hi).imp (fun hi => ?_) fun hi => ?_)
      · exact hqueue i (List.drop_subset_drop_left _ (by omega) hi)
      · exact decide_eq_false (not_not_intro (List.mem_of_mem_drop hi))
    · have hlen := length_recycle hid r.lineup.unknown
      simp only [unknown_withUnknown, hlen]
      change r.room capacity - _ + _ ≤ n
      omega

@[simp] theorem room_intakeAll : (r.intakeAll capacity ids).room capacity = r.room capacity := by
  induction ids generalizing r with
  | nil => rfl
  | cons id ids ih => exact ih

theorem settles_intakeAll (h : r.Settles capacity ids.length)
    (hids : ∀ i ∈ ids, r.referenced i = false)
    (hc : r.lineup.unknown.length ≤ r.room capacity) :
    (r.intakeAll capacity ids).Settles capacity 0 ∧
      (r.intakeAll capacity ids).lineup.unknown.length ≤
        (r.intakeAll capacity ids).room capacity := by
  induction ids generalizing r with
  | nil => exact ⟨h, hc⟩
  | cons id ids ih =>
    have hid := hids id List.mem_cons_self
    exact ih (h.intake hid hc) (fun i hi => referenced_intake (hids i (List.mem_cons_of_mem _ hi)))
      (length_intake_le hid hc)

theorem get_intakeAll {u : Tier} (hu : u ≠ .unknown) :
    (r.intakeAll capacity ids).lineup.get u = r.lineup.get u := by
  induction ids generalizing r with
  | nil => rfl
  | cons id ids ih => exact ih.trans (PerTier.get_set_of_ne r.lineup _ hu)

theorem referenced_intakeAll {i : PageId} (h : r.referenced i = false) :
    (r.intakeAll capacity ids).referenced i = false := by
  induction ids generalizing r with
  | nil => exact h
  | cons id ids ih => exact ih (referenced_intake h)

/-- Twice as many admissions as there are places: the first half wears the reference bits off, the
second fills the queue. -/
theorem intakeAll_twice_room (hids : ∀ i ∈ ids, r.referenced i = false)
    (h : r.lineup.unknown.length ≤ r.room capacity) (hn : 2 * r.room capacity ≤ ids.length) :
    (r.intakeAll capacity ids).lineup.unknown = ids.rtake (r.room capacity) := by
  let front := ids.take (ids.length - r.room capacity)
  let back := ids.rtake (r.room capacity)
  have hsplit : front ++ back = ids := List.take_append_drop ..
  have hfront : r.room capacity ≤ front.length := by
    rw [List.length_take]
    omega
  have hback : back.length = r.room capacity := by
    refine List.length_drop.trans ?_
    omega
  obtain ⟨hs, hc⟩ := settles_intakeAll ((settles_room h).mono hfront)
    (fun i hi => hids i (List.mem_of_mem_take hi)) h
  have hbits : ∀ i ∈ back, (r.intakeAll capacity front).referenced i = false := fun i hi =>
    referenced_intakeAll (hids i (List.mem_of_mem_drop hi))
  have hlast := intakeAll_unreferenced hs.unreferenced hbits hc
  have hall : r.intakeAll capacity ids = (r.intakeAll capacity front).intakeAll capacity back := by
    conv_lhs => rw [← hsplit]
    exact List.foldl_append ..
  rw [hall, hlast, unknown_withUnknown, room_intakeAll]
  exact (congrArg _ hback.symm).trans (rtake_append ..)

end Roster

namespace Table

variable {W : Type} {t t' : Table W} {l : Lineup} {tier : Tier}

theorem Aligned.mem_of_page_tier {page : Page W} (h : t.Aligned l) (hp : t.pages[id]? = some page)
    (ht : page.tier ≠ .unknown) : id ∈ l.get page.tier := by
  by_cases hm : ∃ u, id ∈ l.get u
  · obtain ⟨u, hu⟩ := hm
    exact (h.page_tier hp hu) ▸ hu
  · have hidle := h.placed.idle (content_of_page hp) fun u hu => hm ⟨u, hu⟩
    exact absurd hidle.1 ht

theorem Aligned.tier_eq_of_upper {l' : Lineup} {page page' : Page W} (h : t.Aligned l)
    (h' : t'.Aligned l') (hl : ∀ u, u ≠ .unknown → l'.get u = l.get u)
    (hp : t.pages[id]? = some page) (hp' : t'.pages[id]? = some page') :
    page'.tier = page.tier := by
  by_cases ht : page.tier = .unknown
  · by_cases ht' : page'.tier = .unknown
    · rw [ht, ht']
    · have hm := h'.mem_of_page_tier hp' ht'
      rw [hl _ ht'] at hm
      exact (h.page_tier hp hm).symm
  · have hm := h.mem_of_page_tier hp ht
    rw [← hl _ ht] at hm
    exact h'.page_tier hp' hm

theorem Shows.idle_of_not_resident (h : t.Shows r)
    (hid : ∀ id ∈ ids, id < t.size ∧ id ∉ t.residentIds) :
    ∀ id ∈ ids, id < t.size ∧ ∀ u, id ∉ r.lineup.get u := by
  intro id hi
  obtain ⟨hlt, hn⟩ := hid id hi
  exact ⟨hlt, fun u hm => hn (h.aligned.mem_residentIds.mpr ⟨u, hm⟩)⟩

theorem Shows.unknown_le_room (h : t.Shows r) (hc : t.residentCount ≤ capacity) :
    r.lineup.unknown.length ≤ r.room capacity := by
  rw [residentCount, h.aligned.total_eq, Lineup.all, List.length_append, List.length_append] at hc
  rw [Roster.room]
  omega

end Table

abbrev Scan := List (PageId × Option LoadError)

namespace Scan

variable (scan : Scan)

def pages : List PageId := scan.map Prod.fst

def loaded : List PageId := pages (scan.filter (·.2.isNone))

def ops : List Op := scan.map fun x => Session.acquisition x.1 x.2

/-- Each page is acquired with one load, made at its address. -/
def Loads (addressOf : PageId → Option Nat) (answers : List Answer) : Prop :=
  List.Forall₂ (fun x answer => ∃ ticket : Ticket, addressOf x.1 = some ticket.stamp.address ∧
    answer = .acquired (ticket.result x.2) (some ticket.stamp.address) [] []) scan answers

def ofPages (ids : List PageId) : Scan := ids.map (·, none)

theorem pages_ofPages (ids : List PageId) : (ofPages ids).pages = ids :=
  List.map_map.trans (List.map_id ids)

theorem loaded_ofPages (ids : List PageId) : (ofPages ids).loaded = ids := by
  have hall : (ofPages ids).filter (·.2.isNone) = ofPages ids := by
    refine List.filter_eq_self.mpr fun x hx => ?_
    obtain ⟨id, -, rfl⟩ := List.mem_map.mp hx
    rfl
  rw [loaded, hall, pages_ofPages]

theorem ops_ofPages (ids : List PageId) :
    (ofPages ids).ops = ids.map (Session.acquisition · none) := List.map_map

end Scan

namespace Session

theorem Quiet.scan (h : s.Quiet limits) (hr : s.table.Shows r) (scan : Scan)
    (hd : scan.pages.Nodup)
    (hid : ∀ id ∈ scan.pages, id < s.table.size ∧ ∀ u, id ∉ r.lineup.get u) :
    ∃ answers s', s.run scan.ops = (answers, s') ∧
      s'.table.Shows (r.intakeAll limits.capacity scan.loaded) ∧
      s'.loads = s.loads + scan.length ∧ s'.table.addressOf = s.table.addressOf ∧
      scan.Loads s.table.addressOf answers := by
  induction scan generalizing s r with
  | nil => exact ⟨[], s, rfl, hr, rfl, rfl, .nil⟩
  | cons x scan ih =>
    obtain ⟨id, failure?⟩ := x
    obtain ⟨hnot, hd⟩ := List.nodup_cons.mp hd
    obtain ⟨hlt, hn⟩ := hid id List.mem_cons_self
    obtain ⟨ticket, _, s₁, m⟩ := h.step_miss hr hlt hn failure?
    have ha₁ := m.addresses
    have hid₁ : ∀ i ∈ Scan.pages scan, i < s₁.table.size ∧ ∀ u,
        i ∉ (if failure? = none then r.intake limits.capacity id else r).lineup.get u := by
      intro i hi
      obtain ⟨hlt, hn⟩ := hid i (List.mem_cons_of_mem _ hi)
      refine ⟨Table.size_eq_of_addressOf ha₁ ▸ hlt, fun u hu => ?_⟩
      split at hu
      · rcases Roster.mem_intake hu with hu | rfl
        · exact hn u hu
        · exact hnot hi
      · exact hn u hu
    obtain ⟨answers, s', e', hr', hl', ha', hall⟩ := ih m.quiet m.roster hd hid₁
    refine ⟨_ :: answers, s', ?_, ?_, ?_, ha'.trans ha₁, .cons ⟨ticket, m.address, rfl⟩ (ha₁ ▸ hall)⟩
    · exact run_cons m.step_eq e'
    · cases failure? with
      | none => exact hr'
      | some error => exact hr'
    · rw [hl', m.loads, List.length_cons, Nat.add_assoc, Nat.add_comm 1]

/-- A scan makes one load for each page. It leaves the upper tiers as they are and promotes nothing,
and if no page of the lowest tier had its reference bit set, what is left there is the end of the
queue. -/
theorem scan_resistance (h : Free limits [] s) (scan : Scan) (hd : scan.pages.Nodup)
    (hid : ∀ id ∈ scan.pages, id < s.table.size ∧ id ∉ s.table.residentIds)
    (hu : ∀ id ∈ s.table.members .unknown, ∀ page : Page Stamp, s.table.pages[id]? = some page →
      page.referenced = false) :
    ∃ (answers : List Answer) (s' : Session), s.run scan.ops = (answers, s') ∧
      s'.table.members .shortTerm = s.table.members .shortTerm ∧
      s'.table.members .longTerm = s.table.members .longTerm ∧
      (∀ (id : PageId) (page : Page Stamp), s.table.pages[id]? = some page →
        ∃ page' : Page Stamp, s'.table.pages[id]? = some page' ∧ page'.tier = page.tier ∧
          page'.referenced = page.referenced) ∧
      scan.Loads s.table.addressOf answers ∧ s'.loads = s.loads + scan.length ∧
      s'.table.members .unknown = (s.table.members .unknown ++ scan.loaded).rtake
        (limits.capacity -
          ((s.table.members .shortTerm).length + (s.table.members .longTerm).length)) := by
  obtain ⟨l, hal⟩ := h.steady.aligned
  have hr : s.table.Shows ⟨l, s.table.isReferenced⟩ := ⟨hal, rfl⟩
  have hidle := hr.idle_of_not_resident hid
  obtain ⟨answers, s', e, hr', hl', ha', hloads⟩ := h.quiet.scan hr scan hd hidle
  have hcalm : ∀ id ∈ l.unknown, s.table.isReferenced id = false := by
    intro id hm
    obtain ⟨page, hp⟩ := Table.exists_page (hal.linked.lt_size (show id ∈ l.get .unknown from hm))
    rw [Table.isReferenced_of_page hp]
    exact hu id (by rw [hal.linked.members_eq]; exact hm) page hp
  have hloaded : ∀ id ∈ scan.loaded, s.table.isReferenced id = false := by
    intro id hi
    obtain ⟨x, hx, rfl⟩ := List.mem_map.mp hi
    obtain ⟨hlt, hn⟩ := hidle x.1 (List.mem_map_of_mem (List.mem_of_mem_filter hx))
    exact hr.unreferenced hlt hn
  rw [Roster.intakeAll_unreferenced hcalm hloaded (hr.unknown_le_room h.steady.within)] at hr'
  refine ⟨answers, s', e, ?_, ?_, fun id page hp => ?_, hloads, hl', ?_⟩
  · rw [hr'.aligned.linked.members_eq, hal.linked.members_eq]
    rfl
  · rw [hr'.aligned.linked.members_eq, hal.linked.members_eq]
    rfl
  · obtain ⟨page', hp'⟩ :=
      Table.exists_page (Table.size_eq_of_addressOf ha' ▸ Table.lt_size_of_page hp)
    refine ⟨page', hp', hal.tier_eq_of_upper hr'.aligned (fun u hu => ?_) hp hp', ?_⟩
    · exact PerTier.get_set_of_ne l _ hu
    · rw [← Table.isReferenced_of_page hp', hr'.referenced, ← Table.isReferenced_of_page hp]
      rfl
  · simp only [hr'.aligned.linked.members_eq, hal.linked.members_eq]
    rfl

/-- Page 0 is in the top tier and page 1 in the lowest, of three places. Of three more pages one
fails to load. -/
theorem scan_resistance_past_failed_load :
    ∃ s answers s', Free ⟨3, 3, 2⟩ [] s ∧ s.table.members .unknown = [1] ∧
      s.run [acquisition 2 none, acquisition 3 (some ⟨.invalidArgument⟩), acquisition 4 none] =
        (answers, s') ∧ s'.table.members .longTerm = [0] ∧ s'.table.members .unknown = [2, 4] ∧
      s'.loads = s.loads + 3 := by
  have h : Free ⟨3, 3, 2⟩ [] _ := .between <| .operated (acquisition 1 none) <|
    .operated (acquisition 0 none) <| .operated (acquisition 0 none) <|
    .operated (acquisition 0 none) <| .operated (.grow 4 8) .fresh
  obtain ⟨answers, s', e, -, hl, -, -, hn, hq⟩ := scan_resistance h
    [(2, none), (3, some ⟨.invalidArgument⟩), (4, none)] (by decide) (by decide +kernel) (by
      intro id hm page hp
      cases List.mem_singleton.mp hm
      cases hp
      rfl)
  exact ⟨_, answers, s', h, rfl, e, hl, hq, hn⟩

/-- However many pages of the lowest tier have their reference bits set, a scan of twice as many
pages as there are places for drives all of them out. -/
theorem scan_drives_out_referenced (h : Free limits [] s) (ids : List PageId)
    (hd : ids.Nodup) (hid : ∀ id ∈ ids, id < s.table.size ∧ id ∉ s.table.residentIds)
    (hn : 2 * (limits.capacity -
      ((s.table.members .shortTerm).length + (s.table.members .longTerm).length)) ≤ ids.length) :
    ∃ (answers : List Answer) (s' : Session), s.run (ids.map (acquisition · none)) = (answers, s') ∧
      List.Forall₂ (fun id answer => ∃ stamp : Stamp, s.table.addressOf id = some stamp.address ∧
        answer = .acquired (.ok stamp) (some stamp.address) [] []) ids answers ∧
      s'.table.members .unknown = ids.rtake (limits.capacity -
        ((s.table.members .shortTerm).length + (s.table.members .longTerm).length)) ∧
      (∀ id ∈ s'.table.members .unknown, ∀ page : Page Stamp, s'.table.pages[id]? = some page →
        page.referenced = false) ∧
      s'.table.members .shortTerm = s.table.members .shortTerm ∧
      s'.table.members .longTerm = s.table.members .longTerm := by
  obtain ⟨l, hal⟩ := h.steady.aligned
  have hr : s.table.Shows ⟨l, s.table.isReferenced⟩ := ⟨hal, rfl⟩
  have hidle := hr.idle_of_not_resident hid
  have hpages := Scan.pages_ofPages ids
  obtain ⟨answers, s', e, hr', -, -, hloads⟩ :=
    h.quiet.scan hr (.ofPages ids) (hpages.symm ▸ hd) (hpages.symm ▸ hidle)
  rw [Scan.loaded_ofPages] at hr'
  rw [Scan.ops_ofPages] at e
  have hids : ∀ id ∈ ids, s.table.isReferenced id = false := fun id hi =>
    hr.unreferenced (hidle id hi).1 (hidle id hi).2
  have hmembers : ∀ u, u ≠ .unknown → s'.table.members u = s.table.members u := by
    intro u hu
    rw [hr'.aligned.linked.members_eq, hal.linked.members_eq]
    exact Roster.get_intakeAll hu
  simp only [hal.linked.members_eq] at hn ⊢
  have hqueue : s'.table.members .unknown = ids.rtake (limits.capacity -
      ((l.get .shortTerm).length + (l.get .longTerm).length)) := by
    rw [hr'.aligned.linked.members_eq]
    exact Roster.intakeAll_twice_room hids (hr.unknown_le_room h.steady.within) hn
  refine ⟨answers, s', e, ?_, hqueue, fun id hm page hp => ?_, ?_, ?_⟩
  · refine (List.forall₂_map_left_iff.mp hloads).imp fun id answer => ?_
    rintro ⟨ticket, ha, e⟩
    exact ⟨ticket.stamp, ha, e⟩
  · rw [hqueue] at hm
    rw [← Table.isReferenced_of_page hp, hr'.referenced]
    exact Roster.referenced_intakeAll (hids id (List.mem_of_mem_drop hm))
  · rw [hmembers _ (by decide), hal.linked.members_eq]
  · rw [hmembers _ (by decide), hal.linked.members_eq]

/-- Page 0 has been demoted with its bit set. Of two places the middle tier takes one. -/
theorem scan_drives_out_demoted_page :
    ∃ s answers s', Free ⟨2, 1, 1⟩ [] s ∧ s.table.members .unknown = [0] ∧
      s.table.isReferenced 0 ∧
      s.run [acquisition 2 none, acquisition 3 none] = (answers, s') ∧
      s'.table.members .unknown = [3] ∧ s'.table.members .shortTerm = [1] := by
  have h : Free ⟨2, 1, 1⟩ [] _ := .between <| .operated (acquisition 1 none) <|
    .operated (acquisition 1 none) <| .operated (acquisition 0 none) <|
    .operated (acquisition 0 none) <| .operated (.grow 3 8) .fresh
  obtain ⟨answers, s', e, -, hq, -, hs, -⟩ := scan_drives_out_referenced h [2, 3] (by decide)
    (by decide +kernel) (by decide +kernel)
  exact ⟨_, answers, s', h, rfl, rfl, e, hq, hs⟩

end Session

end RecordCache
