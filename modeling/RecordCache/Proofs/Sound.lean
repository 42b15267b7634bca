import RecordCache.Proofs.Laps
import RecordCache.Session
/-! What holds of a session while some loads are open, and how a load is opened: the page is marked,
the table is left, and further callers block on the page. -/
namespace RecordCache

variable {limits : Limits} {opened : List Ticket} {ticket : Ticket} {s s' : Session}
  {t' : Table Stamp} {id : PageId} {n : Nat}

def Ticket.waiter (ticket : Ticket) : Waiter := ⟨ticket.page, ticket.attempt⟩

theorem Ticket.page_ne {other : Ticket} (h : ticket.page ∉ opened.map Ticket.page)
    (ho : other ∈ opened) : other.page ≠ ticket.page :=
  fun e => h (List.mem_map.mpr ⟨other, ho, e⟩)

def Waiter.isAt (id : PageId) (w : Waiter) : Bool := w.page = id

def elsewhere (id : PageId) (ws : List Waiter) : List Waiter := ws.filter (!Waiter.isAt id ·)

theorem countP_elsewhere (id i : PageId) (ws : List Waiter) :
    (elsewhere id ws).countP (Waiter.isAt i) =
      if i = id then 0 else ws.countP (Waiter.isAt i) := by
  rw [elsewhere, List.countP_filter]
  by_cases hi : i = id
  · simp [Waiter.isAt, hi]
  · rw [if_neg hi]
    refine List.countP_congr fun w _ => ?_
    by_cases hw : w.page = i
    · simp [Waiter.isAt, hw, hi]
    · simp [Waiter.isAt, hw]

theorem mem_elsewhere {w : Waiter} {ws : List Waiter} :
    w ∈ elsewhere id ws ↔ w ∈ ws ∧ w.page ≠ id := by
  simp [elsewhere, Waiter.isAt]

namespace Session

def queued (s : Session) (id : PageId) : Nat := s.blocked.countP (Waiter.isAt id)

/-- The open loads account for every load state and for every blocked caller. -/
structure Sound (limits : Limits) (opened : List Ticket) (s : Session) : Prop where
  limits_eq : s.limits = limits
  aligned : ∃ l, s.table.Aligned l
  within : s.table.residentCount ≤ limits.capacity
  distinct : (opened.map Ticket.page).Nodup
  loads : ∀ {id m}, s.table.loadOf id = some m →
    m.parked? = none ∧ m.waiters = s.queued id ∧ (m.loading ↔ id ∈ opened.map Ticket.page)
  tickets : ∀ ticket ∈ opened, s.table.via Page.window? ticket.page = none ∧
    ∃ m, s.table.loadOf ticket.page = some m ∧ m.attempt = ticket.attempt ∧ m.failure? = none
  blocked : ∀ w ∈ s.blocked, ∃ ticket ∈ opened, w = ticket.waiter

/-- What holds of a table while it is free and the loads `opened` are in progress. -/
structure Steady (limits : Limits) (opened : List Ticket) (t : Table Stamp) : Prop where
  aligned : ∃ l, t.Aligned l
  within : t.residentCount ≤ limits.capacity
  loading : ∀ {id m}, t.loadOf id = some m → (m.loading ↔ id ∈ opened.map Ticket.page)
  idle : ∀ ticket ∈ opened, t.via Page.window? ticket.page = none

def Misses (s : Session) (ticket : Ticket) : Prop :=
  ∃ page, s.table.pages[ticket.page]? = some page ∧ page.window? = none ∧ page.loading = false ∧
    ticket.attempt = page.attempt + 1 ∧ ticket.stamp = ⟨page.address, s.loads + 1⟩

/-- The session in which the load `ticket` is open and `n` callers are blocked on it. -/
def entered (s : Session) (ticket : Ticket) (n : Nat) : Session :=
  { s.withTable (s.table.setLoad ticket.page (.started ticket.attempt n)) with
    blocked := s.blocked ++ List.replicate n ticket.waiter
    loads := s.loads + 1 }

namespace Sound

theorem ofLimits (limits : Limits) : Sound limits [] (ofLimits limits) := by
  refine ⟨rfl, ⟨_, Table.Aligned.empty⟩, Nat.zero_le _, List.nodup_nil, ?_, ?_, ?_⟩
  · intro id m hm
    simp [Session.ofLimits, table, Table.loadOf, Table.empty] at hm
  · intro ticket h
    simp at h
  · intro w h
    simp [Session.ofLimits] at h

theorem congr (h : Sound limits opened s) (hc : s'.cache = s.cache) (hb : s'.blocked = s.blocked) :
    Sound limits opened s' := by
  cases s
  cases s'
  subst hc hb
  exact ⟨h.limits_eq, h.aligned, h.within, h.distinct, h.loads, h.tickets, h.blocked⟩

theorem withTable (h : Sound limits opened s) (ha : ∃ l, t'.Aligned l)
    (hc : t'.residentCount ≤ limits.capacity) (hr : s.table.Released t') :
    Sound limits opened (s.withTable t') := by
  refine ⟨h.limits_eq, ha, hc, h.distinct, ?_, ?_, h.blocked⟩
  · intro id m hm
    exact h.loads ((congrFun hr.loads id).symm.trans hm)
  · intro ticket ht
    obtain ⟨hw, m, hm, hrest⟩ := h.tickets ticket ht
    refine ⟨?_, m, (congrFun hr.loads _).trans hm, hrest⟩
    rcases hr.window ticket.page with hx | hx
    · exact hx.trans hw
    · exact hx

theorem queued_eq_zero (h : Sound limits opened s) (hid : id ∉ opened.map Ticket.page) :
    s.queued id = 0 := by
  refine List.countP_eq_zero.mpr fun w hw => ?_
  obtain ⟨ticket, ht, rfl⟩ := h.blocked w hw
  intro e
  exact hid (List.mem_map.mpr ⟨ticket, ht, of_decide_eq_true e⟩)

theorem loadOf_eq (h : Sound limits opened s) (ht : ticket ∈ opened) :
    s.table.loadOf ticket.page = some (.started ticket.attempt (s.queued ticket.page)) := by
  obtain ⟨-, m, hm, ha, hf⟩ := h.tickets ticket ht
  obtain ⟨hk, hn, hl⟩ := h.loads hm
  have hl' := hl.mpr (List.mem_map_of_mem ht)
  rw [hm]
  cases m
  simp_all [LoadState.started]

theorem eq_of_page_eq (h : Sound limits opened s) {ticket' : Ticket} (ht : ticket ∈ opened)
    (ht' : ticket' ∈ opened) (hp : ticket.page = ticket'.page) : ticket = ticket' :=
  List.inj_on_of_nodup_map h.distinct ht ht' hp

theorem awaits (h : Sound limits opened s) {w : Waiter} (hw : w ∈ s.blocked) :
    s.table.Awaits w.page w.attempt := by
  obtain ⟨ticket, ht, rfl⟩ := h.blocked w hw
  refine ⟨(h.tickets ticket ht).1, _, h.loadOf_eq ht, rfl, rfl, rfl, ?_⟩
  exact List.countP_pos_iff.mpr ⟨_, hw, decide_eq_true rfl⟩

theorem lt_size (h : Sound limits opened s) (ht : ticket ∈ opened) :
    ticket.page < s.table.size := by
  obtain ⟨-, m, hm, -⟩ := h.tickets ticket ht
  obtain ⟨page, hp, -⟩ := Option.map_eq_some_iff.mp hm
  exact Table.lt_size_of_page hp

theorem steady (h : Sound limits opened s) : Steady limits opened s.table :=
  ⟨h.aligned, h.within, fun hm => (h.loads hm).2.2, fun ticket ht => (h.tickets ticket ht).1⟩

theorem loading_iff (h : Sound limits opened s) {page : Page Stamp}
    (hp : s.table.pages[id]? = some page) : page.loading ↔ id ∈ opened.map Ticket.page := by
  exact (h.loads (Table.loadOf_of_page hp)).2.2

theorem grow (h : Sound limits opened s) (id : PageId) (recordsPerPage : Nat) :
    Sound limits opened (s.withTable (s.table.growTo id recordsPerPage)) := by
  have old : ∀ {i}, i < s.table.size →
      (s.table.growTo id recordsPerPage).pages[i]? = s.table.pages[i]? := fun hi =>
    Table.getElem?_growTo_of_lt s.table id recordsPerPage hi
  obtain ⟨l, hal⟩ := h.aligned
  refine ⟨h.limits_eq, ⟨l, hal.growTo id recordsPerPage⟩, h.within, h.distinct, ?_, ?_, h.blocked⟩
  · intro i m hm
    obtain ⟨page, hp, rfl⟩ := Option.map_eq_some_iff.mp hm
    rcases Table.page_growTo hp with hp | ⟨hi, hp⟩
    · exact h.loads (Table.loadOf_of_page hp)
    · have hn : i ∉ opened.map Ticket.page := by
        intro hmem
        obtain ⟨ticket, ht, rfl⟩ := List.mem_map.mp hmem
        exact Nat.not_lt.mpr hi (h.lt_size ht)
      rw [hp]
      exact ⟨rfl, (h.queued_eq_zero hn).symm, iff_of_false Bool.false_ne_true hn⟩
  · intro ticket ht
    have hi := old (h.lt_size ht)
    obtain ⟨hw, hm⟩ := h.tickets ticket ht
    refine ⟨(Table.via_window_growTo ..).trans hw, ?_⟩
    obtain ⟨m, hm, hrest⟩ := hm
    exact ⟨m, (congrArg (Option.map Page.loadState) hi).trans hm, hrest⟩

theorem openLoad_of_size_le (hid : s.table.size ≤ id) :
    s.openLoad id = .error (.pageNotInTable id) := by
  have hp : s.cache.table.pages[id]? = none := Array.getElem?_eq_none hid
  simp [openLoad, Cache.request, hp, bind, Except.bind]

theorem openLoad_of_opened (h : Sound limits opened s) (hid : id ∈ opened.map Ticket.page) :
    s.openLoad id = .error (.wouldBlock id) := by
  obtain ⟨ticket, ht, rfl⟩ := List.mem_map.mp hid
  obtain ⟨page, hp⟩ := Table.exists_page (h.lt_size ht)
  have hl := (h.loading_iff hp).mpr hid
  have hp' : s.cache.table.pages[ticket.page]? = some page := hp
  simp [openLoad, Cache.request, hp', hl, bind, Except.bind]

theorem openLoad_of_resident {page : Page Stamp} {stamp : Stamp}
    (hp : s.table.pages[id]? = some page) (hw : page.window? = some stamp)
    (hl : page.loading = false) (e : s.table.recordHit s.limits id = .ok t') :
    s.openLoad id = .ok (.hit stamp, s.withTable t') := by
  rw [openLoad, Cache.request_of_resident hp hw hl e]
  rfl

theorem openLoad_hit (h : Sound limits opened s) {stamp : Stamp}
    (hw : s.table.via Page.window? id = some stamp) :
    ∃ t', s.table.recordHit s.limits id = .ok t' ∧
      s.openLoad id = .ok (.hit stamp, s.withTable t') ∧ Sound limits opened (s.withTable t') := by
  obtain ⟨l, hal⟩ := h.aligned
  obtain ⟨t', l', e, h', hr⟩ := hal.recordHit_retains hw s.limits
  obtain ⟨page, hp, hx⟩ := Option.bind_eq_some_iff.mp hw
  have hl : page.loading = false := by
    refine Bool.eq_false_iff.mpr fun hl => ?_
    obtain ⟨ticket, ht, rfl⟩ := List.mem_map.mp ((h.loading_iff hp).mp hl)
    rw [(h.tickets ticket ht).1] at hw
    cases hw
  refine ⟨t', e, openLoad_of_resident hp hx hl e, h.withTable ⟨l', h'⟩ ?_
    ⟨hr.toUndisturbed, fun i => Or.inl ?_⟩⟩
  · exact Nat.le_trans (Nat.le_of_eq hr.total) h.within
  · rw [hr.window]

theorem openLoad_of_idle {page : Page Stamp} (hp : s.table.pages[id]? = some page)
    (hw : page.window? = none) (hl : page.loading = false) :
    s.openLoad id = .ok (.miss ⟨id, page.attempt + 1, ⟨page.address, s.loads + 1⟩⟩,
      { s.withTable (s.table.setLoad id { page.loadState with
          loading := true, attempt := page.attempt + 1, failure? := none }) with
        loads := s.loads + 1 }) := by
  rw [openLoad, Cache.request_of_idle hp hw hl]
  rfl

theorem openLoad_miss (h : Sound limits opened s) (hm : s.Misses ticket) :
    s.openLoad ticket.page = .ok (.miss ticket, s.entered ticket 0) := by
  obtain ⟨page, hp, hw, hl, ha, hs⟩ := hm
  obtain ⟨hk, hn, hi⟩ := h.loads (Table.loadOf_of_page hp)
  have hq := h.queued_eq_zero (mt hi.mpr (Bool.eq_false_iff.mp hl))
  have hstate : { page.loadState with
      loading := true, attempt := page.attempt + 1, failure? := none } =
        LoadState.started ticket.attempt 0 := by
    rw [LoadState.started, ha]
    simp_all
  have hticket : (⟨ticket.page, page.attempt + 1, ⟨page.address, s.loads + 1⟩⟩ : Ticket) =
      ticket := by
    rw [← ha, ← hs]
  have e := openLoad_of_idle hp hw hl
  rw [hstate, hticket] at e
  rw [e, Session.entered, List.replicate_zero, List.append_nil]
  rfl

theorem block_entered (hw : s.table.via Page.window? ticket.page = none)
    (hid : ticket.page < s.table.size) (k : Nat) :
    (s.entered ticket k).block ticket.page n = .ok (s.entered ticket (k + n)) := by
  obtain ⟨page, hp⟩ := Table.exists_page hid
  have hx : page.window? = none := (Table.via_of_page hp Page.window?).symm.trans hw
  induction n generalizing k with
  | zero => rfl
  | succ n ih =>
    have hlap := Table.lap_blocked (Table.page_setLoad hp (.started ticket.attempt k))
      (by simp [Page.recast, hx]) rfl s.limits none
    rw [Table.setLoad_setLoad] at hlap
    have hnext : { (s.entered ticket k).withTable (s.table.setLoad ticket.page
        (.started ticket.attempt (k + 1))) with
        blocked := (s.entered ticket k).blocked ++ [⟨ticket.page, ticket.attempt⟩] } =
          s.entered ticket (k + 1) := by
      simp [entered, Session.withTable, List.replicate_succ', Ticket.waiter]
    rw [block]
    refine Eq.trans ?_ ((ih (k + 1)).trans (by rw [Nat.add_right_comm]; rfl))
    rw [← hnext]
    exact congrArg (· >>= _) hlap

theorem not_mem_of_misses (h : Sound limits opened s) (hm : s.Misses ticket) :
    ticket.page ∉ opened.map Ticket.page := by
  obtain ⟨page, hp, -, hl, -⟩ := hm
  exact mt (h.loading_iff hp).mpr (Bool.eq_false_iff.mp hl)

theorem entered (h : Sound limits opened s) (hm : s.Misses ticket) (n : Nat) :
    Sound limits (ticket :: opened) (s.entered ticket n) := by
  have hnot := h.not_mem_of_misses hm
  obtain ⟨page, hp, hw, -⟩ := hm
  have hload := Table.loadOf_of_page hp
  obtain ⟨l, hal⟩ := h.aligned
  have hwindow : (s.entered ticket n).table.via Page.window? = s.table.via Page.window? :=
    Table.via_window_setLoad ..
  have hloads := Table.loadOf_setLoad s.table ticket.page
    (.started ticket.attempt n)
  have hqueued : ∀ i, (s.entered ticket n).queued i =
      s.queued i + if i = ticket.page then n else 0 := by
    intro i
    by_cases hi : ticket.page = i
    · simp [queued, Session.entered, List.countP_replicate, Ticket.waiter, Waiter.isAt, hi]
    · simp [queued, Session.entered, List.countP_replicate, Ticket.waiter, Waiter.isAt, hi,
        Ne.symm hi]
  -- Only the load state of this page has changed, so the cases are split at it.
  refine ⟨h.limits_eq, ⟨l, hal.recast ..⟩, h.within, List.nodup_cons.mpr ⟨hnot, h.distinct⟩,
    ?_, ?_, ?_⟩
  · intro i m hm
    have hm := (hloads i).symm.trans hm
    rw [hqueued, List.map_cons, List.mem_cons]
    by_cases hi : i = ticket.page
    · subst hi
      rw [if_pos rfl, hload] at hm
      cases hm
      rw [h.queued_eq_zero hnot, if_pos rfl]
      exact ⟨rfl, (Nat.zero_add n).symm, iff_of_true rfl (Or.inl rfl)⟩
    · rw [if_neg hi] at hm
      rw [if_neg hi, or_iff_right hi]
      exact h.loads hm
  · intro other ho
    rw [hwindow]
    rcases List.mem_cons.mp ho with rfl | ho
    · refine ⟨(Table.via_of_page hp Page.window?).trans hw, .started other.attempt n, ?_, rfl, rfl⟩
      refine (hloads _).trans ?_
      rw [if_pos rfl, hload]
      rfl
    · obtain ⟨hx, m, hm, hrest⟩ := h.tickets other ho
      refine ⟨hx, m, ?_, hrest⟩
      refine (hloads _).trans ?_
      rw [if_neg (Ticket.page_ne hnot ho), hm]
  · intro w hmem
    rcases List.mem_append.mp hmem with hmem | hmem
    · obtain ⟨other, ho, e⟩ := h.blocked w hmem
      exact ⟨other, List.mem_cons_of_mem _ ho, e⟩
    · exact ⟨ticket, List.mem_cons_self, (List.mem_replicate.mp hmem).2⟩

end Sound

end Session

end RecordCache
