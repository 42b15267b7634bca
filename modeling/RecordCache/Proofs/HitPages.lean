import RecordCache.Proofs.Moments
/-! What becomes of pages that have been hit, when the upper tiers may take up the whole capacity.
Nothing is then demoted to the lowest tier, so a page that has been hit stays in the upper tiers.
The lowest tier is a plain queue of the pages that have not been hit, and admissions evict its head.
-/
namespace RecordCache

variable {limits : Limits} {deeds deeds' : List Deed} {deed : Deed} {r r' : Roster} {l : Lineup}
  {id i : PageId} {source tier : Tier} {n : Nat} {m m' : Moment}

def Deed.queue (ids : List PageId) : Deed → List PageId
  | .hit id => ids.erase id
  | .loaded id evicted => (ids ++ [id]).filter (· ∉ evicted)
  | .forcedOut id => ids.erase id

/-- The pages that have been loaded, and neither hit nor evicted since, in the order in which their
loads have ended. -/
def unhit (deeds : List Deed) : List PageId := deeds.foldl Deed.queue []

theorem unhit_concat (deeds : List Deed) (deed : Deed) :
    unhit (deeds ++ [deed]) = deed.queue (unhit deeds) :=
  List.foldl_concat ..

theorem concat_eq_append_cons {before after : List Deed} {deed' : Deed}
    (h : deeds ++ [deed] = before ++ deed' :: after) :
    (after = [] ∧ deeds = before ∧ deed = deed') ∨
      ∃ after', after = after' ++ [deed] ∧ deeds = before ++ deed' :: after' := by
  rcases List.eq_nil_or_concat after with rfl | ⟨after, last, rfl⟩
  · obtain ⟨hd, hx⟩ := List.append_inj' h rfl
    exact Or.inl ⟨rfl, hd, List.cons.inj hx |>.1⟩
  · rw [List.concat_eq_append, ← List.cons_append, ← List.append_assoc] at h
    obtain ⟨hd, hx⟩ := List.append_inj' h rfl
    exact Or.inr ⟨after, by rw [List.concat_eq_append, hx], hd⟩

namespace Lineup

theorem length_upper_demote (l : Lineup) (n : Nat) :
    (l.demote .longTerm .shortTerm n).upper.length = l.upper.length := by
  simp only [upper, demote, PerTier.modify, PerTier.set, PerTier.get, List.length_append,
    List.length_take, List.length_drop]
  omega

theorem enforce_of_le (id : PageId) (h : l.upper.length ≤ limits.protectedLimit) :
    l.enforce limits id = l.demote .longTerm .shortTerm
      (min (l.longTerm.length - limits.longTermLimit) (l.longTerm.idxOf id)) := by
  have hlen := l.length_upper_demote
    (min (l.longTerm.length - limits.longTermLimit) (l.longTerm.idxOf id))
  rw [upper, List.length_append] at hlen
  rw [enforce, hlen, Nat.sub_eq_zero_of_le h, Nat.zero_min]
  exact demote_zero (by decide) _

theorem mem_upper_demote (h : i ∈ l.upper) :
    i ∈ (l.demote .longTerm .shortTerm n).upper := by
  rw [upper, List.mem_append] at h ⊢
  simp only [demote, PerTier.modify, PerTier.set, PerTier.get]
  rcases h with h | h
  · exact Or.inl (List.mem_append_left _ h)
  · rw [← List.take_append_drop n l.longTerm] at h
    rcases List.mem_append.mp h with h | h
    · exact Or.inl (List.mem_append_right _ h)
    · exact Or.inr h

theorem length_upper_moveTo_le (hm : id ∈ l.get source) (hs : ∀ u, id ∈ l.get u → u = source)
    (tier : Tier) : (l.moveTo id tier).upper.length ≤ l.all.length := by
  have hlength : ∀ u, ((l.moveTo id tier).get u).length = _ := length_moveTo hm hs
  have hshort := hlength .shortTerm
  have hlong := hlength .longTerm
  have hpos := List.length_pos_of_mem hm
  simp only [PerTier.get] at hshort hlong hpos
  rw [upper, all, List.length_append, List.length_append, List.length_append, hshort, hlong]
  cases source <;> cases tier <;> simp at hpos ⊢ <;> omega

theorem mem_upper_moveTo (ht : tier ≠ .unknown) (h : i ∈ l.upper) :
    i ∈ (l.moveTo id tier).upper := by
  rw [mem_upper] at h ⊢
  by_cases hi : i = id
  · refine ⟨tier, ht, ?_⟩
    rw [get_moveTo, if_pos rfl, hi]
    exact List.mem_append_right _ (List.mem_singleton_self id)
  · obtain ⟨u, hu, h⟩ := h
    refine ⟨u, hu, ?_⟩
    have h := (List.mem_erase_of_ne hi).mpr h
    rw [get_moveTo]
    split
    · exact List.mem_append_left _ h
    · exact h

end Lineup

namespace Roster

section

variable (hr : r.Proper limits) (hfull : limits.protectedLimit = limits.capacity)
include hr hfull

theorem Proper.hit_lineup (hm : id ∈ r.lineup.get source) :
    (r.hit limits source id).lineup.unknown = r.lineup.unknown.erase id ∧
      ∀ i ∈ r.lineup.upper, i ∈ (r.hit limits source id).lineup.upper := by
  rw [hit]
  cases hx : r.promotion? id source with
  | none =>
    refine ⟨(List.erase_of_not_mem fun hu => ?_).symm, fun i hi => hi⟩
    have hu : id ∈ r.lineup.get .unknown := hu
    obtain rfl := hr.tier_eq hu hm
    cases hx
  | some tier =>
    have ht : tier ≠ .unknown := by
      rintro rfl
      have hp := promotion?_eq_some hx
      cases source <;> cases hp
    have hle := Lineup.length_upper_moveTo_le hm (fun _ => hr.tier_eq hm) tier
    have he := Lineup.enforce_of_le id
      (Nat.le_trans hle (Nat.le_trans hr.within (Nat.le_of_eq hfull.symm)))
    constructor
    · calc ((r.lineup.moveTo id tier).enforce limits id).unknown
        _ = (r.lineup.moveTo id tier).get .unknown := by rw [he]; rfl
        _ = r.lineup.unknown.erase id := by rw [Lineup.get_moveTo, if_neg (Ne.symm ht)]; rfl
    · intro i hi
      have hi : i ∈ (r.lineup.moveTo id tier).upper := Lineup.mem_upper_moveTo ht hi
      rw [Lineup.hit, Option.elim_some, he]
      exact Lineup.mem_upper_demote hi

/-- Only by force does a page of the upper tiers leave them. -/
theorem Effect.mem_upper (e : r.Effect limits deed r') (hi : i ∈ r.lineup.upper)
    (hd : deed ≠ .forcedOut i) : i ∈ r'.lineup.upper := by
  cases e with
  | hit hm => exact (hr.hit_lineup hfull hm).2 i hi
  | loaded _ => exact hi
  | @forcedOut source id _ =>
    obtain ⟨u, hu, hi⟩ := Lineup.mem_upper.mp hi
    refine Lineup.mem_upper.mpr ⟨u, hu, (Lineup.mem_without hr.nodup).mpr ⟨?_, hi⟩⟩
    rintro rfl
    exact hd rfl

end

/-- The lowest tier is the queue of the pages that have not been hit, and has no reference bits. -/
structure Queued (deeds : List Deed) (r : Roster) : Prop where
  unknown : r.lineup.unknown = unhit deeds
  unreferenced : ∀ i ∈ r.lineup.unknown, r.referenced i = false

theorem Proper.nodup_concat (hr : r.Proper limits) (hn : ∀ u, id ∉ r.lineup.get u) :
    (r.lineup.unknown ++ [id]).Nodup := by
  refine List.nodup_append.mpr ⟨hr.nodup .unknown, List.nodup_singleton id, fun a ha b hb => ?_⟩
  rintro rfl
  rw [List.mem_singleton.mp hb] at ha
  exact hn .unknown ha

theorem Proper.unreferenced_concat (hr : r.Proper limits) (hn : ∀ u, id ∉ r.lineup.get u)
    (hu : ∀ i ∈ r.lineup.unknown, r.referenced i = false) :
    ∀ i ∈ r.lineup.unknown ++ [id], r.referenced i = false := by
  intro i hi
  rcases List.mem_append.mp hi with hi | hi
  · exact hu i hi
  · rw [List.mem_singleton.mp hi]
    exact hr.idle hn

/-- The page that leaves on an admission is the one that was not hit for longest. -/
theorem Proper.displaced_eq (hr : r.Proper limits) (hn : ∀ u, id ∉ r.lineup.get u)
    (hu : ∀ i ∈ r.lineup.unknown, r.referenced i = false) :
    r.lineup.displaced limits.capacity r.referenced id =
      if r.lineup.all.length < limits.capacity then []
      else (r.lineup.unknown ++ [id]).take 1 := by
  rw [Lineup.displaced]
  split
  · rfl
  · cases hq : r.lineup.unknown ++ [id] with
    | nil => rfl
    | cons head rest =>
      have hx := hr.unreferenced_concat hn hu head (hq ▸ List.mem_cons_self)
      rw [List.dropWhile_cons, hx]
      rfl

theorem filter_not_mem_take_one {ids : List PageId} (h : ids.Nodup) :
    ids.filter (· ∉ ids.take 1) = ids.tail := by
  cases ids with
  | nil => rfl
  | cons head rest =>
    have hhead := (List.nodup_cons.mp h).1
    simp only [List.take_succ_cons, List.take_zero, List.mem_singleton, List.tail_cons]
    rw [List.filter_cons_of_neg (by simp)]
    refine List.filter_eq_self.mpr fun i hi => ?_
    have hne : i ≠ head := fun e => hhead (e ▸ hi)
    simpa using hne

theorem Queued.concat (hq : r.Queued deeds) (hr : r.Proper limits)
    (hfull : limits.protectedLimit = limits.capacity) (e : r.Effect limits deed r') :
    r'.Queued (deeds ++ [deed]) := by
  have hu := hq.unreferenced
  cases e with
  | @hit source id hm =>
    have hunknown := (hr.hit_lineup hfull hm).1
    refine ⟨?_, fun i hi => ?_⟩
    · rw [hunknown, unhit_concat, hq.unknown]
      rfl
    · rw [hunknown] at hi
      obtain ⟨hne, hi⟩ := (hr.nodup .unknown).mem_erase_iff.mp hi
      simp [Roster.hit, hu i hi, hne]
  | @loaded id hn =>
    have hrecycle := recycle_unreferenced (hr.unreferenced_concat hn hu)
    constructor
    · rw [unhit_concat, Deed.queue, ← hq.unknown, hr.displaced_eq hn hu]
      rw [Roster.intake, Lineup.intake]
      by_cases hc : r.lineup.all.length < limits.capacity
      · rw [if_pos hc, if_pos hc]
        exact (List.filter_eq_self.mpr fun i _ => by simp).symm
      · rw [if_neg hc, if_neg hc, hrecycle, filter_not_mem_take_one (hr.nodup_concat hn)]
        rfl
    · intro i hi
      have hi : i ∈ r.lineup.unknown ++ [id] := by
        rw [Roster.intake, Lineup.intake] at hi
        split at hi
        · exact hi
        · exact mem_of_mem_recycle hi
      simp [Roster.intake, hr.unreferenced_concat hn hu i hi]
  | @forcedOut source id _ =>
    refine ⟨?_, fun i hi => ?_⟩
    · rw [unhit_concat, ← hq.unknown]
      rfl
    · have hi : i ∈ r.lineup.unknown := List.mem_of_mem_erase hi
      simp [Roster.leave, hu i hi]

section

variable (hfull : limits.protectedLimit = limits.capacity)
include hfull

theorem Replay.queued (h : empty.Replay limits deeds r) : r.Queued deeds := by
  induction h with
  | nil => exact ⟨rfl, fun i hi => absurd hi List.not_mem_nil⟩
  | snoc _ hp he ih => exact ih.concat hp hfull he

theorem Replay.mem_upper (h : r.Replay limits deeds r') (hi : i ∈ r.lineup.upper)
    (hd : .forcedOut i ∉ deeds) : i ∈ r'.lineup.upper := by
  induction h with
  | nil => exact hi
  | snoc _ hp he ih =>
    rw [List.mem_append, not_or, List.mem_singleton] at hd
    exact he.mem_upper hp hfull (ih hd.1) (Ne.symm hd.2)

/-- Once a page has been hit, it stays in the upper tiers while it is not evicted by force. -/
theorem Replay.mem_upper_of_hit {before after : List Deed} (h : r.Replay limits deeds r')
    (hd : deeds = before ++ .hit i :: after) (hf : .forcedOut i ∉ after) :
    i ∈ r'.lineup.upper := by
  induction h generalizing after with
  | nil => cases List.append_eq_nil_iff.mp hd.symm |>.2
  | snoc _ hp he ih =>
    rcases concat_eq_append_cons hd with ⟨-, -, rfl⟩ | ⟨after, rfl, hd₁⟩
    · cases he with
      | hit hm => exact mem_upper_hit hm
    · rw [List.mem_append, not_or, List.mem_singleton] at hf
      exact he.mem_upper hp hfull (ih hd₁ hf.1) (Ne.symm hf.2)

theorem Replay.head?_of_loaded {before after : List Deed} {evicted : List PageId}
    (h : empty.Replay limits deeds r) (hd : deeds = before ++ .loaded id evicted :: after) :
    ∀ v ∈ evicted, (unhit before ++ [id]).head? = some v := by
  induction h generalizing after with
  | nil => cases List.append_eq_nil_iff.mp hd.symm |>.2
  | snoc h hp he ih =>
    rcases concat_eq_append_cons hd with ⟨-, rfl, rfl⟩ | ⟨after, -, hd₁⟩
    · have hq := h.queued hfull
      cases he with
      | loaded hn =>
        intro v hv
        rw [hp.displaced_eq hn hq.unreferenced, hq.unknown] at hv
        split at hv
        · cases hv
        · rw [List.take_one] at hv
          exact Option.mem_toList.mp hv
    · exact ih hd₁

end

theorem Replay.not_mem_of_forced (h : r.Replay limits deeds r')
    (hd : ∀ deed ∈ deeds, ∃ j, deed = .forcedOut j) (hi : .forcedOut i ∈ deeds) (u : Tier) :
    i ∉ r'.lineup.get u := by
  induction h with
  | nil => cases hi
  | @snoc deeds r₁ _ deed _ hp he ih =>
    obtain ⟨j, rfl⟩ := hd deed (by simp)
    have hd := fun d hd' => hd d (List.mem_append_left _ hd')
    cases he with
    | forcedOut _ =>
      rw [Roster.leave, Lineup.mem_without hp.nodup, not_and]
      intro hne
      rcases List.mem_append.mp hi with hi | hi
      · exact ih hd hi
      · cases List.mem_singleton.mp hi
        exact absurd rfl hne

end Roster

structure HitsKept (deeds : List Deed) (m : Moment) : Prop where
  evictions : m.session.evictions.map Eviction.page = deeds.flatMap Deed.evicted
  /-- The lowest tier is the queue of the pages that have not been hit since their loads. -/
  queue : m.session.table.members .unknown = unhit deeds
  unreferenced : ∀ (id : PageId) (page : Page Stamp), m.session.table.pages[id]? = some page →
    page.isResident → page.tier = .unknown → page.referenced = false
  /-- No page that stays resident is demoted to the lowest tier. -/
  undemoted : ∀ deeds' m', Move m deeds' m' → ∀ id tier tier', m.session.table.Resides id tier →
    tier ≠ .unknown → m'.session.table.Resides id tier' → tier' ≠ .unknown
  /-- Once a page has been hit, it stays in the upper tiers until it is evicted by force. -/
  hit : ∀ before id after, deeds = before ++ .hit id :: after → .forcedOut id ∉ after →
    ∃ tier, tier ≠ .unknown ∧ m.session.table.Resides id tier
  /-- The end of a load evicts, of the pages not hit since their loads, the one whose load has ended
  first. -/
  evicted : ∀ before id evicted after, deeds = before ++ .loaded id evicted :: after →
    ∀ v ∈ evicted, (unhit before ++ [id]).head? = some v

theorem Move.forced (h : Move m deeds m') (hi : .forcedOut i ∈ deeds) :
    ∀ deed ∈ deeds, ∃ j, deed = .forcedOut j := by
  cases h with
  | grow | start => cases hi
  | hit => cases List.mem_singleton.mp hi
  | finish =>
    rw [Ticket.deeds] at hi
    split at hi
    · cases List.mem_singleton.mp hi
    · cases hi
  | wake =>
    rw [Waiter.deeds] at hi
    split at hi
    · cases List.mem_singleton.mp hi
    · cases hi
  | forceEvict | forceEvictAll =>
    intro deed hd
    obtain ⟨x, -, rfl⟩ := List.mem_map.mp hd
    exact ⟨x.page, rfl⟩

section

variable (hfull : limits.protectedLimit = limits.capacity)
include hfull

/-- A page of the upper tiers leaves them only by force, and with them its residency. -/
theorem Move.undemoted (hm : Move m deeds m') (h : Standing limits m)
    (hr : m.session.table.Shows r) {tier' : Tier} (hi : m.session.table.Resides i tier)
    (ht : tier ≠ .unknown) (hi' : m'.session.table.Resides i tier') : tier' ≠ .unknown := by
  obtain ⟨r', l⟩ := hm.leads h hr
  rw [l.roster.resides_iff] at hi'
  by_cases hf : .forcedOut i ∈ deeds
  · exact absurd hi' (l.replay.not_mem_of_forced (hm.forced hf) hf tier')
  · have hu := l.replay.mem_upper hfull (Lineup.mem_upper.mpr ⟨tier, ht, hr.resides_iff.mp hi⟩) hf
    obtain ⟨u, hu, hm'⟩ := Lineup.mem_upper.mp hu
    rw [l.roster.aligned.linked.tier_eq hm' hi']
    exact hu

theorem Course.hitsKept (c : Course (.fresh limits) deeds m) : HitsKept deeds m := by
  obtain ⟨r, l⟩ := c.leads_fresh
  have hr := l.roster
  have hq := l.replay.queued hfull
  refine ⟨l.evictions, ?_, ?_, fun _ _ hm _ _ _ => hm.undemoted hfull l.standing hr, ?_,
    fun _ _ _ _ hd => l.replay.head?_of_loaded hfull hd⟩
  · rw [hr.aligned.linked.members_eq]
    exact hq.unknown
  · intro id page hp hx ht
    rw [← Table.isReferenced_of_page hp, hr.referenced]
    exact hq.unreferenced id (hr.resides_iff.mp ⟨page, hp, hx, ht⟩)
  · intro before id after hd hf
    obtain ⟨u, hu, hm⟩ := Lineup.mem_upper.mp (l.replay.mem_upper_of_hit hfull hd hf)
    exact ⟨u, hu, hr.resides_iff.mpr hm⟩

theorem Session.Reachable.run_resides {opened : List Ticket} {s : Session} {ops : List Op}
    (h : Reachable limits opened s) (hi : s.table.Resides i tier) (ht : tier ≠ .unknown)
    (hf : ¬Op.AnyForces i ops) :
    ∃ tier', tier' ≠ .unknown ∧ (s.run ops).2.table.Resides i tier' := by
  obtain ⟨l, hal⟩ := h.sound.aligned
  obtain ⟨deeds, c, hd⟩ := h.sound.run_course ops
  obtain ⟨r', l'⟩ := c.leads (Or.inl ⟨rfl, h.sound⟩) hal.shows
  have hu := l'.replay.mem_upper hfull
    (Lineup.mem_upper.mpr ⟨tier, ht, hal.shows.resides_iff.mp hi⟩) (mt (hd i) hf)
  obtain ⟨u, hu, hm⟩ := Lineup.mem_upper.mp hu
  exact ⟨u, hu, l'.roster.resides_iff.mpr hm⟩

/-- Let the upper tiers take up the whole capacity. In every run, taken move by move, pages that
have been hit then stay in the upper tiers until they are evicted by force, and the others leave in
the order in which they have come. Runs of operations are such runs, in which pages are evicted by
force only where an operation says so. -/
theorem hit_pages_stay :
    (∀ deeds m, Course (.fresh limits) deeds m → HitsKept deeds m) ∧
    (∀ opened s, Session.Free limits opened s →
      ∃ deeds woken, Course (.fresh limits) deeds ⟨opened, s, woken⟩) ∧
    (∀ opened s op, Session.Reachable limits opened s →
      ∃ deeds, Course ⟨opened, s, []⟩ deeds ⟨opened, (s.step op).2, []⟩ ∧
        ∀ id, .forcedOut id ∈ deeds → op.Forces id) ∧
    ∀ opened s ops id tier, Session.Reachable limits opened s → s.table.Resides id tier →
      tier ≠ .unknown → ¬Op.AnyForces id ops →
        ∃ tier', tier' ≠ .unknown ∧ (s.run ops).2.table.Resides id tier' := by
  refine ⟨fun deeds m c => c.hitsKept hfull, fun opened s h => h.course, ?_, ?_⟩
  · intro opened s op h
    exact h.sound.step_course op
  · intro opened s ops id tier h hi ht hf
    exact h.run_resides hfull hi ht hf

end

/-- Page 0 is hit after its load. Of pages 1 and 2, which come after it, the first has to go. -/
theorem hit_page_stays_in_two_places :
    ∃ m, Course (.fresh ⟨2, 2, 1⟩) [.loaded 0 [], .hit 0, .loaded 1 [], .loaded 2 [1]] m ∧
      (∃ tier, tier ≠ .unknown ∧ m.session.table.Resides 0 tier) ∧
      m.session.table.members .unknown = [2] ∧
      (unhit [.loaded 0 [], .hit 0, .loaded 1 []] ++ [2]).head? = some 1 := by
  have c₁ : Course (.fresh ⟨2, 2, 1⟩) _ _ := .single (.grow [] _ 2 8)
  have c₂ : Course (.fresh ⟨2, 2, 1⟩) _ _ := c₁.tail (.start [] 0 0 rfl rfl)
  have c₃ : Course (.fresh ⟨2, 2, 1⟩) _ _ := c₂.tail (.finish [] none rfl)
  have c₄ : Course (.fresh ⟨2, 2, 1⟩) _ _ := c₃.tail (.hit [] 0 rfl)
  have c₅ : Course (.fresh ⟨2, 2, 1⟩) _ _ := c₄.tail (.start [] 1 0 rfl rfl)
  have c₆ : Course (.fresh ⟨2, 2, 1⟩) _ _ := c₅.tail (.finish [] none rfl)
  have c₇ : Course (.fresh ⟨2, 2, 1⟩) _ _ := c₆.tail (.start [] 2 0 rfl rfl)
  have c : Course (.fresh ⟨2, 2, 1⟩) _ _ := c₇.tail (.finish [] none rfl)
  have k := (hit_pages_stay rfl).1 _ _ c
  exact ⟨_, c, k.hit [.loaded 0 []] 0 [.loaded 1 [], .loaded 2 [1]] rfl (by decide), k.queue,
    k.evicted _ 2 [1] [] rfl 1 List.mem_cons_self⟩

end RecordCache
