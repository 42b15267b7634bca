import Mathlib.Data.List.Nodup
import RecordCache.Fault
/-! Paths of links. A path is what a walk meets that starts at a cursor and follows one link after
another until there is none. Both directions of a linked list are paths, so each law about taking a
page out or putting one in is stated once for a direction. -/
namespace RecordCache

variable {next next' : PageId → Option PageId} {cursor? : Option PageId} {ids : List PageId}
  {a b id : PageId}

def Path (next : PageId → Option PageId) : Option PageId → List PageId → Prop
  | cursor?, [] => cursor? = none
  | cursor?, id :: ids => cursor? = some id ∧ Path next (next id) ids

namespace Path

theorem cursor_eq (h : Path next cursor? ids) : cursor? = ids.head? := by
  cases ids with
  | nil => exact h
  | cons _ _ => exact h.1

theorem congr (h : Path next cursor? ids) (he : ∀ i ∈ ids, next' i = next i) :
    Path next' cursor? ids := by
  induction ids generalizing cursor? with
  | nil => exact h
  | cons a ids ih =>
    refine ⟨h.1, ?_⟩
    rw [he a List.mem_cons_self]
    exact ih h.2 fun i hi => he i (List.mem_cons_of_mem _ hi)

theorem unique {ids' : List PageId} (h : Path next cursor? ids) (h' : Path next cursor? ids') :
    ids = ids' := by
  induction ids generalizing cursor? ids' with
  | nil =>
    have := h'.cursor_eq
    cases ids' with
    | nil => rfl
    | cons b _ => rw [h] at this; simp at this
  | cons a ids ih =>
    cases ids' with
    | nil => rw [h.1] at h'; exact absurd h' (by simp [Path])
    | cons b ids' =>
      have hab : a = b := Option.some.inj (h.1.symm.trans h'.1)
      subst hab
      rw [ih h.2 h'.2]

theorem of_append {before : List PageId} (h : Path next cursor? (before ++ ids)) :
    ∃ cursor?, Path next cursor? ids := by
  induction before generalizing cursor? with
  | nil => exact ⟨cursor?, h⟩
  | cons a before ih => exact ih h.2

/-- A walk that ends meets no page twice: from there it would go on as it did the first time. -/
theorem nodup (h : Path next cursor? ids) : ids.Nodup := by
  induction ids generalizing cursor? with
  | nil => exact List.nodup_nil
  | cons a ids ih =>
    refine List.nodup_cons.mpr ⟨fun ha => ?_, ih h.2⟩
    obtain ⟨before, after, rfl⟩ := List.append_of_mem ha
    obtain ⟨again?, hagain⟩ := h.2.of_append
    have hsame : before ++ a :: after = after := h.2.unique hagain.2
    have hlength := congrArg List.length hsame
    rw [List.length_append, List.length_cons] at hlength
    omega

theorem next_mem (h : Path next cursor? ids) (ha : a ∈ ids) (hn : next a = some b) : b ∈ ids := by
  induction ids generalizing cursor? with
  | nil => cases ha
  | cons c ids ih =>
    rcases List.mem_cons.mp ha with rfl | ha
    · have := h.2.cursor_eq
      rw [hn] at this
      exact List.mem_cons_of_mem _ (List.mem_of_mem_head? this.symm)
    · exact List.mem_cons_of_mem _ (ih h.2 ha)

theorem next_eq_some_iff (h : Path next cursor? ids) (hd : ids.Nodup) (ha : a ∈ ids) :
    next a = some b ↔ [a, b] <:+: ids := by
  induction ids generalizing cursor? with
  | nil => cases ha
  | cons c ids ih =>
    obtain ⟨hc, hd⟩ := List.nodup_cons.mp hd
    rw [List.infix_cons_iff]
    rcases List.mem_cons.mp ha with rfl | ha
    · have hn : ¬[a, b] <:+: ids := fun hi => hc (hi.subset (by simp))
      rw [h.2.cursor_eq, or_iff_left hn, List.cons_prefix_cons]
      cases ids with
      | nil => simp
      | cons d ids => simp [List.cons_prefix_cons, eq_comm]
    · have hne : a ≠ c := fun e => hc (e ▸ ha)
      rw [ih h.2 hd ha]
      simp [List.cons_prefix_cons, hne]

theorem next_eq_none_iff (h : Path next cursor? ids) (hd : ids.Nodup) (ha : a ∈ ids) :
    next a = none ↔ ids.getLast? = some a := by
  induction ids generalizing cursor? with
  | nil => cases ha
  | cons c ids ih =>
    obtain ⟨hc, hd⟩ := List.nodup_cons.mp hd
    rcases List.mem_cons.mp ha with rfl | ha
    · rw [h.2.cursor_eq]
      cases ids with
      | nil => simp
      | cons b ids =>
        have hl : (b :: ids).getLast? ≠ some a := fun e => hc (List.mem_of_getLast? e)
        simpa [List.getLast?_cons_cons] using hl
    · rw [ih h.2 hd ha]
      cases ids with
      | nil => cases ha
      | cons b ids => rw [List.getLast?_cons_cons]

theorem next_ne_self (h : Path next cursor? ids) (hd : ids.Nodup) (ha : a ∈ ids) :
    next a ≠ some a := by
  rw [Ne, h.next_eq_some_iff hd ha]
  intro hi
  have := hd.sublist hi.sublist
  simp at this

/-- The two directions of one list agree on which page precedes which. -/
theorem next_iff_prev {prev : PageId → Option PageId} {end? : Option PageId}
    (h : Path next cursor? ids) (k : Path prev end? ids.reverse) (hd : ids.Nodup)
    (ha : a ∈ ids) (hb : b ∈ ids) : next a = some b ↔ prev b = some a := by
  rw [h.next_eq_some_iff hd ha,
    k.next_eq_some_iff (List.nodup_reverse.mpr hd) (List.mem_reverse.mpr hb),
    ← List.reverse_infix]
  rfl

theorem erase (next' : PageId → Option PageId) (id : PageId) (h : Path next cursor? ids)
    (hd : ids.Nodup)
    (he : ∀ i ∈ ids, i ≠ id → next' i = if next i = some id then next id else next i) :
    Path next' (if cursor? = some id then next id else cursor?) (ids.erase id) := by
  induction ids generalizing cursor? with
  | nil => simp_all [Path]
  | cons a ids ih =>
    obtain ⟨ha, hd⟩ := List.nodup_cons.mp hd
    by_cases hi : a = id
    · subst hi
      simp only [h.1, ↓reduceIte, List.erase_cons_head]
      refine h.2.congr fun i hm => ?_
      have hne : next i ≠ some a := fun e => ha (h.2.next_mem hm e)
      rw [he i (List.mem_cons_of_mem _ hm) (fun e => ha (e ▸ hm)), if_neg hne]
    · rw [List.erase_cons_tail (by simpa using hi), if_neg (by simpa [h.1] using hi)]
      refine ⟨h.1, ?_⟩
      rw [he a List.mem_cons_self hi]
      exact ih h.2 hd fun i hm => he i (List.mem_cons_of_mem _ hm)

theorem append_singleton (h : Path next cursor? ids) (hd : ids.Nodup) (hid : next' id = none)
    (hl : ∀ i ∈ ids, next' i = if ids.getLast? = some i then some id else next i) :
    Path next' (cursor?.or (some id)) (ids ++ [id]) := by
  induction ids generalizing cursor? with
  | nil => simp_all [Path]
  | cons a ids ih =>
    obtain ⟨ha, hd⟩ := List.nodup_cons.mp hd
    refine ⟨by simp [h.1], ?_⟩
    rw [hl a List.mem_cons_self]
    cases ids with
    | nil => simp [Path, hid]
    | cons b ids =>
      have hn : (a :: b :: ids).getLast? ≠ some a := by
        rw [List.getLast?_cons_cons]
        exact fun e => ha (List.mem_of_getLast? e)
      have hk := ih h.2 hd fun i hi => by
        rw [hl i (List.mem_cons_of_mem _ hi), List.getLast?_cons_cons]
      rw [if_neg hn]
      simpa [h.2.1] using hk

end Path

end RecordCache
