import Mathlib.Logic.Relation
import RecordCache.Proofs.IntegrityCheck
/-! Links that go round. Following links that stay inside the table comes to an end or comes round,
for there is only so much to meet on the way. The integrity check counts its steps on the way back
along a list and reports a cycle there; on the way forward it counts none, and on a cycle it runs
for ever. So it ends on a table exactly if no list that it gets to goes round forward. -/
namespace RecordCache

open Relation (ReflTransGen TransGen)

variable {next : PageId → Option PageId} {cursor? : Option PageId} {ids : List PageId}
  {a b : PageId}

def Link (next : PageId → Option PageId) (a b : PageId) : Prop := next a = some b

/-- From the cursor the links lead to a page that they lead back to. -/
def Cyclic (next : PageId → Option PageId) (cursor? : Option PageId) : Prop :=
  ∃ a b, cursor? = some a ∧ ReflTransGen (Link next) a b ∧ TransGen (Link next) b b

theorem not_cyclic_none : ¬Cyclic next none := by
  rintro ⟨a, b, ha, -⟩
  cases ha

/-- To come round is to come round from the next page on: a page on a cycle is met again. -/
theorem cyclic_some_iff : Cyclic next (some a) ↔ Cyclic next (next a) := by
  constructor
  · rintro ⟨_, b, ⟨rfl⟩, hab, hb⟩
    have hstep : ∃ c, Link next a c ∧ ReflTransGen (Link next) c b := by
      rcases ReflTransGen.cases_head hab with rfl | hstep
      · exact TransGen.head'_iff.mp hb
      · exact hstep
    obtain ⟨c, hac, hcb⟩ := hstep
    exact ⟨c, b, hac, hcb, hb⟩
  · rintro ⟨b, c, hab, hbc, hc⟩
    exact ⟨a, c, rfl, ReflTransGen.head hab hbc, hc⟩

theorem Path.not_cyclic (h : Path next cursor? ids) : ¬Cyclic next cursor? := by
  induction ids generalizing cursor? with
  | nil => exact h ▸ not_cyclic_none
  | cons a ids ih =>
    rw [h.1, cyclic_some_iff]
    exact ih h.2

section

variable {n room : Nat} {seen : List PageId} (within : ∀ {a b}, next a = some b → b < n)
include within

/-- The induction is on how many pages the walk has not seen yet. A page seen before leads to the
cursor, so to meet it again closes a cycle. -/
theorem path_or_cyclic_of_seen (hcursor : ∀ a, cursor? = some a → a < n) (hseen : ∀ a ∈ seen, a < n)
    (nodup : seen.Nodup) (leads : ∀ a ∈ seen, ∀ b, cursor? = some b → TransGen (Link next) a b)
    (hroom : n < seen.length + room) : (∃ ids, Path next cursor? ids) ∨ Cyclic next cursor? := by
  induction room generalizing cursor? seen with
  | zero =>
    have hlength := length_le_of_nodup nodup hseen
    omega
  | succ room ih =>
    cases cursor? with
    | none => exact .inl ⟨[], rfl⟩
    | some a =>
      by_cases ha : a ∈ seen
      · exact .inr ⟨a, a, rfl, .refl, leads a ha a rfl⟩
      · have hleads : ∀ i ∈ a :: seen, ∀ b, next a = some b → TransGen (Link next) i b := by
          intro i hi b hb
          rcases List.mem_cons.mp hi with rfl | hi
          · exact .single hb
          · exact (leads i hi a rfl).tail hb
        have hstep := ih (fun b hb => within hb)
          (List.forall_mem_cons.mpr ⟨hcursor a rfl, hseen⟩) (List.nodup_cons.mpr ⟨ha, nodup⟩)
          hleads (by rw [List.length_cons]; omega)
        rcases hstep with ⟨ids, hids⟩ | hcyclic
        · exact .inl ⟨a :: ids, rfl, hids⟩
        · exact .inr (cyclic_some_iff.mpr hcyclic)

/-- Links that stay among finitely many pages lead to an end, unless they go round. -/
theorem exists_path_iff_not_cyclic (hcursor : ∀ a, cursor? = some a → a < n) :
    (∃ ids, Path next cursor? ids) ↔ ¬Cyclic next cursor? := by
  constructor
  · rintro ⟨ids, h⟩
    exact h.not_cyclic
  · exact (path_or_cyclic_of_seen within hcursor (List.forall_mem_nil _) List.nodup_nil
      (List.forall_mem_nil _) (by simp : n < [].length + (n + 1))).resolve_right

theorem Path.forall_lt (h : Path next cursor? ids) (hcursor : ∀ a, cursor? = some a → a < n) :
    ∀ a ∈ ids, a < n := by
  induction ids generalizing cursor? with
  | nil => exact List.forall_mem_nil _
  | cons a ids ih =>
    exact List.forall_mem_cons.mpr ⟨hcursor a h.1, ih h.2 fun b hb => within hb⟩

end

namespace Table

variable {W : Type} {t : Table W} {tier : Tier} {limit : Nat} {step : Page W → Option PageId}
  {result : Except Fault Unit}

/-- Both ends of every list and both links of every page name pages of the table. -/
structure LinksWithin (t : Table W) : Prop where
  head : ∀ tier, ∀ i ∈ (t.chains.get tier).head?, i < t.size
  tail : ∀ tier, ∀ i ∈ (t.chains.get tier).tail?, i < t.size
  next : ∀ page ∈ t.pages, ∀ i ∈ page.next?, i < t.size
  prev : ∀ page ∈ t.pages, ∀ i ∈ page.prev?, i < t.size

instance (t : Table W) : Decidable t.LinksWithin :=
  decidable_of_iff
    ((∀ tier ∈ Tier.all, (∀ i ∈ (t.chains.get tier).head?, i < t.size) ∧
        ∀ i ∈ (t.chains.get tier).tail?, i < t.size) ∧
      ∀ page ∈ t.pages, (∀ i ∈ page.next?, i < t.size) ∧ ∀ i ∈ page.prev?, i < t.size)
    ⟨fun ⟨hchains, hpages⟩ =>
      ⟨fun tier => (hchains tier (Tier.mem_all tier)).1,
        fun tier => (hchains tier (Tier.mem_all tier)).2,
        fun page hp => (hpages page hp).1, fun page hp => (hpages page hp).2⟩,
    fun h => ⟨fun tier _ => ⟨h.head tier, h.tail tier⟩,
      fun page hp => ⟨h.next page hp, h.prev page hp⟩⟩⟩

theorem exists_page_of_cyclic (h : Cyclic (t.via step) cursor?) :
    ∃ a page, cursor? = some a ∧ t.pages[a]? = some page ∧ Cyclic (t.via step) (step page) := by
  cases cursor? with
  | none => exact absurd h not_cyclic_none
  | some a =>
    rw [cyclic_some_iff] at h
    cases hp : t.pages[a]? with
    | none =>
      rw [via, hp] at h
      exact absurd h not_cyclic_none
    | some page => exact ⟨a, page, rfl, hp, via_of_page hp step ▸ h⟩

theorem walk_eq_none_of_cyclic (h : Cyclic (t.via step) cursor?) :
    t.walk step limit cursor? = none := by
  induction limit generalizing cursor? with
  | zero =>
    obtain ⟨a, page, rfl, -⟩ := exists_page_of_cyclic h
    rfl
  | succ limit ih =>
    obtain ⟨a, page, rfl, hp, hpage⟩ := exists_page_of_cyclic h
    rw [walk, hp]
    exact congrArg (Option.map _) (ih hpage)

theorem walk_ends_of_not_cyclic (within : ∀ {a b}, t.via step a = some b → b < t.size)
    (hcursor : ∀ a, cursor? = some a → a < t.size) (h : ¬Cyclic (t.via step) cursor?)
    (hl : t.size ≤ limit) :
    ∃ ids, t.walk step limit cursor? = some (.ok ids) := by
  obtain ⟨ids, hids⟩ := (exists_path_iff_not_cyclic within hcursor).mpr h
  have hs := hids.forall_lt within hcursor
  exact ⟨ids, walk_eq_ok_iff.mpr ⟨hids, Nat.le_trans (length_le_size_of_path hids hs) hl, hs⟩⟩

/-- The way back is as long as the list says at most, so one that comes round is found out. -/
theorem backward_of_cyclic (h : Cyclic (t.via Page.prev?) cursor?) (room : Nat) :
    t.backward tier room cursor? = .error (.listCycle tier) := by
  induction room generalizing cursor? with
  | zero =>
    obtain ⟨a, page, rfl, -⟩ := exists_page_of_cyclic h
    rfl
  | succ room ih =>
    obtain ⟨a, page, rfl, hp, hpage⟩ := exists_page_of_cyclic h
    rw [Table.backward, hp]
    exact congrArg (Except.map _) (ih hpage)

def CyclicForward (t : Table W) (tier : Tier) : Prop :=
  Cyclic (t.via Page.next?) (t.chains.get tier).head?

def CyclicBackward (t : Table W) (tier : Tier) : Prop :=
  Cyclic (t.via Page.prev?) (t.chains.get tier).tail?

theorem forward_of_cyclic (hc : t.CyclicForward tier) : t.forward limit tier = none :=
  walk_eq_none_of_cyclic hc

namespace LinksWithin

theorem via_next (h : t.LinksWithin) (hab : t.via Page.next? a = some b) : b < t.size := by
  obtain ⟨page, hp, hb⟩ := Option.bind_eq_some_iff.mp hab
  exact h.next page (Array.mem_of_getElem? hp) b hb

theorem exists_forward (h : t.LinksWithin) (hacyclic : ¬t.CyclicForward tier)
    (hl : t.size ≤ limit) : ∃ ids, t.forward limit tier = some (.ok ids) :=
  walk_ends_of_not_cyclic h.via_next (h.head tier) hacyclic hl

/-- A list that goes round forward keeps its check from ending; no other does. -/
theorem checkChain_isSome_iff (h : t.LinksWithin) (hl : t.size ≤ limit) :
    (t.checkChain limit tier).isSome ↔ ¬t.CyclicForward tier := by
  rw [checkChain, Option.isSome_map]
  constructor
  · intro hsome hcyclic
    rw [forward_of_cyclic hcyclic] at hsome
    cases hsome
  · intro hacyclic
    obtain ⟨ids, hids⟩ := h.exists_forward hacyclic hl
    rw [hids]
    rfl

theorem exists_ids_of_forward (h : t.LinksWithin) {found : Except Fault (List PageId)}
    (hf : t.forward limit tier = some found) : ∃ ids, found = .ok ids := by
  have hacyclic : ¬t.CyclicForward tier := by
    intro hcyclic
    rw [forward_of_cyclic hcyclic] at hf
    cases hf
  obtain ⟨ids, hids⟩ := h.exists_forward hacyclic (Nat.le_max_right limit t.size)
  have hmore := walk_mono hf (Nat.le_max_left limit t.size)
  exact ⟨ids, Option.some.inj (hmore.symm.trans hids)⟩

theorem checkChain_of_cyclicBackward (h : t.LinksWithin) (hc : t.CyclicBackward tier)
    (hresult : t.checkChain limit tier = some result) :
    result = .error (.sizeMismatch tier) ∨ result = .error (.listCycle tier) := by
  obtain ⟨found, hforward, rfl⟩ := Option.map_eq_some_iff.mp hresult
  obtain ⟨ids, rfl⟩ := h.exists_ids_of_forward hforward
  change t.checkMembers tier ids = _ ∨ t.checkMembers tier ids = _
  simp only [checkMembers, backward_of_cyclic hc]
  split
  · exact .inl rfl
  · exact .inr rfl

end LinksWithin

theorem checkChains_cases (t : Table W) (limit : Nat) {tiers : List Tier}
    (sorted : tiers.Pairwise (· < ·)) :
    (∀ tier ∈ tiers, t.checkChain limit tier = some (.ok ())) ∧
        t.checkChains limit tiers = some (.ok ()) ∨
      ∃ tier ∈ tiers, (∀ lower ∈ tiers, lower < tier → t.checkChain limit lower = some (.ok ())) ∧
        t.checkChain limit tier ≠ some (.ok ()) ∧
        t.checkChains limit tiers = t.checkChain limit tier := by
  induction tiers with
  | nil => exact .inl ⟨List.forall_mem_nil _, rfl⟩
  | cons first tiers ih =>
    obtain ⟨hfirst, sorted⟩ := List.pairwise_cons.mp sorted
    by_cases hpass : t.checkChain limit first = some (.ok ())
    · have hrest : t.checkChains limit (first :: tiers) = t.checkChains limit tiers := by
        rw [checkChains, hpass]
      rw [hrest]
      rcases ih sorted with ⟨hall, heq⟩ | ⟨tier, hmem, hlower, hne, heq⟩
      · exact .inl ⟨List.forall_mem_cons.mpr ⟨hpass, hall⟩, heq⟩
      · refine .inr ⟨tier, List.mem_cons_of_mem _ hmem, ?_, hne, heq⟩
        exact List.forall_mem_cons.mpr ⟨fun _ => hpass, hlower⟩
    · refine .inr ⟨first, List.mem_cons_self, fun lower hmem hlt => ?_, hpass, ?_⟩
      · rcases List.mem_cons.mp hmem with rfl | hmem
        · exact absurd hlt (Nat.lt_irrefl _)
        · exact absurd hlt (Nat.lt_asymm (hfirst lower hmem))
      · rw [checkChains]
        cases hc : t.checkChain limit first with
        | none => rfl
        | some found =>
          cases found with
          | error fault => rfl
          | ok passed => exact absurd hc hpass

theorem checkIntegrity_cases (t : Table W) (limit : Nat) :
    (∀ tier, t.checkChain limit tier = some (.ok ())) ∧
        t.checkIntegrity limit = some t.checkCounts ∨
      ∃ tier, (∀ lower < tier, t.checkChain limit lower = some (.ok ())) ∧
        t.checkChain limit tier ≠ some (.ok ()) ∧
        t.checkIntegrity limit = t.checkChain limit tier := by
  have sorted : Tier.all.Pairwise (· < ·) := by decide
  rcases t.checkChains_cases limit sorted with ⟨hall, heq⟩ | ⟨tier, -, hlower, hne, heq⟩
  · exact .inl ⟨fun tier => hall tier (Tier.mem_all tier), by rw [checkIntegrity, heq]⟩
  · refine .inr ⟨tier, fun lower => hlower lower (Tier.mem_all lower), hne, ?_⟩
    rw [checkIntegrity, heq]
    split
    · exact absurd ‹_› hne
    · rfl

theorem checkIntegrity_eq_checkChain
    (hlower : ∀ lower < tier, t.checkChain limit lower = some (.ok ()))
    (hne : t.checkChain limit tier ≠ some (.ok ())) :
    t.checkIntegrity limit = t.checkChain limit tier := by
  rcases t.checkIntegrity_cases limit with ⟨hall, -⟩ | ⟨first, hfirst, hstop, heq⟩
  · exact absurd (hall tier) hne
  · rcases Nat.lt_trichotomy first.index tier.index with hlt | hsame | hgt
    · exact absurd (hlower first hlt) hstop
    · rw [heq, Tier.index_injective hsame]
    · exact absurd (hfirst tier hgt) hne

theorem checkIntegrity_eq_none_of_cyclic (hlower : ∀ lower < tier, t.Coherent lower)
    (hc : t.CyclicForward tier) (limit : Nat) : t.checkIntegrity limit = none := by
  have hnone : ∀ limit, t.checkChain limit tier = none := by
    intro limit
    rw [checkChain, forward_of_cyclic hc]
    rfl
  have hmore : t.checkIntegrity (max limit t.size) = none := by
    rw [← hnone (max limit t.size)]
    refine checkIntegrity_eq_checkChain (fun lower hlt => ?_) (by simp [hnone])
    exact (hlower lower hlt).checkChain_eq (Nat.le_max_right limit t.size)
  cases hcheck : t.checkIntegrity limit with
  | none => rfl
  | some result =>
    rw [checkIntegrity_mono (Nat.le_max_left limit t.size) hcheck] at hmore
    cases hmore

theorem LinksWithin.checkIntegrity_ends (h : t.LinksWithin)
    (hacyclic : ∀ tier, (∀ lower < tier, t.Coherent lower) → ¬t.CyclicForward tier) :
    ∃ result, t.checkIntegrity t.size = some result := by
  rcases t.checkIntegrity_cases t.size with ⟨-, heq⟩ | ⟨tier, hlower, -, heq⟩
  · exact ⟨_, heq⟩
  · rw [heq]
    refine Option.isSome_iff_exists.mp ((h.checkChain_isSome_iff (Nat.le_refl _)).mpr ?_)
    exact hacyclic tier fun lower hlt => coherent_of_checkChain (hlower lower hlt)

theorem LinksWithin.checkIntegrity_of_cyclicBackward (h : t.LinksWithin)
    (hlower : ∀ lower < tier, t.Coherent lower) (hforward : ¬t.CyclicForward tier)
    (hbackward : t.CyclicBackward tier) :
    t.checkIntegrity t.size = some (.error (.sizeMismatch tier)) ∨
      t.checkIntegrity t.size = some (.error (.listCycle tier)) := by
  obtain ⟨result, hresult⟩ := Option.isSome_iff_exists.mp
    ((h.checkChain_isSome_iff (Nat.le_refl _)).mpr hforward)
  have hreport := h.checkChain_of_cyclicBackward hbackward hresult
  have hne : t.checkChain t.size tier ≠ some (.ok ()) := by
    rw [hresult]
    rcases hreport with rfl | rfl <;> nofun
  have hpass : ∀ lower < tier, t.checkChain t.size lower = some (.ok ()) := fun lower hlt =>
    (hlower lower hlt).checkChain_eq (Nat.le_refl _)
  rw [checkIntegrity_eq_checkChain hpass hne, hresult]
  exact hreport.imp (congrArg some) (congrArg some)

/-- On links that stay inside the table, the check ends exactly if no list that it gets to, past
lists in order, goes round forward. It then needs no more steps for a walk than there are pages. A
list that goes round backward only never keeps it from ending, and is reported if it gets there.
Memory is taken as unlimited, so that to run out of it is no way to end. -/
theorem check_ends_iff (h : t.LinksWithin) :
    ((∃ limit result, t.checkIntegrity limit = some result) ↔
      ∀ tier, (∀ lower < tier, t.Coherent lower) → ¬t.CyclicForward tier) ∧
    (∀ limit result, t.checkIntegrity limit = some result →
      t.checkIntegrity t.size = some result) ∧
    ∀ tier, (∀ lower < tier, t.Coherent lower) → ¬t.CyclicForward tier → t.CyclicBackward tier →
      t.checkIntegrity t.size = some (.error (.sizeMismatch tier)) ∨
      t.checkIntegrity t.size = some (.error (.listCycle tier)) := by
  have hforward : ∀ limit result, t.checkIntegrity limit = some result →
      ∀ tier, (∀ lower < tier, t.Coherent lower) → ¬t.CyclicForward tier := by
    intro limit result hcheck tier hlower hcyclic
    rw [checkIntegrity_eq_none_of_cyclic hlower hcyclic] at hcheck
    cases hcheck
  refine ⟨⟨?_, ?_⟩, ?_, fun tier => h.checkIntegrity_of_cyclicBackward⟩
  · rintro ⟨limit, result, hcheck⟩
    exact hforward limit result hcheck
  · intro hacyclic
    exact ⟨t.size, h.checkIntegrity_ends hacyclic⟩
  · intro limit result hcheck
    obtain ⟨found, hfound⟩ := h.checkIntegrity_ends (hforward limit result hcheck)
    have hmore := checkIntegrity_mono (Nat.le_max_left limit t.size) hcheck
    rw [hfound, ← hmore, checkIntegrity_mono (Nat.le_max_right limit t.size) hfound]

/-- The first list goes round backward and the second forward. The check reports the first and never
gets to the second; with the first mended, it gets there and never ends. -/
theorem check_ends_before_cycle :
    let t : Table Nat :=
      { pages := #[
          { address := 0, list? := some .unknown, prev? := some 0, window? := some 7 },
          { address := 4, tier := .shortTerm, list? := some .shortTerm, next? := some 1,
            window? := some 8 }]
        chains :=
          { unknown := ⟨some 0, some 0, 1⟩, shortTerm := ⟨some 1, some 1, 1⟩, longTerm := {} }
        census := { unknown := 1, shortTerm := 1, longTerm := 0 } }
    let mended : Table Nat := { t with pages := t.pages.modify 0 fun p => { p with prev? := none } }
    t.LinksWithin ∧ t.CyclicBackward .unknown ∧ t.CyclicForward .shortTerm ∧
      t.checkIntegrity 2 = some (.error (.listCycle .unknown)) ∧ mended.LinksWithin ∧
      mended.CyclicForward .shortTerm ∧
      ¬∃ limit result, mended.checkIntegrity limit = some result := by
  intro t mended
  have h : t.LinksWithin := by decide
  have h' : mended.LinksWithin := by decide
  have hforward : ¬t.CyclicForward .unknown := Path.not_cyclic (show Path _ _ [0] from ⟨rfl, rfl⟩)
  have hbackward : t.CyclicBackward .unknown := ⟨0, 0, rfl, .refl, .single rfl⟩
  have hround : t.CyclicForward .shortTerm := ⟨1, 1, rfl, .refl, .single rfl⟩
  have hround' : mended.CyclicForward .shortTerm := ⟨1, 1, rfl, .refl, .single rfl⟩
  have hlower : ∀ lower < Tier.unknown, t.Coherent lower := fun lower hlt =>
    absurd hlt (Nat.not_lt_zero _)
  have hreport := (check_ends_iff h).2.2 .unknown hlower hforward hbackward
  have hmended : ∀ lower < Tier.shortTerm, mended.Coherent lower := by
    intro lower hlt
    cases lower with
    | unknown =>
      exact coherent_of_checkChain (show mended.checkChain 1 .unknown = some (.ok ()) by decide)
    | shortTerm => exact absurd hlt (by decide)
    | longTerm => exact absurd hlt (by decide)
  refine ⟨h, hbackward, hround, hreport.resolve_left (by decide), h', hround', ?_⟩
  intro hends
  exact (check_ends_iff h').1.mp hends .shortTerm hmended hround'

/-- The last page of a list is followed by the first, and its check never ends. Where instead the
first is preceded by the last, the check reports the cycle. -/
theorem check_never_ends_on_cycle :
    let t : Table Nat :=
      { pages := #[
          { address := 0, list? := some .unknown, next? := some 1, window? := some 7 },
          { address := 4, list? := some .unknown, prev? := some 0, next? := some 0,
            window? := some 8 }]
        chains := { unknown := ⟨some 0, some 1, 2⟩, shortTerm := {}, longTerm := {} }
        census := { unknown := 2, shortTerm := 0, longTerm := 0 } }
    let reversed : Table Nat :=
      { t with pages := #[
          { address := 0, list? := some .unknown, prev? := some 1, next? := some 1,
            window? := some 7 },
          { address := 4, list? := some .unknown, prev? := some 0, window? := some 8 }] }
    t.LinksWithin ∧ (∀ limit, t.checkIntegrity limit = none) ∧ reversed.LinksWithin ∧
      reversed.checkIntegrity 2 = some (.error (.listCycle .unknown)) := by
  intro t reversed
  have hround : t.CyclicForward .unknown := ⟨0, 0, rfl, .refl, .tail (.single (b := 1) rfl) rfl⟩
  have hlower : ∀ lower < Tier.unknown, t.Coherent lower := fun lower hlt =>
    absurd hlt (Nat.not_lt_zero _)
  exact ⟨by decide, checkIntegrity_eq_none_of_cyclic hlower hround, by decide, by decide⟩

end Table

end RecordCache
