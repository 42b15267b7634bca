import RecordCache.Proofs.Overrides
/-! The order in which an environment lists its variables. Whether its overrides are accepted
depends on each of them alone. What they come to depends on their order exactly if two variables
name one setting, which they can in different cases of the ASCII letters, and give it different
values. -/
namespace RecordCache

variable {s : Settings} {path other : SettingPath} {a b : String × String}

namespace SettingPath

theorem NamedBy.isKey {key : String} (h : path.NamedBy key) : isKey key = true := by
  obtain ⟨rest, rfl, -⟩ := h
  unfold SettingPath.isKey
  rw [String.toList_append, List.isPrefixOf_iff_prefix]
  exact List.prefix_append ..

theorem given?_eq_some_iff {v : path.kind.Value} :
    path.given? a = some v ↔ path.NamedBy a.1 ∧ path.kind.read? a.2 = some v := by
  unfold given?
  split
  case isTrue hnamed => exact (and_iff_right hnamed).symm
  case isFalse hnamed =>
    apply iff_of_false
    · simp
    · exact fun h => hnamed h.1

theorem latest?_concat (path : SettingPath) (overrides : List (String × String))
    (override : String × String) : path.latest? (overrides ++ [override]) =
      (path.given? override).or (path.latest? overrides) := by
  unfold latest?
  rw [List.reverse_append]
  cases hgiven : path.given? override <;> simp [hgiven]

end SettingPath

namespace Settings

def Accepted (override : String × String) : Prop :=
  ∃ (path : SettingPath) (v : path.kind.Value), path.given? override = some v

def Compatible (a b : String × String) : Prop :=
  ∀ (path : SettingPath) (v w : path.kind.Value),
    path.given? a = some v → path.given? b = some w → v = w

theorem accepted_iff : (s.override a.1 a.2).1 = none ↔ Accepted a := by
  rw [override_eq_none_iff]
  constructor
  · rintro ⟨path, hnamed, hread⟩
    obtain ⟨v, hv⟩ := Option.isSome_iff_exists.mp hread
    exact ⟨path, v, SettingPath.given?_eq_some_iff.mpr ⟨hnamed, hv⟩⟩
  · rintro ⟨path, v, hgiven⟩
    obtain ⟨hnamed, hread⟩ := SettingPath.given?_eq_some_iff.mp hgiven
    exact ⟨path, hnamed, Option.isSome_iff_exists.mpr ⟨v, hread⟩⟩

theorem override_cases (a : String × String) :
    (∀ s : Settings, (s.override a.1 a.2).2 = s) ∨
      ∃ (path : SettingPath) (v : path.kind.Value), path.given? a = some v ∧
        ∀ s : Settings, (s.override a.1 a.2).2 = s.put path v := by
  by_cases haccepted : Accepted a
  · right
    obtain ⟨path, v, hgiven⟩ := haccepted
    obtain ⟨hnamed, hread⟩ := SettingPath.given?_eq_some_iff.mp hgiven
    refine ⟨path, v, hgiven, ?_⟩
    intro s
    rw [override_of_named hnamed, hread]
  · left
    intro s
    apply override_of_refused
    intro hnone
    exact haccepted (accepted_iff.mp hnone)

theorem put_comm (h : path ≠ other) (s : Settings) (v : path.kind.Value) (w : other.kind.Value) :
    (s.put path v).put other w = (s.put other w).put path v := by
  cases path <;> cases other <;> first | rfl | exact absurd rfl h

theorem override_comm (h : Compatible a b) (s : Settings) :
    ((s.override a.1 a.2).2.override b.1 b.2).2 =
      ((s.override b.1 b.2).2.override a.1 a.2).2 := by
  rcases override_cases a with ha | ⟨path, v, hv, ha⟩
  · simp only [ha]
  rcases override_cases b with hb | ⟨other, w, hw, hb⟩
  · simp only [hb]
  simp only [ha, hb]
  by_cases hpath : path = other
  · subst hpath
    obtain rfl := h path v w hv hw
    rfl
  · exact put_comm hpath s v w

/-- Overrides that do not contradict each other come to the same in every order. -/
theorem overrideAll_perm {overrides overrides' : List (String × String)}
    (h : ∀ a ∈ overrides, ∀ b ∈ overrides, Compatible a b)
    (hp : overrides.Perm overrides') (s : Settings) :
    s.overrideAll overrides = s.overrideAll overrides' := by
  apply hp.foldl_eq'
  intro a ha b hb s
  exact override_comm (h a ha b hb) s

end Settings

namespace Environment

variable {e e' : Environment}

def overrides (e : Environment) : List (String × String) :=
  (e.filter fun (name, _) => SettingPath.isKey name).map
    fun (name, value) => (name, trimBlanks value)

def Agrees (e : Environment) : Prop :=
  ∀ path : SettingPath, ∀ a ∈ e, ∀ b ∈ e, path.NamedBy a.1 → path.NamedBy b.1 →
    path.kind.read? (trimBlanks a.2) = path.kind.read? (trimBlanks b.2)

theorem overrides_cons_of_isKey {name : String} (h : SettingPath.isKey name) (value : String)
    (e : Environment) :
    overrides ((name, value) :: e) = (name, trimBlanks value) :: e.overrides := by
  simp [overrides, h]

theorem overrides_cons_of_not_isKey {name : String} (h : ¬SettingPath.isKey name) (value : String)
    (e : Environment) : overrides ((name, value) :: e) = e.overrides := by
  simp [overrides, h]

theorem overrides_perm (h : e'.Perm e) : e'.overrides.Perm e.overrides := (h.filter _).map _

theorem mem_overrides (ha : a ∈ e) (h : path.NamedBy a.1) :
    (a.1, trimBlanks a.2) ∈ e.overrides :=
  List.mem_map_of_mem (List.mem_filter.mpr ⟨ha, h.isKey⟩)

theorem overrides_concat (h : path.NamedBy a.1) (e : Environment) :
    overrides (e ++ [a]) = e.overrides ++ [(a.1, trimBlanks a.2)] := by
  simp [overrides, h.isKey]

theorem Agrees.compatible (h : e.Agrees) :
    ∀ a ∈ e.overrides, ∀ b ∈ e.overrides, Settings.Compatible a b := by
  intro a ha b hb path v w hv hw
  obtain ⟨x, hx, rfl⟩ := List.mem_map.mp ha
  obtain ⟨y, hy, rfl⟩ := List.mem_map.mp hb
  obtain ⟨hnamed, hv⟩ := SettingPath.given?_eq_some_iff.mp hv
  obtain ⟨hnamed', hw⟩ := SettingPath.given?_eq_some_iff.mp hw
  have hread := h path x (List.mem_filter.mp hx).1 y (List.mem_filter.mp hy).1 hnamed hnamed'
  apply Option.some.inj
  exact hv.symm.trans (hread.trans hw)

end Environment

namespace Settings

variable {e : Environment}

theorem applyEnvironment_eq_none_iff :
    (s.applyEnvironment e).1 = none ↔ ∀ a ∈ e.overrides, Accepted a := by
  induction e generalizing s with
  | nil => simp [applyEnvironment, Environment.overrides]
  | cons a rest ih =>
    obtain ⟨name, value⟩ := a
    by_cases hkey : SettingPath.isKey name
    · rw [Environment.overrides_cons_of_isKey hkey, List.forall_mem_cons, ← accepted_iff (s := s),
        applyEnvironment, if_pos hkey]
      rcases s.override name (trimBlanks value) with ⟨_ | refusal, s'⟩
      · simp [ih]
      · simp
    · rw [Environment.overrides_cons_of_not_isKey hkey, applyEnvironment, if_neg hkey]
      exact ih

theorem applyEnvironment_of_accepted (h : (s.applyEnvironment e).1 = none) :
    (s.applyEnvironment e).2 = s.overrideAll e.overrides := by
  induction e generalizing s with
  | nil => rfl
  | cons a rest ih =>
    obtain ⟨name, value⟩ := a
    by_cases hkey : SettingPath.isKey name
    · rw [Environment.overrides_cons_of_isKey hkey, overrideAll, List.foldl_cons]
      rw [applyEnvironment, if_pos hkey] at h ⊢
      rcases hput : s.override name (trimBlanks value) with ⟨_ | refusal, s'⟩
      · rw [hput] at h
        exact ih h
      · rw [hput] at h
        cases h
    · rw [Environment.overrides_cons_of_not_isKey hkey]
      rw [applyEnvironment, if_neg hkey] at h ⊢
      exact ih h

theorem get?_applyEnvironment_concat {v : path.kind.Value} (hnamed : path.NamedBy a.1)
    (hread : path.kind.read? (trimBlanks a.2) = some v)
    (h : (s.applyEnvironment (e ++ [a])).1 = none) :
    (s.applyEnvironment (e ++ [a])).2.get? path = some v := by
  have hgiven : path.given? (a.1, trimBlanks a.2) = some v :=
    SettingPath.given?_eq_some_iff.mpr ⟨hnamed, hread⟩
  rw [applyEnvironment_of_accepted h, get?_overrideAll, Environment.overrides_concat hnamed,
    SettingPath.latest?_concat, hgiven]
  rfl

/-- Whether the overrides of an environment are accepted does not depend on the order of its
variables, whatever was set before. If they are accepted, what they come to is the same in every
order exactly if variables that name one setting give it the same value. -/
theorem environment_order (s : Settings) (e : Environment) :
    (∀ e', e'.Perm e →
      ((s.applyEnvironment e').1 = none ↔ (s.applyEnvironment e).1 = none)) ∧
    ((s.applyEnvironment e).1 = none →
      ((∀ e', e'.Perm e → (s.applyEnvironment e').2 = (s.applyEnvironment e).2) ↔ e.Agrees)) := by
  have hsame : ∀ e', e'.Perm e →
      ((s.applyEnvironment e').1 = none ↔ (s.applyEnvironment e).1 = none) := by
    intro e' hp
    rw [applyEnvironment_eq_none_iff, applyEnvironment_eq_none_iff]
    constructor
    · intro h a ha
      exact h a ((Environment.overrides_perm hp).mem_iff.mpr ha)
    · intro h a ha
      exact h a ((Environment.overrides_perm hp).mem_iff.mp ha)
  refine ⟨hsame, ?_⟩
  intro hnone
  constructor
  · intro horder
    -- of two variables that name a setting, either may come last
    have hlast : ∀ (path : SettingPath) (a : String × String), a ∈ e → path.NamedBy a.1 →
        path.kind.read? (trimBlanks a.2) = (s.applyEnvironment e).2.get? path := by
      intro path a ha hnamed
      have hp : (e.erase a ++ [a]).Perm e :=
        (List.perm_append_singleton a _).trans (List.perm_cons_erase ha).symm
      obtain ⟨other, v, hgiven⟩ :=
        applyEnvironment_eq_none_iff.mp hnone _ (Environment.mem_overrides ha hnamed)
      obtain ⟨hother, hv⟩ := SettingPath.given?_eq_some_iff.mp hgiven
      obtain rfl := hother.unique hnamed
      rw [← horder _ hp, get?_applyEnvironment_concat hnamed hv ((hsame _ hp).mpr hnone)]
      exact hv
    intro path a ha b hb hnamed hnamed'
    exact (hlast path a ha hnamed).trans (hlast path b hb hnamed').symm
  · intro hagrees e' hp
    rw [applyEnvironment_of_accepted hnone, applyEnvironment_of_accepted ((hsame e' hp).mpr hnone)]
    exact (overrideAll_perm hagrees.compatible (Environment.overrides_perm hp).symm s).symm

/-- Two names that differ in case name one setting, and the variable that comes last decides. -/
theorem environment_order_decides :
    let upper := ("OXIWINDOW__POOL__CAPACITY", "1")
    let lower := ("OXIWINDOW__pool__capacity", "2")
    let s : Settings := {}
    upper.1 ≠ lower.1 ∧ [lower, upper].Perm [upper, lower] ∧
      (s.applyEnvironment [upper, lower]).1 = none ∧
      (s.applyEnvironment [upper, lower]).2.poolConfig.capacity = 2 ∧
      (s.applyEnvironment [lower, upper]).1 = none ∧
      (s.applyEnvironment [lower, upper]).2.poolConfig.capacity = 1 ∧
      (s.applyEnvironment [lower, upper]).2 ≠ (s.applyEnvironment [upper, lower]).2 := by
  intro upper lower s
  have hupper : (s.applyEnvironment [upper, lower]).2.poolConfig.capacity = 2 := by
    decide +kernel
  have hlower : (s.applyEnvironment [lower, upper]).2.poolConfig.capacity = 1 := by
    decide +kernel
  refine ⟨by decide, .swap .., by decide +kernel, hupper, by decide +kernel, hlower, ?_⟩
  intro hsame
  rw [hsame, hupper] at hlower
  contradiction

end Settings

end RecordCache
