import RecordCache.Proofs.Fractions
import RecordCache.Settings.Override
/-! What a run of overrides comes to. An override is accepted if its key names a setting and its
value reads as one of that setting; one that is refused changes nothing, not even by making a
section. Each setting then has the value of the latest accepted override of it, whatever was said of
the others. -/
namespace RecordCache

theorem dividedParts_ne_nil (cs : List Char) : dividedParts cs ≠ [] := by
  fun_induction dividedParts cs with
  | case1 => simp
  | case2 cs ih => simp
  | case3 c cs _ ih => simpa using ih

theorem intercalate_dividedParts (cs : List Char) :
    ['_', '_'].intercalate (dividedParts cs) = cs := by
  fun_induction dividedParts cs with
  | case1 => rfl
  | case2 cs ih =>
    rw [List.intercalate_cons_of_ne_nil (dividedParts_ne_nil cs), ih]
    rfl
  | case3 c cs _ ih =>
    obtain ⟨part, parts, hparts⟩ := List.exists_cons_of_ne_nil (dividedParts_ne_nil cs)
    rw [hparts] at ih ⊢
    rw [List.modifyHead_cons]
    cases parts with
    | nil => simpa using ih
    | cons next parts =>
      rw [List.intercalate_cons_cons] at ih ⊢
      simpa using ih

namespace SettingPath

variable {path : SettingPath} {key : String}

/-- The key has the start of every key, and then the section and the field of the setting in any
case of the ASCII letters. -/
def NamedBy (path : SettingPath) (key : String) : Prop :=
  ∃ rest, key = keyStart ++ rest ∧
    rest.map Char.toLower = path.sectionName ++ "__" ++ path.fieldName

theorem ofParts?_eq_some_iff {parts : List (List Char)} : ofParts? parts = some path ↔
    parts = [path.sectionName.toList, path.fieldName.toList] := by
  constructor
  · intro h
    unfold ofParts? at h
    split at h
    · have hfound := List.find?_some h
      simp only [Bool.decide_and, Bool.and_eq_true, decide_eq_true_eq] at hfound
      rw [hfound.1, hfound.2]
    · cases h
  · rintro rfl
    cases path <;> rfl

/-- No section and no field has two underscores in a row or stands next to a third. -/
theorem dividedParts_eq_iff {cs : List Char} :
    dividedParts cs = [path.sectionName.toList, path.fieldName.toList] ↔
      cs = (path.sectionName ++ "__" ++ path.fieldName).toList := by
  constructor
  · intro h
    rw [← intercalate_dividedParts cs, h]
    simp
  · rintro rfl
    cases path <;> rfl

theorem ofKey?_eq_some_iff : ofKey? key = some path ↔ path.NamedBy key := by
  unfold ofKey?
  split
  case h_1 rest hrest =>
    have hkey := List.isPrefixOf?_eq_some_iff_append_eq.mp hrest
    rw [ofParts?_eq_some_iff, dividedParts_eq_iff]
    constructor
    · intro hname
      refine ⟨String.ofList rest, ?_, ?_⟩
      · rw [← String.toList_inj, String.toList_append, String.toList_ofList, hkey]
      · rw [← String.toList_inj, String.toList_map, String.toList_ofList, hname]
    · rintro ⟨named, rfl, hname⟩
      rw [String.toList_append, List.append_cancel_left_eq] at hkey
      rw [hkey, ← String.toList_map, hname]
  case h_2 hnone =>
    constructor
    · intro h
      cases h
    · rintro ⟨rest, rfl, -⟩
      have hsome : keyStart.toList.isPrefixOf? (keyStart ++ rest).toList = some rest.toList :=
        List.isPrefixOf?_eq_some_iff_append_eq.mpr String.toList_append.symm
      rw [hnone] at hsome
      cases hsome

instance : Decidable (path.NamedBy key) := decidable_of_iff _ ofKey?_eq_some_iff

theorem NamedBy.unique {other : SettingPath} (h : path.NamedBy key) (k : other.NamedBy key) :
    path = other := by
  rw [← ofKey?_eq_some_iff] at h k
  exact Option.some.inj (h.symm.trans k)

def given? (path : SettingPath) (override : String × String) : Option path.kind.Value :=
  if path.NamedBy override.1 then path.kind.read? override.2 else none

def latest? (path : SettingPath) (overrides : List (String × String)) :
    Option path.kind.Value :=
  overrides.reverse.findSome? path.given?

theorem latest?_cons (path : SettingPath) (override : String × String)
    (overrides : List (String × String)) : path.latest? (override :: overrides) =
      (path.latest? overrides).or (path.given? override) := by
  rw [latest?, List.reverse_cons, List.findSome?_append]
  cases hgiven : path.given? override <;> simp [latest?, hgiven]

end SettingPath

namespace Settings

variable {s : Settings} {path other : SettingPath} {key value : String}

/-- What is set for a setting. A section that is missing is as good as an empty one. -/
def get? (s : Settings) : (path : SettingPath) → Option path.kind.Value
  | .storeName => (s.pool?.getD {}).storeName?
  | .bytesPerRecord => (s.pool?.getD {}).bytesPerRecord?
  | .targetBytesPerPage => (s.pool?.getD {}).targetBytesPerPage?
  | .capacity => (s.pool?.getD {}).capacity?
  | .reportInterval => (s.pool?.getD {}).reportInterval?
  | .protectedFraction => (s.pool?.getD {}).protectedFraction?
  | .longTermFraction => (s.pool?.getD {}).longTermFraction?
  | .mapperKind => (s.mapper?.getD {}).kind?
  | .mapperPath => (s.mapper?.getD {}).path?

theorem get?_put_self (s : Settings) (path : SettingPath) (v : path.kind.Value) :
    (s.put path v).get? path = some v := by
  cases path <;> rfl

theorem get?_put_of_ne (h : path ≠ other) (s : Settings) (v : path.kind.Value) :
    (s.put path v).get? other = s.get? other := by
  cases path <;> cases other <;> first | rfl | exact absurd rfl h

theorem poolConfig_eq (s : Settings) : s.poolConfig =
    let standard : PoolConfig := {}
    { storeName := (s.get? .storeName).getD ((s.get? .mapperPath).getD standard.storeName)
      bytesPerRecord := (s.get? .bytesPerRecord).getD standard.bytesPerRecord
      targetBytesPerPage := (s.get? .targetBytesPerPage).getD standard.targetBytesPerPage
      capacity := (s.get? .capacity).getD standard.capacity
      reportInterval := (s.get? .reportInterval).getD standard.reportInterval
      protectedFraction :=
        ((s.get? .protectedFraction).map clampUnit).getD standard.protectedFraction
      longTermFraction :=
        ((s.get? .longTermFraction).map clampUnit).getD standard.longTermFraction } := by
  obtain ⟨pool?, mapper?⟩ := s
  cases pool? with
  | none =>
    cases mapper? with
    | none => rfl
    | some mapper => obtain ⟨kind?, path?⟩ := mapper; cases path? <;> rfl
  | some pool =>
    cases mapper? with
    | none => rfl
    | some mapper => obtain ⟨kind?, path?⟩ := mapper; cases path? <;> rfl

theorem override_of_named (h : path.NamedBy key) (s : Settings) (value : String) :
    s.override key value = match path.kind.read? value with
      | none => (some (.invalidValue key value), s)
      | some v => (none, s.put path v) := by
  have hkey := SettingPath.ofKey?_eq_some_iff.mpr h
  cases hread : path.kind.read? value <;> simp only [override, hkey, hread]

theorem override_of_unnamed (h : ∀ path : SettingPath, ¬path.NamedBy key) (s : Settings)
    (value : String) : s.override key value = (some (.unknownKey key), s) := by
  cases hkey : SettingPath.ofKey? key with
  | none => rw [override, hkey]
  | some path => exact absurd (SettingPath.ofKey?_eq_some_iff.mp hkey) (h path)

theorem override_eq_none_iff : (s.override key value).1 = none ↔
    ∃ path : SettingPath, path.NamedBy key ∧ (path.kind.read? value).isSome = true := by
  by_cases hnamed : ∃ path : SettingPath, path.NamedBy key
  · obtain ⟨path, hpath⟩ := hnamed
    rw [override_of_named hpath]
    cases hread : path.kind.read? value with
    | none =>
      simp only [reduceCtorEq, false_iff, not_exists, not_and]
      intro other hother
      obtain rfl := hpath.unique hother
      simp [hread]
    | some v => exact iff_of_true rfl ⟨path, hpath, by rw [hread]; rfl⟩
  · rw [override_of_unnamed (fun path hpath => hnamed ⟨path, hpath⟩)]
    refine iff_of_false nofun ?_
    rintro ⟨path, hpath, -⟩
    exact hnamed ⟨path, hpath⟩

theorem override_of_refused (h : (s.override key value).1 ≠ none) :
    (s.override key value).2 = s := by
  by_cases hnamed : ∃ path : SettingPath, path.NamedBy key
  · obtain ⟨path, hpath⟩ := hnamed
    rw [override_of_named hpath] at h ⊢
    cases hread : path.kind.read? value with
    | none => rfl
    | some v =>
      rw [hread] at h
      exact absurd rfl h
  · rw [override_of_unnamed (fun path hpath => hnamed ⟨path, hpath⟩)]

theorem get?_override (s : Settings) (key value : String) (path : SettingPath) :
    (s.override key value).2.get? path = (path.given? (key, value)).or (s.get? path) := by
  by_cases hnamed : ∃ other : SettingPath, other.NamedBy key
  · obtain ⟨other, hother⟩ := hnamed
    rw [override_of_named hother, SettingPath.given?]
    by_cases hpath : other = path
    · subst hpath
      rw [if_pos hother]
      cases other.kind.read? value with
      | none => rfl
      | some v => exact get?_put_self s other v
    · rw [if_neg (fun h => hpath (hother.unique h))]
      cases other.kind.read? value with
      | none => rfl
      | some v => exact get?_put_of_ne hpath s v
  · rw [override_of_unnamed (fun other hother => hnamed ⟨other, hother⟩), SettingPath.given?,
      if_neg (fun h => hnamed ⟨path, h⟩)]
    rfl

/-- The settings after overrides in a row, whether they are refused or not. -/
def overrideAll (s : Settings) (overrides : List (String × String)) : Settings :=
  overrides.foldl (fun s override => (s.override override.1 override.2).2) s

theorem get?_overrideAll (s : Settings) (overrides : List (String × String))
    (path : SettingPath) :
    (s.overrideAll overrides).get? path = (path.latest? overrides).or (s.get? path) := by
  induction overrides generalizing s with
  | nil => rfl
  | cons override overrides ih =>
    calc (s.overrideAll (override :: overrides)).get? path
      _ = (path.latest? overrides).or ((s.override override.1 override.2).2.get? path) := ih _
      _ = (path.latest? overrides).or ((path.given? override).or (s.get? path)) := by
        rw [get?_override]
      _ = (path.latest? (override :: overrides)).or (s.get? path) := by
        rw [← Option.or_assoc, ← SettingPath.latest?_cons]

/-- Overrides settle the configuration. Each is accepted exactly if its key names a setting, in any
case behind the start of every key, and its value reads as one of that setting; else it changes
nothing. After any number of them the configuration of a pool takes each setting from the latest
accepted override of it, or else from what was set before, or else from the standard one. The path
of the store stands in for its name, and a fraction is clamped unless it is no number. -/
theorem overrides_settle (s : Settings) (overrides : List (String × String)) :
    (∀ (t : Settings) (key value : String),
      ((t.override key value).1 = none ↔
        ∃ (path : SettingPath) (rest : String), key = "OXIWINDOW__" ++ rest ∧
          rest.map Char.toLower = path.sectionName ++ "__" ++ path.fieldName ∧
          (path.kind.read? value).isSome = true) ∧
      ((t.override key value).1 ≠ none → (t.override key value).2 = t)) ∧
    (let setting (path : SettingPath) := (path.latest? overrides).or (s.get? path)
      let standard : PoolConfig := {}
      (s.overrideAll overrides).poolConfig =
        { storeName := (setting .storeName).getD ((setting .mapperPath).getD standard.storeName)
          bytesPerRecord := (setting .bytesPerRecord).getD standard.bytesPerRecord
          targetBytesPerPage := (setting .targetBytesPerPage).getD standard.targetBytesPerPage
          capacity := (setting .capacity).getD standard.capacity
          reportInterval := (setting .reportInterval).getD standard.reportInterval
          protectedFraction :=
            ((setting .protectedFraction).map clampUnit).getD standard.protectedFraction
          longTermFraction :=
            ((setting .longTermFraction).map clampUnit).getD standard.longTermFraction }) ∧
    ∀ x : Float, (x.isNaN = true → clampUnit x = x) ∧
      (x.isNaN = false → 0.0 ≤ clampUnit x ∧ clampUnit x ≤ 1.0) ∧
      (0.0 ≤ x → x ≤ 1.0 → clampUnit x = x) ∧ (x < 0.0 → clampUnit x = 0.0) ∧
      (1.0 < x → clampUnit x = 1.0) := by
  refine ⟨fun t key value => ⟨?_, override_of_refused⟩, ?_, fun x => ?_⟩
  · rw [override_eq_none_iff]
    constructor
    · rintro ⟨path, ⟨rest, hkey, hname⟩, hread⟩
      exact ⟨path, rest, hkey, hname, hread⟩
    · rintro ⟨path, rest, hkey, hname, hread⟩
      exact ⟨path, ⟨rest, hkey, hname⟩, hread⟩
  · intro setting standard
    have hsetting (path : SettingPath) : (s.overrideAll overrides).get? path = setting path :=
      get?_overrideAll s overrides path
    rw [poolConfig_eq]
    simp only [hsetting]
    rfl
  · exact ⟨clampUnit_of_isNaN, clampUnit_mem, clampUnit_of_mem, clampUnit_of_neg,
      clampUnit_of_one_lt⟩

example :
    let config := (({} : Settings).overrideAll [("OXIWINDOW__pool__capacity", "7"),
      ("OXIWINDOW__POOL__capacity", "many"), ("OXIWINDOW__mapper__PATH", "nodes.db"),
      ("OXIWINDOW__pool___capacity", "8")]).poolConfig
    config.capacity = 7 ∧ config.storeName = "nodes.db" := by
  decide +kernel

end Settings

end RecordCache
