import Mathlib.Data.List.TakeWhile
import Mathlib.Data.String.Basic
import RecordCache.Text.Number
/-! Which texts are numbers, and of what value. The grammars of exponents and of floats are
relations between a text and its value, decided by the readers; a text with any other character in
it is refused. -/
namespace RecordCache

variable {cs ds : List Char} {c : Char} {s : String} {bound n : Nat} {e : Int} {x : Float}
  {negative : Bool}

def IsNumeral (ds : List Char) : Prop := ds ≠ [] ∧ ∀ c ∈ ds, c.isDigit

theorem isNumeral_toDigits (n : Nat) : IsNumeral (Nat.toDigits 10 n) :=
  ⟨Nat.toDigits_ne_nil, fun _ hc => Nat.isDigit_of_mem_toDigits (by decide) (by decide) hc⟩

theorem unless_numeral_eq_some_iff {α : Type} {a? : Option α} {a : α} :
    (if ds.isEmpty ∨ ¬ds.all Char.isDigit then none else a?) = some a ↔
      IsNumeral ds ∧ a? = some a := by
  rw [Option.ite_none_left_eq_some]
  refine and_congr_left fun _ => ?_
  simp [IsNumeral]

theorem numeral_toDigits (n : Nat) : numeral 10 (Nat.toDigits 10 n) = n := by
  have key : ∀ {ds : List Char}, (∀ c ∈ ds, c.isDigit) → ∀ m,
      ds.foldl (fun n c => n * 10 + digitValue c) m = Nat.ofDigitChars 10 ds m := by
    intro ds hds
    induction ds with
    | nil => exact fun m => rfl
    | cons c ds ih =>
      obtain ⟨hc, hds⟩ := List.forall_mem_cons.mp hds
      intro m
      rw [List.foldl_cons, ih hds, Nat.ofDigitChars_cons, digitValue, if_pos hc, Nat.mul_comm]
  exact (key (isNumeral_toDigits n).2 0).trans Nat.ofDigitChars_ten_toDigits

/-- A whole number is read from its digits, however many, after a plus sign at most. -/
theorem readBelow?_eq_some_iff : readBelow? bound s = some n ↔
    ∃ ds, (s.toList = ds ∨ s.toList = '+' :: ds) ∧ IsNumeral ds ∧ numeral 10 ds = n ∧
      n < bound := by
  have key : ∀ ds, (if ds.isEmpty ∨ ¬ds.all Char.isDigit then none
      else if numeral 10 ds < bound then some (numeral 10 ds) else none) = some n ↔
      IsNumeral ds ∧ numeral 10 ds = n ∧ n < bound := by
    intro ds
    rw [unless_numeral_eq_some_iff, Option.ite_none_right_eq_some, Option.some.injEq]
    refine and_congr_right fun _ => and_comm.trans (and_congr_right fun hn => ?_)
    rw [hn]
  rw [readBelow?]
  split
  case h_1 rest htext =>
    rw [key]
    constructor
    · intro h
      exact ⟨rest, .inr htext, h⟩
    · rintro ⟨ds, hds | hds, hnumeral, h⟩
      · exact absurd (hnumeral.2 '+' (by simp [← hds, htext])) (by decide)
      · cases htext.symm.trans hds
        exact ⟨hnumeral, h⟩
  case h_2 hplus =>
    rw [key]
    constructor
    · intro h
      exact ⟨s.toList, .inl rfl, h⟩
    · rintro ⟨ds, rfl | hds, h⟩
      · exact h
      · exact absurd hds (hplus ds)

theorem readBelow?_toString (h : n < bound) : readBelow? bound (toString n) = some n := by
  refine readBelow?_eq_some_iff.mpr ⟨Nat.toDigits 10 n, .inl ?_, isNumeral_toDigits n,
    numeral_toDigits n, h⟩
  rw [Nat.toString_eq_ofList_toDigits, String.toList_ofList]

theorem readBelow?_eq_none (hc : c ∈ s.toList) (hdigit : ¬c.isDigit) (hsign : c ≠ '+') :
    readBelow? bound s = none := by
  refine Option.eq_none_iff_forall_ne_some.mpr fun n hn => ?_
  obtain ⟨ds, htext, hds, -⟩ := readBelow?_eq_some_iff.mp hn
  rcases htext with htext | htext <;> rw [htext] at hc
  · exact hdigit (hds.2 c hc)
  · exact hdigit (hds.2 c ((List.mem_cons.mp hc).resolve_left hsign))

/-- Nothing, or a mark, a sign at most and digits. -/
inductive WritesExponent : List Char → Int → Prop where
  | absent : WritesExponent [] 0
  | positive {mark : Char} {sign ds : List Char} (hmark : mark = 'e' ∨ mark = 'E')
      (hsign : sign = [] ∨ sign = ['+']) (hds : IsNumeral ds) :
      WritesExponent (mark :: (sign ++ ds)) (numeral 10 ds)
  | negative {mark : Char} {ds : List Char} (hmark : mark = 'e' ∨ mark = 'E')
      (hds : IsNumeral ds) : WritesExponent (mark :: '-' :: ds) (-(numeral 10 ds : Int))

theorem readExponent?_eq_some_iff : readExponent? cs = some e ↔ WritesExponent cs e := by
  constructor
  · intro h
    cases cs with
    | nil =>
      cases h
      exact .absent
    | cons mark r =>
      unfold readExponent? at h
      obtain ⟨hmark, h⟩ := Option.ite_none_right_eq_some.mp h
      split at h
      case h_1 negative ds hmatch =>
        obtain ⟨hds, h⟩ := unless_numeral_eq_some_iff.mp h
        cases h
        split at hmatch
        all_goals cases hmatch
        · exact .negative hmark hds
        · exact .positive hmark (.inr rfl) hds
        · exact .positive hmark (.inl rfl) hds
  · intro h
    cases h with
    | absent => rfl
    | negative hmark hds =>
      exact (if_pos hmark).trans (unless_numeral_eq_some_iff.mpr ⟨hds, rfl⟩)
    | @positive mark sign ds hmark hsign hds =>
      rcases hsign with rfl | rfl
      · refine (if_pos hmark).trans ?_
        have hunsigned : ∀ sign rest, sign.isDigit = false → [] ++ ds ≠ sign :: rest := by
          rintro sign rest hsign rfl
          exact absurd (hds.2 sign List.mem_cons_self) (by simp [hsign])
        split
        · exact absurd ‹_› (hunsigned _ _ rfl)
        · exact absurd ‹_› (hunsigned _ _ rfl)
        · exact unless_numeral_eq_some_iff.mpr ⟨hds, rfl⟩
      · exact (if_pos hmark).trans (unless_numeral_eq_some_iff.mpr ⟨hds, rfl⟩)

/-- Digits, with a point among them or at one end if `point` is more than nothing. It is followed by
the digits behind it. -/
structure IsDecimal (whole point fraction : List Char) : Prop where
  whole_digits : ∀ c ∈ whole, c.isDigit
  fraction_digits : ∀ c ∈ fraction, c.isDigit
  point_eq : point = [] ∧ fraction = [] ∨ point = '.' :: fraction
  digits : whole ≠ [] ∨ fraction ≠ []

/-- A name in any case, or a decimal with an exponent. -/
inductive WritesMagnitude (negative : Bool) : List Char → Float → Prop where
  | infinity {cs : List Char}
      (hname : cs.map Char.toLower = "inf".toList ∨ cs.map Char.toLower = "infinity".toList) :
      WritesMagnitude negative cs (if negative then -1.0 / 0.0 else 1.0 / 0.0)
  | notANumber {cs : List Char} (hname : cs.map Char.toLower = "nan".toList) :
      WritesMagnitude negative cs (0.0 / 0.0)
  | decimal {whole point fraction rest : List Char} {exponent : Int}
      (h : IsDecimal whole point fraction) (hrest : WritesExponent rest exponent) :
      WritesMagnitude negative (whole ++ (point ++ rest)) (Binary64.ofDecimal negative
        (numeral 10 (whole ++ fraction)) (exponent - fraction.length))

theorem WritesExponent.not_digit_head {r : List Char} (h : WritesExponent cs e)
    (hcs : cs = c :: r) : ¬c.isDigit ∧ c ≠ '.' := by
  have hmark : c = 'e' ∨ c = 'E' := by
    subst hcs
    cases h with
    | positive hmark => exact hmark
    | negative hmark => exact hmark
  rcases hmark with rfl | rfl <;> decide

theorem digits_append {r : List Char} (hds : ∀ c ∈ ds, c.isDigit)
    (hr : ∀ c r', r = c :: r' → ¬c.isDigit) :
    (ds ++ r).takeWhile Char.isDigit = ds ∧ (ds ++ r).dropWhile Char.isDigit = r := by
  rw [List.takeWhile_append_of_pos hds, List.dropWhile_append_of_pos hds]
  cases r with
  | nil => simp
  | cons c r => simp [hr c r rfl]

theorem toLower_of_isDigit (h : c.isDigit) : c.toLower = c := by
  refine dif_neg fun hupper => ?_
  simp only [Char.isDigit, Bool.and_eq_true, decide_eq_true_eq] at h
  exact absurd (UInt32.le_trans hupper.1 h.2) (by decide)

/-- The first character tells a number in digits from a name. -/
theorem lowered_ne_name {name : String} {c' : Char} {r' : List Char}
    (h : c.isDigit ∨ c = '.') (hname : name.toList = c' :: r') (hc' : ¬(c'.isDigit ∨ c' = '.')) :
    String.ofList ((c :: cs).map Char.toLower) ≠ name := by
  have hlower : c.toLower = c := by
    rcases h with h | rfl
    · exact toLower_of_isDigit h
    · decide
  intro heq
  rw [String.ofList_eq, hname, List.map_cons, hlower] at heq
  obtain ⟨rfl, -⟩ := List.cons.inj heq
  exact hc' h

theorem WritesMagnitude.of_readMagnitude? (h : readMagnitude? negative cs = some x) :
    WritesMagnitude negative cs x := by
  unfold readMagnitude? at h
  split at h
  case h_1 hname =>
    cases h
    exact .infinity (.inl (String.ofList_eq.mp hname))
  case h_2 hname =>
    cases h
    exact .infinity (.inr (String.ofList_eq.mp hname))
  case h_3 hname =>
    cases h
    exact .notANumber (String.ofList_eq.mp hname)
  case h_4 =>
    split at h
    case h_1 fraction rest hmatch =>
      obtain ⟨hdigits, h⟩ := Option.ite_none_left_eq_some.mp h
      obtain ⟨exponent, hrest, rfl⟩ := Option.map_eq_some_iff.mp h
      have hdigits : cs.takeWhile Char.isDigit ≠ [] ∨ fraction ≠ [] := by
        rwa [List.isEmpty_iff, List.isEmpty_iff, not_and_or] at hdigits
      have hrest := readExponent?_eq_some_iff.mp hrest
      have hdigit : ∀ ds : List Char, ∀ c ∈ ds.takeWhile Char.isDigit, c.isDigit :=
        fun _ _ => List.mem_takeWhile_imp
      -- what was cut off in turn is put together again
      split at hmatch
      case h_1 r hpoint =>
        cases hmatch
        have h : WritesMagnitude negative _ _ :=
          .decimal ⟨hdigit cs, hdigit r, .inr rfl, hdigits⟩ hrest
        rwa [List.cons_append, List.takeWhile_append_dropWhile, ← hpoint,
          List.takeWhile_append_dropWhile] at h
      case h_2 =>
        cases hmatch
        have h : WritesMagnitude negative _ _ :=
          .decimal ⟨hdigit cs, List.forall_mem_nil _, .inl ⟨rfl, rfl⟩, hdigits⟩ hrest
        rwa [List.nil_append, List.takeWhile_append_dropWhile] at h

namespace IsDecimal

variable {whole point fraction rest : List Char}

theorem exists_head (h : IsDecimal whole point fraction) (rest : List Char) :
    ∃ c r, whole ++ (point ++ rest) = c :: r ∧ (c.isDigit ∨ c = '.') := by
  cases whole with
  | cons c whole => exact ⟨c, _, rfl, .inl (h.whole_digits c List.mem_cons_self)⟩
  | nil =>
    rcases h.point_eq with ⟨-, hfraction⟩ | rfl
    · exact absurd hfraction (h.digits.resolve_left (not_not_intro rfl))
    · exact ⟨'.', _, rfl, .inr rfl⟩

theorem split_whole (h : IsDecimal whole point fraction) (hrest : WritesExponent rest e) :
    (whole ++ (point ++ rest)).takeWhile Char.isDigit = whole ∧
      (whole ++ (point ++ rest)).dropWhile Char.isDigit = point ++ rest := by
  refine digits_append h.whole_digits fun c r hcs => ?_
  rcases h.point_eq with ⟨rfl, -⟩ | rfl
  · exact (hrest.not_digit_head (show rest = c :: r from hcs)).1
  · cases hcs
    decide

theorem split_fraction (h : IsDecimal whole point fraction) (hrest : WritesExponent rest e) :
    (match point ++ rest with
      | '.' :: r => (r.takeWhile Char.isDigit, r.dropWhile Char.isDigit)
      | r => ([], r)) = (fraction, rest) := by
  rcases h.point_eq with ⟨rfl, rfl⟩ | rfl
  · split
    · exact absurd rfl (hrest.not_digit_head ‹_›).2
    · rfl
  · obtain ⟨htake, hdrop⟩ := digits_append h.fraction_digits fun c r hcs =>
      (hrest.not_digit_head hcs).1
    exact Prod.ext htake hdrop

theorem readMagnitude?_eq (h : IsDecimal whole point fraction) (hrest : WritesExponent rest e) :
    readMagnitude? negative (whole ++ (point ++ rest)) = some (Binary64.ofDecimal negative
      (numeral 10 (whole ++ fraction)) (e - fraction.length)) := by
  obtain ⟨c, r, htext, hc⟩ := h.exists_head rest
  obtain ⟨htake, hdrop⟩ := h.split_whole hrest
  unfold readMagnitude?
  split
  · exact absurd ‹_› (htext ▸ lowered_ne_name hc rfl (by decide))
  · exact absurd ‹_› (htext ▸ lowered_ne_name hc rfl (by decide))
  · exact absurd ‹_› (htext ▸ lowered_ne_name hc rfl (by decide))
  split
  case h_1 fraction' rest' hmatch =>
    rw [hdrop] at hmatch
    cases (h.split_fraction hrest).symm.trans hmatch
    rw [htake, if_neg (by rw [List.isEmpty_iff, List.isEmpty_iff, not_and_or]; exact h.digits),
      readExponent?_eq_some_iff.mpr hrest]
    rfl

end IsDecimal

theorem readMagnitude?_eq_some_iff :
    readMagnitude? negative cs = some x ↔ WritesMagnitude negative cs x := by
  refine ⟨.of_readMagnitude?, fun h => ?_⟩
  cases h with
  | infinity hname =>
    unfold readMagnitude?
    rcases hname with hname | hname <;> rw [hname] <;> rfl
  | notANumber hname =>
    unfold readMagnitude?
    rw [hname]
    rfl
  | decimal hdecimal hrest => exact hdecimal.readMagnitude?_eq hrest

theorem WritesExponent.mem_lowered (h : WritesExponent cs e) (hc : c ∈ cs) :
    c.isDigit ∨ c.toLower ∈ "+-e".toList := by
  cases h with
  | absent => cases hc
  | positive hmark hsign hds =>
    rcases List.mem_cons.mp hc with rfl | hc
    · rcases hmark with rfl | rfl <;> decide
    rcases List.mem_append.mp hc with hc | hc
    · rcases hsign with rfl | rfl
      · cases hc
      · cases List.mem_singleton.mp hc
        decide
    · exact .inl (hds.2 c hc)
  | negative hmark hds =>
    rcases List.mem_cons.mp hc with rfl | hc
    · rcases hmark with rfl | rfl <;> decide
    rcases List.mem_cons.mp hc with rfl | hc
    · decide
    · exact .inl (hds.2 c hc)

theorem WritesMagnitude.mem_lowered (h : WritesMagnitude negative cs x) (hc : c ∈ cs) :
    c.isDigit ∨ c.toLower ∈ "+-.einfaty".toList := by
  have named : ∀ {name : String}, cs.map Char.toLower = name.toList →
      name.toList ⊆ "+-.einfaty".toList → c.toLower ∈ "+-.einfaty".toList := by
    intro name hname hsub
    exact hsub (hname ▸ List.mem_map_of_mem hc)
  cases h with
  | infinity hname =>
    rcases hname with hname | hname
    · exact .inr (named hname (by decide))
    · exact .inr (named hname (by decide))
  | notANumber hname => exact .inr (named hname (by decide))
  | decimal hdecimal hrest =>
    rcases List.mem_append.mp hc with hc | hc
    · exact .inl (hdecimal.whole_digits c hc)
    rcases List.mem_append.mp hc with hc | hc
    · rcases hdecimal.point_eq with ⟨rfl, -⟩ | rfl
      · cases hc
      rcases List.mem_cons.mp hc with rfl | hc
      · decide
      · exact .inl (hdecimal.fraction_digits c hc)
    · refine (hrest.mem_lowered hc).imp_right fun hc => ?_
      exact (by decide : "+-e".toList ⊆ "+-.einfaty".toList) hc

theorem WritesMagnitude.unsigned {r : List Char} (h : WritesMagnitude negative (c :: r) x) :
    c ≠ '-' ∧ c ≠ '+' := by
  have named : ∀ {name : String} {c' : Char} {r' : List Char},
      (c :: r).map Char.toLower = name.toList → name.toList = c' :: r' →
      c' ≠ '-' → c' ≠ '+' → c ≠ '-' ∧ c ≠ '+' := by
    intro name c' r' hname hc' hminus hplus
    obtain ⟨rfl, -⟩ := List.cons.inj (hname.trans hc')
    constructor
    · rintro rfl
      exact hminus (by decide)
    · rintro rfl
      exact hplus (by decide)
  generalize hcs : c :: r = cs at h
  cases h with
  | infinity hname =>
    subst hcs
    rcases hname with hname | hname
    · exact named hname rfl (by decide) (by decide)
    · exact named hname rfl (by decide) (by decide)
  | notANumber hname =>
    subst hcs
    exact named hname rfl (by decide) (by decide)
  | decimal hdecimal hrest =>
    obtain ⟨c', r', hhead, hc'⟩ := hdecimal.exists_head _
    obtain ⟨rfl, -⟩ := List.cons.inj (hcs.trans hhead)
    constructor
    · rintro rfl
      exact absurd hc' (by decide)
    · rintro rfl
      exact absurd hc' (by decide)

theorem readFloat?_eq_some_iff : readFloat? s = some x ↔
    (∃ cs, s.toList = '-' :: cs ∧ WritesMagnitude true cs x) ∨
      ∃ cs, (s.toList = cs ∨ s.toList = '+' :: cs) ∧ WritesMagnitude false cs x := by
  constructor
  · intro h
    unfold readFloat? at h
    split at h
    case h_1 rest htext => exact .inl ⟨rest, htext, readMagnitude?_eq_some_iff.mp h⟩
    case h_2 rest htext => exact .inr ⟨rest, .inr htext, readMagnitude?_eq_some_iff.mp h⟩
    case h_3 => exact .inr ⟨_, .inl rfl, readMagnitude?_eq_some_iff.mp h⟩
  · rintro (⟨cs, hcs, h⟩ | ⟨cs, rfl | hcs, h⟩)
    · rw [readFloat?, hcs]
      exact readMagnitude?_eq_some_iff.mpr h
    · unfold readFloat?
      split
      case h_1 rest htext =>
        rw [htext] at h
        exact absurd rfl h.unsigned.1
      case h_2 rest htext =>
        rw [htext] at h
        exact absurd rfl h.unsigned.2
      case h_3 => exact readMagnitude?_eq_some_iff.mpr h
    · rw [readFloat?, hcs]
      exact readMagnitude?_eq_some_iff.mpr h

theorem readFloat?_decimal {whole fraction : List Char} (hwhole : IsNumeral whole)
    (hfraction : IsNumeral fraction) (htext : s.toList = whole ++ '.' :: fraction) :
    readFloat? s = some (Binary64.ofDecimal false (numeral 10 (whole ++ fraction))
      (-fraction.length)) := by
  have h : WritesMagnitude false _ _ :=
    .decimal ⟨hwhole.2, hfraction.2, .inr rfl, .inl hwhole.1⟩ .absent
  rw [List.append_nil, ← htext, Int.zero_sub] at h
  exact readFloat?_eq_some_iff.mpr (.inr ⟨_, .inl rfl, h⟩)

theorem readFloat?_eq_none (hc : c ∈ s.toList) (hdigit : ¬c.isDigit)
    (hother : c.toLower ∉ "+-.einfaty".toList) : readFloat? s = none := by
  have refused : ∀ {negative cs x}, WritesMagnitude negative cs x → c ∉ cs := fun h hc =>
    (h.mem_lowered hc).elim hdigit hother
  refine Option.eq_none_iff_forall_ne_some.mpr fun x hx => ?_
  obtain ⟨cs, htext, h⟩ | ⟨cs, htext | htext, h⟩ := readFloat?_eq_some_iff.mp hx
  all_goals rw [htext] at hc
  · refine refused h ((List.mem_cons.mp hc).resolve_left ?_)
    rintro rfl
    exact hother (by decide)
  · exact refused h hc
  · refine refused h ((List.mem_cons.mp hc).resolve_left ?_)
    rintro rfl
    exact hother (by decide)

end RecordCache
