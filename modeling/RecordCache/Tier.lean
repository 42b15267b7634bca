/-! Utility tiers of resident pages. A page enters at the lowest tier and rises by repeated use;
victims are taken from the lowest tier that has members. -/
namespace RecordCache

inductive Tier where
  | unknown
  | shortTerm
  | longTerm
  deriving DecidableEq, Repr

namespace Tier

instance : Inhabited Tier := ⟨unknown⟩

def all : List Tier := [unknown, shortTerm, longTerm]

def index : Tier → Nat
  | unknown => 0
  | shortTerm => 1
  | longTerm => 2

instance : LE Tier := ⟨fun a b => a.index ≤ b.index⟩

instance : LT Tier := ⟨fun a b => a.index < b.index⟩

instance (a b : Tier) : Decidable (a ≤ b) := inferInstanceAs (Decidable (a.index ≤ b.index))

instance (a b : Tier) : Decidable (a < b) := inferInstanceAs (Decidable (a.index < b.index))

def promoted? : Tier → Option Tier
  | unknown => some shortTerm
  | shortTerm => some longTerm
  | longTerm => none

def demoted? : Tier → Option Tier
  | unknown => none
  | shortTerm => some unknown
  | longTerm => some shortTerm

def below (t : Tier) : List Tier := all.filter (· < t)

def name : Tier → String
  | unknown => "unknown"
  | shortTerm => "short_term"
  | longTerm => "long_term"

def ofName? (s : String) : Option Tier := all.find? (·.name == s)

def diagnosticName : Tier → String
  | unknown => "Unknown"
  | shortTerm => "ShortTerm"
  | longTerm => "LongTerm"

theorem mem_all (t : Tier) : t ∈ all := by cases t <;> decide

theorem index_injective {a b : Tier} (h : a.index = b.index) : a = b := by
  cases a <;> cases b <;> simp_all [index]

theorem lt_of_promoted? {a b : Tier} (h : a.promoted? = some b) : a < b := by
  cases a <;> cases h <;> decide

end Tier

structure PerTier (α : Type) where
  unknown : α
  shortTerm : α
  longTerm : α
  deriving DecidableEq, Repr

namespace PerTier

variable {α β : Type}

def const (a : α) : PerTier α := ⟨a, a, a⟩

def get (p : PerTier α) : Tier → α
  | .unknown => p.unknown
  | .shortTerm => p.shortTerm
  | .longTerm => p.longTerm

def set (p : PerTier α) (t : Tier) (a : α) : PerTier α :=
  match t with
  | .unknown => { p with unknown := a }
  | .shortTerm => { p with shortTerm := a }
  | .longTerm => { p with longTerm := a }

def modify (p : PerTier α) (t : Tier) (f : α → α) : PerTier α := p.set t (f (p.get t))

def map (p : PerTier α) (f : α → β) : PerTier β := ⟨f p.unknown, f p.shortTerm, f p.longTerm⟩

def toList (p : PerTier α) : List α := [p.unknown, p.shortTerm, p.longTerm]

@[simp] theorem get_const (a : α) (t : Tier) : (const a).get t = a := by cases t <;> rfl

@[simp] theorem get_set_self (p : PerTier α) (t : Tier) (a : α) : (p.set t a).get t = a := by
  cases t <;> rfl

theorem get_set_of_ne (p : PerTier α) {t u : Tier} (a : α) (h : u ≠ t) :
    (p.set t a).get u = p.get u := by
  cases t <;> cases u <;> simp_all [get, set]

@[simp] theorem get_map (p : PerTier α) (f : α → β) (t : Tier) : (p.map f).get t = f (p.get t) := by
  cases t <;> rfl

theorem get_set (p : PerTier α) (t u : Tier) (a : α) :
    (p.set t a).get u = if u = t then a else p.get u := by
  by_cases h : u = t
  · subst h; simp
  · simp [h, get_set_of_ne p a h]

theorem get_modify (p : PerTier α) (t u : Tier) (f : α → α) :
    (p.modify t f).get u = if u = t then f (p.get u) else p.get u := by
  rw [modify, get_set]
  split <;> simp_all

@[ext] theorem ext_get {p q : PerTier α} (h : ∀ t, p.get t = q.get t) : p = q := by
  have hu := h .unknown
  have hs := h .shortTerm
  have hl := h .longTerm
  cases p; cases q
  simp_all [get]

end PerTier

end RecordCache
