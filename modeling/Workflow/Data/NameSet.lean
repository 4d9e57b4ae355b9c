import Workflow.Data.Dict

/-!
Finite sets of names, listed in order.
-/
namespace Workflow

structure NameSet where
  index : Dict String Unit
deriving DecidableEq, Repr

namespace NameSet

def empty : NameSet := ⟨∅⟩

instance : EmptyCollection NameSet := ⟨empty⟩
instance : Inhabited NameSet := ⟨empty⟩

def contains (s : NameSet) (k : String) : Bool := s.index.contains k

instance : Membership String NameSet := ⟨fun s k => s.contains k = true⟩

instance (k : String) (s : NameSet) : Decidable (k ∈ s) :=
  inferInstanceAs (Decidable (s.contains k = true))

def insert (s : NameSet) (k : String) : NameSet := ⟨s.index.insert k ()⟩

def erase (s : NameSet) (k : String) : NameSet := ⟨s.index.erase k⟩

/-- The names in order. -/
def toList (s : NameSet) : List String := s.index.keys

def isEmpty (s : NameSet) : Bool := s.index.isEmpty

def ofList (l : List String) : NameSet := l.foldl insert empty

theorem mem_def {k : String} {s : NameSet} : k ∈ s ↔ s.contains k = true := Iff.rfl

@[simp] theorem not_mem_empty (k : String) : ¬ k ∈ (∅ : NameSet) := by
  simp only [mem_def, contains, Dict.contains]
  exact Bool.false_ne_true

@[simp] theorem mem_insert {k x : String} {s : NameSet} : k ∈ s.insert x ↔ k = x ∨ k ∈ s := by
  simp only [mem_def, contains, insert, Dict.contains, Dict.get?_insert]
  split <;> simp_all

@[simp] theorem mem_erase {k x : String} {s : NameSet} : k ∈ s.erase x ↔ k ≠ x ∧ k ∈ s := by
  simp only [mem_def, contains, erase, Dict.contains, Dict.get?_erase]
  split <;> simp_all

@[simp] theorem mem_toList {k : String} {s : NameSet} : k ∈ s.toList ↔ k ∈ s := Dict.mem_keys

theorem isEmpty_iff {s : NameSet} : s.isEmpty = true ↔ ∀ k, ¬ k ∈ s := by
  rw [isEmpty, Dict.isEmpty, List.isEmpty_iff]
  constructor
  · intro h k hk
    rw [← mem_toList, toList, Dict.keys, h] at hk
    simp at hk
  · intro h
    have hkeys : s.toList = [] := List.eq_nil_iff_forall_not_mem.2 fun k hk => h k (mem_toList.1 hk)
    exact List.map_eq_nil_iff.1 hkeys

theorem ext {s t : NameSet} (h : ∀ k, k ∈ s ↔ k ∈ t) : s = t := by
  obtain ⟨s⟩ := s
  obtain ⟨t⟩ := t
  congr
  refine Dict.ext_get? fun k => ?_
  have hk := h k
  simp only [mem_def, contains, Dict.contains] at hk
  cases hs : s.get? k <;> cases ht : t.get? k <;> simp_all

end NameSet

end Workflow
