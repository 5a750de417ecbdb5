/-!
A registry gives out a number for each thing put into it and never gives the same number again, so that a
number whose thing is gone means nothing for good.
-/

namespace InstrumentLink

structure Registry (α : Type) where
  slots : List (Option α)
  deriving Repr

namespace Registry

variable {α : Type}

def empty : Registry α := ⟨[]⟩

def find? (registry : Registry α) (id : Nat) : Option α := registry.slots[id]?.join

def next (registry : Registry α) : Nat := registry.slots.length

def add (a : α) (registry : Registry α) : Registry α := ⟨registry.slots ++ [some a]⟩

def modify (id : Nat) (f : α → α) (registry : Registry α) : Registry α :=
  ⟨registry.slots.modify id (Option.map f)⟩

def remove (id : Nat) (registry : Registry α) : Registry α :=
  ⟨registry.slots.modify id fun _ => none⟩

def map (f : α → α) (registry : Registry α) : Registry α :=
  ⟨registry.slots.map (Option.map f)⟩

def toList (registry : Registry α) : List (Nat × α) :=
  (List.range registry.next).filterMap fun id => (registry.find? id).map (id, ·)

@[simp] theorem find?_empty (id : Nat) : (empty : Registry α).find? id = none := by
  simp [find?, empty]

theorem find?_of_next_le {registry : Registry α} {id : Nat} (h : registry.next ≤ id) :
    registry.find? id = none := by
  simp [find?, List.getElem?_eq_none h]

theorem lt_next_of_find? {registry : Registry α} {id : Nat} {a : α} (h : registry.find? id = some a) :
    id < registry.next := by
  by_cases small : id < registry.next
  · exact small
  · simp [find?_of_next_le (Nat.le_of_not_lt small)] at h

@[simp] theorem find?_add_next (registry : Registry α) (a : α) :
    (registry.add a).find? registry.next = some a := by
  simp [find?, add, next]

theorem find?_add_of_lt {registry : Registry α} {id : Nat} (a : α) (h : id < registry.next) :
    (registry.add a).find? id = registry.find? id := by
  simp [find?, add, List.getElem?_append_left h]

theorem find?_add (registry : Registry α) (a : α) (id : Nat) :
    (registry.add a).find? id = if id = registry.next then some a else registry.find? id := by
  by_cases same : id = registry.next
  · simp [same]
  · by_cases small : id < registry.next
    · simp [same, find?_add_of_lt a small]
    · have absent : registry.find? id = none := find?_of_next_le (by omega)
      have large : (registry.add a).next ≤ id := by
        simp only [next, add, List.length_append, List.length_singleton] at small same ⊢
        omega
      rw [if_neg same, absent, find?_of_next_le large]

@[simp] theorem next_add (registry : Registry α) (a : α) : (registry.add a).next = registry.next + 1 := by
  simp [next, add]

@[simp] theorem next_modify (registry : Registry α) (id : Nat) (f : α → α) :
    (registry.modify id f).next = registry.next := by
  simp [next, modify]

@[simp] theorem next_remove (registry : Registry α) (id : Nat) :
    (registry.remove id).next = registry.next := by
  simp [next, remove]

@[simp] theorem next_map (registry : Registry α) (f : α → α) : (registry.map f).next = registry.next := by
  simp [next, map]

theorem find?_modify (registry : Registry α) (id : Nat) (f : α → α) (other : Nat) :
    (registry.modify id f).find? other =
      if id = other then (registry.find? other).map f else registry.find? other := by
  by_cases same : id = other
  · subst same
    cases slot : registry.slots[id]? with
    | none => simp [find?, modify, slot]
    | some a => cases a <;> simp [find?, modify, slot]
  · simp [find?, modify, same]

theorem find?_remove (registry : Registry α) (id other : Nat) :
    (registry.remove id).find? other = if id = other then none else registry.find? other := by
  by_cases same : id = other
  · subst same
    cases slot : registry.slots[id]? <;> simp [find?, remove, slot]
  · simp [find?, remove, same]

@[simp] theorem find?_map (registry : Registry α) (f : α → α) (id : Nat) :
    (registry.map f).find? id = (registry.find? id).map f := by
  cases slot : registry.slots[id]? with
  | none => simp [find?, map, slot]
  | some a => cases a <;> simp [find?, map, slot]

theorem mem_toList {registry : Registry α} {id : Nat} {a : α} :
    (id, a) ∈ registry.toList ↔ registry.find? id = some a := by
  simp only [toList, List.mem_filterMap, List.mem_range, Option.map_eq_some_iff, Prod.mk.injEq]
  constructor
  · rintro ⟨_, _, _, found, rfl, rfl⟩
    exact found
  · exact fun found => ⟨id, lt_next_of_find? found, a, found, rfl, rfl⟩

theorem ext_find? {registry other : Registry α} (next : registry.next = other.next)
    (same : ∀ id, registry.find? id = other.find? id) : registry = other := by
  obtain ⟨slots⟩ := registry
  obtain ⟨others⟩ := other
  congr 1
  refine List.ext_getElem next fun id small smallToo => ?_
  simpa [find?, List.getElem?_eq_getElem small, List.getElem?_eq_getElem smallToo] using same id

/-- A number is given to nothing. -/
def skip (registry : Registry α) : Registry α := ⟨registry.slots ++ [none]⟩

@[simp] theorem next_skip (registry : Registry α) : registry.skip.next = registry.next + 1 := by
  simp [next, skip]

@[simp] theorem find?_skip (registry : Registry α) (id : Nat) : registry.skip.find? id = registry.find? id := by
  unfold find? skip
  rcases Nat.lt_trichotomy id registry.slots.length with small | same | large
  · rw [List.getElem?_append_left small]
  · subst same
    simp
  · have past : ([none] : List (Option α)).length ≤ id - registry.slots.length := Nat.sub_pos_of_lt large
    rw [List.getElem?_append_right (Nat.le_of_lt large), List.getElem?_eq_none (Nat.le_of_lt large),
      List.getElem?_eq_none past]

theorem modify_add_next (registry : Registry α) (a : α) (f : α → α) :
    (registry.add a).modify registry.next f = registry.add (f a) := by
  refine ext_find? (by simp) (fun id => ?_)
  rw [find?_modify, find?_add, find?_add]
  by_cases same : id = registry.next
  · simp [same]
  · rw [if_neg same, if_neg same, if_neg (Ne.symm same)]

theorem remove_add_next (registry : Registry α) (a : α) : (registry.add a).remove registry.next = registry.skip := by
  refine ext_find? (by simp) (fun id => ?_)
  rw [find?_remove, find?_add, find?_skip]
  by_cases same : id = registry.next
  · rw [if_pos same.symm, find?_of_next_le (Nat.le_of_eq same.symm)]
  · rw [if_neg (Ne.symm same), if_neg same]

end Registry
end InstrumentLink
