import Mathlib.Data.List.Dedup

/-!
# Go maps and sets

The scan runner ranges over Go maps (the detector's `map[Technology]map[string][]string`) and
collects identifiers in a `datastructures.Set`; the repository template edits the
questionnaire's answers, a `map[string]interface{}`.  Both kinds of collection are modelled as
lists in which no key occurs twice.

The order of a `GoMap`'s entries is the order in which `range` happens to visit them.  Go leaves
it unspecified, and the maps the scan runner ranges over come from the detector, so every
statement about them holds for every order.  A `GoSet` is only ever filled by `Add`, and the
model keeps its elements in the order they were added: that is one of the orders Go's `ToSlice`
may return, not the only one.  What a set holds, and that it holds nothing twice, does not
depend on that order; the order of the requested directories and of the applicability
dependencies in the model is the insertion order.

* `GoMap` carries the distinctness of its keys; `GoMap.insert` is the assignment `m[k] = v`,
  `GoMap.delete` is `delete(m, k)`, and `GoMap.lookup` the read `m[k]` with its `ok`.
* `GoSet` carries the distinctness of its elements; `GoSet.add` is `Add` and
  `GoSet.addAll` adds the elements of a list one after the other.
-/

namespace CliCore

/-- A Go map: its entries in iteration order, no key twice. -/
structure GoMap (K V : Type) where
  /-- The entries, in the order `range` visits them. -/
  entries : List (K × V)
  /-- No key occurs twice. -/
  nodup : (entries.map Prod.fst).Nodup

namespace GoMap

variable {K V : Type} [DecidableEq K]

/-- The map with no entries. -/
def empty : GoMap K V := ⟨[], List.nodup_nil⟩

/-- `v, ok := m[k]`, as an `Option`. -/
def lookup (m : GoMap K V) (k : K) : Option V := m.entries.lookup k

/-- `m[k] = v`: any old entry of `k` is dropped and the new one is visited first. -/
def insert (m : GoMap K V) (k : K) (v : V) : GoMap K V :=
  ⟨(k, v) :: m.entries.filter (·.1 ≠ k), by
    refine List.nodup_cons.2 ⟨by simp, ?_⟩
    exact (List.filter_sublist _).map Prod.fst |>.nodup m.nodup⟩

theorem lookup_filter_ne {es : List (K × V)} {k k' : K} (h : k' ≠ k) :
    (es.filter (·.1 ≠ k)).lookup k' = es.lookup k' := by
  induction es with
  | nil => rfl
  | cons e es ih =>
    obtain ⟨k'', v''⟩ := e
    by_cases he : k'' = k
    · subst he
      simp_all [List.lookup_cons, beq_false_of_ne h]
    · by_cases hk : k' = k'' <;> simp_all [List.lookup_cons]

@[simp] theorem lookup_insert_self (m : GoMap K V) (k : K) (v : V) :
    (m.insert k v).lookup k = some v := by
  simp [insert, lookup, List.lookup_cons]

theorem lookup_insert_ne (m : GoMap K V) {k k' : K} (v : V) (h : k' ≠ k) :
    (m.insert k v).lookup k' = m.lookup k' := by
  have : (k' == k) = false := by simpa using h
  simp only [insert, lookup, List.lookup_cons, this]
  exact lookup_filter_ne h

/-- `delete(m, k)`. -/
def delete (m : GoMap K V) (k : K) : GoMap K V :=
  ⟨m.entries.filter (·.1 ≠ k), (List.filter_sublist _).map Prod.fst |>.nodup m.nodup⟩

end GoMap

/-- A `datastructures.Set`: its elements in the order they were added, none twice.  Go's
`ToSlice` may return them in any order; this is one of them. -/
structure GoSet (α : Type) where
  /-- `ToSlice`. -/
  toSlice : List α
  /-- No element occurs twice. -/
  nodup : toSlice.Nodup
  deriving DecidableEq

namespace GoSet

variable {α : Type} [DecidableEq α]

/-- `MakeSet`: the empty set. -/
def makeSet : GoSet α := ⟨[], List.nodup_nil⟩

/-- `Add`: an element already present leaves the set as it is. -/
def add (s : GoSet α) (x : α) : GoSet α :=
  if h : x ∈ s.toSlice then s
  else ⟨s.toSlice ++ [x], by simpa [List.nodup_append] using And.intro s.nodup h⟩

/-- `Add` for each element of a list, in order. -/
def addAll (s : GoSet α) (xs : List α) : GoSet α := xs.foldl add s

@[simp] theorem mem_add {s : GoSet α} {x y : α} :
    y ∈ (s.add x).toSlice ↔ y ∈ s.toSlice ∨ y = x := by
  unfold add
  split <;> simp_all [or_iff_left_of_imp]

@[simp] theorem mem_addAll {s : GoSet α} {xs : List α} {y : α} :
    y ∈ (s.addAll xs).toSlice ↔ y ∈ s.toSlice ∨ y ∈ xs := by
  induction xs generalizing s with
  | nil => simp [addAll]
  | cons x xs ih =>
    simp only [addAll, List.foldl_cons] at ih ⊢
    rw [ih, mem_add, List.mem_cons]
    tauto

end GoSet

end CliCore
