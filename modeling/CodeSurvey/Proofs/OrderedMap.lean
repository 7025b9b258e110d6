import CodeSurvey.OrderedMap
import Mathlib.Algebra.GroupWithZero.Nat

/-!
# Ordered maps as finite functions

An ordered map is known by its lookups.  This file reads entries, keys and membership off the
lookups, and says what the operations on maps and sets do to them.

## Main results

* `OrderedMap.mem_entries_iff`: the entries are exactly the bindings that a lookup finds.
* `OrderedMap.keys_eq_of_contains`: the keys depend on membership alone, and not on the order of
  the insertions.
* `OrderedMap.ext_get?`: maps with the same lookups are equal.
* `OrderedMap.size_eq_length`: the size of a map is the number of its distinct keys.
* `OrderedMap.get?_ofList`: the last binding of a key counts.
* `OrderedMap.sum_values_insert`: the sum of all values after an insertion.
* `OrderedSet.contains_ofElements`, `OrderedSet.contains_union`: membership in a set.
-/

namespace CodeSurvey
namespace OrderedMap

variable {κ α β : Type} [Ord κ]

/-! ## Entries and keys -/

/-- Keys are ascending. -/
theorem keys_pairwise (m : OrderedMap κ α) : m.keys.Pairwise fun a b => compare a b = .lt :=
  List.pairwise_map.2 m.sorted

@[simp]
theorem contains_empty (key : κ) : (empty : OrderedMap κ α).contains key = false :=
  rfl

/-- A key before all others is not bound. -/
theorem lookupEntry_eq_none_of_lt {key : κ} {entries : List (κ × α)}
    (h : ∀ entry ∈ entries, compare key entry.1 = .lt) : lookupEntry key entries = none := by
  induction entries with
  | nil => rfl
  | cons entry rest ih =>
      rw [List.forall_mem_cons] at h
      rw [lookupEntry, if_neg (by simp [h.1]), ih h.2]

variable [Std.LawfulEqOrd κ]

/-- In a list of entries with ascending keys a lookup finds a binding exactly if it is listed. -/
theorem lookupEntry_eq_some_iff {entries : List (κ × α)}
    (hsorted : entries.Pairwise fun a b => compare a.1 b.1 = .lt) (key : κ) (value : α) :
    lookupEntry key entries = some value ↔ (key, value) ∈ entries := by
  induction entries with
  | nil => simp [lookupEntry]
  | cons entry rest ih =>
      obtain ⟨hhead, hrest⟩ := List.pairwise_cons.1 hsorted
      by_cases hkey : compare key entry.1 = .eq
      · have hsame : key = entry.1 := Std.LawfulEqCmp.eq_of_compare hkey
        have hnot : ∀ other, (key, other) ∉ rest := by
          intro other hmem
          have hlt := hhead (key, other) hmem
          rw [← hsame] at hlt
          simp at hlt
        obtain ⟨k, v⟩ := entry
        simp only at hsame
        subst hsame
        simp [lookupEntry, hnot, eq_comm]
      · have hne : (key, value) ≠ entry := by
          rintro rfl
          exact hkey Std.ReflCmp.compare_self
        simp [lookupEntry, hkey, hne, ih hrest]

/-- The entries are what is found under the keys. -/
theorem mem_entries_iff (m : OrderedMap κ α) (key : κ) (value : α) :
    (key, value) ∈ m.entries ↔ m.get? key = some value :=
  (lookupEntry_eq_some_iff m.sorted key value).symm

/-- The values are those that are found under some key. -/
theorem mem_values_iff (m : OrderedMap κ α) (value : α) :
    value ∈ m.values ↔ ∃ key, m.get? key = some value := by
  simp [values, ← mem_entries_iff]

/-- The keys are those that the map contains. -/
theorem mem_keys_iff (m : OrderedMap κ α) (key : κ) : key ∈ m.keys ↔ m.contains key = true := by
  simp [keys, contains, Option.isSome_iff_exists, ← mem_entries_iff]

/-- A map is not empty exactly if it contains a key. -/
theorem isEmpty_eq_false_iff (m : OrderedMap κ α) :
    m.isEmpty = false ↔ ∃ key, m.contains key = true := by
  simp only [← mem_keys_iff, ← List.isEmpty_eq_false_iff_exists_mem, keys, List.isEmpty_map]
  rfl

/-- No key occurs twice. -/
theorem keys_nodup (m : OrderedMap κ α) : m.keys.Nodup := by
  refine m.keys_pairwise.imp ?_
  rintro a b hlt rfl
  simp at hlt

/-- A map has as many bindings as there are distinct members. -/
theorem size_eq_length {m : OrderedMap κ α} {xs : List κ} (hnodup : xs.Nodup)
    (h : ∀ key, m.contains key = true ↔ key ∈ xs) : m.size = xs.length := by
  have hperm : m.keys.Perm xs := by
    rw [List.perm_ext_iff_of_nodup m.keys_nodup hnodup]
    intro key
    rw [mem_keys_iff, h key]
  rw [size, ← hperm.length_eq, keys, List.length_map]

/-- Maps with the same members list them in the same order. -/
theorem keys_eq_of_contains [Std.TransOrd κ] {m : OrderedMap κ α} {n : OrderedMap κ β}
    (h : ∀ key, m.contains key = n.contains key) : m.keys = n.keys := by
  have hperm : m.keys.Perm n.keys := by
    rw [List.perm_ext_iff_of_nodup m.keys_nodup n.keys_nodup]
    intro key
    rw [mem_keys_iff, mem_keys_iff, h key]
  refine hperm.eq_of_pairwise ?_ m.keys_pairwise n.keys_pairwise
  intro a b _ _ hab hba
  have haa : compare a a = .lt := Std.TransCmp.lt_trans hab hba
  simp at haa

/-- No entry occurs twice. -/
theorem entries_nodup (m : OrderedMap κ α) : m.entries.Nodup := by
  refine m.sorted.imp ?_
  rintro a b hlt rfl
  simp at hlt

/-- Maps with the same lookups are equal. -/
theorem ext_get? [Std.TransOrd κ] {m n : OrderedMap κ α} (h : ∀ key, m.get? key = n.get? key) :
    m = n := by
  apply ext
  have hperm : m.entries.Perm n.entries := by
    rw [List.perm_ext_iff_of_nodup m.entries_nodup n.entries_nodup]
    rintro ⟨key, value⟩
    rw [mem_entries_iff, mem_entries_iff, h key]
  refine hperm.eq_of_pairwise ?_ m.sorted n.sorted
  intro a b _ _ hab hba
  have haa : compare a.1 a.1 = .lt := Std.TransCmp.lt_trans hab hba
  simp at haa

/-! ## Operations -/

variable [DecidableEq κ]

/-- Changing the value of a key is seen under this key alone. -/
theorem get?_modify (m : OrderedMap κ α) (key other : κ) (change : α → α) :
    (m.modify key change).get? other =
      if other = key then (m.get? other).map change else m.get? other := by
  split
  · rename_i hsame
    rw [hsame, get?_modify_self]
  · rename_i hne
    exact m.get?_modify_of_ne hne change

omit [DecidableEq κ] in
/-- A key is found if its value is kept. -/
theorem get?_filter (keep : κ → α → Bool) (m : OrderedMap κ α) (key : κ) :
    (m.filter keep).get? key = (m.get? key).filter (keep key) := by
  apply Option.ext
  intro value
  rw [← mem_entries_iff, Option.filter_eq_some_iff, ← mem_entries_iff]
  exact List.mem_filter

/-- Erasing a key is seen under this key alone. -/
theorem get?_erase (m : OrderedMap κ α) (key other : κ) :
    (m.erase key).get? other = if other = key then none else m.get? other := by
  split
  · rename_i hsame
    rw [hsame, get?_erase_self]
  · rename_i hne
    exact m.get?_erase_of_ne hne

variable [Std.TransOrd κ]

/-- Storing under a key is seen under this key alone. -/
theorem get?_insert (m : OrderedMap κ α) (key other : κ) (value : α) :
    (m.insert key value).get? other = if other = key then some value else m.get? other := by
  split
  · rename_i hsame
    rw [hsame, get?_insert_self]
  · rename_i hne
    exact m.get?_insert_of_ne hne value

/-- After an insertion the map contains the new key and the old ones. -/
@[simp]
theorem contains_insert (m : OrderedMap κ α) (key other : κ) (value : α) :
    (m.insert key value).contains other = (decide (other = key) || m.contains other) := by
  rw [contains, get?_insert]
  split <;> simp_all [contains]

/-- In the map of a list of bindings the last binding of a key counts. -/
theorem get?_ofList (bindings : List (κ × α)) (key : κ) :
    (ofList bindings).get? key =
      (bindings.reverse.find? fun binding => key = binding.1).map (·.2) := by
  suffices hfold : ∀ m : OrderedMap κ α,
      (bindings.foldl (fun m binding => m.insert binding.1 binding.2) m).get? key =
        ((bindings.reverse.find? fun binding => key = binding.1).map (·.2)).or (m.get? key) by
    rw [ofList, hfold]
    exact Option.or_none
  induction bindings with
  | nil => simp
  | cons binding rest ih =>
      intro m
      rw [List.foldl_cons, ih, get?_insert, List.reverse_cons, List.find?_append]
      by_cases hkey : key = binding.1 <;>
        cases rest.reverse.find? fun binding => key = binding.1 <;> simp [hkey]

/-- In the map of the elements of a list by their keys the last element with a key counts. -/
theorem get?_ofList_map {γ : Type} (keyOf : γ → κ) (valueOf : γ → α) (xs : List γ) (key : κ) :
    (ofList (xs.map fun x => (keyOf x, valueOf x))).get? key =
      (xs.reverse.find? fun x => key = keyOf x).map valueOf := by
  rw [get?_ofList, ← List.map_reverse, List.find?_map, Option.map_map]
  rfl

/-- Every binding of such a map is listed. -/
theorem mem_of_get?_ofList {bindings : List (κ × α)} {key : κ} {value : α}
    (h : (ofList bindings).get? key = some value) : (key, value) ∈ bindings := by
  rw [get?_ofList] at h
  obtain ⟨binding, hfind, rfl⟩ := Option.map_eq_some_iff.1 h
  have hkey := List.find?_some hfind
  simp only [decide_eq_true_eq] at hkey
  subst hkey
  exact List.mem_reverse.1 (List.mem_of_find?_eq_some hfind)

/-! ## Sums of values -/

omit [Std.LawfulEqOrd κ] [DecidableEq κ] in
/-- An insertion replaces the summand of its key. -/
theorem sum_insertEntry (key : κ) (value : Nat) {entries : List (κ × Nat)}
    (hsorted : entries.Pairwise fun a b => compare a.1 b.1 = .lt) :
    ((insertEntry key value entries).map (·.2)).sum + (lookupEntry key entries).getD 0 =
      (entries.map (·.2)).sum + value := by
  induction entries with
  | nil => simp [insertEntry, lookupEntry]
  | cons entry rest ih =>
      obtain ⟨hhead, hrest⟩ := List.pairwise_cons.1 hsorted
      simp only [insertEntry]
      split
      · rename_i hlt
        have hnone : lookupEntry key (entry :: rest) = none := by
          apply lookupEntry_eq_none_of_lt
          intro other hother
          rcases List.mem_cons.1 hother with rfl | hother
          · exact hlt
          · exact Std.TransCmp.lt_trans hlt (hhead other hother)
        simp [hnone, Nat.add_comm]
      · rename_i heq
        simp only [lookupEntry, heq, if_true, List.map_cons, List.sum_cons, Option.getD_some]
        omega
      · rename_i hgt
        have hstep := ih hrest
        simp only [lookupEntry, hgt, List.map_cons, List.sum_cons, reduceCtorEq, if_false]
        omega

omit [DecidableEq κ] in
/-- A binding replaces the old value of its key in the sum of all values. -/
theorem sum_values_insert (m : OrderedMap κ Nat) (key : κ) (value : Nat) :
    (m.insert key value).values.sum + (m.get? key).getD 0 = m.values.sum + value :=
  sum_insertEntry key value m.sorted

end OrderedMap

/-! ## Sets -/

namespace OrderedSet

variable {κ : Type} [Ord κ] [Std.TransOrd κ] [Std.LawfulEqOrd κ] [DecidableEq κ]

/-- After an addition a set contains the new element and the old ones. -/
@[simp]
theorem contains_add (s : OrderedSet κ) (x y : κ) :
    OrderedMap.contains (s.add x) y = (decide (y = x) || OrderedMap.contains s y) :=
  OrderedMap.contains_insert s x y ()

/-- Adding elements one after the other adds them all. -/
theorem contains_foldl_add (xs : List κ) (s : OrderedSet κ) (y : κ) :
    OrderedMap.contains (xs.foldl add s) y = true ↔ y ∈ xs ∨ OrderedMap.contains s y = true := by
  induction xs generalizing s with
  | nil => simp
  | cons x xs ih =>
      rw [List.foldl_cons, ih, contains_add, List.mem_cons]
      simp only [Bool.or_eq_true, decide_eq_true_eq]
      rw [or_left_comm, or_assoc]

/-- The set of given elements contains these and no others. -/
@[simp]
theorem contains_ofElements (xs : List κ) (y : κ) :
    OrderedMap.contains (ofElements xs) y = true ↔ y ∈ xs := by
  rw [ofElements, contains_foldl_add]
  simp

/-- A union contains what either set contains. -/
@[simp]
theorem contains_union (s t : OrderedSet κ) (y : κ) :
    OrderedMap.contains (union s t) y = true ↔
      OrderedMap.contains s y = true ∨ OrderedMap.contains t y = true := by
  rw [union, contains_foldl_add, OrderedMap.mem_keys_iff, or_comm]

/-- A set is the set of its members. -/
theorem ofElements_keys (s : OrderedSet κ) : ofElements (OrderedMap.keys s) = s := by
  apply OrderedMap.ext_get?
  intro key
  have hmem : OrderedMap.contains (ofElements (OrderedMap.keys s)) key =
      OrderedMap.contains s key := by
    rw [Bool.eq_iff_iff, contains_ofElements, OrderedMap.mem_keys_iff]
  unfold OrderedMap.contains at hmem
  cases hset : OrderedMap.get? s key with
  | none =>
      rw [hset, Option.isSome_none, Option.isSome_eq_false_iff] at hmem
      exact Option.isNone_iff_eq_none.1 hmem
  | some member =>
      rw [hset, Option.isSome_some, Option.isSome_iff_exists] at hmem
      obtain ⟨_, hsome⟩ := hmem
      exact hsome

end OrderedSet

end CodeSurvey
