/-!
# Finite maps in key order

A map is the list of its entries in strictly ascending key order, and the order is part of the
type.  Two maps with the same bindings are therefore equal, whatever the order of the insertions
that built them.

## Main definitions

* `OrderedMap.insert`, `OrderedMap.get?`, `OrderedMap.ofList`: a later binding of a key replaces an
  earlier one.
* `OrderedMap.keys`, `OrderedMap.values`: the two columns, in key order.
* `OrderedSet`: a set as the map of its members to nothing.
-/

namespace CodeSurvey

/-- Entries whose keys ascend strictly. -/
structure OrderedMap (κ α : Type) [Ord κ] where
  entries : List (κ × α)
  sorted : entries.Pairwise fun a b => compare a.1 b.1 = .lt

namespace OrderedMap

variable {κ α β : Type} [Ord κ]

/-- The map without bindings. -/
def empty : OrderedMap κ α := ⟨[], .nil⟩

instance : Inhabited (OrderedMap κ α) := ⟨empty⟩

instance [BEq κ] [BEq α] : BEq (OrderedMap κ α) := ⟨fun a b => a.entries == b.entries⟩

instance [DecidableEq κ] [DecidableEq α] : DecidableEq (OrderedMap κ α) := fun a b =>
  if h : a.entries = b.entries then
    .isTrue (by cases a; cases b; simp_all)
  else .isFalse fun same => h (congrArg entries same)

theorem ext {a b : OrderedMap κ α} (h : a.entries = b.entries) : a = b := by
  cases a
  cases b
  simp_all

/-! ## Insertion -/

/-- Adds a binding to a list of entries in key order, in place of one with the same key. -/
def insertEntry (key : κ) (value : α) : List (κ × α) → List (κ × α)
  | [] => [(key, value)]
  | entry :: rest =>
      match compare key entry.1 with
      | .lt => (key, value) :: entry :: rest
      | .eq => (key, value) :: rest
      | .gt => entry :: insertEntry key value rest

/-- An entry of the extended list is the new one or an old one. -/
theorem mem_insertEntry {key : κ} {value : α} {entries : List (κ × α)} {e : κ × α}
    (h : e ∈ insertEntry key value entries) : e = (key, value) ∨ e ∈ entries := by
  induction entries with
  | nil => simpa [insertEntry] using h
  | cons entry rest ih =>
      simp only [insertEntry] at h
      split at h
      · simpa using h
      · simp only [List.mem_cons] at h ⊢
        rcases h with h | h
        · exact .inl h
        · exact .inr (.inr h)
      · simp only [List.mem_cons] at h ⊢
        rcases h with h | h
        · exact .inr (.inl h)
        · exact (ih h).imp_right .inr

/-- Inserting keeps the keys ascending. -/
theorem pairwise_insertEntry [Std.TransOrd κ] [Std.LawfulEqOrd κ] (key : κ) (value : α)
    (entries : List (κ × α)) (h : entries.Pairwise fun a b => compare a.1 b.1 = .lt) :
    (insertEntry key value entries).Pairwise fun a b => compare a.1 b.1 = .lt := by
  induction entries with
  | nil => exact List.pairwise_singleton ..
  | cons entry rest ih =>
      obtain ⟨hhead, hrest⟩ := List.pairwise_cons.1 h
      simp only [insertEntry]
      split
      · rename_i hlt
        refine List.pairwise_cons.2 ⟨fun e he => ?_, h⟩
        rcases List.mem_cons.1 he with rfl | he
        · exact hlt
        · exact Std.TransCmp.lt_trans hlt (hhead e he)
      · rename_i heq
        have hkey : key = entry.1 := Std.LawfulEqCmp.eq_of_compare heq
        exact List.pairwise_cons.2 ⟨fun e he => hkey ▸ hhead e he, hrest⟩
      · rename_i hgt
        refine List.pairwise_cons.2 ⟨fun e he => ?_, ih hrest⟩
        rcases mem_insertEntry he with rfl | he
        · exact Std.OrientedCmp.lt_of_gt hgt
        · exact hhead e he

/-- The map with `key` bound to `value`. -/
def insert [Std.TransOrd κ] [Std.LawfulEqOrd κ] (m : OrderedMap κ α) (key : κ) (value : α) :
    OrderedMap κ α :=
  ⟨insertEntry key value m.entries, pairwise_insertEntry key value m.entries m.sorted⟩

/-- The map of a list of bindings, of which the last one of a key counts. -/
def ofList [Std.TransOrd κ] [Std.LawfulEqOrd κ] (bindings : List (κ × α)) : OrderedMap κ α :=
  bindings.foldl (fun m binding => m.insert binding.1 binding.2) empty

/-! ## Views -/

/-- The value that the first entry with the key holds. -/
def lookupEntry (key : κ) : List (κ × α) → Option α
  | [] => none
  | entry :: rest => if compare key entry.1 = .eq then some entry.2 else lookupEntry key rest

/-- The value bound to the key. -/
def get? (m : OrderedMap κ α) (key : κ) : Option α := lookupEntry key m.entries

/-- Whether the key is bound. -/
def contains (m : OrderedMap κ α) (key : κ) : Bool := (m.get? key).isSome

/-- The keys in ascending order. -/
def keys (m : OrderedMap κ α) : List κ := m.entries.map (·.1)

/-- The values in the order of their keys. -/
def values (m : OrderedMap κ α) : List α := m.entries.map (·.2)

/-- The number of bindings. -/
def size (m : OrderedMap κ α) : Nat := m.entries.length

/-- Whether nothing is bound. -/
def isEmpty (m : OrderedMap κ α) : Bool := m.entries.isEmpty

/-- The map with every value replaced by a function of its key and itself. -/
def mapValues (f : κ → α → β) (m : OrderedMap κ α) : OrderedMap κ β where
  entries := m.entries.map fun entry => (entry.1, f entry.1 entry.2)
  sorted := List.pairwise_map.2 m.sorted

/-- The map without the bindings that fail a test. -/
def filter (keep : κ → α → Bool) (m : OrderedMap κ α) : OrderedMap κ α where
  entries := m.entries.filter fun entry => keep entry.1 entry.2
  sorted := m.sorted.filter _

/-- The map without a key. -/
def erase (m : OrderedMap κ α) (key : κ) : OrderedMap κ α :=
  m.filter fun k _ => decide (compare key k ≠ .eq)

/-- The map with the value at one key, if there is one, replaced by a function of itself. -/
def modify (m : OrderedMap κ α) (key : κ) (f : α → α) : OrderedMap κ α :=
  m.mapValues fun k value => if compare key k = .eq then f value else value

@[simp]
theorem entries_empty : (empty : OrderedMap κ α).entries = [] :=
  rfl

@[simp]
theorem entries_insert [Std.TransOrd κ] [Std.LawfulEqOrd κ] (m : OrderedMap κ α) (key : κ)
    (value : α) : (m.insert key value).entries = insertEntry key value m.entries :=
  rfl

/-- Changing the values leaves the keys alone. -/
@[simp]
theorem keys_mapValues (f : κ → α → β) (m : OrderedMap κ α) :
    (m.mapValues f).keys = m.keys := by
  simp [keys, mapValues]

@[simp]
theorem keys_modify (m : OrderedMap κ α) (key : κ) (f : α → α) :
    (m.modify key f).keys = m.keys :=
  keys_mapValues ..

/-! ## Lookup after an operation -/

@[simp]
theorem get?_empty (key : κ) : (empty : OrderedMap κ α).get? key = none :=
  rfl

/-- A key that was inserted is found with its value. -/
theorem lookupEntry_insertEntry_self [Std.ReflOrd κ] (key : κ) (value : α)
    (entries : List (κ × α)) :
    lookupEntry key (insertEntry key value entries) = some value := by
  induction entries with
  | nil => simp [insertEntry, lookupEntry]
  | cons entry rest ih =>
      simp only [insertEntry]
      split
      · simp [lookupEntry]
      · simp [lookupEntry]
      · rename_i hgt
        simp [lookupEntry, hgt, ih]

/-- An insertion does not change what other keys are found with. -/
theorem lookupEntry_insertEntry_of_ne [Std.LawfulEqOrd κ] {key other : κ} (h : other ≠ key)
    (value : α) (entries : List (κ × α)) :
    lookupEntry other (insertEntry key value entries) = lookupEntry other entries := by
  have hne : compare other key ≠ .eq := fun heq => h (Std.LawfulEqCmp.eq_of_compare heq)
  induction entries with
  | nil => simp [insertEntry, lookupEntry, hne]
  | cons entry rest ih =>
      simp only [insertEntry]
      split
      · simp [lookupEntry, hne]
      · rename_i heq
        have hkey : key = entry.1 := Std.LawfulEqCmp.eq_of_compare heq
        simp [lookupEntry, hne, ← hkey]
      · simp [lookupEntry, ih]

/-- What was stored last under a key is found. -/
@[simp]
theorem get?_insert_self [Std.TransOrd κ] [Std.LawfulEqOrd κ] (m : OrderedMap κ α) (key : κ)
    (value : α) : (m.insert key value).get? key = some value :=
  lookupEntry_insertEntry_self ..

/-- Storing under a key leaves all other keys alone. -/
theorem get?_insert_of_ne [Std.TransOrd κ] [Std.LawfulEqOrd κ] (m : OrderedMap κ α)
    {key other : κ} (h : other ≠ key) (value : α) :
    (m.insert key value).get? other = m.get? other :=
  lookupEntry_insertEntry_of_ne h ..

/-- A key is found with its changed value. -/
theorem lookupEntry_map [Std.LawfulEqOrd κ] (f : κ → α → β) (key : κ) (entries : List (κ × α)) :
    lookupEntry key (entries.map fun entry => (entry.1, f entry.1 entry.2)) =
      (lookupEntry key entries).map (f key) := by
  induction entries with
  | nil => rfl
  | cons entry rest ih =>
      simp only [List.map_cons, lookupEntry]
      split
      · rename_i heq
        rw [Std.LawfulEqCmp.eq_of_compare heq]
        rfl
      · exact ih

@[simp]
theorem get?_mapValues [Std.LawfulEqOrd κ] (f : κ → α → β) (m : OrderedMap κ α) (key : κ) :
    (m.mapValues f).get? key = (m.get? key).map (f key) :=
  lookupEntry_map ..

/-- The value of a key is changed, if it has one. -/
@[simp]
theorem get?_modify_self [Std.LawfulEqOrd κ] (m : OrderedMap κ α) (key : κ) (f : α → α) :
    (m.modify key f).get? key = (m.get? key).map f := by
  simp [modify]

/-- Changing the value of a key leaves all other keys alone. -/
theorem get?_modify_of_ne [Std.LawfulEqOrd κ] (m : OrderedMap κ α) {key other : κ}
    (h : other ≠ key) (f : α → α) : (m.modify key f).get? other = m.get? other := by
  have hne : compare key other ≠ .eq := fun heq => h (Std.LawfulEqCmp.eq_of_compare heq).symm
  simp [modify, hne]

/-- A key that is kept is found as before. -/
theorem lookupEntry_filter_of_keep [Std.LawfulEqOrd κ] (keep : κ → α → Bool) (key : κ)
    (h : ∀ value, keep key value = true) (entries : List (κ × α)) :
    lookupEntry key (entries.filter fun entry => keep entry.1 entry.2) =
      lookupEntry key entries := by
  induction entries with
  | nil => rfl
  | cons entry rest ih =>
      by_cases hkeep : keep entry.1 entry.2
      · simp [hkeep, lookupEntry, ih]
      · have hne : compare key entry.1 ≠ .eq := fun heq =>
          hkeep (Std.LawfulEqCmp.eq_of_compare heq ▸ h entry.2)
        simp [hkeep, lookupEntry, hne, ih]

/-- A key that is dropped is not found. -/
theorem lookupEntry_filter_of_drop [Std.LawfulEqOrd κ] (keep : κ → α → Bool) (key : κ)
    (h : ∀ value, keep key value = false) (entries : List (κ × α)) :
    lookupEntry key (entries.filter fun entry => keep entry.1 entry.2) = none := by
  induction entries with
  | nil => rfl
  | cons entry rest ih =>
      by_cases hkeep : keep entry.1 entry.2
      · have hne : compare key entry.1 ≠ .eq := fun heq => by
          have := Std.LawfulEqCmp.eq_of_compare heq ▸ h entry.2
          simp [this] at hkeep
        simp [hkeep, lookupEntry, hne, ih]
      · simp [hkeep, ih]

/-- An erased key is not found. -/
@[simp]
theorem get?_erase_self [Std.LawfulEqOrd κ] (m : OrderedMap κ α) (key : κ) :
    (m.erase key).get? key = none :=
  lookupEntry_filter_of_drop (fun k _ => decide (compare key k ≠ .eq)) key (by simp) m.entries

/-- Erasing a key leaves all other keys alone. -/
theorem get?_erase_of_ne [Std.LawfulEqOrd κ] (m : OrderedMap κ α) {key other : κ}
    (h : other ≠ key) : (m.erase key).get? other = m.get? other := by
  have hne : compare key other ≠ .eq := fun heq => h (Std.LawfulEqCmp.eq_of_compare heq).symm
  exact lookupEntry_filter_of_keep (fun k _ => decide (compare key k ≠ .eq)) other
    (by simp [hne]) m.entries

end OrderedMap

/-! ## Sets -/

/-- A finite set, listed in ascending order. -/
abbrev OrderedSet (κ : Type) [Ord κ] := OrderedMap κ Unit

namespace OrderedSet

variable {κ : Type} [Ord κ] [Std.TransOrd κ] [Std.LawfulEqOrd κ]

/-- The set with one more member. -/
def add (s : OrderedSet κ) (x : κ) : OrderedSet κ := OrderedMap.insert s x ()

/-- The set of the elements of a list. -/
def ofElements (xs : List κ) : OrderedSet κ := xs.foldl add OrderedMap.empty

/-- The members of either set. -/
def union (s t : OrderedSet κ) : OrderedSet κ := (OrderedMap.keys t).foldl add s

end OrderedSet

end CodeSurvey
