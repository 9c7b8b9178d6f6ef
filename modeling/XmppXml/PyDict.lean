import Mathlib.Data.List.Nodup
import Mathlib.Data.Finset.Basic

/-!
# Python dictionaries

The generator keeps its namespace bookkeeping in Python `dict`s, and `write_objects` iterates one.
A `dict` is its items in insertion order, with the keys pairwise distinct as a field of the
structure: `d[k] = v` replaces the value of a present key in place and appends a new one,
`d.update(e)` assigns the items of `e` in order, and `d.pop(k)` removes one item.

* `PyDict`, `get?`, `contains`, `keys`;
* `assign` (`d[k] = v`), `update`, `erase` (the removal of `d.pop(k)`);
* the lookup algebra: `get?_assign`, `get?_update`, `get?_erase`.

Python `set`s, which this module never iterates, are `Finset`s.
-/

namespace XmppXml

/-- The value of the first item with key `k`. -/
def lookup {κ ν : Type} [DecidableEq κ] (k : κ) : List (κ × ν) → Option ν
  | [] => none
  | (k', v) :: l => if k' = k then some v else lookup k l

/-- `d[k] = v` on the items: the value of a present key is replaced in place, a new key goes last. -/
def assignItems {κ ν : Type} [DecidableEq κ] (k : κ) (v : ν) : List (κ × ν) → List (κ × ν)
  | [] => [(k, v)]
  | (k', v') :: l => if k' = k then (k, v) :: l else (k', v') :: assignItems k v l

/-- The items without the one of key `k`. -/
def eraseItems {κ ν : Type} [DecidableEq κ] (k : κ) : List (κ × ν) → List (κ × ν)
  | [] => []
  | (k', v') :: l => if k' = k then l else (k', v') :: eraseItems k l

section Items

variable {κ ν : Type} [DecidableEq κ]

theorem lookup_eq_none_of_not_mem {k : κ} {l : List (κ × ν)} (h : k ∉ l.map Prod.fst) :
    lookup k l = none := by
  induction l with
  | nil => rfl
  | cons p l ih =>
    simp only [List.map_cons, List.mem_cons, not_or] at h
    simp [lookup, Ne.symm h.1, ih h.2]

theorem mem_of_lookup_eq_some {k : κ} {v : ν} {l : List (κ × ν)} (h : lookup k l = some v) :
    (k, v) ∈ l := by
  induction l with
  | nil => cases h
  | cons p l ih =>
    obtain ⟨a, b⟩ := p
    simp only [lookup] at h
    split_ifs at h with hak
    · cases h; subst hak; exact .head _
    · exact .tail _ (ih h)

/-- With the keys pairwise distinct, the value of a key is the one of its item. -/
theorem lookup_eq_some_of_mem {k : κ} {v : ν} {l : List (κ × ν)} (hnd : (l.map Prod.fst).Nodup)
    (h : (k, v) ∈ l) : lookup k l = some v := by
  induction l with
  | nil => cases h
  | cons p l ih =>
    obtain ⟨a, b⟩ := p
    rw [List.map_cons, List.nodup_cons] at hnd
    rcases List.mem_cons.mp h with h | h
    · cases h; simp [lookup]
    · have hne : a ≠ k := by rintro rfl; exact hnd.1 (List.mem_map.mpr ⟨_, h, rfl⟩)
      simp only [lookup, hne, if_false]
      exact ih hnd.2 h

theorem lookup_assignItems (k k' : κ) (v : ν) (l : List (κ × ν)) :
    lookup k' (assignItems k v l) = if k = k' then some v else lookup k' l := by
  induction l with
  | nil => simp [assignItems, lookup]
  | cons p l ih =>
    obtain ⟨a, b⟩ := p
    by_cases h : a = k
    · subst h; by_cases h' : a = k' <;> simp [assignItems, lookup, h']
    · simp only [assignItems, h, if_false, lookup, ih]
      by_cases h' : a = k'
      · subst h'; simp [Ne.symm h]
      · simp [h']

theorem keys_assignItems (k : κ) (v : ν) (l : List (κ × ν)) :
    (assignItems k v l).map Prod.fst =
      if k ∈ l.map Prod.fst then l.map Prod.fst else l.map Prod.fst ++ [k] := by
  induction l with
  | nil => simp [assignItems]
  | cons p l ih =>
    obtain ⟨a, b⟩ := p
    by_cases h : a = k
    · simp [assignItems, h]
    · simp only [assignItems, h, if_false, List.map_cons, ih, List.mem_cons, Ne.symm h, false_or]
      split_ifs <;> rfl

theorem nodup_assignItems (k : κ) (v : ν) {l : List (κ × ν)} (h : (l.map Prod.fst).Nodup) :
    ((assignItems k v l).map Prod.fst).Nodup := by
  rw [keys_assignItems]
  split_ifs with hk
  · exact h
  · exact h.append (List.nodup_singleton k) (by simpa using hk)

theorem keys_eraseItems_sublist (k : κ) (l : List (κ × ν)) :
    ((eraseItems k l).map Prod.fst).Sublist (l.map Prod.fst) := by
  induction l with
  | nil => exact List.Sublist.slnil
  | cons p l ih =>
    obtain ⟨a, b⟩ := p
    simp only [eraseItems]
    split_ifs
    · exact List.sublist_cons_self _ _
    · simpa using ih

theorem lookup_eraseItems (k k' : κ) {l : List (κ × ν)} (h : (l.map Prod.fst).Nodup) :
    lookup k' (eraseItems k l) = if k = k' then none else lookup k' l := by
  induction l with
  | nil => simp [eraseItems, lookup]
  | cons p l ih =>
    obtain ⟨a, b⟩ := p
    simp only [List.map_cons, List.nodup_cons] at h
    by_cases hk : a = k
    · subst hk
      by_cases h' : a = k'
      · subst h'
        simpa [eraseItems] using lookup_eq_none_of_not_mem h.1
      · simp [eraseItems, lookup, h']
    · simp only [eraseItems, hk, if_false, lookup, ih h.2]
      by_cases h' : a = k'
      · subst h'; simp [Ne.symm hk]
      · simp [h']

end Items

/-- A Python `dict`: its items in insertion order, the keys pairwise distinct. -/
@[ext]
structure PyDict (κ ν : Type) where
  items : List (κ × ν)
  nodup : (items.map Prod.fst).Nodup

namespace PyDict

variable {κ ν : Type} [DecidableEq κ]

/-- `{}`. -/
def empty : PyDict κ ν := ⟨[], List.nodup_nil⟩

/-- The value at `k`, if any (`d[k]` when it does not raise `KeyError`). -/
def get? (d : PyDict κ ν) (k : κ) : Option ν := lookup k d.items

/-- `k in d`. -/
def contains (d : PyDict κ ν) (k : κ) : Bool := (d.get? k).isSome

/-- The keys in insertion order. -/
def keys (d : PyDict κ ν) : List κ := d.items.map Prod.fst

/-- `d[k] = v`. -/
def assign (d : PyDict κ ν) (k : κ) (v : ν) : PyDict κ ν :=
  ⟨assignItems k v d.items, nodup_assignItems k v d.nodup⟩

/-- `d` without the item of `k` (what `d.pop(k)` leaves). -/
def erase (d : PyDict κ ν) (k : κ) : PyDict κ ν :=
  ⟨eraseItems k d.items, (keys_eraseItems_sublist k d.items).nodup d.nodup⟩

/-- `d.update(e)`: the items of `e` assigned in order. -/
def update (d e : PyDict κ ν) : PyDict κ ν :=
  e.items.foldl (fun acc p => acc.assign p.1 p.2) d

@[simp] theorem get?_empty (k : κ) : (empty : PyDict κ ν).get? k = none := rfl

@[simp] theorem get?_assign (d : PyDict κ ν) (k k' : κ) (v : ν) :
    (d.assign k v).get? k' = if k = k' then some v else d.get? k' :=
  lookup_assignItems k k' v d.items

@[simp] theorem get?_erase (d : PyDict κ ν) (k k' : κ) :
    (d.erase k).get? k' = if k = k' then none else d.get? k' :=
  lookup_eraseItems k k' d.nodup

theorem mem_items_iff {d : PyDict κ ν} {k : κ} {v : ν} : (k, v) ∈ d.items ↔ d.get? k = some v :=
  ⟨lookup_eq_some_of_mem d.nodup, mem_of_lookup_eq_some⟩

theorem contains_iff (d : PyDict κ ν) (k : κ) : d.contains k = true ↔ ∃ v, d.get? k = some v :=
  Option.isSome_iff_exists

@[simp] theorem contains_empty (k : κ) : (empty : PyDict κ ν).contains k = false := rfl

@[simp] theorem contains_assign (d : PyDict κ ν) (k k' : κ) (v : ν) :
    (d.assign k v).contains k' = (decide (k = k') || d.contains k') := by
  simp only [contains, get?_assign]
  split_ifs <;> simp [*]

/-- Assigning the items of a list in order: a key of the list reads its value there. -/
private theorem get?_foldl_assign (l : List (κ × ν)) (h : (l.map Prod.fst).Nodup)
    (d : PyDict κ ν) (k : κ) :
    (l.foldl (fun acc p => acc.assign p.1 p.2) d).get? k = (lookup k l).or (d.get? k) := by
  induction l generalizing d with
  | nil => simp [lookup]
  | cons p l ih =>
    obtain ⟨a, b⟩ := p
    simp only [List.map_cons, List.nodup_cons] at h
    simp only [List.foldl_cons, ih h.2, get?_assign, lookup]
    by_cases hak : a = k
    · subst hak; simp [lookup_eq_none_of_not_mem h.1]
    · simp [hak]

@[simp] theorem get?_update (d e : PyDict κ ν) (k : κ) :
    (d.update e).get? k = (e.get? k).or (d.get? k) :=
  get?_foldl_assign e.items e.nodup d k

theorem mem_keys_iff (d : PyDict κ ν) (k : κ) : k ∈ d.keys ↔ d.contains k = true := by
  obtain ⟨l, h⟩ := d
  simp only [keys, contains, get?]
  induction l with
  | nil => simp [lookup]
  | cons p l ih =>
    obtain ⟨a, b⟩ := p
    simp only [List.map_cons, List.nodup_cons] at h
    by_cases hak : a = k
    · simp [lookup, hak]
    · simp [lookup, hak, Ne.symm hak, ih h.2]

end PyDict

end XmppXml
