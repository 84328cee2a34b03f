/- digest: Keyed tables with unique keys: lookup, update, scan and count, read through lookup. -/

import Mathlib

set_option autoImplicit false

namespace Bridgefu.Lib

/-- A finite keyed collection of rows. No two rows share a key. -/
structure Table (K V : Type) where
  rows : List (K × V)
  keysNodup : (rows.map Prod.fst).Nodup

namespace Table

variable {K V : Type}

instance [DecidableEq K] [DecidableEq V] : DecidableEq (Table K V) := fun t u =>
  decidable_of_iff (t.rows = u.rows) (by
    cases t
    cases u
    simp)

theorem eq_of_rows_eq {t u : Table K V} (same : t.rows = u.rows) : t = u := by
  cases u
  cases same
  rfl

def empty : Table K V := ⟨[], List.nodup_nil⟩

instance : Inhabited (Table K V) := ⟨empty⟩

variable (t : Table K V) (test : K → V → Bool)

def values : List V := t.rows.map Prod.snd

def keys : List K := t.rows.map Prod.fst

/-- Rows that satisfy the predicate. -/
def filter (keep : K → V → Bool) : Table K V where
  rows := t.rows.filter fun row => keep row.1 row.2
  keysNodup := t.keysNodup.sublist (List.filter_sublist.map Prod.fst)

/-- Rewrite every value in place. -/
def mapValues {W : Type} (t : Table K V) (rewriteValue : K → V → W) : Table K W where
  rows := t.rows.map fun row => (row.1, rewriteValue row.1 row.2)
  keysNodup := by
    have keep := t.keysNodup
    simpa [List.map_map, Function.comp_def] using keep

/-- Does some row satisfy the predicate? -/
def any : Bool :=
  t.rows.any fun row => test row.1 row.2

variable {W : Type} {k : K} {entries : List (K × V)}

/-- Number of rows that satisfy the predicate. -/
def count : Nat :=
  t.rows.countP fun row => test row.1 row.2

variable [DecidableEq K]

def get? (k : K) : Option V :=
  (t.rows.find? fun row => decide (row.1 = k)).map Prod.snd

def contains (k : K) : Bool := (t.get? k).isSome

def erase (k : K) : Table K V := t.filter fun key _ => decide (key ≠ k)

/-- Store a value, replacing the row of the same key. -/
def insert (k : K) (v : V) : Table K V where
  rows := (k, v) :: (t.erase k).rows
  keysNodup := by
    have fresh : k ∉ (t.erase k).rows.map Prod.fst := by
      simp [erase, filter]
    exact List.nodup_cons.mpr ⟨fresh, (t.erase k).keysNodup⟩

theorem mem_rows (k : K) (v : V) : (k, v) ∈ t.rows ↔ t.get? k = some v := by
  obtain ⟨rows, nodup⟩ := t
  rw [get?]
  induction rows with
  | nil => simp
  | cons row rest ih =>
    obtain ⟨key, _⟩ := row
    have split : key ∉ rest.map Prod.fst ∧ (rest.map Prod.fst).Nodup := by
      simpa using nodup
    by_cases same : key = k
    · subst same
      have absent : (key, v) ∉ rest := by
        intro member
        exact split.1 (List.mem_map.mpr ⟨(key, v), member, rfl⟩)
      simp [absent, eq_comm]
    · have other : k ≠ key := fun equal => same equal.symm
      simpa [same, other] using ih split.2

theorem get?_of_mem {t : Table K V} {v} (member : (k, v) ∈ t.rows) :
    t.get? k = some v := (mem_rows t k v).mp member

@[simp] theorem get?_empty (k : K) : (empty : Table K V).get? k = none := rfl

theorem forall_empty {P : K → V → Prop} : ∀ k v, (empty : Table K V).get? k = some v → P k v :=
  nofun

@[simp] theorem get?_filter (keep : K → V → Bool) (k : K) :
    (t.filter keep).get? k = (t.get? k).filter (keep k) := by
  ext v
  rw [← mem_rows]
  rw [filter, List.mem_filter, mem_rows, Option.filter_eq_some_iff]

theorem filter_eq_self {keep} (all : ∀ k v, t.get? k = some v → keep k v) :
    t.filter keep = t :=
  eq_of_rows_eq (List.filter_eq_self.mpr fun row member => all row.1 row.2 (get?_of_mem member))

@[simp] theorem get?_mapValues (rewriteValue : K → V → W) (k : K) :
    (t.mapValues rewriteValue).get? k = (t.get? k).map (rewriteValue k) := by
  ext w
  rw [← mem_rows]
  simp only [mapValues, List.mem_map, Prod.mk.injEq, Option.map_eq_some_iff]
  constructor
  · rintro ⟨⟨_, v⟩, member, rfl, rfl⟩
    exact ⟨v, get?_of_mem member, rfl⟩
  · rintro ⟨v, row, rfl⟩
    exact ⟨(k, v), (mem_rows t k v).mpr row, rfl, rfl⟩

@[simp] theorem get?_erase (k key : K) :
    (t.erase k).get? key = if key = k then none else t.get? key := by
  rw [erase, get?_filter]
  split_ifs with same
  · cases t.get? key <;> simp [same]
  · cases t.get? key <;> simp [same]

@[simp] theorem get?_insert (k key : K) (v : V) :
    (t.insert k v).get? key = if key = k then some v else t.get? key := by
  by_cases same : key = k
  · subst same
    simp [get?, insert]
  · have other : ¬ k = key := fun equal => same equal.symm
    have rest : (t.insert k v).get? key = (t.erase k).get? key := by
      simp [get?, insert, other]
    rw [rest, get?_erase, if_neg same, if_neg same]

/-- Store a list of rows, one after the other. -/
def insertAll (entries : List (K × V)) : Table K V :=
  entries.foldl (fun table entry => table.insert entry.1 entry.2) t

@[simp] theorem insert_insert (k : K) (v w : V) : (t.insert k v).insert k w = t.insert k w := by
  apply eq_of_rows_eq
  simp [insert, erase, filter]

theorem get?_insertAll_of_absent (absent : k ∉ entries.map Prod.fst) :
    (t.insertAll entries).get? k = t.get? k := by
  induction entries generalizing t with
  | nil => rfl
  | cons entry rest ih =>
    obtain ⟨other, later⟩ : k ≠ entry.1 ∧ k ∉ rest.map Prod.fst := by simpa using absent
    have tail := ih (t.insert entry.1 entry.2) later
    simpa [insertAll, other] using tail

theorem get?_insertAll {v} (found : (t.insertAll entries).get? k = some v) :
    (k, v) ∈ entries ∨ t.get? k = some v := by
  induction entries generalizing t with
  | nil => exact .inr found
  | cons entry _ ih =>
    rcases ih (t.insert entry.1 entry.2) found with later | stored
    · exact .inl (List.mem_cons_of_mem _ later)
    · rw [get?_insert] at stored
      split_ifs at stored with same
      · cases stored
        exact .inl (by simp [same])
      · exact .inr stored

theorem get?_insert_self (k : K) (v : V) : (t.insert k v).get? k = some v := by
  simp

theorem get?_insert_ne {k key} (v : V) (other : key ≠ k) :
    (t.insert k v).get? key = t.get? key := by
  simp [other]

theorem ne_of_absent {t : Table K V} {k key w} (found : t.get? key = some w)
    (absent : t.get? k = none) : key ≠ k := by
  rintro rfl
  cases absent.symm.trans found

theorem get?_insert_fresh {t : Table K V} {k v key w} (found : t.get? key = some w)
    (absent : t.get? k = none) : (t.insert k v).get? key = some w :=
  (t.get?_insert_ne v (ne_of_absent found absent)).trans found

theorem get?_insert_some {t : Table K V} {k key v w} (found : (t.insert k v).get? key = some w) :
    (key = k ∧ v = w) ∨ (key ≠ k ∧ t.get? key = some w) := by
  rw [get?_insert] at found
  split_ifs at found with same
  · exact .inl ⟨same, Option.some.inj found⟩
  · exact .inr ⟨same, found⟩

theorem forall_insert {t : Table K V} {P : K → V → Prop} {k v}
    (old : ∀ key w, t.get? key = some w → P key w) (new : P k v) :
    ∀ key w, (t.insert k v).get? key = some w → P key w := by
  intro key w found
  rcases get?_insert_some found with ⟨rfl, rfl⟩ | ⟨-, found⟩
  · exact new
  · exact old key w found

theorem exists_insert {t : Table K V} {P : V → Prop} {k v key}
    (old : ∃ w, t.get? key = some w ∧ P w) (new : ∀ w, t.get? k = some w → P w → P v) :
    ∃ w, (t.insert k v).get? key = some w ∧ P w := by
  obtain ⟨w, found, holds⟩ := old
  by_cases same : key = k
  · subst same
    exact ⟨v, get?_insert_self .., new w found holds⟩
  · exact ⟨w, (get?_insert_ne _ _ same).trans found, holds⟩

theorem known_insert {t : Table K V} {k v key} (known : ∃ w, t.get? key = some w) :
    ∃ w, (t.insert k v).get? key = some w := by
  rw [get?_insert]
  split
  · exact ⟨v, rfl⟩
  · exact known

theorem moves_insert {t : Table K V} {R : K → V → V → Prop} {k v w key row}
    (found : t.get? key = some row) (old : t.get? k = some w) (stays : R key row row)
    (moves : R k w v) : ∃ current, (t.insert k v).get? key = some current ∧ R key row current := by
  by_cases same : key = k
  · subst same
    cases found.symm.trans old
    exact ⟨v, get?_insert_self .., moves⟩
  · exact ⟨row, (get?_insert_ne _ _ same).trans found, stays⟩

@[simp] theorem contains_eq_true (k : K) : t.contains k = true ↔ ∃ v, t.get? k = some v := by
  simp [contains, Option.isSome_iff_exists]

@[simp] theorem contains_eq_false (k : K) : t.contains k = false ↔ t.get? k = none := by
  simp [contains]

theorem mem_values (v : V) : v ∈ t.values ↔ ∃ k, t.get? k = some v := by
  rw [values, List.mem_map]
  constructor
  · rintro ⟨⟨k, w⟩, member, rfl⟩
    exact ⟨k, get?_of_mem member⟩
  · rintro ⟨k, row⟩
    exact ⟨(k, v), (mem_rows t k v).mpr row, rfl⟩

theorem nodup_values (keyOf : V → K) (keyed : ∀ k v, t.get? k = some v → keyOf v = k) :
    t.values.Nodup := by
  refine List.Nodup.map_on ?_ (List.Nodup.of_map _ t.keysNodup)
  rintro ⟨_, _⟩ one ⟨_, _⟩ two same
  have firstIs := keyed _ _ (get?_of_mem one)
  have secondIs := keyed _ _ (get?_of_mem two)
  cases same
  rw [← firstIs, ← secondIs]

theorem nodup_selected {choose read} (keyOf : W → K)
    (keyed : ∀ k v, t.get? k = some v → choose (k, v) → keyOf (read (k, v)) = k) :
    ((t.rows.filter choose).map read).Nodup := by
  refine List.Nodup.map_on ?_ ((List.Nodup.of_map _ t.keysNodup).filter _)
  rintro ⟨firstKey, _⟩ one ⟨secondKey, _⟩ two same
  obtain ⟨oneStored, oneChosen⟩ := List.mem_filter.mp one
  obtain ⟨twoStored, twoChosen⟩ := List.mem_filter.mp two
  have firstIs := keyed _ _ (get?_of_mem oneStored) oneChosen
  have secondIs := keyed _ _ (get?_of_mem twoStored) twoChosen
  have key : firstKey = secondKey := firstIs.symm.trans ((congrArg _ same).trans secondIs)
  subst key
  have value := (get?_of_mem oneStored).symm.trans (get?_of_mem twoStored)
  cases value
  rfl

@[simp] theorem any_eq_true : t.any test = true ↔ ∃ k v, t.get? k = some v ∧ test k v = true := by
  simp only [any, List.any_eq_true, Prod.exists, mem_rows]

@[simp] theorem any_eq_false :
    t.any test = false ↔ ∀ k v, t.get? k = some v → test k v = false := by
  simp only [any, List.any_eq_false, Prod.forall, mem_rows, Bool.not_eq_true]

theorem count_insert (k : K) (v : V) :
    (t.insert k v).count test = (t.erase k).count test + if test k v then 1 else 0 := by
  simp [count, insert, List.countP_cons]

theorem count_erase_add {v} (row : t.get? k = some v) :
    (t.erase k).count test + (if test k v then 1 else 0) = t.count test := by
  obtain ⟨rows, nodup⟩ := t
  have member : (k, v) ∈ rows := (mem_rows _ k v).mpr row
  clear row
  simp only [count, erase, filter]
  induction rows with
  | nil => cases member
  | cons head rest ih =>
    obtain ⟨key, _⟩ := head
    have split : key ∉ rest.map Prod.fst ∧ (rest.map Prod.fst).Nodup := by
      simpa using nodup
    rcases List.mem_cons.mp member with same | later
    · cases same
      have others : rest.filter (fun row => decide (row.1 ≠ k)) = rest := by
        apply List.filter_eq_self.mpr
        intro row inside
        have distinct : row.1 ≠ k := fun equal =>
          split.1 (equal ▸ List.mem_map.mpr ⟨row, inside, rfl⟩)
        simp [distinct]
      simp only [List.filter_cons, ne_eq, not_true_eq_false, decide_false, Bool.false_eq_true,
        if_false, List.countP_cons]
      rw [others]
    · have distinct : key ≠ k := fun equal =>
        split.1 (equal ▸ List.mem_map.mpr ⟨(k, v), later, rfl⟩)
      have tail := ih split.2 later
      simp only [ne_eq] at tail
      simp only [List.filter_cons, ne_eq, distinct, not_false_eq_true, decide_true, if_true,
        List.countP_cons]
      omega

theorem erase_of_none (absent : t.get? k = none) : t.erase k = t := by
  refine t.filter_eq_self fun _ v stored => decide_eq_true fun same => ?_
  rw [same, absent] at stored
  cases stored

theorem count_erase_of_none (row : t.get? k = none) : (t.erase k).count test = t.count test := by
  rw [t.erase_of_none row]

theorem count_replace {v} (w : V) (row : t.get? k = some v) :
    (t.insert k w).count test + (if test k v then 1 else 0) =
      t.count test + if test k w then 1 else 0 := by
  have inserted := t.count_insert test k w
  have erased := t.count_erase_add test row
  omega

theorem count_le_of_imp (u : Table K W) {test test'}
    (imp : ∀ k w, u.get? k = some w → test' k w → ∃ v, t.get? k = some v ∧ test k v) :
    u.count test' ≤ t.count test := by
  have keys : ((u.filter test').rows.map Prod.fst).Subperm ((t.filter test).rows.map Prod.fst) := by
    refine List.subperm_of_subset (u.filter test').keysNodup ?_
    intro k member
    obtain ⟨⟨key, w⟩, inside, rfl⟩ := List.mem_map.mp member
    obtain ⟨stored, counted⟩ := List.mem_filter.mp inside
    obtain ⟨v, found, also⟩ := imp key w (get?_of_mem stored) counted
    refine List.mem_map.mpr ⟨(key, v), List.mem_filter.mpr ⟨?_, also⟩, rfl⟩
    exact (t.mem_rows key v).mpr found
  have lengths := keys.length_le
  simp only [filter, List.length_map] at lengths
  simpa only [count, List.countP_eq_length_filter] using lengths

theorem count_eq_zero : t.count test = 0 ↔ ∀ k v, t.get? k = some v → test k v = false := by
  simp only [count, List.countP_eq_zero, Prod.forall, mem_rows, Bool.not_eq_true]

end Table

end Bridgefu.Lib
