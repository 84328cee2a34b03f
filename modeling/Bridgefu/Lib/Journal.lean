/- digest: Journals: entries of consecutive versions whose replay yields the current state. -/

import Bridgefu.Lib.Fallible

set_option autoImplicit false

namespace Bridgefu.Lib

variable {σ κ ε : Type} {step : σ → κ → Except ε σ} {versionOf : κ → Nat} {current : σ → Nat}

/-- The log leads from the initial state to the state. Its entries are numbered one by one from
the version after the initial one. -/
structure Journal (step : σ → κ → Except ε σ) (versionOf : κ → Nat) (current : σ → Nat)
    (initial : σ) (log : List κ) (state : σ) : Prop where
  replayed : foldFallible step initial log = .ok state
  versions : log.map versionOf = List.range' (current initial + 1) log.length
  length : current state = current initial + log.length

namespace Journal

variable {initial state : σ} {log : List κ}

theorem nil (initial : σ) : Journal step versionOf current initial [] initial :=
  ⟨rfl, rfl, rfl⟩

variable (journal : Journal step versionOf current initial log state)
include journal

theorem snoc {entry next} (advances : step state entry = .ok next)
    (numbered : versionOf entry = current state + 1) (version : current next = current state + 1) :
    Journal step versionOf current initial (log ++ [entry]) next where
  replayed := by
    rw [foldFallible_append, bind_eq_ok]
    refine ⟨state, journal.replayed, ?_⟩
    rw [foldFallible, bind_eq_ok]
    exact ⟨next, advances, rfl⟩
  versions := by
    have numberedAs : versionOf entry = current initial + 1 + log.length := by
      rw [numbered, journal.length]
      omega
    rw [List.map_append, journal.versions, List.length_append, List.length_singleton,
      List.range'_concat, List.map_singleton, numberedAs, Nat.one_mul]
  length := by
    rw [version, journal.length, List.length_append, List.length_singleton]
    omega

theorem exists_entry {version} (after : current initial < version)
    (reached : version ≤ current state) : ∃ entry ∈ log, versionOf entry = version := by
  have member : version ∈ log.map versionOf := by
    rw [journal.versions, List.mem_range'_1]
    have := journal.length
    omega
  simpa using member

theorem version_le {entry} (member : entry ∈ log) :
    current initial < versionOf entry ∧ versionOf entry ≤ current state := by
  have inside : versionOf entry ∈ log.map versionOf := List.mem_map_of_mem member
  rw [journal.versions, List.mem_range'_1] at inside
  have := journal.length
  omega

theorem entry_unique {first second} (one : first ∈ log) (two : second ∈ log)
    (same : versionOf first = versionOf second) : first = second := by
  have distinct : (log.map versionOf).Nodup := by
    rw [journal.versions]
    exact List.nodup_range'
  exact List.inj_on_of_nodup_map distinct one two same

theorem insertionSort_eq {entries : List κ} (distinct : entries.Nodup)
    (sameEntries : ∀ entry, entry ∈ entries ↔ entry ∈ log) :
    entries.insertionSort (fun first second => versionOf first ≤ versionOf second) = log := by
  have numbered : log.Nodup := by
    refine List.Nodup.of_map versionOf ?_
    rw [journal.versions]
    exact List.nodup_range'
  have ordered : log.Pairwise fun first second => versionOf first ≤ versionOf second := by
    rw [← List.pairwise_map, journal.versions]
    exact (List.pairwise_lt_range').imp le_of_lt
  have permuted := (List.perm_insertionSort
    (fun first second => versionOf first ≤ versionOf second) entries).trans
    ((List.perm_ext_iff_of_nodup distinct numbered).mpr sameEntries)
  refine permuted.eq_of_pairwise ?_ (List.pairwise_insertionSort _ entries) ordered
  intro first second one two below above
  have inLog : first ∈ log := (sameEntries first).mp ((List.mem_insertionSort _).mp one)
  exact journal.entry_unique inLog two (le_antisymm below above)

end Journal

end Bridgefu.Lib
