import Mathlib.Data.List.Nodup

/-!
Looking up in a list of keys and values. What is found is in the list, and where no key is listed twice whatever is in
the list is found; entries of other keys play no part.
-/

namespace QueryCompletion

variable {κ ν : Type} [BEq κ] [LawfulBEq κ] {key other : κ} {value : ν} {entries : List (κ × ν)}

theorem mem_of_lookup (found : entries.lookup key = some value) : (key, value) ∈ entries := by
  obtain ⟨front, back, rfl, _⟩ := List.lookup_eq_some_iff.mp found
  exact List.mem_append_right front List.mem_cons_self

/-- Where nothing is found no entry has the key. -/
theorem ne_of_lookup_eq_none {entry : κ × ν} (absent : entries.lookup key = none) (inside : entry ∈ entries) :
    entry.1 ≠ key := by
  rintro rfl
  have differs := List.lookup_eq_none_iff.mp absent entry inside
  rw [bne_self_eq_false] at differs
  cases differs

theorem lookup_of_mem (keyed : (entries.map Prod.fst).Nodup) (inside : (key, value) ∈ entries) :
    entries.lookup key = some value := by
  obtain ⟨front, back, rfl⟩ := List.append_of_mem inside
  refine List.lookup_eq_some_iff.mpr ⟨front, back, rfl, fun entry earlier => ?_⟩
  rw [List.map_append, List.map_cons] at keyed
  have apart := (List.nodup_append.mp keyed).2.2 entry.1 (List.mem_map_of_mem earlier) key List.mem_cons_self
  simpa using apart.symm

theorem lookup_cons_of_ne (value : ν) (rest : List (κ × ν)) (differs : other ≠ key) :
    ((key, value) :: rest).lookup other = rest.lookup other := by
  rw [List.lookup_cons, beq_false_of_ne differs]

theorem lookup_filter {keep : κ × ν → Bool} (found : entries.lookup key = some value)
    (kept : keep (key, value) = true) : (entries.filter keep).lookup key = some value := by
  induction entries with
  | nil => cases found
  | cons first rest ih =>
    obtain ⟨name, old⟩ := first
    by_cases same : key = name
    · rw [same, List.lookup_cons_self, Option.some.injEq] at found
      rw [List.filter_cons_of_pos (by rwa [← same, found]), same, List.lookup_cons_self, found]
    · rw [lookup_cons_of_ne _ _ same] at found
      by_cases stays : keep (name, old) = true
      · rw [List.filter_cons_of_pos stays, lookup_cons_of_ne _ _ same, ih found]
      · rw [List.filter_cons_of_neg stays, ih found]

/-- Without the entries of some keys, the other keys have their values. -/
theorem lookup_filter_key (keep : κ → Bool) (entries : List (κ × ν)) (key : κ) :
    (entries.filter fun entry => keep entry.1).lookup key = if keep key then entries.lookup key else none := by
  split
  · rename_i kept
    cases found : entries.lookup key with
    | some value => exact lookup_filter found kept
    | none => exact List.filter_sublist.lookup_eq_none found
  · rename_i dropped
    refine List.lookup_eq_none_iff.mpr fun entry inside => ?_
    have kept := (List.mem_filter.mp inside).2
    exact bne_iff_ne.mpr fun same => dropped (same ▸ kept)

theorem lookup_map_at [DecidableEq κ] (entries : List (κ × ν)) (key other : κ) (change : ν → ν) :
    (entries.map fun entry => if entry.1 = key then (entry.1, change entry.2) else entry).lookup other =
      (entries.lookup other).map fun value => if other = key then change value else value := by
  induction entries with
  | nil => rfl
  | cons first rest ih =>
    obtain ⟨name, value⟩ := first
    rw [List.map_cons]
    by_cases same : other = name
    · by_cases atKey : name = key <;> simp [same, atKey]
    · rw [lookup_cons_of_ne _ _ same, ← ih]
      by_cases atKey : name = key
      · rw [if_pos atKey, lookup_cons_of_ne _ _ same]
      · rw [if_neg atKey, lookup_cons_of_ne _ _ same]

end QueryCompletion
