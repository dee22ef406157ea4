import QueryCompletion.Cache
import QueryCompletion.Proofs.Lookup

/-!
The entries of a cache after each operation. Using an entry moves it without changing any value, writing
one may forget others, and a change in place touches no other key.
-/

namespace QueryCompletion

namespace Cache

variable {κ ν : Type} [DecidableEq κ] {cache : Cache κ ν} {key : κ} {entry : κ × ν}

theorem mem_without {entries : List (κ × ν)} : entry ∈ without key entries ↔ entry ∈ entries ∧ entry.1 ≠ key := by
  simp [without]

theorem mem_of_peek? {value : ν} (found : cache.peek? key = some value) : (key, value) ∈ cache.entries :=
  mem_of_lookup found

theorem contains_of_mem (inside : entry ∈ cache.entries) : cache.contains entry.1 = true := by
  rw [contains, Option.isSome_iff_ne_none]
  exact fun absent => ne_of_lookup_eq_none absent inside rfl

theorem lookup_without (key other : κ) (entries : List (κ × ν)) :
    (without key entries).lookup other = if other = key then none else entries.lookup other := by
  rw [without, lookup_filter_key fun name => decide (name ≠ key)]
  by_cases same : other = key
  · simp [same]
  · simp [same]

/-- Using an entry changes no value. -/
theorem peek?_touch (cache : Cache κ ν) (key other : κ) : (cache.touch key).peek? other = cache.peek? other := by
  unfold touch
  cases found : cache.peek? key with
  | none => rfl
  | some value =>
    show (without key cache.entries ++ [(key, value)]).lookup other = cache.peek? other
    rw [List.lookup_append]
    by_cases same : other = key
    · rw [lookup_without, if_pos same, Option.none_or, same, List.lookup_cons_self, found]
    · rw [lookup_without, if_neg same, lookup_cons_of_ne _ _ same, List.lookup_nil, Option.or_none]
      rfl

theorem peek?_modify (cache : Cache κ ν) (key other : κ) (change : ν → ν) :
    (cache.modify key change).peek? other =
      (cache.peek? other).map fun value => if other = key then change value else value :=
  lookup_map_at cache.entries key other change

theorem mem_of_mem_touch (inside : entry ∈ (cache.touch key).entries) : entry ∈ cache.entries := by
  unfold touch at inside
  cases found : cache.peek? key with
  | none => rwa [found] at inside
  | some value =>
    rw [found] at inside
    rcases List.mem_append.mp inside with kept | last
    · exact (mem_without.mp kept).1
    · rw [List.mem_singleton.mp last]
      exact mem_of_peek? found

/-- What is cached after a write was written, or was cached before under another key. -/
theorem mem_of_mem_set {value : ν} (inside : entry ∈ (cache.set key value).entries) :
    entry = (key, value) ∨ entry ∈ cache.entries ∧ entry.1 ≠ key := by
  rcases List.mem_append.mp (List.mem_of_mem_drop inside) with kept | last
  · exact Or.inr (mem_without.mp kept)
  · exact Or.inl (List.mem_singleton.mp last)

theorem mem_of_mem_modify {change : ν → ν} (inside : entry ∈ (cache.modify key change).entries) :
    ∃ value, (entry.1, value) ∈ cache.entries ∧
      entry.2 = if entry.1 = key then change value else value := by
  obtain ⟨⟨name, value⟩, member, rfl⟩ := List.mem_map.mp inside
  by_cases same : name = key
  · exact ⟨value, by simpa [same] using member, by simp [same]⟩
  · exact ⟨value, by simpa [same] using member, by simp [same]⟩

end Cache

end QueryCompletion
