import QueryCompletion.Proofs.Values.Eviction

/-!
An entry that was gathered from the first pages of a list, and a cache that holds no other. The next page
wanted is the one behind those gathered, and merging it gathers one more.
-/

namespace QueryCompletion

namespace ValueEntry

variable (held : List (List Text)) (hasNext : Bool)

/-- What is known after pages have been merged, and whether there are more. -/
def gathered : ValueEntry :=
  match held with
  | [] => {}
  | first :: others => { items := (first :: others).flatten, page := some (others.length + 1), hasNext }

@[simp] theorem items_gathered : (gathered held hasNext).items = held.flatten := by
  cases held <;> rfl

@[simp] theorem loading_gathered : (gathered held hasNext).loading = false := by
  cases held <;> rfl

theorem lastPage_gathered : (gathered held hasNext).lastPage = held.length := by
  cases held <;> rfl

/-- More is asked for exactly as long as there is more. -/
theorem wantsLoad_gathered (some : held = [] → hasNext = true) :
    (gathered held hasNext).wantsLoad true = hasNext := by
  cases held with
  | nil => exact (some rfl).symm
  | cons first others => cases hasNext <;> rfl

/-- The page asked for is the one behind those gathered. -/
theorem nextPage?_gathered : (gathered held true).nextPage? true = some (held.length + 1 : Int) := by
  cases held <;> rfl

theorem merge_gathered (items : List Text) (more : Bool) :
    { gathered held hasNext with loading := true }.merge ⟨items, held.length + 1, more⟩ =
      gathered (held ++ [items]) more := by
  cases held with
  | nil => simp [gathered, merge]
  | cons first others => simp [gathered, merge]

end ValueEntry

namespace Cache

/-- The cache has room, and what it knows of the key is all that it knows. -/
structure Holds (cache : Cache Text ValueEntry) (key : Text) (entry : ValueEntry) : Prop where
  room : 0 < cache.capacity
  entries : cache.entries = [] ∧ entry = {} ∨ cache.entries = [(key, entry)]

namespace Holds

variable {cache : Cache Text ValueEntry} {key : Text} {entry : ValueEntry}

theorem known (holds : cache.Holds key entry) : cache.known key = entry := by
  rcases holds.entries with ⟨none, rfl⟩ | single
  · simp [Cache.known, peek?, none]
  · simp [Cache.known, peek?, single]

theorem touch (holds : cache.Holds key entry) : (cache.touch key).Holds key entry := by
  refine ⟨by unfold Cache.touch; split <;> exact holds.room, ?_⟩
  rcases holds.entries with ⟨none, empty⟩ | single
  · exact Or.inl ⟨by simp [Cache.touch, peek?, none], empty⟩
  · exact Or.inr (by simp [Cache.touch, peek?, single, without])

theorem set (holds : cache.Holds key entry) (new : ValueEntry) : (cache.set key new).Holds key new := by
  have gone : without key cache.entries = [] := by
    rcases holds.entries with ⟨none, _⟩ | single
    · rw [none]
      rfl
    · simp [single, without]
  have room := holds.room
  refine ⟨room, Or.inr ?_⟩
  rw [Cache.set, gone, List.nil_append, List.length_singleton, Nat.sub_eq_zero_of_le room, List.drop_zero]

/-- The page behind those gathered is merged. -/
theorem applyPage {service : ValueService} {held : List (List Text)} {hasNext : Bool}
    (holds : service.cache.Holds key { ValueEntry.gathered held hasNext with loading := true })
    (items : List Text) (more : Bool) :
    (service.applyPage key ⟨items, held.length + 1, more⟩).2.cache.Holds key (.gathered (held ++ [items]) more) := by
  have follows : (held.length + 1 - 1 : Int) = (service.cache.known key).lastPage := by
    rw [holds.known, Int.add_sub_cancel]
    exact (ValueEntry.lastPage_gathered held hasNext).symm
  rw [ValueService.applyPage_cache, if_pos follows, holds.known, ValueEntry.merge_gathered]
  exact holds.set _

end Holds

end Cache

end QueryCompletion
