import QueryCompletion.Proofs.Values.Pages

/-!
What a cache forgets. A write makes room for at most one key that was not cached, and then it is the
entry used longest ago that goes; everything else stays as it is.
-/

namespace QueryCompletion

namespace Cache

variable {κ ν : Type} [DecidableEq κ] {cache : Cache κ ν} {key other : κ}

/-- Every key is cached once, and there are no more of them than there is room for. -/
structure Bounded (cache : Cache κ ν) : Prop where
  distinct : cache.keys.Nodup
  fits : cache.size ≤ cache.capacity

/-- A cache that was full has forgotten the entry used longest ago for a key that it did not have. -/
structure Evicts (before after : Cache κ ν) (key : κ) : Prop where
  full : before.size = before.capacity
  oldest : before.keys.head? = some key
  forgotten : after.peek? key = none
  replaced : ∃ other, before.peek? other = none ∧ (after.peek? other).isSome = true

theorem keys_without (key : κ) (entries : List (κ × ν)) :
    (without key entries).map Prod.fst = (entries.map Prod.fst).filter (· ≠ key) := by
  rw [List.filter_map]
  rfl

theorem without_of_absent (absent : cache.peek? key = none) :
    without key cache.entries = cache.entries := by
  rw [without, List.filter_eq_self]
  exact fun entry inside => decide_eq_true (ne_of_lookup_eq_none absent inside)

/-- Without a key that is cached there is one entry less at least. -/
theorem length_without_lt {value : ν} (found : cache.peek? key = some value) :
    (without key cache.entries).length < cache.entries.length := by
  rw [without, List.length_filter_lt_length_iff_exists]
  exact ⟨(key, value), mem_of_peek? found, by simp⟩

theorem distinct_write (distinct : cache.keys.Nodup) (key : κ) (value : ν) :
    ((without key cache.entries ++ [(key, value)]).map Prod.fst).Nodup := by
  rw [List.map_append, List.nodup_append, keys_without]
  refine ⟨distinct.filter _, List.pairwise_singleton _ _, fun name kept last same => ?_⟩
  rw [List.map_singleton, List.mem_singleton] at same
  rintro rfl
  simp [same] at kept

theorem Bounded.touch (bounded : cache.Bounded) (key : κ) : (cache.touch key).Bounded := by
  unfold Cache.touch
  cases found : cache.peek? key with
  | none => exact bounded
  | some value =>
    refine ⟨distinct_write bounded.distinct key value, ?_⟩
    have shorter := length_without_lt found
    have fits := bounded.fits
    unfold size at fits ⊢
    rw [List.length_append, List.length_singleton]
    dsimp only
    omega

theorem Bounded.set (bounded : cache.Bounded) (key : κ) (value : ν) : (cache.set key value).Bounded := by
  constructor
  · rw [keys, Cache.set, List.map_drop]
    exact (distinct_write bounded.distinct key value).sublist (List.drop_sublist _ _)
  · rw [size, Cache.set, List.length_drop]
    dsimp only
    omega

theorem Bounded.modify (bounded : cache.Bounded) (key : κ) (change : ν → ν) :
    (cache.modify key change).Bounded := by
  have same : (cache.modify key change).keys = cache.keys := by
    rw [keys, keys, Cache.modify, List.map_map]
    refine List.map_congr_left fun entry _ => ?_
    rw [Function.comp_apply]
    split <;> rfl
  refine ⟨same ▸ bounded.distinct, ?_⟩
  rw [size, Cache.modify, List.length_map]
  exact bounded.fits

/-- Using an entry just before it is written makes no difference. -/
theorem set_touch (cache : Cache κ ν) (key : κ) (value : ν) :
    (cache.touch key).set key value = cache.set key value := by
  unfold touch
  cases cache.peek? key with
  | none => rfl
  | some old =>
    have same : without key (without key cache.entries ++ [(key, old)]) = without key cache.entries := by
      simp [without, List.filter_append, List.filter_filter]
    rw [set, set]
    dsimp only
    rw [same]

theorem peek?_set_self (room : 0 < cache.capacity) (key : κ) (value : ν) :
    (cache.set key value).peek? key = some value := by
  have kept : (without key cache.entries ++ [(key, value)]).length - cache.capacity ≤
      (without key cache.entries).length := by
    rw [List.length_append, List.length_singleton]
    omega
  have absent : ((without key cache.entries).drop
      ((without key cache.entries ++ [(key, value)]).length - cache.capacity)).lookup key = none := by
    rw [List.lookup_eq_none_iff]
    intro entry inside
    simpa using (mem_without.mp (List.mem_of_mem_drop inside)).2.symm
  rw [peek?, set, List.drop_append_of_le_length kept, List.lookup_append, absent, Option.none_or,
    List.lookup_cons_self]

/-- A write under a key that is cached already, or while there is room, forgets nothing. -/
theorem set_entries_of_fits {value : ν}
    (fits : (without key cache.entries).length < cache.capacity) :
    (cache.set key value).entries = without key cache.entries ++ [(key, value)] := by
  rw [set, List.length_append, List.length_singleton]
  dsimp only
  rw [Nat.sub_eq_zero_of_le (by omega), List.drop_zero]

theorem lookup_write_of_ne (entries : List (κ × ν)) (value : ν) (differs : other ≠ key) :
    (without key entries ++ [(key, value)]).lookup other = entries.lookup other := by
  rw [List.lookup_append, lookup_without, if_neg differs, lookup_cons_of_ne _ _ differs, List.lookup_nil,
    Option.or_none]

/-- A write under a key leaves every other value as it is, save one that it evicts. -/
theorem peek?_set_of_ne (bounded : cache.Bounded) (value : ν) (differs : other ≠ key) :
    (cache.set key value).peek? other = cache.peek? other ∨ cache.Evicts (cache.set key value) other := by
  have fits := bounded.fits
  rw [size] at fits
  by_cases room : (without key cache.entries).length < cache.capacity
  · left
    rw [peek?, set_entries_of_fits room]
    exact lookup_write_of_ne _ value differs
  -- Without room for one more, the key was not cached and the cache is full.
  have absent : cache.peek? key = none := by
    cases found : cache.peek? key with
    | none => rfl
    | some old =>
      have shorter := length_without_lt found
      omega
  rw [without_of_absent absent] at room
  have full : cache.entries.length = cache.capacity := by omega
  have grown : (cache.set key value).entries = (cache.entries ++ [(key, value)]).drop 1 := by
    rw [set, without_of_absent absent, List.length_append, List.length_singleton]
    dsimp only
    rw [show cache.entries.length + 1 - cache.capacity = 1 by omega]
  cases entries : cache.entries with
  | nil =>
    left
    rw [peek?, peek?, grown, entries]
    rfl
  | cons first rest =>
    obtain ⟨name, oldest⟩ := first
    have distinct := bounded.distinct
    rw [keys, entries, List.map_cons, List.nodup_cons] at distinct
    rw [entries, List.cons_append, List.drop_succ_cons, List.drop_zero] at grown
    by_cases same : name = other
    · right
      refine ⟨full, by rw [keys, entries, List.map_cons, List.head?_cons, same], ?_, key, absent, ?_⟩
      · rw [peek?, grown, List.lookup_append, lookup_cons_of_ne _ _ differs, List.lookup_nil, Option.or_none,
          List.lookup_eq_none_iff]
        intro entry inside
        have apart : other ≠ entry.1 := by
          intro equal
          rw [same, equal] at distinct
          exact distinct.1 (List.mem_map.mpr ⟨entry, inside, rfl⟩)
        simpa using apart
      · rw [peek?, grown, List.lookup_append, List.lookup_cons_self, Option.isSome_or]
        simp
    · left
      rw [peek?, peek?, grown, entries, List.lookup_append, lookup_cons_of_ne _ _ differs, List.lookup_nil,
        Option.or_none, lookup_cons_of_ne _ _ (Ne.symm same)]

theorem Bounded.peek?_of_no_room (bounded : cache.Bounded) (noRoom : cache.capacity = 0) (key : κ) :
    cache.peek? key = none := by
  have fits := bounded.fits
  rw [noRoom, size, Nat.le_zero, List.length_eq_zero_iff] at fits
  rw [peek?, fits]
  rfl

/-- What is known of a key, an empty entry if it is not cached. -/
def known (cache : Cache Text ValueEntry) (key : Text) : ValueEntry := (cache.peek? key).getD {}

section Known

variable {cache after : Cache Text ValueEntry} {key other : Text} {entry : ValueEntry}

theorem known_touch (cache : Cache Text ValueEntry) (key other : Text) :
    (cache.touch key).known other = cache.known other := by
  rw [known, known, peek?_touch]

theorem Evicts.known_eq (evicts : cache.Evicts after key) : after.known key = {} := by
  rw [known, evicts.forgotten]
  rfl

theorem known_set_self (bounded : cache.Bounded) (key : Text) (entry : ValueEntry) :
    (cache.set key entry).known key = entry ∨
      (cache.set key entry).known key = {} ∧ cache.known key = {} := by
  rcases Nat.eq_zero_or_pos cache.capacity with noRoom | room
  · refine Or.inr ⟨?_, ?_⟩
    · rw [known, (bounded.set key entry).peek?_of_no_room noRoom]
      rfl
    · rw [known, bounded.peek?_of_no_room noRoom]
      rfl
  · left
    rw [known, peek?_set_self room]
    rfl

theorem known_set_of_ne (bounded : cache.Bounded) (entry : ValueEntry) (differs : other ≠ key) :
    (cache.set key entry).known other = cache.known other ∨ cache.Evicts (cache.set key entry) other := by
  refine (peek?_set_of_ne bounded entry differs).imp_left fun same => ?_
  rw [known, known, same]

/-- A change that concerns no pages changes nothing that is known of them. -/
theorem content_known_modify (cache : Cache Text ValueEntry) (key other : Text)
    {change : ValueEntry → ValueEntry} (keeps : ∀ entry, (change entry).content = entry.content) :
    ((cache.modify key change).known other).content = (cache.known other).content := by
  rw [known, known, peek?_modify]
  cases cache.peek? other with
  | none => rfl
  | some entry =>
    rw [Option.map_some, Option.getD_some, Option.getD_some]
    split
    · exact keeps entry
    · rfl

end Known

end Cache

namespace ValueEntry

variable {entry other : ValueEntry}

theorem lastPage_of_content (same : entry.content = other.content) : entry.lastPage = other.lastPage :=
  congrArg (fun content => content.2.1.getD 0) same

theorem nextPage?_of_content (same : entry.content = other.content) (loadMore : Bool) :
    entry.nextPage? loadMore = other.nextPage? loadMore := by
  have hasNext : entry.hasNext = other.hasNext := congrArg (fun content => content.2.2) same
  rw [nextPage?, nextPage?, lastPage_of_content same, hasNext]

/-- The page to fetch next is always the one behind the last. -/
theorem nextPage?_eq_some {loadMore : Bool} {page : Int} (next : entry.nextPage? loadMore = some page) :
    page = entry.lastPage + 1 := by
  unfold nextPage? at next
  split at next
  · exact (Option.some.inj next).symm
  · split at next
    · cases next
    · rename_i first
      rw [← Option.some.inj next, not_not.mp first]
      rfl

end ValueEntry

namespace ValueService

variable (service : ValueService) (key : Text) (page : ValuePage)

/-- A page is merged exactly if it is the one behind the last that is known. -/
theorem applyPage_fst :
    (service.applyPage key page).1 = decide (page.number - 1 = (service.cache.known key).lastPage) := by
  unfold applyPage
  dsimp only
  split
  · rename_i follows
    exact (decide_eq_true follows).symm
  · rename_i differs
    exact (decide_eq_false differs).symm

theorem applyPage_cache :
    (service.applyPage key page).2.cache =
      if page.number - 1 = (service.cache.known key).lastPage then
        service.cache.set key ((service.cache.known key).merge page)
      else (service.clearLoading key).cache := by
  unfold applyPage
  dsimp only
  split
  · rename_i follows
    exact (Cache.set_touch _ _ _).trans (if_pos follows).symm
  · rename_i differs
    exact (if_neg differs).symm

theorem content_clearLoading (other : Text) :
    ((service.clearLoading key).cache.known other).content = (service.cache.known other).content := by
  rw [clearLoading, Cache.content_known_modify, Cache.known_touch]
  exact fun _ => rfl

theorem bounded_clearLoading (bounded : service.cache.Bounded) : (service.clearLoading key).cache.Bounded :=
  (bounded.touch key).modify key fun entry => { entry with loading := false }

end ValueService

end QueryCompletion
