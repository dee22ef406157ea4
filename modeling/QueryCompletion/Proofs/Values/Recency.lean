import Mathlib.Data.List.Dedup
import Mathlib.Data.List.DropRight
import Mathlib.Data.List.Induction
import QueryCompletion.Proofs.Values.Eviction

/-!
The cache and its history. As long as nothing is erased, a cache holds the keys that were touched last, as
many as there is room for, in the order in which they were touched last, and each with the value it was set
to last.
-/

namespace QueryCompletion

section Touches

variable {κ : Type} [DecidableEq κ] {key : κ} {touched : List κ}

/-- The keys touched after the last touch of a key. -/
def touchedSince (touched : List κ) (key : κ) : List κ := touched.rtakeWhile fun other => other ≠ key

/-- Which of the touches was the last one of a key, counted from one. -/
def lastTouch (touched : List κ) (key : κ) : Nat := touched.length - (touchedSince touched key).length

theorem not_mem_touchedSince (touched : List κ) (key : κ) : key ∉ touchedSince touched key := by
  intro inside
  simpa using List.mem_rtakeWhile_imp inside

theorem exists_last_touch (inside : key ∈ touched) :
    ∃ earlier, touched = earlier ++ key :: touchedSince touched key := by
  induction touched using List.reverseRecOn with
  | nil => cases inside
  | append_singleton touched last ih =>
    by_cases same : last = key
    · refine ⟨touched, ?_⟩
      rw [touchedSince, List.rtakeWhile_concat_neg _ _ _ (by simpa using same), same]
    · obtain ⟨earlier, split⟩ := ih ((List.mem_append.mp inside).resolve_right (by simpa using Ne.symm same))
      refine ⟨earlier, ?_⟩
      rw [touchedSince, List.rtakeWhile_concat_pos _ _ _ (by simpa using same), ← touchedSince]
      nth_rewrite 1 [split]
      rw [List.append_assoc, List.cons_append]

theorem touchedSince_append (earlier : List κ) {later : List κ} (absent : key ∉ later) :
    touchedSince (earlier ++ key :: later) key = later := by
  have others : ∀ other ∈ later.reverse, (decide (other ≠ key)) = true := by
    intro other inside
    simpa using fun same : other = key => absent (same ▸ List.mem_reverse.mp inside)
  rw [touchedSince, List.rtakeWhile, List.reverse_append, List.reverse_cons, List.append_assoc,
    List.takeWhile_append_of_pos others]
  simp

/-- One touch more before all others moves the last touch of a key by one. -/
theorem lastTouch_cons (first : κ) (inside : key ∈ touched) :
    lastTouch (first :: touched) key = lastTouch touched key + 1 ∧ 0 < lastTouch touched key := by
  obtain ⟨earlier, split⟩ := exists_last_touch inside
  have absent := not_mem_touchedSince touched key
  have same : touchedSince (first :: touched) key = touchedSince touched key := by
    nth_rewrite 1 [split]
    exact touchedSince_append (first :: earlier) absent
  have length := congrArg List.length split
  rw [List.length_append, List.length_cons] at length
  rw [lastTouch, lastTouch, same, List.length_cons]
  omega

/-- Without repetitions, keys are listed in the order of their last touches. -/
theorem dedup_lastTouch (touched : List κ) :
    touched.dedup.Pairwise fun first second => lastTouch touched first < lastTouch touched second := by
  induction touched with
  | nil => exact .nil
  | cons first touched ih =>
    have moved : touched.dedup.Pairwise fun one other =>
        lastTouch (first :: touched) one < lastTouch (first :: touched) other := by
      refine List.Pairwise.imp_of_mem (fun {one other} inside inside' earlier => ?_) ih
      have step := (lastTouch_cons first (List.mem_dedup.mp inside)).1
      have step' := (lastTouch_cons first (List.mem_dedup.mp inside')).1
      omega
    by_cases again : first ∈ touched
    · rwa [List.dedup_cons_of_mem again]
    · rw [List.dedup_cons_of_notMem again]
      refine List.Pairwise.cons (fun other inside => ?_) moved
      obtain ⟨step, positive⟩ := lastTouch_cons first (List.mem_dedup.mp inside)
      have since := touchedSince_append [] again
      rw [List.nil_append] at since
      rw [step, lastTouch, since, List.length_cons]
      omega

/-- One touch more moves its key to the end. -/
theorem dedup_concat (touched : List κ) (key : κ) :
    (touched ++ [key]).dedup = touched.dedup.filter (· ≠ key) ++ [key] := by
  induction touched with
  | nil => rfl
  | cons first touched ih =>
    rw [List.cons_append, List.dedup_cons, List.dedup_cons, ih]
    by_cases again : first ∈ touched
    · rw [if_pos (List.mem_append_left _ again), if_pos again]
    · rw [if_neg again]
      by_cases same : first = key
      · rw [if_pos (by simp [same]), List.filter_cons_of_neg (by simpa using same)]
      · rw [if_neg (by simp [again, same]), List.filter_cons_of_pos (by simpa using same), List.cons_append]

theorem rtake_append_of_le {α : Type} (front : List α) {back : List α} {n : Nat} (enough : n ≤ back.length) :
    (front ++ back).rtake n = back.rtake n := by
  rw [List.rtake, List.rtake, List.length_append, Nat.add_sub_assoc enough, List.drop_append,
    List.drop_eq_nil_of_le (Nat.le_add_right _ _), Nat.add_sub_cancel_left, List.nil_append]

theorem rtake_sublist {α : Type} (n : Nat) (list : List α) : (list.rtake n).Sublist list :=
  List.drop_sublist _ _

/-- Moving a key to the end of the last keys gives the last keys of the list with the key moved: no key before
the last ones comes back. -/
theorem rtake_move {list : List κ} (distinct : list.Nodup) (key : κ) (n : Nat) :
    ((list.rtake n).filter (· ≠ key) ++ [key]).rtake n = (list.filter (· ≠ key) ++ [key]).rtake n := by
  cases n with
  | zero => rw [List.rtake_zero, List.rtake_zero]
  | succ n =>
    rw [List.rtake_concat_succ, List.rtake_concat_succ]
    congr 1
    by_cases short : list.length ≤ n + 1
    · have all : list.rtake (n + 1) = list := by rw [List.rtake, Nat.sub_eq_zero_of_le short, List.drop_zero]
      rw [all]
    · have split : list.take (list.length - (n + 1)) ++ list.rtake (n + 1) = list := List.take_append_drop _ _
      have length : (list.rtake (n + 1)).length = n + 1 := by
        rw [List.rtake, List.length_drop]
        omega
      have enough : n ≤ ((list.rtake (n + 1)).filter (· ≠ key)).length := by
        have erased : (list.rtake (n + 1)).filter (· ≠ key) = (list.rtake (n + 1)).erase key := by
          rw [(distinct.sublist (rtake_sublist (n + 1) list)).erase_eq_filter key]
          exact List.filter_congr fun other _ => by simp [bne, beq_eq_decide]
        rw [erased, List.length_erase, length]
        split <;> omega
      nth_rewrite 2 [← split]
      rw [List.filter_append, rtake_append_of_le _ enough]

/-- Behind a key stand the keys touched after its last touch. -/
theorem exists_dedup_split (inside : key ∈ touched) :
    ∃ front, touched.dedup = front ++ key :: (touchedSince touched key).dedup := by
  obtain ⟨earlier, split⟩ := exists_last_touch inside
  have last := List.dedup_cons_of_notMem (not_mem_touchedSince touched key)
  obtain ⟨front, union⟩ := List.suffix_union_right earlier (key :: (touchedSince touched key).dedup)
  refine ⟨front, ?_⟩
  nth_rewrite 1 [split]
  rw [List.dedup_append, last, union]

/-- A key is among the last `n` without repetitions if and only if fewer than `n` others were touched after it
was touched last. -/
theorem mem_rtake_dedup_iff (n : Nat) :
    key ∈ touched.dedup.rtake n ↔ key ∈ touched ∧ (touchedSince touched key).dedup.length < n := by
  constructor
  · intro inside
    have member := List.mem_dedup.mp ((rtake_sublist n _).subset inside)
    refine ⟨member, ?_⟩
    obtain ⟨front, split⟩ := exists_dedup_split member
    by_contra many
    rw [split, List.append_cons, rtake_append_of_le _ (by omega)] at inside
    exact not_mem_touchedSince touched key (List.mem_dedup.mp ((rtake_sublist n _).subset inside))
  · rintro ⟨member, few⟩
    obtain ⟨front, split⟩ := exists_dedup_split member
    rw [split, List.rtake, List.length_append, List.length_cons, List.drop_append_of_le_length (by omega)]
    simp

end Touches

/-- What is done with a cache. -/
inductive CacheUse (κ ν : Type) where
  | get (key : κ)
  | set (key : κ) (value : ν)
  | contains (key : κ)
  | erase (key : κ)
  | clear

namespace CacheUse

variable {κ ν : Type} [DecidableEq κ]

/-- Whether entries are erased on purpose. -/
def erases : CacheUse κ ν → Bool
  | .erase _ | .clear => true
  | _ => false

/-- The value that a key is set to. -/
def valueFor? (key : κ) : CacheUse κ ν → Option ν
  | .set other value => if other = key then some value else none
  | _ => none

/-- The value that a key was set to last. -/
def lastValue? (key : κ) (uses : List (CacheUse κ ν)) : Option ν := uses.reverse.findSome? (valueFor? key)

theorem lastValue?_concat (key : κ) (uses : List (CacheUse κ ν)) (use : CacheUse κ ν) :
    lastValue? key (uses ++ [use]) = (valueFor? key use).or (lastValue? key uses) := by
  rw [lastValue?, List.reverse_concat, List.findSome?_cons, ← lastValue?]
  cases valueFor? key use <;> rfl

end CacheUse

namespace Cache

variable {κ ν : Type} [DecidableEq κ] {cache : Cache κ ν} {key : κ}

/-- The cache after one use of it. -/
def after (cache : Cache κ ν) : CacheUse κ ν → Cache κ ν
  | .get key => (cache.get? key).2
  | .set key value => cache.set key value
  | .contains _ => cache
  | .erase key => cache.erase key
  | .clear => cache.clear

/-- The key that a use touches: one that is set, or that is asked for and found. -/
def touchedBy? (cache : Cache κ ν) : CacheUse κ ν → Option κ
  | .get key => if (cache.get? key).1.isSome then some key else none
  | .set key _ => some key
  | _ => none

/-- The keys that are touched one after another. -/
def touches (cache : Cache κ ν) : List (CacheUse κ ν) → List κ
  | [] => []
  | use :: later => (cache.touchedBy? use).toList ++ (cache.after use).touches later

theorem touches_concat (cache : Cache κ ν) (uses : List (CacheUse κ ν)) (use : CacheUse κ ν) :
    cache.touches (uses ++ [use]) = cache.touches uses ++ ((uses.foldl after cache).touchedBy? use).toList := by
  induction uses generalizing cache with
  | nil => simp [touches]
  | cons first later ih => simp only [List.cons_append, touches, ih, List.foldl_cons, List.append_assoc]

theorem Bounded.erase (bounded : cache.Bounded) (key : κ) : (cache.erase key).Bounded := by
  constructor
  · rw [keys, Cache.erase, keys_without]
    exact bounded.distinct.filter _
  · exact Nat.le_trans (List.length_filter_le _ _) bounded.fits

theorem Bounded.after (bounded : cache.Bounded) (use : CacheUse κ ν) : (cache.after use).Bounded := by
  cases use with
  | get key => exact bounded.touch key
  | set key value => exact bounded.set key value
  | contains key => exact bounded
  | erase key => exact bounded.erase key
  | clear => exact ⟨List.nodup_nil, Nat.zero_le _⟩

theorem capacity_after (cache : Cache κ ν) (use : CacheUse κ ν) : (cache.after use).capacity = cache.capacity := by
  cases use with
  | get key =>
    show (cache.touch key).capacity = cache.capacity
    unfold touch
    split <;> rfl
  | _ => rfl

theorem bounded_foldl (bounded : cache.Bounded) (uses : List (CacheUse κ ν)) :
    (uses.foldl Cache.after cache).Bounded ∧ (uses.foldl Cache.after cache).capacity = cache.capacity := by
  induction uses generalizing cache with
  | nil => exact ⟨bounded, rfl⟩
  | cons use later ih =>
    obtain ⟨kept, same⟩ := ih (bounded.after use)
    exact ⟨kept, same.trans (cache.capacity_after use)⟩

theorem contains_iff : cache.contains key = true ↔ key ∈ cache.keys := by
  constructor
  · intro found
    obtain ⟨value, found⟩ := Option.isSome_iff_exists.mp found
    exact List.mem_map.mpr ⟨_, mem_of_peek? found, rfl⟩
  · intro inside
    obtain ⟨entry, member, rfl⟩ := List.mem_map.mp inside
    exact contains_of_mem member

/-- Reading what is cached is the same as writing it once more. -/
theorem Bounded.touch_eq_set (bounded : cache.Bounded) {value : ν} (found : cache.peek? key = some value) :
    cache.touch key = cache.set key value := by
  have shorter := length_without_lt found
  have fits := bounded.fits
  unfold size at fits
  have entries := @set_entries_of_fits _ _ _ cache key value (by omega)
  rw [Cache.touch, found]
  dsimp only
  rw [← entries]
  rfl

theorem keys_set (cache : Cache κ ν) (key : κ) (value : ν) :
    (cache.set key value).keys = (cache.keys.filter (· ≠ key) ++ [key]).rtake cache.capacity := by
  rw [keys, keys, set, List.map_drop, List.rtake, List.map_append, keys_without, List.length_append,
    List.length_append, ← keys_without, List.length_map]
  rfl

/-- The cache is what its history makes of it: it holds the keys touched last, each with the value it was set to
last, and no key was touched that had not been set. -/
structure Recent (cache : Cache κ ν) (touched : List κ) (uses : List (CacheUse κ ν)) : Prop where
  room : 0 < cache.capacity
  bounded : cache.Bounded
  latest : cache.keys = touched.dedup.rtake cache.capacity
  known : ∀ key value, cache.peek? key = some value → CacheUse.lastValue? key uses = some value
  written : ∀ key, key ∈ touched ↔ ∃ value, CacheUse.set key value ∈ uses

namespace Recent

variable {touched : List κ} {uses : List (CacheUse κ ν)}

theorem keys_set (recent : Recent cache touched uses) (key : κ) (value : ν) :
    (cache.set key value).keys = (touched ++ [key]).dedup.rtake cache.capacity := by
  rw [Cache.keys_set, recent.latest, rtake_move (List.nodup_dedup touched), dedup_concat]

theorem set (recent : Recent cache touched uses) (key : κ) (value : ν) :
    Recent (cache.set key value) (touched ++ [key]) (uses ++ [.set key value]) where
  room := recent.room
  bounded := recent.bounded.set key value
  latest := recent.keys_set key value
  known other old found := by
    rw [CacheUse.lastValue?_concat, CacheUse.valueFor?]
    by_cases same : key = other
    · subst same
      rw [if_pos rfl, ← found, peek?_set_self recent.room]
      rfl
    · rw [if_neg same, Option.none_or]
      rcases peek?_set_of_ne recent.bounded value (Ne.symm same) with kept | evicts
      · exact recent.known other old (kept ▸ found)
      · rw [evicts.forgotten] at found
        cases found
  written other := by
    rw [List.mem_append, recent.written other, List.mem_singleton]
    constructor
    · rintro (⟨old, inside⟩ | rfl)
      · exact ⟨old, List.mem_append_left _ inside⟩
      · exact ⟨value, List.mem_append_right _ (List.mem_singleton.mpr rfl)⟩
    · rintro ⟨old, inside⟩
      rcases List.mem_append.mp inside with earlier | last
      · exact Or.inl ⟨old, earlier⟩
      · cases List.mem_singleton.mp last
        exact Or.inr rfl

/-- A use that writes nothing adds nothing to what was written. -/
theorem read {use : CacheUse κ ν} {later : Cache κ ν} {more : List κ} (recent : Recent cache touched uses)
    (silent : ∀ key, use.valueFor? key = none) (capacity : later.capacity = cache.capacity)
    (bounded : later.Bounded) (latest : later.keys = more.dedup.rtake later.capacity)
    (values : ∀ key, later.peek? key = cache.peek? key) (members : ∀ key, key ∈ more ↔ key ∈ touched) :
    Recent later more (uses ++ [use]) where
  room := capacity ▸ recent.room
  bounded := bounded
  latest := latest
  known other old found := by
    rw [CacheUse.lastValue?_concat, silent, Option.none_or]
    exact recent.known other old (values other ▸ found)
  written other := by
    rw [members, recent.written]
    refine exists_congr fun value => ⟨List.mem_append_left _, fun inside => ?_⟩
    refine (List.mem_append.mp inside).resolve_right fun last => ?_
    have wrote := silent other
    rw [← List.mem_singleton.mp last, CacheUse.valueFor?, if_pos rfl] at wrote
    cases wrote

/-- One use of the cache. -/
theorem after (recent : Recent cache touched uses) {use : CacheUse κ ν} (keeps : use.erases = false) :
    Recent (cache.after use) (touched ++ (cache.touchedBy? use).toList) (uses ++ [use]) := by
  cases use with
  | get key =>
    cases found : cache.peek? key with
    | none =>
      have absent : cache.touchedBy? (.get key) = none := by simp [touchedBy?, get?, found]
      have same : cache.after (.get key) = cache := by simp [Cache.after, get?, touch, found]
      rw [absent, Option.toList_none, List.append_nil, same]
      exact recent.read (fun _ => rfl) rfl recent.bounded recent.latest (fun _ => rfl) fun _ => Iff.rfl
    | some value =>
      have touches : cache.touchedBy? (.get key) = some key := by simp [touchedBy?, get?, found]
      have latest := recent.keys_set key value
      rw [← recent.bounded.touch_eq_set found] at latest
      have inside : key ∈ touched := by
        have member := contains_iff.mp (show cache.contains key = true by rw [contains, found]; rfl)
        rw [recent.latest] at member
        exact (mem_rtake_dedup_iff _).mp member |>.1
      have capacity := cache.capacity_after (.get key)
      rw [touches, Option.toList_some]
      refine recent.read (fun _ => rfl) capacity (recent.bounded.touch key) ?_ (cache.peek?_touch key) fun other => ?_
      · rw [capacity]
        exact latest
      · rw [List.mem_append, List.mem_singleton, or_iff_left_of_imp]
        rintro rfl
        exact inside
  | set key value => exact recent.set key value
  | contains key =>
    rw [show cache.touchedBy? (.contains key) = none from rfl, Option.toList_none, List.append_nil]
    exact recent.read (fun _ => rfl) rfl recent.bounded recent.latest (fun _ => rfl) fun _ => Iff.rfl
  | erase key => cases keeps
  | clear => cases keeps

end Recent

theorem recent_foldl {empty : Cache κ ν} (room : 0 < empty.capacity) (nothing : empty.entries = [])
    {uses : List (CacheUse κ ν)} (keeps : ∀ use ∈ uses, use.erases = false) :
    Recent (uses.foldl Cache.after empty) (empty.touches uses) uses := by
  induction uses using List.reverseRecOn with
  | nil =>
    refine ⟨room, ⟨?_, ?_⟩, ?_, fun key value found => ?_, fun key => ?_⟩
    · simp [keys, nothing]
    · simp [size, nothing]
    · simp [keys, nothing, touches]
    · simp [peek?, nothing] at found
    · simp [touches]
  | append_singleton uses use ih =>
    rw [List.foldl_concat, touches_concat]
    have recent := ih fun other inside => keeps other (List.mem_append_left _ inside)
    exact recent.after (keeps use (by simp))

/-- A cache for a positive number of entries never lists a key twice or holds more than that number; asking
whether it contains a key changes nothing, and erasing a key takes that key alone out of the order. As long as
nothing is erased, a key is there if and only if it has been set and fewer other keys than the capacity were
touched after its last touch; keys are listed in the order of their last touches; and a key that is there has
the value it was set to last. -/
theorem refines_recency {capacity : Int} (positive : 1 ≤ capacity) :
    ∃ empty : Cache κ ν, create? capacity = some empty ∧
      (∀ uses : List (CacheUse κ ν),
        let cache := uses.foldl Cache.after empty
        cache.keys.Nodup ∧ (cache.size : Int) ≤ capacity ∧
          (∀ key, cache.after (.contains key) = cache ∧ (cache.contains key = true ↔ key ∈ cache.keys)) ∧
          (∀ key, (cache.after (.erase key)).keys = cache.keys.filter (· ≠ key) ∧
            ∀ other, other ≠ key → (cache.after (.erase key)).peek? other = cache.peek? other) ∧
          (cache.after .clear).keys = []) ∧
      ∀ uses : List (CacheUse κ ν), (∀ use ∈ uses, use.erases = false) →
        let cache := uses.foldl Cache.after empty
        let touched := empty.touches uses
        (∀ key, cache.contains key = true ↔
            (∃ value, CacheUse.set key value ∈ uses) ∧ ((touchedSince touched key).dedup.length : Int) < capacity) ∧
          (cache.keys.Pairwise fun first second => lastTouch touched first < lastTouch touched second) ∧
          ∀ key, cache.contains key = true →
            ∃ value, CacheUse.lastValue? key uses = some value ∧ (cache.get? key).1 = some value := by
  have number : (capacity.toNat : Int) = capacity := Int.toNat_of_nonneg (by omega)
  refine ⟨⟨capacity.toNat, []⟩, if_neg (by omega), fun uses => ?_, fun uses keeps => ?_⟩
  · have start : (⟨capacity.toNat, []⟩ : Cache κ ν).Bounded := ⟨List.nodup_nil, Nat.zero_le _⟩
    obtain ⟨bounded, same⟩ := bounded_foldl start uses
    have fits := bounded.fits
    rw [same] at fits
    refine ⟨bounded.distinct, ?_, fun key => ⟨rfl, contains_iff⟩, fun key => ⟨?_, fun other differs => ?_⟩, rfl⟩
    · dsimp only at fits
      omega
    · exact keys_without key _
    · exact (lookup_without key other _).trans (if_neg differs)
  · have recent := recent_foldl (show 0 < (⟨capacity.toNat, []⟩ : Cache κ ν).capacity by dsimp only; omega) rfl keeps
    have same := (bounded_foldl (show (⟨capacity.toNat, []⟩ : Cache κ ν).Bounded from
      ⟨List.nodup_nil, Nat.zero_le _⟩) uses).2
    refine ⟨fun key => ?_, ?_, fun key there => ?_⟩
    · rw [contains_iff, recent.latest, mem_rtake_dedup_iff, recent.written, same, ← Int.ofNat_lt, number]
    · rw [recent.latest]
      exact (dedup_lastTouch _).sublist (rtake_sublist _ _)
    · obtain ⟨value, found⟩ := Option.isSome_iff_exists.mp there
      exact ⟨value, recent.known key value found, found⟩

/-- With room for two, the key that was read stays and the one not used since makes room for the third. -/
theorem refines_recency_with_room_for_two :
    let uses : List (CacheUse Nat Nat) := [.set 1 10, .set 2 20, .get 1, .contains 2, .set 3 30]
    let cache := uses.foldl Cache.after ⟨2, []⟩
    (∀ use ∈ uses, use.erases = false) ∧ cache.contains 1 = true ∧ ¬ cache.contains 2 = true ∧
      cache.contains 3 = true ∧ (cache.get? 1).1 = some 10 := by
  intro uses cache
  have keeps : ∀ use ∈ uses, use.erases = false := by decide
  obtain ⟨empty, made, _, recency⟩ := @refines_recency Nat Nat _ 2 (by decide)
  obtain rfl : (⟨2, []⟩ : Cache Nat Nat) = empty := Option.some.inj made
  obtain ⟨present, _, values⟩ := recency uses keeps
  have first : cache.contains 1 = true := (present 1).mpr ⟨⟨10, by simp [uses]⟩, by decide⟩
  have third : cache.contains 3 = true := (present 3).mpr ⟨⟨30, by simp [uses]⟩, by decide⟩
  refine ⟨keeps, first, fun second => ?_, third, ?_⟩
  · exact absurd ((present 2).mp second).2 (by decide)
  · obtain ⟨value, last, read⟩ := values 1 first
    rw [read, ← last]
    rfl

end Cache

end QueryCompletion
