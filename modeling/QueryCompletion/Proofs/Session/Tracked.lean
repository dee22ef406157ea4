import QueryCompletion.Proofs.Session.Standing
import QueryCompletion.Proofs.Values.Pages

/-!
The table of requests and the marks of the entries being loaded. They change at different moments: a
request is recorded when it starts, the mark falls when its answer comes, and the record is struck off
some turns after. What each of these does is said here for a loop and a service, whatever else goes on.
-/

namespace QueryCompletion

open Loop (Quiet)

namespace ValueService

variable {service : ValueService} {key : Text} {id : TaskId}

theorem lookup_recordRequest (service : ValueService) (key other : Text) (id : TaskId) :
    (service.recordRequest key id).inFlight.lookup other =
      if other = key then some id else service.inFlight.lookup other := by
  have replaced : (fun request : Text × TaskId => if request.1 = key then (key, id) else request) =
      fun request => if request.1 = key then (request.1, id) else request := by
    funext request
    split
    · rename_i same
      rw [same]
    · rfl
  unfold recordRequest
  dsimp only
  by_cases same : other = key
  · rw [if_pos same, same]
    split
    · rename_i recorded
      obtain ⟨old, found⟩ := Option.isSome_iff_exists.mp recorded
      rw [replaced, lookup_map_at _ _ _ fun _ => id, found, Option.map_some, if_pos rfl]
    · rename_i absent
      rw [List.lookup_append, Option.not_isSome_iff_eq_none.mp absent, Option.none_or, List.lookup_cons_self]
  · rw [if_neg same]
    split
    · rw [replaced, lookup_map_at _ _ _ fun _ => id]
      simp [same]
    · rw [List.lookup_append, lookup_cons_of_ne _ _ same, List.lookup_nil, Option.or_none]

/-- Striking off one request leaves the records of others. -/
theorem lookup_strikeRequest {live : TaskId} (recorded : service.inFlight.lookup key = some live)
    (differs : live ≠ id) : (service.strikeRequest id).inFlight.lookup key = some live :=
  lookup_filter recorded (decide_eq_true differs)

/-- What the end of a request does: nothing under its key is marked as being loaded any more, and no
other entry is marked anew. -/
structure Settles (key : Text) (before after : ValueService) : Prop where
  pending : after.pending = before.pending
  inFlight : after.inFlight = before.inFlight
  loading : ∀ entry ∈ after.cache.entries, entry.2.loading = true →
    entry ∈ before.cache.entries ∧ entry.1 ≠ key

theorem settles_clearLoading (service : ValueService) (key : Text) :
    Settles key service (service.clearLoading key) := by
  refine ⟨rfl, rfl, fun entry inside marked => ?_⟩
  rcases mem_clearLoading inside with kept | ⟨_, old, _, same⟩
  · exact kept
  · rw [same] at marked
    cases marked

theorem settles_applyPage (service : ValueService) (key : Text) (page : ValuePage) :
    Settles key service (service.applyPage key page).2 := by
  have same := service.applyPage_eq key page
  refine ⟨(congrArg pending same :), (congrArg inFlight same :), fun entry inside marked => ?_⟩
  rcases mem_applyPage inside with kept | ⟨_, ⟨_, merged⟩ | ⟨old, _, same⟩⟩
  · exact kept
  · rw [merged] at marked
    cases marked
  · rw [same] at marked
    cases marked

end ValueService

open ValueService (Settles)

/-- The table of requests and the marks of the entries being loaded agree with the tasks under way. -/
structure Tracked (loop : Loop Job) (service : ValueService) : Prop where
  running : loop.running = true
  native : ∀ id, loop.standing? id ≠ some .foreign
  struck : ∀ id, Turn.strike id ∈ loop.ready → loop.standing? id = some .resting
  pending : ∀ id, service.pending = some id → loop.standing? id = some .resting
  recorded : ∀ id key, loop.standing? id = some (.fetching key) → service.inFlight.lookup key = some id
  loading : ∀ entry ∈ service.cache.entries, entry.2.loading = true →
    ∃ id, loop.standing? id = some (.fetching entry.1)

namespace Tracked

variable {loop : Loop Job} {service : ValueService} {id : TaskId}

theorem quiet {next : Loop Job} (tracked : Tracked loop service) (same : Quiet loop next) :
    Tracked next service := by
  refine ⟨same.running.trans tracked.running, fun id => ?_, fun id inside => ?_, fun id waits => ?_,
    fun id key fetching => ?_, fun entry inside marked => ?_⟩
  · rw [same.standing]
    exact tracked.native id
  · rw [same.standing]
    exact tracked.struck id (same.strikes id inside)
  · rw [same.standing]
    exact tracked.pending id waits
  · rw [same.standing] at fetching
    exact tracked.recorded id key fetching
  · obtain ⟨id, fetching⟩ := tracked.loading entry inside marked
    exact ⟨id, (same.standing id).trans fetching⟩

theorem touch (tracked : Tracked loop service) (key : Text) :
    Tracked loop { service with cache := service.cache.touch key } :=
  { tracked with loading := fun entry inside marked =>
      tracked.loading entry (Cache.mem_of_mem_touch inside) marked }

theorem settle {key : Text} {next : ValueService} (tracked : Tracked loop service)
    (settles : Settles key service next) : Tracked loop next where
  running := tracked.running
  native := tracked.native
  struck := tracked.struck
  pending id waits := tracked.pending id (settles.pending ▸ waits)
  recorded id key fetching := settles.inFlight ▸ tracked.recorded id key fetching
  loading entry inside marked := tracked.loading entry (settles.loading entry inside marked).1 marked

/-- A task may end once nothing under its key is marked. -/
theorem finish (tracked : Tracked loop service) (outcome : Outcome)
    (unmarked : ∀ entry ∈ service.cache.entries, entry.2.loading = true →
      loop.standing? id ≠ some (.fetching entry.1)) :
    Tracked (loop.finish id outcome) service := by
  -- The end of a task takes away its own fetch and no other.
  have others : ∀ {other key}, (loop.finish id outcome).standing? other = some (.fetching key) ↔
      id ≠ other ∧ loop.standing? other = some (.fetching key) := by
    intro other key
    rw [Loop.standing?_finish]
    split
    · rename_i same
      cases loop.standing? other <;> simp [same]
    · rename_i differs
      simp [differs]
  refine ⟨?_, fun other => ?_, fun other inside => ?_, fun other waits => ?_, fun other key fetching => ?_,
    fun entry inside marked => ?_⟩
  · unfold Loop.finish
    split <;> exact tracked.running
  · rw [Loop.standing?_finish]
    split
    · cases loop.standing? other <;> simp
    · exact tracked.native other
  · rw [Loop.standing?_finish]
    rcases Loop.strike_finish inside with old | ⟨same, started⟩
    · rw [tracked.struck other old]
      split <;> rfl
    · obtain ⟨standing, found⟩ := Option.isSome_iff_exists.mp started
      rw [if_pos same.symm, same, found]
      rfl
  · rw [Loop.standing?_finish, tracked.pending other waits]
    split <;> rfl
  · exact tracked.recorded other key (others.mp fetching).2
  · obtain ⟨other, fetching⟩ := tracked.loading entry inside marked
    refine ⟨other, others.mpr ⟨?_, fetching⟩⟩
    rintro rfl
    exact unmarked entry inside marked fetching

theorem strike (tracked : Tracked loop service) (ended : loop.standing? id = some .resting) :
    Tracked loop (service.strikeRequest id) where
  running := tracked.running
  native := tracked.native
  struck := tracked.struck
  pending := tracked.pending
  -- A later request for the key may be on record by now; it is another task than the ended one.
  recorded live key fetching := by
    refine ValueService.lookup_strikeRequest (tracked.recorded live key fetching) ?_
    rintro rfl
    rw [ended] at fetching
    cases fetching
  loading := tracked.loading

/-- A fetch that is to wait for typing to pause. -/
theorem debounce (tracked : Tracked loop service) (query : ValueQuery) (loadMore : Bool) :
    Tracked (loop.spawn (.debounce query loadMore false) []).2
      { service with pending := some (loop.spawn (.debounce query loadMore false) []).1 } := by
  have fresh : Task.standing { job := .debounce query loadMore false } = .resting := rfl
  refine ⟨tracked.running, fun other => ?_, fun other inside => ?_, fun other waits => ?_,
    fun other key fetching => ?_, fun entry inside marked => ?_⟩
  · rw [Loop.standing?_spawn, fresh]
    split
    · simp
    · exact tracked.native other
  · exact Loop.standing?_spawn_of_some (tracked.struck other (Loop.strike_spawn inside))
  · cases waits
    rw [Loop.standing?_spawn]
    exact if_pos rfl
  · rw [Loop.standing?_spawn, fresh] at fetching
    split at fetching
    · cases fetching
    · exact tracked.recorded other key fetching
  · obtain ⟨other, fetching⟩ := tracked.loading entry inside marked
    exact ⟨other, Loop.standing?_spawn_of_some fetching⟩

/-- A request for a key that has none under way. -/
theorem request {cache : Cache Text ValueEntry} (tracked : Tracked loop service) (asked : PageRequest)
    (none : ∀ id, loop.standing? id ≠ some (.fetching asked.query.key))
    (among : ∀ entry ∈ cache.entries, entry.2.loading = true →
      entry.1 = asked.query.key ∨ entry ∈ service.cache.entries) :
    Tracked (loop.spawn (.request asked .unsent) [.strike]).2
      (({ service with cache } : ValueService).recordRequest asked.query.key
        (loop.spawn (.request asked .unsent) [.strike]).1) := by
  have fresh : Task.standing { job := .request asked .unsent } = .fetching asked.query.key := rfl
  refine ⟨tracked.running, fun other => ?_, fun other inside => ?_, fun other waits => ?_,
    fun other key fetching => ?_, fun entry inside marked => ?_⟩
  · rw [Loop.standing?_spawn, fresh]
    split
    · simp
    · exact tracked.native other
  · exact Loop.standing?_spawn_of_some (tracked.struck other (Loop.strike_spawn inside))
  · exact Loop.standing?_spawn_of_some (tracked.pending other waits)
  · rw [Loop.standing?_spawn, fresh] at fetching
    split at fetching
    · rename_i same
      cases fetching
      rw [ValueService.lookup_recordRequest, if_pos rfl, same]
      rfl
    · have differs : key ≠ asked.query.key := by
        rintro rfl
        exact none other fetching
      rw [ValueService.lookup_recordRequest, if_neg differs]
      exact tracked.recorded other key fetching
  · rcases among entry inside marked with same | old
    · refine ⟨loop.tasks.length, ?_⟩
      rw [Loop.standing?_spawn, if_pos rfl, fresh, same]
    · obtain ⟨other, fetching⟩ := tracked.loading entry old marked
      exact ⟨other, Loop.standing?_spawn_of_some fetching⟩

end Tracked

end QueryCompletion
