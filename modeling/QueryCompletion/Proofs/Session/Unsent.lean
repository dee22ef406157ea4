import QueryCompletion.Proofs.Session.Host
import QueryCompletion.Proofs.Session.Installation

/-!
Loads without an event loop. A request that is needed and cannot be sent is refused, but only after the entry of
its key was marked and used; the mark then keeps the key from ever being asked for again.
-/

namespace QueryCompletion

namespace Cache

variable {κ ν : Type} [DecidableEq κ] {cache : Cache κ ν} {key : κ} {value : ν}

/-- What is written is the entry used last. -/
theorem getLast?_set (room : 0 < cache.capacity) (key : κ) (value : ν) :
    (cache.set key value).entries.getLast? = some (key, value) := by
  have kept : (without key cache.entries ++ [(key, value)]).length - cache.capacity ≤
      (without key cache.entries).length := by
    rw [List.length_append, List.length_singleton]
    omega
  rw [set, List.drop_append_of_le_length kept, List.getLast?_concat]

/-- Writing changes nothing only if the entry used last is written once more. -/
theorem set_eq_self_iff (bounded : cache.Bounded) (room : 0 < cache.capacity) :
    cache.set key value = cache ↔ cache.entries.getLast? = some (key, value) := by
  refine ⟨fun same => same ▸ getLast?_set room key value, fun last => ?_⟩
  obtain ⟨front, split⟩ := List.getLast?_eq_some_iff.mp last
  have distinct := bounded.distinct
  have fits := bounded.fits
  rw [keys, split, List.map_append, List.nodup_append] at distinct
  have others : without key cache.entries = front := by
    rw [split, without, List.filter_append, List.filter_eq_self.mpr]
    · simp
    · intro entry inside
      exact decide_eq_true (distinct.2.2 entry.1 (List.mem_map_of_mem inside) key (List.mem_singleton.mpr rfl))
  rw [size, split] at fits
  rw [set, others, Nat.sub_eq_zero_of_le fits, List.drop_zero, ← split]

end Cache

/-- No event changes how much room there is, and no key is cached twice. -/
structure Kept (capacity : Nat) (cache : Cache Text ValueEntry) : Prop where
  bounded : cache.Bounded
  capacity_eq : cache.capacity = capacity

namespace Kept

variable {capacity : Nat} {cache : Cache Text ValueEntry}

theorem touch (kept : Kept capacity cache) (key : Text) : Kept capacity (cache.touch key) :=
  ⟨kept.bounded.touch key, (cache.capacity_after (.get key)).trans kept.capacity_eq⟩

theorem set (kept : Kept capacity cache) (key : Text) (entry : ValueEntry) : Kept capacity (cache.set key entry) :=
  ⟨kept.bounded.set key entry, kept.capacity_eq⟩

theorem after (kept : Kept capacity cache) (use : CacheUse Text ValueEntry) : Kept capacity (cache.after use) :=
  ⟨kept.bounded.after use, (cache.capacity_after use).trans kept.capacity_eq⟩

theorem cacheStep {service : ValueService} {delivered : Option (Text × ValuePage)} {next : Cache Text ValueEntry}
    (kept : Kept capacity service.cache) (step : CacheStep service delivered next) : Kept capacity next := by
  have cleared (key : Text) : Kept capacity (service.clearLoading key).cache :=
    ⟨service.bounded_clearLoading key kept.bounded, (kept.touch key).capacity_eq⟩
  cases step with
  | same => exact kept
  | used key => exact kept.touch key
  | loading key => exact (kept.touch key).set key _
  | cleared key => exact cleared key
  | delivered _ =>
    rw [ValueService.applyPage_cache]
    split
    · exact kept.set _ _
    · exact cleared _

end Kept

namespace Session

variable {session : Session} {capacity : Nat}

theorem kept_heed (kept : Kept capacity session.service.cache) (event : HostEvent) :
    Kept capacity (session.heed event).service.cache := by
  cases event with
  | passing event => exact kept.cacheStep (session.after_cacheStep event)
  | running running => exact kept
  | address url => exact kept
  | cached use => exact kept.after use
  | waiting => exact kept
  | closing =>
    refine Runs.keeps (P := fun session => Kept capacity session.service.cache) (fun session event kept => ?_) ?_
      (session.runs_complete _)
    · exact kept.cacheStep (session.after_cacheStep event)
    · exact kept

theorem kept_foldl (kept : Kept capacity session.service.cache) (events : List HostEvent) :
    Kept capacity (events.foldl heed session).service.cache := by
  induction events generalizing session with
  | nil => exact kept
  | cons event events ih => exact ih (kept_heed kept event)

/-- The session with the entry of a key marked as being loaded, and used. -/
def marking (session : Session) (key : Text) : Session :=
  { session with service := { session.service with
    cache := session.service.cache.set key { session.service.cache.known key with loading := true } } }

/-- Whether a load has a page to ask for, and nothing else is in its way. -/
def needsPage (session : Session) (query : ValueQuery) (loadMore : Bool) : Bool :=
  session.service.hasApi && !session.inFlight query.key &&
    ((session.service.cache.known query.key).nextPage? loadMore).isSome

/-- A load that has a page to ask for is refused without an event loop, when the entry is marked already; no
other load is. -/
theorem loadPage_refusal_cases (session : Session) (query : ValueQuery) (loadMore : Bool) :
    session.needsPage query loadMore = true ∧ session.loop.running = false ∧
        session.loadPage query loadMore = (.error .noLoop, session.marking query.key) ∨
      ¬(session.needsPage query loadMore = true ∧ session.loop.running = false) ∧
        ∃ sent, (session.loadPage query loadMore).1 = .ok sent := by
  unfold needsPage loadPage
  dsimp only
  split
  · rename_i idle
    refine Or.inr ⟨fun ⟨needed, _⟩ => ?_, false, rfl⟩
    rw [Bool.and_eq_true, Bool.and_eq_true, Bool.not_eq_true'] at needed
    rw [needed.1.1, needed.1.2] at idle
    cases idle
  rename_i busy
  rw [Bool.not_eq_true, Bool.or_eq_false_iff, Bool.not_eq_false'] at busy
  have known : (session.service.lookUp query.key).1 = session.service.cache.known query.key := rfl
  split
  · rename_i served
    refine Or.inr ⟨fun needed => ?_, false, rfl⟩
    rw [← known, served, Option.isSome_none, Bool.and_false] at needed
    cases needed.1
  · rename_i page needed
    split
    · rename_i running
      exact Or.inr ⟨fun refused => (Bool.eq_false_iff.mp refused.2) running, true, rfl⟩
    · rename_i still
      refine Or.inl ⟨?_, Bool.not_eq_true _ ▸ still, ?_⟩
      · rw [← known, needed, busy.1, busy.2]
        rfl
      · rw [known]
        exact congrArg (fun cache => (Except.error LoadError.noLoop, { session with service :=
          { session.service with cache } })) (Cache.set_touch _ _ _)

/-- An entry that is marked is given with its mark, however often it is asked for, and nothing is fetched. -/
theorem valueOptions_marking (kept : Kept capacity session.service.cache) (room : 0 < capacity) (query : ValueQuery)
    (loadMore : Bool) :
    (session.marking query.key).valueOptions query loadMore =
      (⟨(session.service.cache.known query.key).items, true⟩, session.marking query.key) := by
  have wide : 0 < session.service.cache.capacity := kept.capacity_eq.symm ▸ room
  generalize marked : { session.service.cache.known query.key with loading := true } = entry
  have found : (session.service.cache.set query.key entry).peek? query.key = some entry :=
    Cache.peek?_set_self wide query.key entry
  have bounded := kept.bounded.set query.key entry
  have used : (session.service.cache.set query.key entry).touch query.key =
      session.service.cache.set query.key entry := by
    rw [bounded.touch_eq_set found]
    exact (Cache.set_eq_self_iff bounded wide).mpr (Cache.getLast?_set wide _ _)
  have flagged : entry.loading = true := by rw [← marked]
  unfold marking valueOptions ValueService.lookUp Cache.get?
  dsimp only
  rw [marked, found, used, Option.getD_some, ValueEntry.wantsLoad, flagged, ← marked]
  rfl

/-- In every state a load is refused exactly if it has a page to ask for and there is no event loop. A refused
load leaves the requests in flight as they are, but marks the entry of its key as being loaded and uses it: it
changes nothing only if that entry was marked and the one used last before. Its key is stuck then: asking
for its values says that more are on their way, fetches nothing and changes nothing. -/
theorem refused_load_marks {settings : Settings} (room : 0 < settings.cacheSize) (log : Log) (client : Client)
    (clientOwned listening running : Bool) (events : List HostEvent) :
    let session := events.foldl heed (opened settings log client clientOwned listening running)
    ∀ query loadMore,
      ((session.loadPage query loadMore).1 = .error .noLoop ↔
        session.needsPage query loadMore = true ∧ session.loop.running = false) ∧
      ((session.loadPage query loadMore).1 = .error .noLoop →
        let refused := (session.loadPage query loadMore).2
        refused = session.marking query.key ∧
        (refused = session ↔ ∃ entry, entry.loading = true ∧
          session.service.cache.entries.getLast? = some (query.key, entry)) ∧
        ∀ loadMore, refused.valueOptions query loadMore =
          (⟨(session.service.cache.known query.key).items, true⟩, refused)) := by
  intro session query loadMore
  have start : Kept settings.cacheSize
      (opened settings log client clientOwned listening running).service.cache :=
    ⟨⟨List.nodup_nil, Nat.zero_le _⟩, rfl⟩
  have kept : Kept settings.cacheSize session.service.cache := kept_foldl start events
  have wide : 0 < session.service.cache.capacity := kept.capacity_eq.symm ▸ room
  rcases session.loadPage_refusal_cases query loadMore with ⟨needed, still, same⟩ | ⟨unneeded, sent, same⟩
  · rw [same]
    refine ⟨iff_of_true rfl ⟨needed, still⟩, fun _ => ⟨rfl, ⟨fun unchanged => ?_, ?_⟩,
      fun loadMore => session.valueOptions_marking kept room query loadMore⟩⟩
    · have written := congrArg (fun session : Session => session.service.cache) unchanged
      exact ⟨_, rfl, (Cache.set_eq_self_iff kept.bounded wide).mp written⟩
    · rintro ⟨entry, marked, last⟩
      have written := (Cache.set_eq_self_iff kept.bounded wide).mpr last
      have found := written ▸ Cache.peek?_set_self wide query.key entry
      have same : { session.service.cache.known query.key with loading := true } = entry := by
        rw [Cache.known, found, Option.getD_some, ← marked]
      rw [marking, same, written]
  · rw [same]
    exact ⟨iff_of_false (fun same => by cases same) unneeded, fun same => by cases same⟩

/-- With a page of the books in the cache the event loop is left: asking for the users is refused, and so is
asking for more of the books, which makes them the entry used last. -/
theorem refused_load_marks_books :
    let books : ValueQuery := ⟨"core.book".toList, "name".toList, []⟩
    let users : ValueQuery := ⟨"auth.user".toList, "name".toList, []⟩
    let events : List HostEvent := [.address (some "/values"), .passing (.deliver books.key ⟨[['E']], 1, true⟩),
      .passing (.load users false), .running false]
    let session := events.foldl heed (opened {} [] (.scripted []) false true true)
    0 < ({} : Settings).cacheSize ∧ session.service.cache.keys = [books.key, users.key] ∧
      (session.loadPage books true).1 = .error .noLoop ∧
      (session.loadPage books true).2 = session.marking books.key ∧
      (session.marking books.key).service.cache.keys = [users.key, books.key] ∧
      (session.marking books.key).valueOptions books true = (⟨[['E']], true⟩, session.marking books.key) := by
  intro books users events session
  have room : 0 < ({} : Settings).cacheSize := by decide
  obtain ⟨refused, marks⟩ := refused_load_marks room [] (.scripted []) false true true events books true
  have needed : session.needsPage books true = true ∧ session.loop.running = false := by decide +kernel
  obtain ⟨same, _, stuck⟩ := marks (refused.mpr needed)
  have stays := stuck true
  rw [same] at stays
  have before : session.service.cache.keys = [books.key, users.key] := by decide +kernel
  have after : (session.marking books.key).service.cache.keys = [users.key, books.key] := by decide +kernel
  have items : (session.service.cache.known books.key).items = [['E']] := by decide +kernel
  rw [items] at stays
  exact ⟨room, before, refused.mpr needed, same, after, stays⟩

/-- Without an event loop a load is refused, and yet an entry is left that says it is being loaded. -/
theorem refused_load_leaves_entry :
    let query : ValueQuery := ⟨['m'], ['f'], []⟩
    let session := [HostEvent.address (some "/api/")].foldl heed (opened {} [] (.scripted []) false true false)
    (session.loadPage query false).1 = .error .noLoop ∧ session.service.cache.entries = [] ∧
      (session.loadPage query false).2.service.cache.entries = [(query.key, { loading := true })] := by
  decide +kernel

end Session

end QueryCompletion
