import QueryCompletion.Proofs.Session.Deliveries
import QueryCompletion.Proofs.Session.Records

/-!
Loads that the host was told to wait for. Such a load is owed until a page comes: a request for the key is
under way, or a fetch waits that will find something to ask for. If each request gets the page it asked
for, the load ends with a page merged, or with one that is dropped because its entry was evicted.
-/

namespace QueryCompletion

/-- What a fetch is scheduled for is still to be asked for. -/
theorem ValueEntry.nextPage?_of_wantsLoad {entry : ValueEntry} {loadMore : Bool}
    (wanted : entry.wantsLoad loadMore = true) : entry.nextPage? loadMore ≠ none := by
  unfold wantsLoad at wanted
  unfold nextPage?
  rw [Bool.and_eq_true, Bool.or_eq_true] at wanted
  rcases wanted.2 with unknown | more
  · rw [Option.isNone_iff_eq_none] at unknown
    rw [lastPage, unknown]
    split <;> simp
  · rw [if_pos more]
    exact Option.some_ne_none _

namespace Session

variable {session start : Session} {event : ValueEvent} {past later : List ValueEvent} {id : TaskId}
  {asked : PageRequest} {query : ValueQuery} {loadMore : Bool}

/-- Whether an event brings the page that was asked for, if it answers a request. -/
def faithful (session : Session) (event : ValueEvent) : Bool :=
  match event with
  | .deliver .. => false
  | _ => (session.answer? event).all fun taken =>
      taken.2.2.page?.any fun page => page.number = taken.2.1.page

theorem honest_of_faithful (faithful : session.faithful event = true) : session.honest event = true := by
  cases event with
  | deliver key page => exact faithful
  | turn index =>
    unfold Session.faithful at faithful
    unfold honest
    dsimp only at faithful ⊢
    cases answered : session.answer? (.turn index) with
    | none => rfl
    | some taken =>
      rw [answered, Option.all_some] at faithful
      rw [Option.all_some]
      cases brings : taken.2.2.page? with
      | none => rfl
      | some page =>
        rw [brings] at faithful
        exact faithful
  | _ => rfl

theorem page_of_faithful (faithful : session.faithful event = true) {answer : Answer}
    (answered : session.answer? event = some (id, asked, answer)) :
    ∃ page, answer.page? = some page ∧ page.number = asked.page := by
  cases event with
  | turn index =>
    unfold Session.faithful at faithful
    simpa [answered, Option.any_eq_true] using faithful
  | _ => cases answered

theorem always_of_imp {test other : Session → ValueEvent → Bool} {events : List ValueEvent}
    (implies : ∀ session event, test session event = true → other session event = true)
    (passed : always test session events = true) : always other session events = true := by
  induction events generalizing session with
  | nil => rfl
  | cons event events ih =>
    rw [always, Bool.and_eq_true] at passed ⊢
    exact ⟨implies session event passed.1, ih passed.2⟩

/-- No event changes where the service asks or whether the host listens. -/
theorem after_settings (tracked : Tracked session.loop session.service) (event : ValueEvent) :
    (session.after event).service.apiUrl = session.service.apiUrl ∧
      (session.after event).listening = session.listening := by
  by_cases turns : ∃ index, event = .turn index
  · obtain ⟨index, rfl⟩ := turns
    have steady := (after_effect tracked (show ValueEvent.proceeds (.turn index) = true from rfl)).2
    exact ⟨steady.apiUrl, steady.listening⟩
  · have frame := session.frame_after fun index same => turns ⟨index, same⟩
    exact ⟨frame.apiUrl, frame.listening⟩

/-- What holds throughout a run of a service that has an address, for a host that listens. -/
structure Serving (start : Session) (past : List ValueEvent) : Prop extends Awaited start past where
  recorded : Recorded (past.foldl after start).loop (past.foldl after start).service.inFlight
  api : (past.foldl after start).service.hasApi = true
  heard : (past.foldl after start).listening = true

theorem Serving.after (serving : Serving start past)
    (honest : (past.foldl Session.after start).honest event = true) : Serving start (past ++ [event]) := by
  have last : (past ++ [event]).foldl Session.after start = (past.foldl Session.after start).after event :=
    List.foldl_concat _ _ _ _
  obtain ⟨apiUrl, listening⟩ := after_settings serving.tracked event
  refine ⟨serving.toAwaited.after honest, ?_, ?_, ?_⟩
  · rw [last]
    exact recorded_after serving.tracked serving.recorded event
  · rw [last, ValueService.hasApi, apiUrl]
    exact serving.api
  · rw [last, listening]
    exact serving.heard

theorem serving_foldl (fresh : start.Fresh) (unasked : start.service.inFlight = [])
    (api : start.service.hasApi = true) (heard : start.listening = true)
    (honest : always Session.honest start past = true) : Serving start past := by
  induction past using List.reverseRecOn with
  | nil =>
    refine ⟨fresh.awaited, fun record inside => ?_, api, heard⟩
    rw [List.foldl_nil, unasked] at inside
    cases inside
  | append_singleton past event ih =>
    rw [always_append, Bool.and_eq_true, always, Bool.and_eq_true] at honest
    exact (ih honest.1).after honest.2.1

/-- An answer was taken in since the given events whose page was dropped: it was not the first page of its
key, and the entry it was to go on from was evicted while the request was under way. -/
def DroppedSince (start : Session) (past later : List ValueEvent) (key : Text) : Prop :=
  ∃ between event rest id asked answer page, later = between ++ event :: rest ∧
    ((past ++ between).foldl after start).answer? event = some (id, asked, answer) ∧
    asked.query.key = key ∧ answer.page? = some page ∧
    (((past ++ between).foldl after start).service.applyPage key page).1 = false ∧
    2 ≤ asked.page ∧ EvictedSince start (past ++ between) id asked

/-- What the host was told since the given events. -/
def toldSince (start : Session) (past later : List ValueEvent) : List Update :=
  (((past ++ later).foldl after start).journal.since (past.foldl after start).journal).updates

/-- How a load stands that the host was told to wait for. -/
inductive Owed (start : Session) (past later : List ValueEvent) (query : ValueQuery) (loadMore : Bool) : Prop
  | merged (told : .values query.key ∈ toldSince start past later)
  | dropped (lost : DroppedSince start past later query.key)
  | asked {id : TaskId} {asked : PageRequest} (same : asked.query.key = query.key)
      (asking : ((past ++ later).foldl after start).loop.aim? id = some (.fetch asked))
  | waiting {id : TaskId} (pending : ((past ++ later).foldl after start).service.pending = some id)
      (waits : ((past ++ later).foldl after start).loop.aim? id = some (.load query loadMore))
      (needed : (((past ++ later).foldl after start).service.cache.known query.key).nextPage? loadMore ≠ none)

/-- A request that is not answered stays under way. -/
theorem Effect.fetch_stays {after : Session} {answer : Option (TaskId × PageRequest × Answer)}
    (effect : session.Effect after answer) (asking : session.loop.aim? id = some (.fetch asked))
    (silent : ∀ taken, answer ≠ some (id, taken)) : after.loop.aim? id = some (.fetch asked) := by
  rcases effect with
    ⟨_, aims, _⟩ | ⟨_, waits, _, aims, _⟩ | ⟨_, sender, _, aims, _⟩ | ⟨answered, _, aims, _⟩
  · rw [aims]
    exact asking
  · rw [aims, if_neg ?_]
    · exact asking
    · rintro rfl
      rw [waits] at asking
      cases asking
  · rw [aims, if_neg ?_, if_neg (Nat.ne_of_lt (Loop.lt_length_of_aim? asking))]
    · exact asking
    · intro sent
      rw [sender id sent.symm] at asking
      cases asking
  · rw [aims, if_neg ?_]
    · exact asking
    · rintro rfl
      exact silent _ answered

/-- A fetch that waits goes on waiting, or a request for its key is under way after it. -/
theorem Effect.load_goes_on {after : Session} {answer : Option (TaskId × PageRequest × Answer)}
    (effect : session.Effect after answer) (waits : session.loop.aim? id = some (.load query loadMore))
    (api : session.service.hasApi = true)
    (needed : (session.service.cache.known query.key).nextPage? loadMore ≠ none) :
    after.loop.aim? id = some (.load query loadMore) ∨ session.inFlight query.key = true ∨
      ∃ id asked, after.loop.aim? id = some (.fetch asked) ∧ asked.query.key = query.key := by
  rcases effect with
    ⟨_, aims, _⟩ | @⟨other, _, _, _, waits', reason, aims, _⟩ | @⟨sender, asked, _, _, sends, _, aims, _⟩ |
    ⟨_, asking, aims, _⟩
  · exact Or.inl (by rw [aims, waits])
  · by_cases same : id = other
    · rw [← same, waits, Option.some.injEq, Aim.load.injEq] at waits'
      obtain ⟨rfl, rfl⟩ := waits'
      exact Or.inr (Or.inl ((reason api).resolve_right needed))
    · exact Or.inl (by rw [aims, if_neg same, waits])
  · have inside := Loop.lt_length_of_aim? waits
    by_cases same : some id = sender
    · have load := sends id same.symm
      rw [waits, Option.some.injEq, Aim.load.injEq] at load
      refine Or.inr (Or.inr ⟨session.loop.tasks.length, asked, ?_, by rw [load.1]⟩)
      rw [aims, if_neg ?_, if_pos rfl]
      rw [← same, Option.some.injEq]
      exact Nat.ne_of_gt inside
    · exact Or.inl (by rw [aims, if_neg same, if_neg (Nat.ne_of_lt inside), waits])
  · refine Or.inl ?_
    rw [aims, if_neg ?_, waits]
    rintro rfl
    rw [waits] at asking
    cases asking

theorem Effect.updates {after : Session} {answer : Option (TaskId × PageRequest × Answer)}
    (effect : session.Effect after answer) :
    ∃ more, after.journal.updates = session.journal.updates ++ more := by
  rcases effect with ⟨_, _, same⟩ | ⟨_, _, _, _, same⟩ | ⟨_, _, _, _, _, same⟩ | ⟨_, _, _, _, told⟩
  · exact ⟨[], by rw [same, List.append_nil]⟩
  · exact ⟨[], by rw [same, List.append_nil]⟩
  · exact ⟨[], by rw [same, List.append_nil]⟩
  · exact ⟨_, told⟩

/-- An entry that lacks a page goes on lacking one until an answer for its key comes. -/
theorem needed_after (bounded : session.service.cache.Bounded) (honest : session.honest event = true)
    {key : Text} (silent : ∀ id asked answer, session.answer? event = some (id, asked, answer) →
      asked.query.key ≠ key)
    (needed : (session.service.cache.known key).nextPage? loadMore ≠ none) :
    ((session.after event).service.cache.known key).nextPage? loadMore ≠ none := by
  rcases (session.after_cacheStep event).content_cases bounded key with same | evicts | ⟨page, brought, _⟩
  · rw [ValueEntry.nextPage?_of_content same]
    exact needed
  · rw [evicts.known_eq]
    cases loadMore <;> nofun
  · exfalso
    rw [delivery?_eq honest, Option.bind_eq_some_iff] at brought
    obtain ⟨⟨id, asked, answer⟩, answered, brings⟩ := brought
    obtain ⟨_, _, parts⟩ := Option.map_eq_some_iff.mp brings
    rw [Prod.mk.injEq] at parts
    exact silent id asked answer answered parts.1

/-- An answer is announced, or its page is dropped for the one reason that there is. -/
theorem Serving.announced_or_evicted (serving : Serving start past)
    (faithful : (past.foldl Session.after start).faithful event = true) {answer : Answer}
    (answered : (past.foldl Session.after start).answer? event = some (id, asked, answer)) :
    ((past.foldl Session.after start).after event).journal.updates =
        (past.foldl Session.after start).journal.updates ++ [.values asked.query.key] ∨
      ∃ page, answer.page? = some page ∧
        ((past.foldl Session.after start).service.applyPage asked.query.key page).1 = false ∧
        2 ≤ asked.page ∧ EvictedSince start past id asked := by
  obtain ⟨page, brings, number⟩ := page_of_faithful faithful answered
  obtain ⟨asking, _, updates⟩ := asking_of_answer? serving.tracked answered
  cases merged : ((past.foldl Session.after start).service.applyPage asked.query.key page).1 with
  | false => exact Or.inr ⟨page, brings, merged, serving.toAwaited.evicted_of_rejected asking number merged⟩
  | true =>
    left
    rw [updates, brings, announced, merged, serving.heard]
    rfl

theorem DroppedSince.append {key : Text} (lost : DroppedSince start past later key)
    (more : List ValueEvent) : DroppedSince start past (later ++ more) key := by
  obtain ⟨between, event, rest, id, asked, answer, page, rfl, parts⟩ := lost
  exact ⟨between, event, rest ++ more, id, asked, answer, page, by simp, parts⟩

/-- What one event between two calls of the host does to a load that is owed. -/
theorem Owed.after (owed : Owed start past later query loadMore) (serving : Serving start (past ++ later))
    (grown : (past.foldl Session.after start).journal.updates.length ≤
      ((past ++ later).foldl Session.after start).journal.updates.length)
    (faithful : ((past ++ later).foldl Session.after start).faithful event = true)
    (proceeds : event.proceeds = true) : Owed start past (later ++ [event]) query loadMore := by
  have last : (past ++ (later ++ [event])).foldl Session.after start =
      ((past ++ later).foldl Session.after start).after event := by
    rw [← List.append_assoc, List.foldl_concat]
  obtain ⟨effect, steady⟩ := after_effect serving.tracked proceeds
  by_cases settled : ∃ id asked answer,
      ((past ++ later).foldl Session.after start).answer? event = some (id, asked, answer) ∧
        asked.query.key = query.key
  · -- The answer that the key was waiting for.
    obtain ⟨id, asked, answer, answered, same⟩ := settled
    rcases serving.announced_or_evicted faithful answered with told | ⟨page, brings, rejected, evicted⟩
    · refine .merged ?_
      rw [toldSince, Journal.since, last, told, List.drop_append_of_le_length grown, same]
      exact List.mem_append_right _ (List.mem_singleton_self _)
    · rw [same] at rejected
      exact .dropped ⟨later, event, [], id, asked, answer, page, rfl, answered, same, brings, rejected, evicted⟩
  · -- All else leaves the load as it stands, or lets it come one stage further.
    have silent : ∀ id asked answer,
        ((past ++ later).foldl Session.after start).answer? event = some (id, asked, answer) →
          asked.query.key ≠ query.key :=
      fun id asked answer answered same => settled ⟨id, asked, answer, answered, same⟩
    have stays : ∀ {id asked}, asked.query.key = query.key →
        ((past ++ later).foldl Session.after start).loop.aim? id = some (.fetch asked) →
        Owed start past (later ++ [event]) query loadMore := by
      intro id asked same asking
      refine @Owed.asked _ _ _ _ _ id asked same ?_
      rw [last]
      refine effect.fetch_stays asking fun taken answered => ?_
      obtain ⟨asking', _⟩ := asking_of_answer? serving.tracked answered
      rw [asking, Option.some.injEq, Aim.fetch.injEq] at asking'
      exact silent id taken.1 taken.2 answered (asking' ▸ same)
    cases owed with
    | merged told =>
      obtain ⟨more, updates⟩ := effect.updates
      refine .merged ?_
      rw [toldSince, Journal.since, last, updates, List.drop_append_of_le_length grown]
      exact List.mem_append_left _ told
    | dropped lost => exact .dropped (lost.append [event])
    | asked same asking => exact stays same asking
    | @waiting id pending waits needed =>
      rcases effect.load_goes_on waits serving.api needed with goes | flying | ⟨id, asked, asking, same⟩
      · refine @Owed.waiting _ _ _ _ _ id ?_ ?_ ?_
        · rw [last, steady.pending, pending]
        · rw [last, goes]
        · rw [last]
          exact needed_after serving.bounded (honest_of_faithful faithful) silent needed
      · obtain ⟨id, asked, asking, same⟩ := fetching_of_inFlight serving.tracked serving.recorded flying
        exact stays same asking
      · exact @Owed.asked _ _ _ _ _ id asked same (last ▸ asking)

theorem owed_foldl (fresh : start.Fresh) (unasked : start.service.inFlight = [])
    (api : start.service.hasApi = true) (heard : start.listening = true)
    (owed : Owed start past [] query loadMore)
    (faithful : always Session.faithful start (past ++ later) = true)
    (undisturbed : ∀ event ∈ later, event.proceeds = true) :
    (past.foldl after start).journal.updates.length ≤
        ((past ++ later).foldl after start).journal.updates.length ∧
      Owed start past later query loadMore := by
  induction later using List.reverseRecOn with
  | nil =>
    rw [List.append_nil]
    exact ⟨Nat.le_refl _, owed⟩
  | append_singleton later event ih =>
    rw [← List.append_assoc, always_append, Bool.and_eq_true, always, Bool.and_eq_true] at faithful
    have proceeds := undisturbed event (List.mem_append_right _ (List.mem_singleton_self _))
    have serving := serving_foldl fresh unasked api heard
      (always_of_imp (fun _ _ => honest_of_faithful) faithful.1)
    obtain ⟨grown, owed'⟩ := ih faithful.1 fun event inside => undisturbed event (List.mem_append_left _ inside)
    refine ⟨Nat.le_trans grown ?_, owed'.after serving grown faithful.2.1 proceeds⟩
    obtain ⟨more, updates⟩ := (after_effect serving.tracked proceeds).1.updates
    rw [← List.append_assoc, List.foldl_concat, updates, List.length_append]
    exact Nat.le_add_right _ _

/-- What stands behind an answer that says the key is being loaded. -/
theorem owed_of_loading (tracked : Tracked session.loop session.service)
    (promised : (session.valueOptions query loadMore).1.loading = true) :
    (∃ id asked, asked.query.key = query.key ∧
        (session.valueOptions query loadMore).2.loop.aim? id = some (.fetch asked)) ∨
      ∃ id, (session.valueOptions query loadMore).2.service.pending = some id ∧
        (session.valueOptions query loadMore).2.loop.aim? id = some (.load query loadMore) ∧
        ((session.valueOptions query loadMore).2.service.cache.known query.key).nextPage? loadMore ≠ none := by
  unfold valueOptions at promised ⊢
  dsimp only at promised ⊢
  split at promised
  · rename_i wanted
    rw [if_pos wanted]
    right
    unfold scheduleLoad
    rw [if_pos tracked.running]
    refine ⟨_, rfl, ?_, ?_⟩
    · rw [Loop.aim?_spawn]
      exact if_pos rfl
    · show ((session.service.cache.touch query.key).known query.key).nextPage? loadMore ≠ none
      rw [Cache.known_touch]
      exact ValueEntry.nextPage?_of_wantsLoad wanted
  · rename_i unwanted
    rw [if_neg unwanted]
    left
    have marked : (session.service.cache.known query.key).loading = true := promised
    unfold Cache.known at marked
    cases found : session.service.cache.peek? query.key with
    | none =>
      rw [found] at marked
      cases marked
    | some entry =>
      rw [found] at marked
      obtain ⟨id, fetching⟩ := tracked.loading _ (Cache.mem_of_peek? found) marked
      obtain ⟨asked, asking, same⟩ := Loop.standing?_eq_fetching_iff.mp fetching
      exact ⟨id, asked, same, asking⟩

/-- Nothing is owed any more once nothing waits or is in flight. -/
theorem Owed.settled (owed : Owed start past later query loadMore)
    (tracked : Tracked ((past ++ later).foldl Session.after start).loop
      ((past ++ later).foldl Session.after start).service)
    (idle : ((past ++ later).foldl Session.after start).valuesLoading = false) :
    .values query.key ∈ toldSince start past later ∨ DroppedSince start past later query.key := by
  have none : ((past ++ later).foldl Session.after start).unfinishedFetches = [] := by
    simpa [valuesLoading] using idle
  rw [unfinishedFetches, List.append_eq_nil_iff, List.filter_eq_nil_iff, List.filter_eq_nil_iff] at none
  cases owed with
  | merged told => exact Or.inl told
  | dropped lost => exact Or.inr lost
  | @asked id asked same asking =>
    have recorded := tracked.recorded id _ (Loop.standing?_eq_fetching_iff.mpr ⟨asked, asking, same⟩)
    exact absurd (Loop.isLive_of_aim? asking)
      (none.1 id (List.mem_map.mpr ⟨(query.key, id), mem_of_lookup recorded, rfl⟩))
  | @waiting id pending waits _ =>
    exact absurd (Loop.isLive_of_aim? waits) (none.2 id (by rw [pending]; simp))

/-- If every request gets the page it asked for, an answer that says that a key is being loaded is made
good: when next nothing waits or is in flight, the host was told of a page for the key, unless a page that
was not the first one came for an entry that had been evicted while it was asked for. -/
theorem load_arrives_unless_evicted {start : Session} (fresh : start.Fresh)
    (unasked : start.service.inFlight = []) (api : start.service.hasApi = true)
    (heard : start.listening = true) {past later : List ValueEvent} {query : ValueQuery} {loadMore : Bool}
    (faithful : always Session.faithful start (past ++ [.options query loadMore] ++ later) = true)
    (promised : ((past.foldl after start).valueOptions query loadMore).1.loading = true)
    (undisturbed : ∀ event ∈ later, event.proceeds = true)
    (idle : ((past ++ [ValueEvent.options query loadMore] ++ later).foldl after start).valuesLoading = false) :
    .values query.key ∈ toldSince start (past ++ [.options query loadMore]) later ∨
      DroppedSince start (past ++ [.options query loadMore]) later query.key := by
  have honest := always_of_imp (fun _ _ => honest_of_faithful) faithful
  have tracked := (awaited_foldl fresh honest).tracked
  have owed : Owed start (past ++ [.options query loadMore]) [] query loadMore := by
    have called : (past ++ [ValueEvent.options query loadMore] ++ []).foldl after start =
        ((past.foldl after start).valueOptions query loadMore).2 := by
      rw [List.append_nil, List.foldl_concat]
      rfl
    rw [List.append_assoc, always_append, Bool.and_eq_true] at honest
    rcases owed_of_loading (awaited_foldl fresh honest.1).tracked promised with
      ⟨id, asked, same, asking⟩ | ⟨id, pending, waits, needed⟩
    · exact .asked same (called ▸ asking)
    · exact .waiting (called ▸ pending) (called ▸ waits) (called ▸ needed)
  exact (owed_foldl fresh unasked api heard owed faithful undisturbed).2.settled tracked idle

/-- With room for one entry, the second page of the books is under way when the users take the place of
the first one. The call that asks for the books again finds the request under way, and its page is
dropped. -/
theorem load_arrives_unless_evicted_under_way :
    let page (number : Int) (hasNext : Bool) : Reply :=
      ⟨.document (.obj [("items", .arr [.str "Emma"]), ("page", .int number), ("has_next", .bool hasNext)]), .zero⟩
    let books : ValueQuery := ⟨"core.book".toList, "name".toList, []⟩
    let users : ValueQuery := ⟨"auth.user".toList, "name".toList, []⟩
    let start : Session := { service := { apiUrl := some "/values", cache := ⟨1, []⟩, fetchDelay := .zero } }
    let past : List ValueEvent := [.options books false, .turn 0, .turn 0, .respond 0 (page 1 true), .turn 0,
      .turn 0, .options books true, .turn 0, .turn 0, .options users false, .turn 0, .turn 0]
    let later : List ValueEvent := [.turn 0, .respond 1 (page 2 false), .turn 0, .turn 0,
      .respond 2 (page 1 false), .turn 0, .turn 0]
    ((past.foldl after start).valueOptions books false).1.loading = true ∧
      ((past ++ [ValueEvent.options books false] ++ later).foldl after start).valuesLoading = false ∧
      DroppedSince start (past ++ [.options books false]) later books.key := by
  intro page books users start past later
  have promised : ((past.foldl after start).valueOptions books false).1.loading = true := by decide +kernel
  have idle : ((past ++ [ValueEvent.options books false] ++ later).foldl after start).valuesLoading = false := by
    decide +kernel
  have untold : .values books.key ∉ toldSince start (past ++ [.options books false]) later := by
    decide +kernel
  refine ⟨promised, idle, (load_arrives_unless_evicted ⟨rfl, rfl, rfl, rfl, rfl⟩ rfl rfl rfl ?_ promised ?_
    idle).resolve_left untold⟩
  · decide +kernel
  · decide +kernel

/-- A load can be lost: the second page of the books was asked for by the last call, and the answer for the
users, which was on its way all the time, takes the place of their first page before it comes. -/
theorem load_lost_to_eviction :
    let page (number : Int) (hasNext : Bool) : Reply :=
      ⟨.document (.obj [("items", .arr [.str "Emma"]), ("page", .int number), ("has_next", .bool hasNext)]), .zero⟩
    let books : ValueQuery := ⟨"core.book".toList, "name".toList, []⟩
    let users : ValueQuery := ⟨"auth.user".toList, "name".toList, []⟩
    let start : Session := { service := { apiUrl := some "/values", cache := ⟨1, []⟩, fetchDelay := .zero } }
    let past : List ValueEvent := [.options users false, .turn 0, .turn 0, .options books false, .turn 0,
      .turn 0, .respond 1 (page 1 true), .turn 0, .turn 0]
    let later : List ValueEvent := [.turn 0, .turn 0, .respond 0 (page 1 false), .turn 0, .turn 0,
      .respond 2 (page 2 false), .turn 0, .turn 0]
    start.Fresh ∧ start.service.inFlight = [] ∧ start.service.hasApi = true ∧ start.listening = true ∧
      always Session.faithful start (past ++ [.options books true] ++ later) = true ∧
      ((past.foldl after start).valueOptions books true).1.loading = true ∧
      (∀ event ∈ later, event.proceeds = true) ∧
      ((past ++ [ValueEvent.options books true] ++ later).foldl after start).valuesLoading = false ∧
      .values books.key ∉ toldSince start (past ++ [.options books true]) later := by
  intro page books users start past later
  refine ⟨⟨rfl, rfl, rfl, rfl, rfl⟩, rfl, rfl, rfl, ?_, ?_, ?_, ?_, ?_⟩ <;> decide +kernel

end Session

end QueryCompletion
