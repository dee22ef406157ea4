import Mathlib.Data.List.Induction
import QueryCompletion.Proofs.Session.Aims

/-!
Pages that are dropped. While a request is under way the entry of its key stays as it was when the
request was sent, unless it is evicted; so a page that was asked for is merged when it comes, unless its
entry was evicted meanwhile and it is not the first page.
-/

namespace QueryCompletion

namespace CacheStep

variable {service : ValueService} {delivered : Option (Text × ValuePage)} {cache : Cache Text ValueEntry}

theorem bounded (step : CacheStep service delivered cache) (bounded : service.cache.Bounded) :
    cache.Bounded := by
  cases step with
  | same => exact bounded
  | used key => exact bounded.touch key
  | loading key => exact (bounded.touch key).set key _
  | cleared key => exact service.bounded_clearLoading key bounded
  | @delivered key page _ =>
    rw [ValueService.applyPage_cache]
    split
    · exact bounded.set key _
    · exact service.bounded_clearLoading key bounded

/-- What is known of a key after an event: the same as before, unless its entry was evicted or a page
was merged into it. -/
theorem content_cases (step : CacheStep service delivered cache) (bounded : service.cache.Bounded)
    (key : Text) :
    (cache.known key).content = (service.cache.known key).content ∨ service.cache.Evicts cache key ∨
      ∃ page, delivered = some (key, page) ∧ page.number - 1 = (service.cache.known key).lastPage ∧
        cache.known key = (service.cache.known key).merge page := by
  have others : ∀ {other entry}, key ≠ other →
      ((service.cache.set other entry).known key).content = (service.cache.known key).content ∨
        service.cache.Evicts (service.cache.set other entry) key := fun differs =>
    (Cache.known_set_of_ne bounded _ differs).imp_left (congrArg ValueEntry.content)
  cases step with
  | same => exact Or.inl rfl
  | used other => exact Or.inl (congrArg ValueEntry.content (Cache.known_touch _ other key))
  | cleared other => exact Or.inl (service.content_clearLoading other key)
  | loading other =>
    rw [Cache.set_touch]
    by_cases same : key = other
    · left
      rw [same]
      rcases Cache.known_set_self bounded other { (service.lookUp other).1 with loading := true } with
        marked | ⟨empty, before⟩
      · rw [marked]
        rfl
      · rw [empty, before]
    · exact (others same).imp_right Or.inl
  | @delivered other page brought =>
    rw [ValueService.applyPage_cache]
    split
    · rename_i follows
      by_cases same : key = other
      · rw [same]
        rcases Cache.known_set_self bounded other ((service.cache.known other).merge page) with
          merged | ⟨empty, before⟩
        · exact Or.inr (Or.inr ⟨page, by rw [brought], follows, merged⟩)
        · exact Or.inl (by rw [empty, before])
      · exact (others same).imp_right Or.inl
    · exact Or.inl (service.content_clearLoading other key)

end CacheStep

namespace Session

variable {session start : Session} {event : ValueEvent} {past : List ValueEvent}

/-- Whether an event brings no page but the one that was asked for. -/
def honest (session : Session) (event : ValueEvent) : Bool :=
  match event with
  | .deliver .. => false
  | _ => (session.answer? event).all fun taken =>
      taken.2.2.page?.all fun page => page.number = taken.2.1.page

/-- Whether a test is passed by each event of a run in the state in which it happens. -/
def always (test : Session → ValueEvent → Bool) : Session → List ValueEvent → Bool
  | _, [] => true
  | session, event :: events => test session event && always test (session.after event) events

theorem always_append (test : Session → ValueEvent → Bool) (session : Session) (first second : List ValueEvent) :
    always test session (first ++ second) =
      (always test session first && always test (first.foldl after session) second) := by
  induction first generalizing session with
  | nil => rfl
  | cons event events ih => rw [List.cons_append, always, always, ih, Bool.and_assoc, List.foldl_cons]

/-- The entry of the key of a request was evicted while the request was under way. -/
def EvictedSince (start : Session) (past : List ValueEvent) (id : TaskId) (asked : PageRequest) : Prop :=
  ∃ earlier event later, past = earlier ++ event :: later ∧
    (earlier.foldl after start).loop.aim? id = some (.fetch asked) ∧
    (earlier.foldl after start).service.cache.Evicts
      ((earlier ++ [event]).foldl after start).service.cache asked.query.key

theorem EvictedSince.append {id : TaskId} {asked : PageRequest} (evicted : EvictedSince start past id asked)
    (more : List ValueEvent) : EvictedSince start (past ++ more) id asked := by
  obtain ⟨earlier, event, later, rfl, asking, evicts⟩ := evicted
  exact ⟨earlier, event, later ++ more, by simp, asking, evicts⟩

theorem number_of_honest (honest : session.honest event = true) {id : TaskId} {asked : PageRequest}
    {answer : Answer} {page : ValuePage} (answered : session.answer? event = some (id, asked, answer))
    (brings : answer.page? = some page) : page.number = asked.page := by
  cases event with
  | turn index =>
    unfold Session.honest at honest
    simpa [answered, brings] using honest
  | _ => cases answered

/-- A page is delivered exactly if an answer brings it. -/
theorem delivery?_eq (honest : session.honest event = true) :
    session.delivery? event = (session.answer? event).bind fun taken =>
      taken.2.2.page?.map fun page => (taken.2.1.query.key, page) := by
  cases event with
  | deliver key page => cases honest
  | turn index =>
    unfold delivery? answer?
    dsimp only
    cases session.loop.ready[index]? with
    | none => rfl
    | some next =>
      cases next with
      | run id =>
        dsimp only
        unfold pageTaken? answerTaken?
        cases (session.taking index).loop.tasks[id]? with
        | none => rfl
        | some task =>
          dsimp only
          split
          · rfl
          · cases task.job with
            | request asked stage =>
              dsimp only
              cases ((session.taking index).fetchTurn id (session.taking index).service.apiUrl (some asked) stage).1 with
              | waits next => rfl
              | answered url answer => cases answer <;> rfl
            | _ => rfl
      | _ => rfl
  | _ => rfl

theorem aim?_cancelPending (session : Session) (id : TaskId) :
    session.cancelPending.loop.aim? id =
      if session.service.pending = some id then none else session.loop.aim? id := by
  show (session.service.pending.elim session.loop session.loop.cancel).aim? id = _
  cases session.service.pending with
  | none => rw [if_neg (show ¬ none = some id from nofun)]; rfl
  | some waiting =>
    rw [Option.elim_some, Loop.aim?_cancel]
    simp only [Option.some.injEq, eq_comm]

theorem fetch_of_cancelPending {id : TaskId} {asked : PageRequest}
    (asking : session.cancelPending.loop.aim? id = some (.fetch asked)) :
    session.loop.aim? id = some (.fetch asked) := by
  rw [aim?_cancelPending] at asking
  split at asking
  · cases asking
  · exact asking

theorem fetch_of_scheduleLoad (running : session.loop.running = true) {id : TaskId} {asked : PageRequest}
    {query : ValueQuery} {loadMore : Bool}
    (asking : (session.scheduleLoad query loadMore).2.loop.aim? id = some (.fetch asked)) :
    session.loop.aim? id = some (.fetch asked) := by
  unfold scheduleLoad at asking
  rw [if_pos running] at asking
  dsimp only at asking
  rw [Loop.aim?_spawn] at asking
  split at asking
  · cases asking
  · exact fetch_of_cancelPending asking

theorem fetch_of_valueOptions (running : session.loop.running = true) {id : TaskId} {asked : PageRequest}
    {query : ValueQuery} {loadMore : Bool}
    (asking : (session.valueOptions query loadMore).2.loop.aim? id = some (.fetch asked)) :
    session.loop.aim? id = some (.fetch asked) := by
  unfold valueOptions at asking
  dsimp only at asking
  split at asking
  · exact @fetch_of_scheduleLoad { session with service := (session.service.lookUp query.key).2 } running _ _ _ _
      asking
  · exact asking

/-- A request that is under way after an event was under way before and is not answered by the event, or
the event sends it for the page behind the last one cached. -/
theorem Effect.fetch_cases {after : Session} {answer : Option (TaskId × PageRequest × Answer)}
    (effect : session.Effect after answer) {id : TaskId} {asked : PageRequest}
    (asking : after.loop.aim? id = some (.fetch asked)) :
    session.loop.aim? id = some (.fetch asked) ∧ (∀ taken, answer ≠ some (id, taken)) ∨
      session.loop.aim? id = none ∧
        asked.page = (session.service.cache.known asked.query.key).lastPage + 1 ∧
        after.service.cache = session.service.cache.set asked.query.key
          { session.service.cache.known asked.query.key with loading := true } := by
  rcases effect with
    ⟨silent, aims, _⟩ | ⟨silent, _, _, aims, _⟩ | ⟨silent, sender, next, aims, cache, _⟩ |
    ⟨answered, _, aims, _⟩
  · rw [aims] at asking
    exact Or.inl ⟨asking, by rw [silent]; nofun⟩
  · rw [aims] at asking
    split at asking
    · cases asking
    · exact Or.inl ⟨asking, by rw [silent]; nofun⟩
  · rw [aims] at asking
    split at asking
    · cases asking
    · split at asking
      · rename_i fresh
        cases asking
        refine Or.inr ⟨?_, ValueEntry.nextPage?_eq_some next, cache⟩
        rw [fresh, Loop.aim?, List.getElem?_eq_none (Nat.le_refl _)]
        rfl
      · exact Or.inl ⟨asking, by rw [silent]; nofun⟩
  · rw [aims] at asking
    split at asking
    · cases asking
    · rename_i differs
      refine Or.inl ⟨asking, fun taken same => ?_⟩
      rw [answered, Option.some.injEq, Prod.mk.injEq] at same
      exact differs same.1.symm

/-- The same for the events by which the host plans a fetch or gives one up: they send nothing. -/
theorem fetch_cases (tracked : Tracked session.loop session.service) (honest : session.honest event = true)
    {id : TaskId} {asked : PageRequest}
    (asking : (session.after event).loop.aim? id = some (.fetch asked)) :
    session.loop.aim? id = some (.fetch asked) ∧ (∀ taken, session.answer? event ≠ some (id, taken)) ∨
      session.loop.aim? id = none ∧
        asked.page = (session.service.cache.known asked.query.key).lastPage + 1 ∧
        (session.after event).service.cache = session.service.cache.set asked.query.key
          { session.service.cache.known asked.query.key with loading := true } := by
  cases event with
  | options query loadMore => exact Or.inl ⟨fetch_of_valueOptions tracked.running asking, by nofun⟩
  | schedule query loadMore => exact Or.inl ⟨fetch_of_scheduleLoad tracked.running asking, by nofun⟩
  | cancelPending => exact Or.inl ⟨fetch_of_cancelPending asking, by nofun⟩
  | deliver key page => cases honest
  | load query loadMore => exact (after_effect tracked rfl).1.fetch_cases asking
  | respond call reply => exact (after_effect tracked rfl).1.fetch_cases asking
  | round time => exact (after_effect tracked rfl).1.fetch_cases asking
  | turn index => exact (after_effect tracked rfl).1.fetch_cases asking

/-- An answer is taken in by the task that fetches the page it answers. -/
theorem asking_of_answer? (tracked : Tracked session.loop session.service) {id : TaskId} {asked : PageRequest}
    {answer : Answer} (answered : session.answer? event = some (id, asked, answer)) :
    session.loop.aim? id = some (.fetch asked) ∧
      (session.after event).service.cache = (session.service.takeIn asked.query.key answer.page?).cache ∧
      (session.after event).journal.updates =
        session.journal.updates ++ session.announced asked.query.key answer.page? := by
  have proceeds : event.proceeds = true := by
    cases event with
    | turn index => rfl
    | _ => cases answered
  rcases (after_effect tracked proceeds).1 with
    ⟨silent, _⟩ | ⟨silent, _⟩ | ⟨silent, _⟩ | ⟨taken, asking, _, cache, updates⟩
  · rw [silent] at answered; cases answered
  · rw [silent] at answered; cases answered
  · rw [silent] at answered; cases answered
  · rw [taken] at answered
    cases answered
    exact ⟨asking, cache, updates⟩

/-- Two requests under way for one key are the same request. -/
theorem fetch_unique (tracked : Tracked session.loop session.service) {id other : TaskId}
    {asked asked' : PageRequest} (first : session.loop.aim? id = some (.fetch asked))
    (second : session.loop.aim? other = some (.fetch asked')) (same : asked'.query.key = asked.query.key) :
    other = id := by
  have recorded := tracked.recorded id asked.query.key (Loop.standing?_eq_fetching_iff.mpr ⟨asked, first, rfl⟩)
  have recorded' := tracked.recorded other asked.query.key
    (Loop.standing?_eq_fetching_iff.mpr ⟨asked', second, same⟩)
  exact Option.some.inj (recorded'.symm.trans recorded)

/-- What holds of the requests under way: each asks for the page behind the last one cached, unless the
entry it was to go on from was evicted. -/
structure Awaited (start : Session) (past : List ValueEvent) : Prop where
  tracked : Tracked (past.foldl after start).loop (past.foldl after start).service
  bounded : (past.foldl after start).service.cache.Bounded
  counted : ∀ key, 0 ≤ ((past.foldl after start).service.cache.known key).lastPage
  follows : ∀ id asked, (past.foldl after start).loop.aim? id = some (.fetch asked) → 1 ≤ asked.page ∧
    (asked.page = ((past.foldl after start).service.cache.known asked.query.key).lastPage + 1 ∨
      ((past.foldl after start).service.cache.known asked.query.key).lastPage = 0 ∧
        EvictedSince start past id asked)

theorem Fresh.awaited (fresh : start.Fresh) : Awaited start [] := by
  have empty : ∀ key, start.service.cache.known key = {} := by
    intro key
    rw [Cache.known, Cache.peek?, fresh.entries]
    rfl
  refine ⟨fresh.tracked, ⟨?_, ?_⟩, fun key => ?_, fun id asked asking => ?_⟩
  · rw [List.foldl_nil, Cache.keys, fresh.entries]
    exact List.nodup_nil
  · rw [List.foldl_nil, Cache.size, fresh.entries]
    exact Nat.zero_le _
  · rw [List.foldl_nil, empty]
    exact Int.le_refl 0
  · rw [List.foldl_nil, Loop.aim?, fresh.tasks] at asking
    cases asking

theorem Awaited.after (awaited : Awaited start past)
    (honest : (past.foldl Session.after start).honest event = true) :
    Awaited start (past ++ [event]) := by
  obtain ⟨tracked, bounded, counted, follows⟩ := awaited
  have last : (past ++ [event]).foldl Session.after start = (past.foldl Session.after start).after event :=
    List.foldl_concat _ _ _ _
  have step := (past.foldl Session.after start).after_cacheStep event
  have delivered := delivery?_eq honest
  refine ⟨?_, ?_, fun key => ?_, fun id asked asking => ?_⟩
  · rw [last]
    exact tracked_after tracked event
  · rw [last]
    exact step.bounded bounded
  · rw [last]
    have before := counted key
    rcases step.content_cases bounded key with same | evicts | ⟨page, _, behind, merged⟩
    · rw [ValueEntry.lastPage_of_content same]
      exact before
    · rw [evicts.known_eq]
      exact Int.le_refl 0
    · rw [merged]
      show 0 ≤ page.number
      omega
  · rw [last] at asking ⊢
    rcases fetch_cases tracked honest asking with ⟨asking', silent⟩ | ⟨_, next, cache⟩
    · obtain ⟨positive, place⟩ := follows id asked asking'
      refine ⟨positive, ?_⟩
      rcases step.content_cases bounded asked.query.key with same | evicts | ⟨page, brought, _⟩
      · rw [ValueEntry.lastPage_of_content same]
        exact place.imp_right fun ⟨first, evicted⟩ => ⟨first, evicted.append [event]⟩
      · refine Or.inr ⟨by rw [evicts.known_eq]; rfl, past, event, [], rfl, asking', ?_⟩
        rw [last]
        exact evicts
      · -- The page that was merged is that of another request for the key, and there is none.
        exfalso
        rw [delivered, Option.bind_eq_some_iff] at brought
        obtain ⟨⟨other, asked', answer⟩, answered, page'⟩ := brought
        obtain ⟨_, _, brought⟩ := Option.map_eq_some_iff.mp page'
        rw [Prod.mk.injEq] at brought
        have same := fetch_unique tracked asking' (asking_of_answer? tracked answered).1 brought.1
        exact silent (asked', answer) (by rw [answered, same])
    · have before := counted asked.query.key
      refine ⟨by omega, Or.inl ?_⟩
      rw [cache, next]
      congr 1
      rcases Cache.known_set_self bounded asked.query.key
        { ((past.foldl Session.after start).service.cache.known asked.query.key) with loading := true } with
        marked | ⟨empty, known⟩
      · rw [marked]
        rfl
      · rw [empty, known]

theorem awaited_foldl (fresh : start.Fresh) (honest : always Session.honest start past = true) :
    Awaited start past := by
  induction past using List.reverseRecOn with
  | nil => exact fresh.awaited
  | append_singleton past event ih =>
    rw [always_append, Bool.and_eq_true, always, Bool.and_eq_true] at honest
    exact (ih honest.1).after honest.2.1

/-- A page that was asked for and is not merged when it comes is not the first of its key, and the entry
it was to go on from was evicted while the request was under way. -/
theorem Awaited.evicted_of_rejected (awaited : Awaited start past) {id : TaskId} {asked : PageRequest}
    (asking : (past.foldl Session.after start).loop.aim? id = some (.fetch asked)) {page : ValuePage}
    (honest : page.number = asked.page)
    (rejected : ((past.foldl Session.after start).service.applyPage asked.query.key page).1 = false) :
    2 ≤ asked.page ∧ EvictedSince start past id asked := by
  obtain ⟨positive, next | ⟨first, evicted⟩⟩ := awaited.follows id asked asking
  · rw [ValueService.applyPage_fst, decide_eq_false_iff_not] at rejected
    exact absurd (show page.number - 1 = _ by omega) rejected
  · rw [ValueService.applyPage_fst, decide_eq_false_iff_not, first] at rejected
    exact ⟨by omega, evicted⟩

/-- In every run in which no answer brings another page than the one asked for: each request is sent for
the page behind the last one cached under its key, and what an answer brings is merged, unless it is not
the first page and the entry of its key was evicted while the request was under way. -/
theorem page_dropped_only_if_evicted {start : Session} (fresh : start.Fresh) {past : List ValueEvent}
    {event : ValueEvent} (honest : always Session.honest start (past ++ [event]) = true) :
    let session := past.foldl after start
    (∀ id asked, session.loop.aim? id = none → (session.after event).loop.aim? id = some (.fetch asked) →
        asked.page = (session.service.lookUp asked.query.key).1.lastPage + 1) ∧
      ∀ id asked answer page, session.answer? event = some (id, asked, answer) → answer.page? = some page →
        (session.after event).service.cache =
            (session.service.applyPage asked.query.key page).2.cache ∧
          ((session.service.applyPage asked.query.key page).1 = false →
            2 ≤ asked.page ∧ EvictedSince start past id asked) := by
  intro session
  rw [always_append, Bool.and_eq_true, always, Bool.and_eq_true] at honest
  have awaited := awaited_foldl fresh honest.1
  constructor
  · intro id asked idle asking
    rcases fetch_cases awaited.tracked honest.2.1 asking with ⟨asking', _⟩ | ⟨_, next, _⟩
    · rw [idle] at asking'
      cases asking'
    · exact next
  · intro id asked answer page answered brings
    obtain ⟨asking, cache, _⟩ := asking_of_answer? awaited.tracked answered
    rw [brings] at cache
    exact ⟨cache, awaited.evicted_of_rejected asking (number_of_honest honest.2.1 answered brings)⟩

/-- With room for one entry, a request for another key evicts the first page, and the second page is
dropped when it comes. -/
theorem page_dropped_only_if_evicted_by_request :
    let page (number : Int) (hasNext : Bool) : Answer :=
      .document (.obj [("items", .arr [.str "Emma"]), ("page", .int number), ("has_next", .bool hasNext)])
    let books : ValueQuery := ⟨"core.book".toList, "name".toList, []⟩
    let users : ValueQuery := ⟨"auth.user".toList, "name".toList, []⟩
    let start : Session := { service := { apiUrl := some "/values", cache := ⟨1, []⟩, fetchDelay := .zero } }
    let past : List ValueEvent := [.load books false, .turn 0, .respond 0 { answer := page 1 true }, .turn 0,
      .turn 0, .load books true, .turn 0, .load users false, .respond 1 { answer := page 2 false }]
    let session := past.foldl after start
    start.Fresh ∧ always Session.honest start (past ++ [.turn 1]) = true ∧
      (session.answer? (.turn 1)).map (fun taken => (taken.1, taken.2.1, taken.2.2.page?)) =
        some (1, ⟨books, 2⟩, some ⟨["Emma".toList], 2, false⟩) ∧
      (session.service.applyPage books.key ⟨["Emma".toList], 2, false⟩).1 = false ∧
      EvictedSince start past 1 ⟨books, 2⟩ := by
  intro page books users start past session
  have fresh : start.Fresh := ⟨rfl, rfl, rfl, rfl, rfl⟩
  have honest : always Session.honest start (past ++ [.turn 1]) = true := by decide +kernel
  have brings : (session.answer? (.turn 1)).map (fun taken => (taken.1, taken.2.1, taken.2.2.page?)) =
      some (1, ⟨books, 2⟩, some ⟨["Emma".toList], 2, false⟩) := by
    decide +kernel
  have rejected : (session.service.applyPage books.key ⟨["Emma".toList], 2, false⟩).1 = false := by
    decide +kernel
  obtain ⟨⟨id, asked, answer⟩, answered, parts⟩ := Option.map_eq_some_iff.mp brings
  simp only [Prod.mk.injEq] at parts
  obtain ⟨rfl, rfl, page'⟩ := parts
  obtain ⟨_, dropped⟩ := page_dropped_only_if_evicted fresh honest
  exact ⟨fresh, honest, brings, rejected, ((dropped 1 ⟨books, 2⟩ _ _ answered page').2 rejected).2⟩

end Session

end QueryCompletion
