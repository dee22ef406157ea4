import QueryCompletion.Proofs.Session.Frame

/-!
Runs of the value service. An event is a call of the host, an answer of the client, the passing of time
or one turn of the event loop; turns that are ready may come in any order. With a run goes its history:
under each key the pages delivered since the key was last absent from the cache.
-/

namespace QueryCompletion

/-- What can happen to the value service of a session. -/
inductive ValueEvent where
  | options (query : ValueQuery) (loadMore : Bool)
  | schedule (query : ValueQuery) (loadMore : Bool)
  | cancelPending
  | load (query : ValueQuery) (loadMore : Bool)
  | deliver (key : Text) (page : ValuePage)
  /-- A hanging call is answered. -/
  | respond (call : Nat) (reply : Reply)
  /-- The clock moves on, and the timers that are due then become ready. -/
  | round (time : Instant)
  /-- One of the ready turns is taken. -/
  | turn (index : Nat)

namespace Session

/-- The session with one of its ready turns taken off. -/
def taking (session : Session) (index : Nat) : Session :=
  session.withLoop { session.loop with ready := session.loop.ready.eraseIdx index }

def after (session : Session) : ValueEvent → Session
  | .options query loadMore => (session.valueOptions query loadMore).2
  | .schedule query loadMore => (session.scheduleLoad query loadMore).2
  | .cancelPending => session.cancelPending
  | .load query loadMore => (session.loadPage query loadMore).2
  | .deliver key page => (session.applyPage key page).2
  | .respond call reply => (session.respond call reply).2
  | .round time => session.withLoop (session.loop.passTo time).startRound
  | .turn index =>
    match session.loop.ready[index]? with
    | some next => (session.taking index).turn next
    | none => session

/-- The page that a turn of a request takes in, with its key. -/
def pageTaken? (session : Session) (id : TaskId) : Option (Text × ValuePage) :=
  match session.loop.tasks[id]? with
  | some task =>
    if task.outcome.isSome || task.cancelled then none
    else
      match task.job with
      | .request asked stage =>
        match (session.fetchTurn id session.service.apiUrl (some asked) stage).1 with
        | .answered _ (.document document) =>
          (ValuePage.ofJson document).toOption.map fun page => (asked.query.key, page)
        | _ => none
      | _ => none
  | none => none

/-- The page that an event delivers, with its key. -/
def delivery? (session : Session) : ValueEvent → Option (Text × ValuePage)
  | .deliver key page => some (key, page)
  | .turn index =>
    match session.loop.ready[index]? with
    | some (.run id) => (session.taking index).pageTaken? id
    | _ => none
  | _ => none

/-- Only a turn can put a schema in place. -/
theorem frame_after (session : Session) {event : ValueEvent} (idle : ∀ index, event ≠ .turn index) :
    Frame session (session.after event) := by
  cases event with
  | options query loadMore => exact session.frame_valueOptions query loadMore
  | schedule query loadMore => exact session.frame_scheduleLoad query loadMore
  | cancelPending => exact ⟨rfl, rfl, rfl, rfl, rfl, rfl, rfl⟩
  | load query loadMore => exact session.frame_loadPage query loadMore
  | deliver key page => exact session.frame_applyPage key page
  | respond call reply => exact (session.onward_respond call reply).toFrame
  | round time => exact session.frame_withLoop _
  | turn index => exact absurd rfl (idle index)

@[simp] theorem setJob_service (session : Session) (id : TaskId) (job : Job) :
    (session.setJob id job).service = session.service := rfl

@[simp] theorem finish_service (session : Session) (id : TaskId) (outcome : Outcome) :
    (session.finish id outcome).service = session.service := rfl

end Session

/-- What an event can do to the cache, given the page that it delivers. -/
inductive CacheStep (service : ValueService) (delivered : Option (Text × ValuePage)) :
    Cache Text ValueEntry → Prop
  | same : CacheStep service delivered service.cache
  | used (key : Text) : CacheStep service delivered (service.cache.touch key)
  | loading (key : Text) : CacheStep service delivered
      ((service.cache.touch key).set key { (service.lookUp key).1 with loading := true })
  | cleared (key : Text) : CacheStep service delivered (service.clearLoading key).cache
  | delivered {key : Text} {page : ValuePage} : delivered = some (key, page) →
      CacheStep service delivered (service.applyPage key page).2.cache

namespace Session

variable {session : Session} {delivered : Option (Text × ValuePage)}

theorem scheduleLoad_cache (session : Session) (query : ValueQuery) (loadMore : Bool) :
    (session.scheduleLoad query loadMore).2.service.cache = session.service.cache := by
  unfold scheduleLoad
  split <;> rfl

theorem loadPage_cacheStep (session : Session) (query : ValueQuery) (loadMore : Bool)
    (delivered : Option (Text × ValuePage)) :
    CacheStep session.service delivered (session.loadPage query loadMore).2.service.cache := by
  unfold loadPage
  dsimp only
  split
  · exact .same
  · split
    · exact .used _
    · split
      · exact .loading _
      · exact .loading _

theorem takePage_cacheStep (session : Session) (asked : PageRequest) (url : Option String) (answer : Answer)
    (taken : ∀ page, answer.page? = some page → delivered = some (asked.query.key, page)) :
    CacheStep session.service delivered (session.takePage asked url answer).service.cache := by
  rcases session.takePage_cases asked url answer with ⟨message, _, failed⟩ | ⟨page, brings, applied⟩
  · rw [failed]
    exact .cleared _
  · rw [applied, applyPage_service]
    exact .delivered (taken page brings)

theorem takeSchema_cache (session : Session) (url : String) (answer : Answer) :
    (session.takeSchema url answer).2.service.cache = session.service.cache := by
  rcases session.takeSchema_cases url answer with same | ⟨message, logged⟩ | ⟨schema, _, placed⟩
  · rw [same]
  · rw [logged]
    rfl
  · rw [placed, announce_service]
    rfl

theorem closeTurn_cache (session : Session) (id : TaskId) (stage : CloseStage) :
    (session.closeTurn id stage).service.cache = session.service.cache := by
  rcases session.closeTurn_cases id stage with ⟨loop, waits⟩ | ⟨engine, ends⟩
  · rw [waits]
    rfl
  · rw [ends]
    rfl

theorem schemaTurn_cache (session : Session) (id : TaskId) (url : String) (stage : FetchStage) :
    (session.jobTurn id (.schema url stage)).service.cache = session.service.cache := by
  have fetched := session.onward_fetchTurn id (some url) none stage
  unfold jobTurn
  dsimp only
  split
  · rename_i next after turned
    rw [turned] at fetched
    rw [setJob_service, fetched.service]
  · rename_i answer after turned
    rw [turned] at fetched
    rw [finish_service, takeSchema_cache, fetched.service]

theorem requestTurn_cacheStep (session : Session) (id : TaskId) (asked : PageRequest) (stage : FetchStage)
    (taken : ∀ url answer page,
      (session.fetchTurn id session.service.apiUrl (some asked) stage).1 = .answered url answer →
      answer.page? = some page → delivered = some (asked.query.key, page)) :
    CacheStep session.service delivered (session.jobTurn id (.request asked stage)).service.cache := by
  have fetched := session.onward_fetchTurn id session.service.apiUrl (some asked) stage
  unfold jobTurn
  dsimp only
  split
  · rename_i next after turned
    rw [turned] at fetched
    rw [setJob_service, fetched.service]
    exact .same
  · rename_i url answer after turned
    rw [turned] at fetched taken
    rw [finish_service, ← fetched.service]
    exact takePage_cacheStep after asked url answer fun page => taken url answer page rfl

theorem taskTurn_cacheStep (session : Session) (id : TaskId) :
    CacheStep session.service (session.pageTaken? id) (session.taskTurn id).service.cache := by
  unfold taskTurn pageTaken?
  cases session.loop.tasks[id]? with
  | none => exact .same
  | some task =>
    dsimp only
    cases ended : task.outcome.isSome with
    | true => exact .same
    | false =>
      cases cancelled : task.cancelled with
      | true => exact .same
      | false =>
        simp only [Bool.or_self, Bool.false_eq_true, ↓reduceIte]
        cases task.job with
        | debounce query loadMore waited =>
          unfold jobTurn
          dsimp only
          split
          · exact .same
          · exact loadPage_cacheStep _ _ _ _
        | request asked stage =>
          refine requestTurn_cacheStep _ _ _ _ fun url answer page answered brings => ?_
          cases answer with
          | refused reason => cases brings
          | failed failure => cases brings
          | document document =>
            rw [Answer.page?] at brings
            simp only [answered, brings, Option.map_some]
        | schema url stage =>
          rw [schemaTurn_cache]
          exact .same
        | idle =>
          unfold jobTurn idleTurn
          dsimp only
          split <;> exact .same
        | close stage =>
          unfold jobTurn
          dsimp only
          rw [closeTurn_cache]
          exact .same

/-- Every event does one of these things to the cache. -/
theorem after_cacheStep (session : Session) (event : ValueEvent) :
    CacheStep session.service (session.delivery? event) (session.after event).service.cache := by
  cases event with
  | options query loadMore =>
    show CacheStep _ _ (session.valueOptions query loadMore).2.service.cache
    unfold valueOptions
    dsimp only
    split
    · rw [scheduleLoad_cache]
      exact .used _
    · exact .used _
  | schedule query loadMore =>
    show CacheStep _ _ (session.scheduleLoad query loadMore).2.service.cache
    rw [scheduleLoad_cache]
    exact .same
  | cancelPending => exact .same
  | load query loadMore => exact loadPage_cacheStep _ _ _ _
  | deliver key page =>
    show CacheStep _ _ (session.applyPage key page).2.service.cache
    rw [applyPage_service]
    exact .delivered rfl
  | respond call reply =>
    show CacheStep _ _ (session.respond call reply).2.service.cache
    rw [(session.onward_respond call reply).service]
    exact .same
  | round time => exact .same
  | turn index =>
    unfold after delivery?
    dsimp only
    cases session.loop.ready[index]? with
    | none => exact .same
    | some next =>
      cases next with
      | run id => exact taskTurn_cacheStep (session.taking index) id
      | elapse id => exact .same
      | count id => exact .same
      | strike id => exact .same

end Session

end QueryCompletion
