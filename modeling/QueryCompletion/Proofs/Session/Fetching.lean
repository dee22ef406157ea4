import QueryCompletion.Proofs.Session.Aims
import QueryCompletion.Proofs.Session.Attended
import QueryCompletion.Proofs.Values.Gathered

/-!
The fetch of the page behind those that are held, from the call of the host until the page is merged. A turn
that is taken brings it closer to its end.
-/

namespace QueryCompletion

namespace Session

variable {session other : Session} {query : ValueQuery}

/-- The client serves the pages of a list, from the one with the given number on: asked for them in order it
answers each request with the page, which says whether there are more. -/
def Serves (query : ValueQuery) : List (List Text) → Int → Session → Prop
  | [], _, _ => True
  | items :: more, number, session =>
    (∃ reply, (session.call session.service.apiUrl (some ⟨query, number⟩)).1 = some reply ∧
      reply.answer.page? = some ⟨items, number, !more.isEmpty⟩) ∧
    Serves query more (number + 1) (session.call session.service.apiUrl (some ⟨query, number⟩)).2

theorem call_calls (session : Session) (url : Option String) (asked : Option PageRequest) :
    (session.call url asked).2.journal.calls = session.journal.calls ++ [⟨url, asked⟩] := by
  unfold call
  dsimp only
  split <;> rfl

/-- What a call brings depends on the client and the calls made so far. -/
theorem call_congr (client : other.client = session.client) (calls : other.journal.calls = session.journal.calls)
    (url : Option String) (asked : Option PageRequest) :
    (other.call url asked).1 = (session.call url asked).1 ∧
      (other.call url asked).2.client = (session.call url asked).2.client := by
  unfold call
  dsimp only
  rw [client, calls]
  split <;> exact ⟨rfl, rfl⟩

theorem Serves.congr {pages : List (List Text)} {number : Int} (serves : Serves query pages number session)
    (client : other.client = session.client) (calls : other.journal.calls = session.journal.calls)
    (apiUrl : other.service.apiUrl = session.service.apiUrl) : Serves query pages number other := by
  induction pages generalizing session other number with
  | nil => trivial
  | cons items more ih =>
    obtain ⟨answered, later⟩ := serves
    obtain ⟨reply, after⟩ := call_congr client calls session.service.apiUrl (some ⟨query, number⟩)
    rw [Serves, apiUrl, reply]
    refine ⟨answered, ih later after ?_ ?_⟩
    · rw [call_calls, call_calls, calls]
    · rw [(onward_call other _ _).service, (onward_call session _ _).service, apiUrl]

/-- The requests for the first pages, in order. -/
def requests (query : ValueQuery) (url : Option String) (count : Nat) : List Call :=
  (List.range count).map fun number : Nat => ⟨url, some ⟨query, number + 1⟩⟩

theorem requests_succ (query : ValueQuery) (url : Option String) (count : Nat) :
    requests query url (count + 1) = requests query url count ++ [⟨url, some ⟨query, count + 1⟩⟩] := by
  rw [requests, List.range_succ, List.map_append]
  rfl

/-- So many pages were asked for since the earlier calls, and the others are still served. -/
structure Asked (query : ValueQuery) (earlier : List Call) (url : Option String) (count : Nat)
    (more : List (List Text)) (session : Session) : Prop where
  api : session.service.hasApi = true
  apiUrl : session.service.apiUrl = url
  calls : session.journal.calls = earlier ++ requests query url count
  serves : Serves query more (count + 1) session

variable {earlier : List Call} {url : Option String} {count : Nat} {items : List Text} {more : List (List Text)}

theorem Asked.congr (asked : Asked query earlier url count more session) (client : other.client = session.client)
    (calls : other.journal.calls = session.journal.calls)
    (apiUrl : other.service.apiUrl = session.service.apiUrl) : Asked query earlier url count more other := by
  refine ⟨?_, apiUrl.trans asked.apiUrl, calls.trans asked.calls, asked.serves.congr client calls apiUrl⟩
  rw [ValueService.hasApi, apiUrl]
  exact asked.api

/-- The next page is asked for. -/
theorem Asked.call (asked : Asked query earlier url count (items :: more) session) :
    (∃ reply, (session.call session.service.apiUrl (some ⟨query, count + 1⟩)).1 = some reply ∧
      reply.answer.page? = some ⟨items, count + 1, !more.isEmpty⟩) ∧
    Asked query earlier url (count + 1) more
      (session.call session.service.apiUrl (some ⟨query, count + 1⟩)).2 := by
  have same := (session.onward_call session.service.apiUrl (some ⟨query, count + 1⟩)).service
  refine ⟨asked.serves.1, ?_, ?_, ?_, asked.serves.2⟩
  · rw [same]
    exact asked.api
  · rw [same]
    exact asked.apiUrl
  · rw [call_calls, asked.calls, asked.apiUrl, requests_succ, List.append_assoc]

end Session

/-- How many turns a task is from its next turn. -/
def Readiness.weight : Readiness → Nat
  | .ready => 0
  | .rung => 1
  | .timed _ => 2

theorem Readiness.weight_le (readiness : Readiness) : readiness.weight ≤ 2 := by
  cases readiness <;> simp [weight]

/-- What the task does that works on the fetch of a page. -/
inductive Stage where
  /-- It waits for typing to pause, or is about to. -/
  | pausing (waited : Bool)
  | unsent
  | settled (sentTo : Option String) (answer : Answer)

namespace Stage

def job (query : ValueQuery) (page : Int) : Stage → Job
  | pausing waited => .debounce query true waited
  | unsent => .request ⟨query, page⟩ .unsent
  | settled sentTo answer => .request ⟨query, page⟩ (.settled sentTo answer)

def watchers : Stage → List Watcher
  | pausing _ => []
  | unsent | settled .. => [.strike]

/-- How far the stage is from the end. -/
def weight : Stage → Nat
  | pausing false => 10
  | pausing true => 7
  | unsent => 4
  | settled .. => 1

theorem weight_pos (stage : Stage) : 0 < stage.weight := by
  rcases stage with (_ | _) | _ | _ <;> simp [weight]

theorem weight_le (stage : Stage) : stage.weight ≤ 10 := by
  rcases stage with (_ | _) | _ | _ <;> simp [weight]

end Stage

/-- How far the fetch of a page has come; after its end it may still have to be struck off the table. -/
inductive Load where
  | loading (id : TaskId) (stage : Stage) (readiness : Readiness)
  | finished (struck : Option TaskId)

namespace Load

def loader? (query : ValueQuery) (page : Int) : Load → Option Loader
  | loading id stage readiness => some ⟨id, stage.job query page, readiness, stage.watchers⟩
  | finished _ => none

def turns : Load → List Turn
  | loading id _ readiness => readiness.turns id
  | finished struck => struck.toList.map .strike

def weight : Load → Nat
  | loading _ stage readiness => 4 * (stage.weight + readiness.weight)
  | finished struck => struck.toList.length

end Load

def Vigil.weight : Vigil → Nat
  | .counting => 2
  | .ready => 1
  | .watching | .ended => 0

theorem Vigil.weight_released (vigil : Vigil) : vigil.released.weight ≤ vigil.weight + 2 := by
  cases vigil <;> simp [Vigil.released, Vigil.weight]

/-- How far a round is from its end. A turn that is taken brings it closer, whatever other turns it brings
about. -/
def roundWeight (vigil : Vigil) (load : Load) : Nat := load.weight + vigil.weight

theorem roundWeight_rung_lt (vigil : Vigil) (id : TaskId) (stage : Stage) (due : Instant) :
    roundWeight vigil (.loading id stage .rung) < roundWeight vigil (.loading id stage (.timed due)) := by
  show 4 * (stage.weight + 1) + vigil.weight < 4 * (stage.weight + 2) + vigil.weight
  omega

theorem roundWeight_le (vigil : Vigil) (load : Load) : roundWeight vigil load ≤ 50 := by
  have waiting : vigil.weight ≤ 2 := by cases vigil <;> simp [Vigil.weight]
  have working : load.weight ≤ 48 := by
    cases load with
    | finished struck => cases struck <;> simp [Load.weight]
    | loading id stage readiness =>
      have sleeping := readiness.weight_le
      have distant := stage.weight_le
      show 4 * (stage.weight + readiness.weight) ≤ 48
      omega
  exact Nat.add_le_add working waiting

namespace Session

variable {session other : Session} {query : ValueQuery} {earlier : List Call} {url : Option String}
  {held rest : List (List Text)}

/-- The fetch that was last put off has ended. -/
def Unpending (session : Session) : Prop :=
  ∀ id, session.service.pending = some id → ∃ outcome, session.loop.outcome? id = some outcome

/-- How the service stands while pages are held and the rest is still to come: the first page of the rest is the
one that is being fetched. -/
inductive Fetching (query : ValueQuery) (earlier : List Call) (url : Option String) (held : List (List Text)) :
    List (List Text) → Load → Session → Prop
  | pausing {items : List Text} {more : List (List Text)} {id : TaskId} {waited : Bool} {readiness : Readiness}
      {session : Session} :
      session.service.pending = some id → session.service.inFlight = [] →
      session.service.cache.Holds query.key (.gathered held true) →
      Asked query earlier url held.length (items :: more) session →
      Fetching query earlier url held (items :: more) (.loading id (.pausing waited) readiness) session
  | unsent {items : List Text} {more : List (List Text)} {id : TaskId} {readiness : Readiness}
      {session : Session} :
      session.Unpending → session.service.inFlight = [(query.key, id)] →
      session.service.cache.Holds query.key { ValueEntry.gathered held true with loading := true } →
      Asked query earlier url held.length (items :: more) session →
      Fetching query earlier url held (items :: more) (.loading id .unsent readiness) session
  | settled {items : List Text} {more : List (List Text)} {id : TaskId} {sentTo : Option String} {answer : Answer}
      {readiness : Readiness} {session : Session} :
      session.Unpending → session.service.inFlight = [(query.key, id)] →
      session.service.cache.Holds query.key { ValueEntry.gathered held true with loading := true } →
      answer.page? = some ⟨items, held.length + 1, !more.isEmpty⟩ →
      Asked query earlier url (held.length + 1) more session →
      Fetching query earlier url held (items :: more) (.loading id (.settled sentTo answer) readiness) session
  | finished {rest : List (List Text)} {struck : Option TaskId} {session : Session} :
      session.Unpending → session.service.inFlight = struck.toList.map (fun id => (query.key, id)) →
      (∀ id, struck = some id → ∃ outcome, session.loop.outcome? id = some outcome) →
      session.service.cache.Holds query.key (.gathered (held ++ rest.take 1) !(rest.drop 1).isEmpty) →
      Asked query earlier url (held ++ rest.take 1).length (rest.drop 1) session →
      Fetching query earlier url held rest (.finished struck) session

theorem Unpending.keep (unpending : session.Unpending) (pending : other.service.pending = session.service.pending)
    (remembers : session.loop.Remembers other.loop) : other.Unpending := by
  intro id waits
  obtain ⟨outcome, ended⟩ := unpending id (pending.symm.trans waits)
  exact ⟨outcome, remembers id outcome ended⟩

/-- The loop goes on and the fetch stands as before. -/
theorem Fetching.withLoop {load : Load} {loop : Loop Job} (fetching : Fetching query earlier url held rest load session)
    (remembers : session.loop.Remembers loop) :
    Fetching query earlier url held rest load (session.withLoop loop) := by
  cases fetching with
  | pausing pending none holds asked => exact .pausing pending none holds (asked.congr rfl rfl rfl)
  | unsent unpending flying holds asked =>
    exact .unsent (unpending.keep rfl remembers) flying holds (asked.congr rfl rfl rfl)
  | settled unpending flying holds brings asked =>
    exact .settled (unpending.keep rfl remembers) flying holds brings (asked.congr rfl rfl rfl)
  | finished unpending flying struck holds asked =>
    refine .finished (unpending.keep rfl remembers) flying (fun id same => ?_) holds (asked.congr rfl rfl rfl)
    obtain ⟨outcome, ended⟩ := struck id same
    exact ⟨outcome, remembers id outcome ended⟩

theorem Fetching.moved {id : TaskId} {stage : Stage} {readiness : Readiness}
    (fetching : Fetching query earlier url held rest (.loading id stage readiness) session) (other : Readiness) :
    Fetching query earlier url held rest (.loading id stage other) session := by
  cases fetching with
  | pausing pending none holds asked => exact .pausing pending none holds asked
  | unsent unpending flying holds asked => exact .unsent unpending flying holds asked
  | settled unpending flying holds brings asked => exact .settled unpending flying holds brings asked

/-- A round is under way: one task waits for the end of the fetches, and at most one fetches a page. -/
structure Underway (query : ValueQuery) (earlier : List Call) (url : Option String) (held rest : List (List Text))
    (waiter : TaskId) (vigil : Vigil) (load : Load) (session : Session) : Prop where
  attended : Attended session.loop waiter vigil (load.loader? query (held.length + 1))
    (load.turns ++ vigil.turns waiter)
  fetching : Fetching query earlier url held rest load session

/-- The unfinished fetches are the one that is being worked on. -/
theorem unfinishedFetches_eq {load : Load} {waiter : TaskId} {vigil : Vigil} {turns : List Turn}
    (attended : Attended session.loop waiter vigil (load.loader? query (held.length + 1)) turns)
    (fetching : Fetching query earlier url held rest load session) :
    session.unfinishedFetches = (load.loader? query (held.length + 1)).toList.map Loader.id := by
  have pending (unpending : session.Unpending) : session.service.pending.toList.filter session.loop.isLive = [] := by
    cases waits : session.service.pending with
    | none => rfl
    | some id =>
      obtain ⟨outcome, ended⟩ := unpending id waits
      simp [Loop.isLive_of_outcome? ended]
  have live : ∀ id stage readiness, load = .loading id stage readiness → session.loop.isLive id = true := by
    rintro id stage readiness rfl
    exact Loop.isLive_of_live? (attended.working _ rfl).2
  cases fetching with
  | pausing waits none holds asked =>
    simp [unfinishedFetches, waits, none, Load.loader?, live _ _ _ rfl]
  | unsent unpending flying holds asked =>
    simp [unfinishedFetches, pending unpending, flying, Load.loader?, live _ _ _ rfl]
  | settled unpending flying holds brings asked =>
    simp [unfinishedFetches, pending unpending, flying, Load.loader?, live _ _ _ rfl]
  | @finished _ struck _ unpending flying ended holds asked =>
    rw [unfinishedFetches, pending unpending, flying]
    cases struck with
    | none => rfl
    | some id =>
      obtain ⟨outcome, ended⟩ := ended id rfl
      simp [Loop.isLive_of_outcome? ended, Load.loader?]

/-- The request for the page behind those held is sent. -/
theorem loadPage_eq (running : session.loop.running = true) (none : session.service.inFlight = [])
    (api : session.service.hasApi = true)
    (holds : session.service.cache.Holds query.key (.gathered held true)) :
    (session.loadPage query true).2 =
      { session with
        loop := (session.loop.spawn (.request ⟨query, held.length + 1⟩ .unsent) [.strike]).2
        service := { session.service with
          cache := (session.service.cache.touch query.key).set query.key
            { ValueEntry.gathered held true with loading := true }
          inFlight := [(query.key, session.loop.tasks.length)] } } := by
  have unasked : session.inFlight query.key = false := by simp [inFlight, none]
  have known : (session.service.lookUp query.key).1 = .gathered held true := holds.known
  unfold loadPage
  dsimp only
  rw [unasked, known, ValueEntry.nextPage?_gathered]
  simp [api, running, none, Loop.spawn, ValueService.recordRequest, ValueService.lookUp, Cache.get?]

section Turns

variable {waiter : TaskId} {vigil : Vigil}

/-- A fetch that waited sends its request and ends. -/
theorem Underway.send {worker : Loader} {waited : Bool}
    (attended : Attended session.loop waiter vigil (some worker) (vigil.turns waiter))
    (acting : worker.readiness = .ready) (watchers : worker.watchers = [])
    (fetching : Fetching query earlier url held rest (.loading worker.id (.pausing waited) .ready) session) :
    Underway query earlier url held rest waiter vigil.released
      (.loading session.loop.tasks.length .unsent .ready)
      ((session.loadPage query true).2.finish worker.id .done) := by
  cases fetching with
  | pausing pending none holds asked =>
    rw [loadPage_eq attended.running none asked.api holds]
    refine ⟨(attended.handOver acting .done _ _).perm ?_, .unsent ?_ rfl (holds.touch.set _) (asked.congr rfl rfl rfl)⟩
    · rw [watchers, List.nil_append, List.append_assoc, ← vigil.turns_released waiter worker.id]
      exact List.perm_middle
    · intro id waits
      cases (pending.symm.trans waits : some worker.id = some id)
      exact ⟨.done, Loop.outcome?_finish_self (Loop.live?_spawn _ _ (attended.working worker rfl).2) .done⟩

theorem takePage_asks (session : Session) (asked : PageRequest) (sentTo : Option String) (answer : Answer) :
    (session.takePage asked sentTo answer).client = session.client ∧
      (session.takePage asked sentTo answer).journal.calls = session.journal.calls := by
  rcases session.takePage_cases asked sentTo answer with ⟨message, _, failed⟩ | ⟨page, _, applied⟩
  · rw [failed]
    exact ⟨rfl, rfl⟩
  · rw [applied]
    unfold applyPage announce
    dsimp only
    split
    · split <;> exact ⟨rfl, rfl⟩
    · exact ⟨rfl, rfl⟩

/-- A request takes in its answer and ends. -/
theorem Underway.deliver {worker : Loader} {sentTo : Option String} {answer : Answer}
    (attended : Attended session.loop waiter vigil (some worker) (vigil.turns waiter))
    (acting : worker.readiness = .ready) (watchers : worker.watchers = [.strike])
    (fetching : Fetching query earlier url held rest (.loading worker.id (.settled sentTo answer) .ready)
      session) :
    Underway query earlier url held rest waiter vigil.released (.finished (some worker.id))
      ((session.takePage ⟨query, held.length + 1⟩ sentTo answer).finish worker.id .done) := by
  obtain ⟨_, live⟩ := attended.working worker rfl
  cases fetching with
  | @settled items more _ _ _ _ _ unpending flying holds brings asked =>
    have loop := session.takePage_loop ⟨query, held.length + 1⟩ sentTo answer
    have service := (session.takePage_spec ⟨query, held.length + 1⟩ sentTo answer).1
    obtain ⟨client, calls⟩ := session.takePage_asks ⟨query, held.length + 1⟩ sentTo answer
    rw [brings] at service
    have settles := session.settles_takePage ⟨query, held.length + 1⟩ sentTo answer
    have apiUrl := (session.frame_takePage ⟨query, held.length + 1⟩ sentTo answer).apiUrl
    have ended : ((session.takePage ⟨query, held.length + 1⟩ sentTo answer).finish worker.id .done).loop =
        session.loop.finish worker.id .done := congrArg (Loop.finish · worker.id .done) loop
    refine ⟨?_, .finished (unpending.keep ?_ ?_) ?_ ?_ ?_ ?_⟩
    · rw [ended]
      refine (attended.finish acting .done).perm ?_
      rw [watchers, ← vigil.turns_released waiter worker.id]
      exact List.perm_middle
    · exact settles.pending
    · rw [ended]
      exact Loop.remembers_finish live .done
    · exact settles.inFlight.trans flying
    · rintro id ⟨⟩
      rw [ended]
      exact ⟨.done, Loop.outcome?_finish_self live .done⟩
    · rw [finish_service, service]
      exact holds.applyPage items _
    · rw [show (held ++ (items :: more).take 1).length = held.length + 1 by simp]
      exact asked.congr client calls apiUrl

/-- What a round comes to after a turn: it is still under way, and closer to its end. -/
def Closer (query : ValueQuery) (earlier : List Call) (url : Option String) (held rest : List (List Text))
    (waiter : TaskId) (bound : Nat) (session : Session) : Prop :=
  ∃ vigil load, Underway query earlier url held rest waiter vigil load session ∧ roundWeight vigil load < bound

/-- The working task takes its turn while it waits for typing to pause. -/
theorem closer_of_pausing {id : TaskId} {waited : Bool}
    (attended : Attended session.loop waiter vigil
      (some ⟨id, .debounce query true waited, .ready, []⟩) (vigil.turns waiter))
    (fetching : Fetching query earlier url held rest (.loading id (.pausing waited) .ready) session) :
    Closer query earlier url held rest waiter (roundWeight vigil (.loading id (.pausing waited) .ready))
      (session.taskTurn id) := by
  have live := (attended.working _ rfl).2
  have released := vigil.weight_released
  rw [taskTurn_of_live? live rfl]
  show Closer _ _ _ _ _ _ _ (session.jobTurn id (.debounce query true waited))
  unfold jobTurn
  dsimp only
  split
  · rename_i sleeps
    obtain ⟨unwaited, positive⟩ := Bool.and_eq_true_iff.mp sleeps
    cases waited with
    | true => cases unwaited
    | false =>
      refine ⟨vigil, .loading id (.pausing true) (.behind session.loop.now session.service.fetchDelay), ⟨?_, ?_⟩, ?_⟩
      · exact ((attended.sleep rfl _).setJob _).perm List.perm_append_comm
      · cases fetching with
        | pausing pending none holds asked => exact .pausing pending none holds (asked.congr rfl rfl rfl)
      · simp [roundWeight, Load.weight, Stage.weight, Readiness.weight, Readiness.behind, positive]
  · refine ⟨_, _, .send attended rfl rfl fetching, ?_⟩
    cases waited <;> simp only [roundWeight, Load.weight, Stage.weight, Readiness.weight] <;> omega

/-- The working task takes its turn and sends the request. -/
theorem closer_of_unsent {id : TaskId}
    (attended : Attended session.loop waiter vigil
      (some ⟨id, .request ⟨query, held.length + 1⟩ .unsent, .ready, [.strike]⟩) (vigil.turns waiter))
    (fetching : Fetching query earlier url held rest (.loading id .unsent .ready) session) :
    Closer query earlier url held rest waiter (roundWeight vigil (.loading id .unsent .ready))
      (session.taskTurn id) := by
  have live := (attended.working _ rfl).2
  have released := vigil.weight_released
  rw [taskTurn_of_live? live rfl]
  show Closer _ _ _ _ _ _ _ (session.jobTurn id (.request ⟨query, held.length + 1⟩ .unsent))
  cases fetching with
  | unsent unpending flying holds asked =>
    obtain ⟨⟨reply, replied, brings⟩, later⟩ := asked.call
    have loop := session.call_loop session.service.apiUrl (some ⟨query, held.length + 1⟩)
    have service := (session.onward_call session.service.apiUrl (some ⟨query, held.length + 1⟩)).service
    unfold jobTurn fetchTurn
    dsimp only
    generalize session.call session.service.apiUrl (some ⟨query, held.length + 1⟩) = called at *
    obtain ⟨_, after⟩ := called
    cases replied
    dsimp only at loop service later ⊢
    have kept : after.Unpending := unpending.keep (by rw [service]) (by rw [loop]; exact .refl _)
    rw [← loop] at attended
    rw [← service] at flying holds
    unfold receive
    by_cases zero : reply.delay.isZero = true
    · rw [if_pos zero]
      refine ⟨_, _, .deliver attended rfl rfl (.settled kept flying holds brings later), ?_⟩
      simp only [roundWeight, Load.weight, Stage.weight, Readiness.weight, Option.toList_some, List.length_singleton]
      omega
    · rw [if_neg zero]
      dsimp only
      refine ⟨vigil, .loading id (.settled session.service.apiUrl reply.answer) (.behind after.loop.now reply.delay),
        ⟨?_, ?_⟩, ?_⟩
      · exact ((attended.sleep rfl _).setJob _).perm List.perm_append_comm
      · exact (Fetching.settled kept flying holds brings later).withLoop
          ((Loop.continues_sleep _ id reply.delay).remembers.trans (Loop.remembers_modifyTask (by exact fun _ => rfl) id))
      · have near := (Readiness.behind after.loop.now reply.delay).weight_le
        show 4 * (1 + (Readiness.behind after.loop.now reply.delay).weight) + vigil.weight < 4 * 4 + vigil.weight
        omega

/-- The working task takes its turn and takes in the answer. -/
theorem closer_of_settled {id : TaskId} {sentTo : Option String} {answer : Answer}
    (attended : Attended session.loop waiter vigil
      (some ⟨id, .request ⟨query, held.length + 1⟩ (.settled sentTo answer), .ready, [.strike]⟩)
      (vigil.turns waiter))
    (fetching : Fetching query earlier url held rest (.loading id (.settled sentTo answer) .ready) session) :
    Closer query earlier url held rest waiter (roundWeight vigil (.loading id (.settled sentTo answer) .ready))
      (session.taskTurn id) := by
  have live := (attended.working _ rfl).2
  have released := vigil.weight_released
  rw [taskTurn_of_live? live rfl]
  refine ⟨_, _, .deliver attended rfl rfl fetching, ?_⟩
  simp only [roundWeight, Load.weight, Stage.weight, Readiness.weight, Option.toList_some, List.length_singleton]
  omega

/-- The waiting task looks whether there is something to wait for. -/
theorem closer_of_looking {load : Load}
    (attended : Attended session.loop waiter .ready (load.loader? query (held.length + 1)) load.turns)
    (fetching : Fetching query earlier url held rest load session) :
    Closer query earlier url held rest waiter (roundWeight .ready load) (session.taskTurn waiter) := by
  have live := attended.waiting nofun
  have unfinished := unfinishedFetches_eq attended fetching
  rw [taskTurn_of_live? live rfl]
  show Closer _ _ _ _ _ _ _ (session.idleTurn waiter)
  unfold idleTurn
  rw [unfinished]
  cases load with
  | loading id stage readiness =>
    refine ⟨.watching, .loading id stage readiness, ⟨?_, ?_⟩, ?_⟩
    · exact attended.watch.perm (by simp [Vigil.turns])
    · exact fetching.withLoop (Loop.continues_awaitAll _ _ _).remembers
    · simp [roundWeight, Vigil.weight]
  | finished struck =>
    refine ⟨.ended, .finished struck, ⟨?_, ?_⟩, ?_⟩
    · exact attended.endWait.perm (by simp [Vigil.turns])
    · exact fetching.withLoop (Loop.remembers_finish live _)
    · simp [roundWeight, Vigil.weight]

/-- Every turn keeps the round under way and brings it closer to its end. -/
theorem Underway.turn {load : Load} {next : Turn} {others : List Turn}
    (underway : Underway query earlier url held rest waiter vigil load session)
    (first : session.loop.ready = next :: others) :
    Closer query earlier url held rest waiter (roundWeight vigil load)
      ((session.withLoop { session.loop with ready := others }).turn next) := by
  obtain ⟨attended, fetching⟩ := underway
  have inside : next ∈ load.turns ++ vigil.turns waiter := by
    rw [← attended.ready.mem_iff, first]
    exact List.mem_cons_self
  have taken : ∀ left, (load.turns ++ vigil.turns waiter).Perm (next :: left) →
      Attended { session.loop with ready := others } waiter vigil (load.loader? query (held.length + 1)) left :=
    fun left same => attended.take first same
  have kept : Fetching query earlier url held rest load
      (session.withLoop { session.loop with ready := others }) := fetching.withLoop (.refl _)
  -- The turn belongs to the working task, to a request that has ended, or to the waiting task.
  rcases List.mem_append.mp inside with working | waiting
  · cases load with
    | loading id stage readiness =>
      cases readiness with
      | ready =>
        cases List.mem_singleton.mp working
        have free := taken (vigil.turns waiter) .rfl
        cases stage with
        | pausing waited => exact closer_of_pausing free kept
        | unsent => exact closer_of_unsent free kept
        | settled sentTo answer => exact closer_of_settled free kept
      | rung =>
        cases List.mem_singleton.mp working
        refine ⟨vigil, .loading id stage .ready, ⟨?_, (kept.moved .ready).withLoop (Loop.continues_elapse _ _).remembers⟩, ?_⟩
        · exact ((taken (vigil.turns waiter) .rfl).elapse rfl).perm List.perm_append_comm
        · simp [roundWeight, Load.weight, Readiness.weight]
      | timed due => cases working
    | finished struck =>
      cases struck with
      | none => cases working
      | some id =>
        cases List.mem_singleton.mp working
        refine ⟨vigil, .finished none, ⟨taken (vigil.turns waiter) .rfl, ?_⟩, ?_⟩
        · cases kept with
          | finished unpending flying ended holds asked =>
            refine .finished unpending ?_ (fun _ absent => nomatch absent) holds (asked.congr rfl rfl rfl)
            show List.filter _ _ = _
            rw [flying]
            simp
        · simp [roundWeight, Load.weight]
  · have free := taken load.turns
    cases vigil with
    | ready =>
      cases List.mem_singleton.mp waiting
      exact closer_of_looking (free List.perm_append_comm) kept
    | counting =>
      cases List.mem_singleton.mp waiting
      refine ⟨.ready, load, ⟨(free List.perm_append_comm).countDown, ?_⟩, ?_⟩
      · exact kept.withLoop (Loop.continues_countDown _ _).remembers
      · simp [roundWeight, Vigil.weight]
    | watching => cases waiting
    | ended => cases waiting

end Turns

end Session

end QueryCompletion
