import QueryCompletion.Proofs.Session.Aims
import QueryCompletion.Proofs.Session.Tasks

/-!
What one turn of a value service does to the event loop and to the records of its fetches. Every proof about
turns of a service that may be waited for or closed goes by these cases.
-/

namespace QueryCompletion

/-- The fetches on record: the requests in flight and the fetch that waits for typing to pause. -/
structure Records where
  inFlight : List (Text × TaskId)
  pending : Option TaskId

namespace Records

def empty : Records := ⟨[], none⟩

/-- Whether a task is on record. -/
def Lists (records : Records) (id : TaskId) : Prop :=
  id ∈ records.inFlight.map Prod.snd ∨ records.pending = some id

/-- Where a task is on record that is for something. -/
def Has (records : Records) (id : TaskId) : Aim → Prop
  | .load .. => records.pending = some id
  | .fetch asked => records.inFlight.lookup asked.query.key = some id
  | .other => True

/-- The records with a request in place of any under the same key. -/
def request (records : Records) (key : Text) (id : TaskId) : Records :=
  { records with
    inFlight :=
      if (records.inFlight.lookup key).isSome then
        records.inFlight.map fun request => if request.1 = key then (key, id) else request
      else records.inFlight ++ [(key, id)] }

def strike (records : Records) (id : TaskId) : Records :=
  { records with inFlight := records.inFlight.filter fun request => request.2 ≠ id }

end Records

/-- Whether a request waits for an answer that has not come. -/
def Job.hangs : Job → Bool
  | .request _ (.hanging _) => true
  | _ => false

theorem Job.hangs_of_aim {job : Job} (aims : job.aim = .other) : job.hangs = false := by
  cases job <;> first | rfl | cases aims

/-- Whether a job is one of a value service. -/
def Job.isNative : Job → Bool
  | .schema .. | .close .schema => false
  | _ => true

/-- What a turn of a task does that goes on with its job. -/
inductive Works (loop : Loop Job) (records : Records) (id : TaskId) (job : Job) : Loop Job → Records → Prop
  /-- The task has nothing more to do. -/
  | ends : (∀ stage, job ≠ .close stage) → Works loop records id job (loop.finish id .done) records
  /-- It waits for typing to pause, or for the delay of an answer. -/
  | sleeps {delay : Binary64} {next : Job} : job.aim ≠ .other → job.hangs = false → next.aim = job.aim →
      next.hangs = false →
      Works loop records id job ((loop.sleep id delay).modifyTask id fun task => { task with job := next }) records
  /-- It waits for an answer. -/
  | hangs {number : Nat} {next : Job} : job.aim ≠ .other → job.hangs = false → next.aim = job.aim →
      Works loop records id job ((loop.await id number).modifyTask id fun task => { task with job := next }) records
  /-- It goes on waiting for an answer. -/
  | stays : job.hangs = true →
      Works loop records id job (loop.modifyTask id fun task => { task with job }) records
  /-- It sends a request and ends. -/
  | sends {asked : PageRequest} {loadMore : Bool} : job.aim = .load asked.query loadMore →
      (∀ other, records.inFlight.lookup asked.query.key = some other → loop.isLive other = false) →
      Works loop records id job ((loop.spawn (.request asked .unsent) [.strike]).2.finish id .done)
        (records.request asked.query.key loop.tasks.length)
  /-- It waits for unfinished fetches. -/
  | waits {fetches : List TaskId} : job = .idle → fetches ≠ [] →
      (∀ other ∈ fetches, records.Lists other ∧ loop.isLive other = true) →
      Works loop records id job (loop.awaitAll id fetches) records
  /-- It cancels all unfinished fetches and waits for their end. -/
  | cancels {fetches : List TaskId} {engine : Bool} : job = .close (.service engine) → fetches ≠ [] →
      (∀ other, other ∈ fetches ↔ records.Lists other ∧ loop.isLive other = true) →
      Works loop records id job
        (((fetches.foldl Loop.cancel loop).awaitAll id fetches).modifyTask id fun task =>
          { task with job := .close (.gathered engine) }) records
  /-- It ends closing. -/
  | closes {engine : Bool} :
      (job = .close (.service engine) ∧ ∀ other, records.Lists other → loop.isLive other = false) ∨
        job = .close (.gathered engine) →
      Works loop records id job (loop.finish id .done) .empty

/-- What a turn does. -/
inductive Turned (loop : Loop Job) (records : Records) : Turn → Loop Job → Records → Prop
  | nothing {turn : Turn} : (∀ id, turn = .run id → loop.live? id = none) →
      (∀ id, turn = .count id → ∀ task left, loop.tasks[id]? = some task → task.wait ≠ .others (left + 1)) →
      Turned loop records turn loop records
  /-- A task that was cancelled ends. -/
  | ends {id : TaskId} {task : Task Job} : loop.live? id = some task → task.cancelled = true →
      Turned loop records (.run id) (loop.finish id .cancelled) records
  | works {id : TaskId} {task : Task Job} {after : Loop Job} {later : Records} : loop.live? id = some task →
      task.cancelled = false → Works loop records id task.job after later →
      Turned loop records (.run id) after later
  /-- A timer runs out, or the last task ends that was waited for. -/
  | wakes {turn : Turn} {id : TaskId} {task : Task Job} : loop.tasks[id]? = some task →
      turn = .elapse id ∧ task.wait = .timer ∨ turn = .count id ∧ task.wait = .others 1 →
      Turned loop records turn
        ((loop.enqueue [.run id]).modifyTask id fun task => { task with wait := .turn }) records
  /-- A task ends that was waited for, and there are others. -/
  | counts {id : TaskId} {task : Task Job} {left : Nat} : loop.tasks[id]? = some task →
      task.wait = .others (left + 2) →
      Turned loop records (.count id) (loop.modifyTask id fun task => { task with wait := .others (left + 1) }) records
  | strikes (id : TaskId) : Turned loop records (.strike id) loop (records.strike id)

namespace Session

def records (session : Session) : Records := ⟨session.service.inFlight, session.service.pending⟩

variable {session : Session} {id : TaskId}

theorem records_eq {other : Session} (inFlight : other.service.inFlight = session.service.inFlight)
    (pending : other.service.pending = session.service.pending) : other.records = session.records := by
  rw [records, records, inFlight, pending]

theorem mem_unfinishedFetches :
    id ∈ session.unfinishedFetches ↔ session.records.Lists id ∧ session.loop.isLive id = true := by
  unfold unfinishedFetches records Records.Lists
  simp only [List.mem_append, List.mem_filter, Option.mem_toList]
  tauto

/-- How far a turn of a fetch takes it. -/
theorem fetchTurn_cases (session : Session) (id : TaskId) (url : Option String) (asked : Option PageRequest)
    (stage : FetchStage) :
    (∃ sentTo answer, (session.fetchTurn id url asked stage).1 = .answered sentTo answer ∧
        (session.fetchTurn id url asked stage).2.loop = session.loop) ∨
      (∀ sentTo, stage ≠ .hanging sentTo) ∧
        (∃ sentTo answer delay, (session.fetchTurn id url asked stage).1 = .waits (.settled sentTo answer) ∧
          (session.fetchTurn id url asked stage).2.loop = session.loop.sleep id delay) ∨
      (∀ sentTo, stage ≠ .hanging sentTo) ∧
        (∃ sentTo number, (session.fetchTurn id url asked stage).1 = .waits (.hanging sentTo) ∧
          (session.fetchTurn id url asked stage).2.loop = session.loop.await id number) ∨
      ∃ sentTo, stage = .hanging sentTo ∧ (session.fetchTurn id url asked stage).1 = .waits (.hanging sentTo) ∧
        (session.fetchTurn id url asked stage).2.loop = session.loop := by
  have received (other : Session) (same : other.loop = session.loop) (url : Option String) (reply : Reply) :
      (∃ sentTo answer, (other.receive id url reply).1 = .answered sentTo answer ∧
        (other.receive id url reply).2.loop = session.loop) ∨
      ∃ sentTo answer delay, (other.receive id url reply).1 = .waits (.settled sentTo answer) ∧
        (other.receive id url reply).2.loop = session.loop.sleep id delay := by
    unfold receive
    split
    · exact Or.inl ⟨_, _, rfl, same⟩
    · exact Or.inr ⟨_, _, _, rfl, congrArg (fun loop : Loop Job => loop.sleep id _) same⟩
  cases stage with
  | unsent =>
    have called := session.call_loop url asked
    unfold fetchTurn
    dsimp only
    split
    · rename_i reply next same
      rw [same] at called
      exact (received next called url reply).imp_right fun settled => Or.inl ⟨nofun, settled⟩
    · rename_i next same
      rw [same] at called
      exact Or.inr (Or.inr (Or.inl ⟨nofun, _, _, rfl, congrArg (fun loop : Loop Job => loop.await id _) called⟩))
  | hanging sentTo => exact Or.inr (Or.inr (Or.inr ⟨sentTo, rfl, rfl, rfl⟩))
  | received sentTo reply =>
    exact (received session rfl sentTo reply).imp_right fun settled => Or.inl ⟨nofun, settled⟩
  | settled sentTo answer => exact Or.inl ⟨sentTo, answer, rfl, rfl⟩

theorem not_live_of_not_inFlight {key : Text} (free : session.inFlight key = false)
    (found : session.records.inFlight.lookup key = some id) : session.loop.isLive id = false := by
  have same : session.service.inFlight.lookup key = some id := found
  rw [inFlight, same] at free
  exact free

theorem works_debounceTurn (session : Session) (id : TaskId) (query : ValueQuery) (loadMore waited : Bool) :
    Works session.loop session.records id (.debounce query loadMore waited)
      (session.jobTurn id (.debounce query loadMore waited)).loop
      (session.jobTurn id (.debounce query loadMore waited)).records := by
  have ends : Works session.loop session.records id (.debounce query loadMore waited)
      (session.loop.finish id .done) session.records := .ends nofun
  unfold jobTurn
  dsimp only
  split
  · exact .sleeps nofun rfl rfl rfl
  · unfold loadPage
    dsimp only
    split
    · exact ends
    rename_i free
    split
    · exact ends
    rename_i page _
    split
    · rw [Bool.not_eq_true, Bool.or_eq_false_iff] at free
      exact @Works.sends _ _ _ _ ⟨query, page⟩ loadMore rfl fun other found => not_live_of_not_inFlight free.2 found
    · exact ends

theorem works_requestTurn (session : Session) (id : TaskId) (asked : PageRequest) (stage : FetchStage) :
    Works session.loop session.records id (.request asked stage)
      (session.jobTurn id (.request asked stage)).loop (session.jobTurn id (.request asked stage)).records := by
  have cases := session.fetchTurn_cases id session.service.apiUrl (some asked) stage
  have service := (session.onward_fetchTurn id session.service.apiUrl (some asked) stage).service
  unfold jobTurn
  dsimp only
  split
  · rename_i next after turned
    rw [turned] at cases service
    have same : (after.setJob id (.request asked next)).records = session.records :=
      congrArg (fun service : ValueService => Records.mk service.inFlight service.pending) service
    rw [same]
    show Works _ _ _ _ (after.loop.modifyTask id _) _
    have unhung (moves : ∀ sentTo, stage ≠ .hanging sentTo) : (Job.request asked stage).hangs = false := by
      cases stage <;> first | rfl | exact absurd rfl (moves _)
    rcases cases with ⟨_, _, answered, _⟩ | ⟨moves, _, _, _, settled, loop⟩ | ⟨moves, _, _, hanging, loop⟩ |
      ⟨_, rfl, hanging, loop⟩
    · cases answered
    · cases settled
      dsimp only at loop
      rw [loop]
      exact .sleeps nofun (unhung moves) rfl rfl
    · dsimp only at loop
      rw [loop]
      exact .hangs nofun (unhung moves) rfl
    · cases hanging
      dsimp only at loop
      rw [loop]
      exact .stays rfl
  · rename_i url answer after turned
    rw [turned] at cases service
    have settles := after.settles_takePage asked url answer
    have same : ((after.takePage asked url answer).finish id .done).records = session.records := by
      refine records_eq ?_ ?_
      · exact settles.inFlight.trans (congrArg ValueService.inFlight service)
      · exact settles.pending.trans (congrArg ValueService.pending service)
    rw [same]
    show Works _ _ _ _ ((after.takePage asked url answer).loop.finish id .done) _
    rw [takePage_loop]
    rcases cases with ⟨_, _, _, loop⟩ | ⟨_, _, _, _, settled, _⟩ | ⟨_, _, _, hanging, _⟩ | ⟨_, _, hanging, _⟩
    · dsimp only at loop
      rw [loop]
      exact .ends nofun
    · cases settled
    · cases hanging
    · cases hanging

theorem works_idleTurn (session : Session) (id : TaskId) :
    Works session.loop session.records id .idle (session.jobTurn id .idle).loop
      (session.jobTurn id .idle).records := by
  unfold jobTurn idleTurn
  dsimp only
  split
  · exact .ends nofun
  · rename_i some'
    exact .waits rfl some' fun other inside => mem_unfinishedFetches.mp inside

theorem works_closeTurn (session : Session) (id : TaskId) (stage : CloseStage)
    (native : (Job.close stage).isNative = true) :
    Works session.loop session.records id (.close stage) (session.jobTurn id (.close stage)).loop
      (session.jobTurn id (.close stage)).records := by
  cases stage with
  | schema => cases native
  | service engine =>
    show Works _ _ _ _ (session.closeServiceTurn id engine).loop (session.closeServiceTurn id engine).records
    unfold closeServiceTurn
    split
    · rename_i none'
      refine .closes (Or.inl ⟨rfl, fun other listed => ?_⟩)
      by_contra live
      have inside := mem_unfinishedFetches.mpr ⟨listed, Bool.of_not_eq_false live⟩
      rw [none'] at inside
      cases inside
    · rename_i some'
      exact .cancels rfl some' fun other => mem_unfinishedFetches
  | gathered engine => exact .closes (Or.inr rfl)

theorem works_jobTurn (session : Session) (id : TaskId) {job : Job} (native : job.isNative = true) :
    Works session.loop session.records id job (session.jobTurn id job).loop (session.jobTurn id job).records := by
  cases job with
  | debounce query loadMore waited => exact session.works_debounceTurn id query loadMore waited
  | request asked stage => exact session.works_requestTurn id asked stage
  | schema url stage => cases native
  | idle => exact session.works_idleTurn id
  | close stage => exact session.works_closeTurn id stage native

/-- What a turn does that is taken off already. -/
theorem turned_turn (session : Session) (turn : Turn)
    (native : ∀ id task, turn = .run id → session.loop.live? id = some task → task.job.isNative = true) :
    Turned session.loop session.records turn (session.turn turn).loop (session.turn turn).records := by
  cases turn with
  | run id =>
    show Turned _ _ _ (session.taskTurn id).loop (session.taskTurn id).records
    rcases session.taskTurn_cases id with ⟨ended, same⟩ | ⟨task, live, ⟨cancelled, ends⟩ | ⟨kept, works⟩⟩
    · rw [same]
      exact .nothing (fun other taken => by cases taken; exact ended) fun _ taken => by cases taken
    · rw [ends]
      exact .ends live cancelled
    · rw [works]
      exact .works live kept (session.works_jobTurn id (native id task rfl live))
  | elapse id =>
    have idle : Turned session.loop session.records (.elapse id) session.loop session.records :=
      .nothing (fun _ same => by cases same) fun _ same => by cases same
    show Turned _ _ _ (session.loop.elapse id) _
    unfold Loop.elapse
    cases found : session.loop.tasks[id]? with
    | none => exact idle
    | some task =>
      dsimp only
      split
      · rename_i asleep
        exact .wakes found (Or.inl ⟨rfl, asleep⟩)
      · exact idle
  | count id =>
    show Turned _ _ _ (session.loop.countDown id) _
    unfold Loop.countDown
    cases found : session.loop.tasks[id]? with
    | none =>
      refine .nothing (fun _ same => by cases same) fun other same task left present => ?_
      cases same
      cases found.symm.trans present
    | some task =>
      dsimp only
      split
      · rename_i last
        exact .wakes found (Or.inr ⟨rfl, last⟩)
      · rename_i left several waits
        cases left with
        | zero => exact absurd rfl several
        | succ left => exact .counts found waits
      · rename_i otherwise
        refine .nothing (fun _ same => by cases same) fun other same task' left present waits => ?_
        cases same
        cases found.symm.trans present
        exact otherwise left waits
  | strike id => exact .strikes id

end Session

end QueryCompletion
