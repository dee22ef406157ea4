import QueryCompletion.Proofs.Session.Host
import QueryCompletion.Proofs.Session.Turned

/-!
Order among the tasks of a value service: a task that waits for its turn has one ahead, a task that was
cancelled waits for nothing else, and a fetch that was not cancelled is on record.
-/

namespace QueryCompletion

open Loop (Watcher.turn)

/-- The task that goes on by a turn, if it is one that may go on at any time. -/
def Turn.taker? : Turn → Option TaskId
  | .run id | .count id => some id
  | .elapse _ | .strike _ => none

/-- How an unfinished task fits in with the others; only one of them may be closing the service. -/
structure Fit (tasks : Nat) (records : Records) (closer : Option TaskId) (id : TaskId) (task : Task Job) :
    Prop where
  native : task.job.isNative = true
  closing : ∀ stage, task.job = .close stage → closer = some id
  cancelled : task.cancelled = true → task.wait = .turn
  hanging : task.cancelled = false → task.job.hangs = true → ∃ call, task.wait = .answer call
  recorded : task.cancelled = false → records.Has id task.job.aim
  listed : records.Lists id → task.job.aim ≠ .other
  watched : task.job.aim = .other → task.watchers = []
  watchers : ∀ watcher ∈ task.watchers, watcher = .strike ∨ ∃ waiter < tasks, watcher = .count waiter

/-- All unfinished tasks fit in, and all but the one that acts have the turn ahead that they wait for. -/
structure Orderly (loop : Loop Job) (records : Records) (closer acting : Option TaskId) : Prop where
  fit : ∀ {id task}, loop.live? id = some task → Fit loop.tasks.length records closer id task
  prompt : ∀ {id task}, loop.live? id = some task → task.wait = .turn → acting = some id ∨ Turn.run id ∈ loop.ready
  known : ∀ turn ∈ loop.ready, ∀ id, turn.taker? = some id → id < loop.tasks.length
  struck : ∀ id, Turn.strike id ∈ loop.ready → ∃ outcome, loop.outcome? id = some outcome
  listed : ∀ id, records.Lists id → id < loop.tasks.length

namespace Loop

/-- All fetches that go on were cancelled. -/
def Calm (loop : Loop Job) : Prop :=
  ∀ {id task}, loop.live? id = some task → task.job.aim ≠ .other → task.cancelled = true

variable {loop : Loop Job} {id other : TaskId} {task : Task Job}

/-- What an unfinished task was before one of them was changed. -/
theorem live?_modifyTask_cases {change : Task Job → Task Job} (keeps : ∀ task, (change task).outcome = task.outcome)
    (live : (loop.modifyTask id change).live? other = some task) :
    id = other ∧ (∃ old, loop.live? id = some old ∧ task = change old) ∨
      id ≠ other ∧ loop.live? other = some task := by
  by_cases same : id = other
  · subst same
    obtain ⟨found, unended⟩ := live?_eq_some_iff.mp live
    rw [modifyTask, List.getElem?_modify_eq] at found
    obtain ⟨old, present, rfl⟩ := Option.map_eq_some_iff.mp found
    exact Or.inl ⟨rfl, old, live?_eq_some_iff.mpr ⟨present, (keeps old).symm.trans unended⟩, rfl⟩
  · exact Or.inr ⟨same, (live?_modifyTask_of_ne same).symm.trans live⟩

theorem live?_spawn_cases {job : Job} {watchers : List Watcher}
    (live : (loop.spawn job watchers).2.live? other = some task) :
    other = loop.tasks.length ∧ task = { job, watchers } ∨ loop.live? other = some task := by
  obtain ⟨found, unended⟩ := live?_eq_some_iff.mp live
  rw [getElem?_spawn] at found
  split at found
  · rename_i last
    exact Or.inl ⟨last, (Option.some.inj found).symm⟩
  · exact Or.inr (live?_eq_some_iff.mpr ⟨found, unended⟩)

theorem live?_finish_cases {ended : Task Job} {outcome : Outcome} (live : loop.live? id = some ended)
    (after : (loop.finish id outcome).live? other = some task) : id ≠ other ∧ loop.live? other = some task := by
  by_cases same : id = other
  · subst same
    have unended := isLive_of_live? after
    rw [isLive_of_outcome? (outcome?_finish_self live outcome)] at unended
    cases unended
  · exact ⟨same, (live?_finish_of_ne live outcome same).symm.trans after⟩

theorem length_modifyTask (loop : Loop Job) (id : TaskId) (change : Task Job → Task Job) :
    (loop.modifyTask id change).tasks.length = loop.tasks.length :=
  List.length_modify _ _ _

theorem length_finish (loop : Loop Job) (id : TaskId) (outcome : Outcome) :
    (loop.finish id outcome).tasks.length = loop.tasks.length := by
  unfold finish
  split
  · exact length_modifyTask _ _ _
  · rfl

theorem length_spawn (loop : Loop Job) (job : Job) (watchers : List Watcher) :
    (loop.spawn job watchers).2.tasks.length = loop.tasks.length + 1 := by
  show (loop.tasks ++ _).length = _
  rw [List.length_append, List.length_singleton]

/-- What each of several changes keeps, all of them keep. -/
theorem foldl_keeps {R : Loop Job → Loop Job → Prop} (refl : ∀ loop, R loop loop)
    (trans : ∀ {before between after}, R before between → R between after → R before after)
    {change : Loop Job → TaskId → Loop Job} {others : List TaskId}
    (keeps : ∀ loop, ∀ other ∈ others, R loop (change loop other)) (loop : Loop Job) :
    R loop (others.foldl change loop) := by
  induction others generalizing loop with
  | nil => exact refl loop
  | cons first rest ih =>
    exact trans (keeps loop first List.mem_cons_self) (ih (fun loop other inside =>
      keeps loop other (List.mem_cons_of_mem first inside)) (change loop first))

section Cancel

theorem cancel_eq (live : loop.live? id = some task) :
    loop.cancel id = (if task.wait = .turn then loop else loop.enqueue [.run id]).modifyTask id fun task =>
      { task with cancelled := true, wait := .turn } := by
  obtain ⟨found, unended⟩ := live?_eq_some_iff.mp live
  unfold cancel
  rw [found]
  dsimp only
  rw [unended, Option.isSome_none, if_neg Bool.false_ne_true]
  split <;> rfl

theorem cancel_of_not_live (ended : loop.live? id = none) : loop.cancel id = loop := by
  unfold cancel
  split
  · rename_i task found
    rw [if_pos]
    by_contra unended
    rw [live?_eq_some_iff.mpr ⟨found, by simpa using unended⟩] at ended
    cases ended
  · rfl

/-- Cancelling a task changes no other. -/
theorem live?_cancel_of_ne (differs : other ≠ id) : (loop.cancel other).live? id = loop.live? id :=
  cancel_keeps (R := fun before after => after.live? id = before.live? id) (fun _ => rfl)
    (fun first second => second.trans first) (fun _ => live?_modifyTask_of_ne differs) (fun _ => rfl) loop

theorem live?_cancelAll_of_ne {others : List TaskId} (apart : ∀ other ∈ others, other ≠ id) :
    (others.foldl cancel loop).live? id = loop.live? id :=
  foldl_keeps (R := fun before after => after.live? id = before.live? id) (fun _ => rfl)
    (fun first second => second.trans first) (fun _ other inside => live?_cancel_of_ne (apart other inside)) loop

end Cancel

section Await

/-- The loop in which the end of a task is told to another one that waits for several. -/
def watch (id : TaskId) (loop : Loop Job) (other : TaskId) : Loop Job :=
  loop.modifyTask other fun task => { task with watchers := task.watchers ++ [.count id] }

theorem awaitAll_eq (loop : Loop Job) (id : TaskId) (others : List TaskId) :
    loop.awaitAll id others =
      others.foldl (watch id) (loop.modifyTask id fun task => { task with wait := .others others.length }) := rfl

theorem live?_watch_of_ne {waiter : TaskId} (differs : other ≠ id) :
    (loop.watch waiter other).live? id = loop.live? id :=
  live?_modifyTask_of_ne differs

theorem live?_watchAll_of_ne {waiter : TaskId} {others : List TaskId} (apart : ∀ other ∈ others, other ≠ id) :
    (others.foldl (watch waiter) loop).live? id = loop.live? id :=
  foldl_keeps (R := fun before after => after.live? id = before.live? id) (fun _ => rfl)
    (fun first second => second.trans first) (fun _ other inside => live?_watch_of_ne (apart other inside)) loop

/-- A task that begins to wait for several others. -/
theorem live?_awaitAll {others : List TaskId} (apart : ∀ other ∈ others, other ≠ id)
    (live : loop.live? id = some task) :
    (loop.awaitAll id others).live? id = some { task with wait := .others others.length } := by
  rw [awaitAll_eq, live?_watchAll_of_ne apart]
  exact live?_modifyTask_self (fun _ => rfl) live

end Await

end Loop

namespace Records

variable {records : Records} {key : Text} {id other : TaskId} {aim : Aim}

theorem Has.lists (has : records.Has id aim) (aims : aim ≠ .other) : records.Lists id := by
  cases aim with
  | load query loadMore => exact Or.inr has
  | fetch asked =>
    exact Or.inl (List.mem_map.mpr ⟨(asked.query.key, id), mem_of_lookup has, rfl⟩)
  | other => exact absurd rfl aims

theorem lists_request (lists : (records.request key id).Lists other) : other = id ∨ records.Lists other := by
  rcases lists with inside | waits
  · obtain ⟨record, member, rfl⟩ := List.mem_map.mp inside
    unfold request at member
    dsimp only at member
    split at member
    · obtain ⟨earlier, listed, same⟩ := List.mem_map.mp member
      split at same
      · exact Or.inl (same ▸ rfl)
      · exact Or.inr (Or.inl (same ▸ List.mem_map_of_mem listed))
    · rcases List.mem_append.mp member with listed | added
      · exact Or.inr (Or.inl (List.mem_map_of_mem listed))
      · exact Or.inl (by rw [List.mem_singleton.mp added])
  · exact Or.inr (Or.inr waits)

theorem lookup_request (records : Records) (key other : Text) (id : TaskId) :
    (records.request key id).inFlight.lookup other = if other = key then some id else records.inFlight.lookup other :=
  ValueService.lookup_recordRequest
    { cache := ⟨0, []⟩, fetchDelay := .zero, inFlight := records.inFlight } key other id

/-- A request takes no record away from a fetch for another key. -/
theorem Has.request (has : records.Has other aim) (spares : ∀ asked, aim = .fetch asked → asked.query.key ≠ key) :
    (records.request key id).Has other aim := by
  cases aim with
  | load query loadMore => exact has
  | fetch asked =>
    show (records.request key id).inFlight.lookup _ = _
    rw [lookup_request, if_neg (spares asked rfl)]
    exact has
  | other => trivial

theorem Has.strike (has : records.Has other aim) (differs : other ≠ id) : (records.strike id).Has other aim := by
  cases aim with
  | load query loadMore => exact has
  | fetch asked => exact lookup_filter has (decide_eq_true differs)
  | other => trivial

theorem lists_strike (lists : (records.strike id).Lists other) : records.Lists other := by
  refine lists.imp_left fun inside => ?_
  obtain ⟨record, member, rfl⟩ := List.mem_map.mp inside
  exact List.mem_map_of_mem (List.mem_of_mem_filter member)

theorem not_lists_empty : ¬Records.empty.Lists id := by
  rintro (inside | waits)
  · cases inside
  · cases waits

end Records

namespace Fit

variable {tasks more : Nat} {records : Records} {closer : Option TaskId} {id : TaskId} {task : Task Job}

theorem mono (fit : Fit tasks records closer id task) (grows : tasks ≤ more) : Fit more records closer id task :=
  { fit with watchers := fun watcher inside => (fit.watchers watcher inside).imp_right fun ⟨waiter, bound, same⟩ =>
      ⟨waiter, Nat.lt_of_lt_of_le bound grows, same⟩ }

/-- The task goes on with a job that is for the same. -/
theorem setJob (fit : Fit tasks records closer id task) {job : Job} (aims : task.job.aim ≠ .other)
    (same : job.aim = task.job.aim) (hanging : job.hangs = true → ∃ call, task.wait = .answer call) :
    Fit tasks records closer id { task with job } where
  native := by
    rw [← same] at aims
    cases job <;> first | rfl | exact absurd rfl aims
  closing := by
    rintro stage rfl
    exact absurd same.symm aims
  cancelled := fit.cancelled
  hanging := fun _ hangs => hanging hangs
  recorded := by
    show _ → records.Has id job.aim
    rw [same]
    exact fit.recorded
  listed := by
    show _ → job.aim ≠ .other
    rw [same]
    exact fit.listed
  watched := by
    show job.aim = .other → _
    rw [same]
    exact fit.watched
  watchers := fit.watchers

theorem setWait (fit : Fit tasks records closer id task) (hangs : task.job.hangs = false) {wait : Wait}
    (waits : task.cancelled = true → wait = .turn) : Fit tasks records closer id { task with wait } :=
  { fit with
    cancelled := waits
    hanging := fun _ still => nomatch hangs.symm.trans still }

theorem cancel (fit : Fit tasks records closer id task) :
    Fit tasks records closer id { task with cancelled := true, wait := .turn } :=
  { fit with
    cancelled := fun _ => rfl
    hanging := fun kept => nomatch kept
    recorded := fun kept => nomatch kept }

/-- The task that closes the service goes on. -/
theorem proceed (fit : Fit tasks records closer id task) {stage : CloseStage} {engine : Bool}
    (job : task.job = .close stage) : Fit tasks records closer id { task with job := .close (.gathered engine) } := by
  have aims : task.job.aim = .other := by rw [job]; rfl
  exact { fit with
    native := rfl
    closing := fun _ _ => fit.closing stage job
    hanging := fun _ hangs => nomatch hangs
    recorded := fun _ => trivial
    listed := fun lists => absurd aims (fit.listed lists)
    watched := fun _ => fit.watched aims }

/-- Other records say the same of the task. -/
theorem setRecords (fit : Fit tasks records closer id task) {later : Records}
    (recorded : task.cancelled = false → records.Has id task.job.aim → later.Has id task.job.aim)
    (listed : later.Lists id → records.Lists id) : Fit tasks later closer id task :=
  { fit with
    recorded := fun kept => recorded kept (fit.recorded kept)
    listed := fun lists => fit.listed (listed lists) }

end Fit

namespace Orderly

variable {loop other : Loop Job} {records later : Records} {closer acting : Option TaskId} {id : TaskId}
  {task : Task Job}

/-- Other turns are ready, of tasks that there are. -/
theorem setReady {next : Option TaskId} (orderly : Orderly loop records closer acting)
    (tasks : other.tasks = loop.tasks)
    (runs : ∀ id, acting = some id ∨ Turn.run id ∈ loop.ready → next = some id ∨ Turn.run id ∈ other.ready)
    (known : ∀ turn ∈ other.ready, turn ∈ loop.ready ∨ (∃ id < loop.tasks.length, turn = .run id) ∨
      ∃ id, turn = .elapse id) : Orderly other records closer next := by
  have live (id : TaskId) : other.live? id = loop.live? id := by rw [Loop.live?, Loop.live?, tasks]
  refine ⟨fun {id task} found => ?_, fun {id task} found waits => ?_, fun turn inside id taker => ?_,
    fun id inside => ?_, fun id lists => ?_⟩
  · rw [live] at found
    rw [tasks]
    exact orderly.fit found
  · rw [live] at found
    exact runs id (orderly.prompt found waits)
  · rw [tasks]
    rcases known turn inside with old | ⟨new, bound, rfl⟩ | ⟨new, rfl⟩
    · exact orderly.known turn old id taker
    · cases taker
      exact bound
    · cases taker
  · rw [Loop.outcome?, tasks]
    rcases known _ inside with old | ⟨_, _, same⟩ | ⟨_, same⟩
    · exact orderly.struck id old
    · cases same
    · cases same
  · rw [tasks]
    exact orderly.listed id lists

theorem enqueue (orderly : Orderly loop records closer acting) (inside : id < loop.tasks.length) :
    Orderly (loop.enqueue [.run id]) records closer acting := by
  refine orderly.setReady rfl (fun id => Or.imp_right (List.mem_append_left _)) fun turn ready => ?_
  rcases List.mem_append.mp ready with old | new
  · exact Or.inl old
  · exact Or.inr (Or.inl ⟨id, inside, List.mem_singleton.mp new⟩)

/-- One task changes, but does not end. -/
theorem modify {change : Task Job → Task Job} (orderly : Orderly loop records closer acting)
    (keeps : ∀ task, (change task).outcome = task.outcome)
    (fit : ∀ task, loop.live? id = some task → Fit loop.tasks.length records closer id (change task))
    (prompt : ∀ task, loop.live? id = some task → (change task).wait = .turn →
      acting = some id ∨ Turn.run id ∈ loop.ready) :
    Orderly (loop.modifyTask id change) records closer acting := by
  refine ⟨fun {other task} live => ?_, fun {other task} live waits => ?_, ?_, fun other inside => ?_, ?_⟩
  · rw [Loop.length_modifyTask]
    rcases Loop.live?_modifyTask_cases keeps live with ⟨rfl, old, found, rfl⟩ | ⟨_, found⟩
    · exact fit old found
    · exact orderly.fit found
  · rcases Loop.live?_modifyTask_cases keeps live with ⟨rfl, old, found, rfl⟩ | ⟨_, found⟩
    · exact prompt old found waits
    · exact orderly.prompt found waits
  · rw [Loop.length_modifyTask]
    exact orderly.known
  · obtain ⟨outcome, ended⟩ := orderly.struck other inside
    exact ⟨outcome, Loop.remembers_modifyTask keeps id other outcome ended⟩
  · rw [Loop.length_modifyTask]
    exact orderly.listed

/-- The task that acts has come to rest. -/
theorem rest (orderly : Orderly loop records closer (some id))
    (ahead : ∀ task, loop.live? id = some task → task.wait = .turn → Turn.run id ∈ loop.ready) :
    Orderly loop records closer none := by
  refine { orderly with prompt := fun {other task} live waits => Or.inr ?_ }
  rcases orderly.prompt live waits with same | ready
  · cases same
    exact ahead task live waits
  · exact ready

theorem finish (orderly : Orderly loop records closer (some id)) (live : loop.live? id = some task)
    (outcome : Outcome) : Orderly (loop.finish id outcome) records closer none := by
  have ready : (loop.finish id outcome).ready = loop.ready ++ task.watchers.map (Watcher.turn id) := by
    rw [Loop.finish_eq live]
    rfl
  refine ⟨fun {other task} after => ?_, fun {other task} after waits => Or.inr ?_, fun turn inside other taker => ?_,
    fun other inside => ?_, fun other lists => ?_⟩
  · rw [Loop.length_finish]
    exact orderly.fit (Loop.live?_finish_cases live after).2
  · obtain ⟨differs, before⟩ := Loop.live?_finish_cases live after
    rw [ready]
    rcases orderly.prompt before waits with same | inside
    · exact absurd (Option.some.inj same) differs
    · exact List.mem_append_left _ inside
  · rw [Loop.length_finish]
    rw [ready] at inside
    rcases List.mem_append.mp inside with old | new
    · exact orderly.known turn old other taker
    · obtain ⟨watcher, member, rfl⟩ := List.mem_map.mp new
      rcases (orderly.fit live).watchers watcher member with rfl | ⟨waiter, bound, rfl⟩
      · cases taker
      · cases taker
        exact bound
  · rw [ready] at inside
    rcases List.mem_append.mp inside with old | new
    · obtain ⟨earlier, ended⟩ := orderly.struck other old
      exact ⟨earlier, Loop.remembers_finish live outcome other earlier ended⟩
    · obtain ⟨watcher, member, same⟩ := List.mem_map.mp new
      rcases (orderly.fit live).watchers watcher member with rfl | ⟨waiter, bound, rfl⟩
      · cases same
        exact ⟨outcome, Loop.outcome?_finish_self live outcome⟩
      · cases same
  · rw [Loop.length_finish]
    exact orderly.listed other lists

/-- A task is started, and the records may change. -/
theorem spawn (orderly : Orderly loop records closer acting) {job : Job} {watchers : List Watcher}
    (fits : ∀ id task, loop.live? id = some task → Fit loop.tasks.length records closer id task →
      Fit loop.tasks.length later closer id task)
    (fit : Fit (loop.tasks.length + 1) later closer loop.tasks.length { job, watchers })
    (listed : ∀ id, later.Lists id → id ≤ loop.tasks.length) :
    Orderly (loop.spawn job watchers).2 later closer acting := by
  refine ⟨fun {other task} live => ?_, fun {other task} live waits => ?_, fun turn inside other taker => ?_,
    fun other inside => ?_, fun other lists => ?_⟩
  · rw [Loop.length_spawn]
    rcases Loop.live?_spawn_cases live with ⟨rfl, rfl⟩ | before
    · exact fit
    · exact (fits other task before (orderly.fit before)).mono (Nat.le_succ _)
  · rcases Loop.live?_spawn_cases live with ⟨rfl, rfl⟩ | before
    · exact Or.inr (List.mem_append_right _ (List.mem_singleton.mpr rfl))
    · exact (orderly.prompt before waits).imp_right (List.mem_append_left _)
  · rw [Loop.length_spawn]
    rcases List.mem_append.mp inside with old | new
    · exact Nat.lt_succ_of_lt (orderly.known turn old other taker)
    · rw [List.mem_singleton.mp new] at taker
      cases taker
      exact Nat.lt_succ_self _
  · rcases List.mem_append.mp inside with old | new
    · obtain ⟨outcome, ended⟩ := orderly.struck other old
      exact ⟨outcome, Loop.remembers_spawn loop job watchers other outcome ended⟩
    · cases List.mem_singleton.mp new
  · rw [Loop.length_spawn]
    exact Nat.lt_succ_of_le (listed other lists)

/-- A task is started that is no fetch. -/
theorem spawnOther (orderly : Orderly loop records closer acting) {job : Job} (native : job.isNative = true)
    (aims : job.aim = .other) (closing : ∀ stage, job = .close stage → closer = some loop.tasks.length) :
    Orderly (loop.spawn job []).2 records closer acting := by
  have unlisted : ¬records.Lists loop.tasks.length := fun lists => Nat.lt_irrefl _ (orderly.listed _ lists)
  refine orderly.spawn (fun _ _ _ fit => fit) ?_ fun id lists => Nat.le_of_lt (orderly.listed id lists)
  exact {
    native, closing
    cancelled := nofun
    hanging := fun _ hangs => nomatch (Job.hangs_of_aim aims).symm.trans hangs
    recorded := fun _ => aims ▸ trivial
    listed := fun lists => absurd lists unlisted
    watched := fun _ => rfl
    watchers := nofun }

theorem setRecords (orderly : Orderly loop records closer acting)
    (fits : ∀ id task, loop.live? id = some task → Fit loop.tasks.length records closer id task →
      Fit loop.tasks.length later closer id task)
    (listed : ∀ id, later.Lists id → records.Lists id) : Orderly loop later closer acting :=
  { orderly with
    fit := fun {id task} live => fits id task live (orderly.fit live)
    listed := fun id lists => orderly.listed id (listed id lists) }

theorem watch (orderly : Orderly loop records closer acting) {waiter : TaskId} (inside : waiter < loop.tasks.length)
    (lists : records.Lists id) : Orderly (loop.watch waiter id) records closer acting := by
  refine orderly.modify (fun _ => rfl) (fun task live => ?_) fun task live waits => orderly.prompt live waits
  have fit := orderly.fit live
  refine { fit with watched := fun other => absurd other (fit.listed lists), watchers := fun watcher member => ?_ }
  rcases List.mem_append.mp member with old | new
  · exact fit.watchers watcher old
  · exact Or.inr ⟨waiter, inside, List.mem_singleton.mp new⟩

theorem watchAll (orderly : Orderly loop records closer acting) {waiter : TaskId} (inside : waiter < loop.tasks.length)
    {others : List TaskId} (lists : ∀ other ∈ others, records.Lists other) :
    Orderly (others.foldl (Loop.watch waiter) loop) records closer acting := by
  induction others generalizing loop with
  | nil => exact orderly
  | cons first rest ih =>
    refine ih (orderly.watch inside (lists first List.mem_cons_self)) ?_
      fun other member => lists other (List.mem_cons_of_mem _ member)
    rw [Loop.watch, Loop.length_modifyTask]
    exact inside

/-- The task that acts begins to wait for others. -/
theorem awaitAll (orderly : Orderly loop records closer (some id)) (live : loop.live? id = some task)
    (kept : task.cancelled = false) (aims : task.job.aim = .other) {others : List TaskId}
    (lists : ∀ other ∈ others, records.Lists other) :
    Orderly (loop.awaitAll id others) records closer none ∧
      (loop.awaitAll id others).live? id = some { task with wait := .others others.length } := by
  have apart : ∀ other ∈ others, other ≠ id := by
    rintro _ inside rfl
    exact (orderly.fit live).listed (lists _ inside) aims
  have waiting := Loop.live?_awaitAll apart live
  have begun : Orderly (loop.awaitAll id others) records closer (some id) := by
    refine watchAll ?_ ?_ lists
    · refine orderly.modify (fun _ => rfl) (fun task' live' => ?_) fun _ _ _ => Or.inl rfl
      cases live.symm.trans live'
      exact (orderly.fit live).setWait (Job.hangs_of_aim aims) fun cancelled => nomatch kept.symm.trans cancelled
    · rw [Loop.length_modifyTask]
      exact Loop.lt_length_of_live? live
  refine ⟨begun.rest fun task' live' waits => ?_, waiting⟩
  cases waiting.symm.trans live'
  cases waits

theorem cancel (orderly : Orderly loop records closer acting) (id : TaskId) :
    Orderly (loop.cancel id) records closer acting := by
  cases live : loop.live? id with
  | none =>
    rw [Loop.cancel_of_not_live live]
    exact orderly
  | some task =>
    rw [Loop.cancel_eq live]
    split
    · rename_i waits
      refine orderly.modify (fun _ => rfl) (fun task' live' => (orderly.fit live').cancel) fun _ _ _ => ?_
      exact orderly.prompt live waits
    · have queued := orderly.enqueue (Loop.lt_length_of_live? live)
      refine queued.modify (fun _ => rfl) (fun task' live' => (queued.fit live').cancel) fun _ _ _ => ?_
      exact Or.inr (List.mem_append_right _ (List.mem_singleton.mpr rfl))

theorem cancelAll (orderly : Orderly loop records closer acting) (others : List TaskId) :
    Orderly (others.foldl Loop.cancel loop) records closer acting :=
  Loop.foldl_keeps (R := fun before after => Orderly before records closer acting → Orderly after records closer acting)
    (fun _ same => same) (fun first second same => second (first same))
    (fun _ other _ orderly => orderly.cancel other) loop orderly

/-- The task that acts lets other work go first, or waits for a timer. -/
theorem sleep (orderly : Orderly loop records closer (some id)) (live : loop.live? id = some task)
    (kept : task.cancelled = false) (hangs : task.job.hangs = false) (delay : Binary64) :
    Orderly (loop.sleep id delay) records closer none ∧
      ∃ wait, (loop.sleep id delay).live? id = some { task with wait } := by
  unfold Loop.sleep
  split
  · have waiting : Orderly (loop.modifyTask id fun task => { task with wait := .timer }) records closer (some id) := by
      refine orderly.modify (fun _ => rfl) (fun task' live' => ?_) fun _ _ _ => Or.inl rfl
      cases live.symm.trans live'
      exact (orderly.fit live).setWait hangs fun cancelled => nomatch kept.symm.trans cancelled
    have asleep : (loop.modifyTask id fun task => { task with wait := .timer }).live? id =
        some { task with wait := .timer } := Loop.live?_modifyTask_self (fun _ => rfl) live
    refine ⟨Orderly.rest (waiting.setReady rfl (fun _ same => same) fun _ => Or.inl) fun task' live' waits => ?_,
      .timer, asleep⟩
    cases asleep.symm.trans live'
    cases waits
  · refine ⟨(orderly.enqueue (Loop.lt_length_of_live? live)).rest fun _ _ _ => ?_, task.wait, live⟩
    exact List.mem_append_right _ (List.mem_singleton.mpr rfl)

/-- A task goes on with a job that is for the same. -/
theorem setJob (orderly : Orderly loop records closer acting) (live : loop.live? id = some task) {job : Job}
    (aims : task.job.aim ≠ .other) (same : job.aim = task.job.aim)
    (hanging : job.hangs = true → ∃ call, task.wait = .answer call) :
    Orderly (loop.modifyTask id fun task => { task with job }) records closer acting := by
  refine orderly.modify (fun _ => rfl) (fun task' live' => ?_) fun task' live' waits => orderly.prompt live' waits
  cases live.symm.trans live'
  exact (orderly.fit live).setJob aims same hanging

section Works

variable {after : Loop Job}

/-- The task that acts waits for an answer. -/
theorem await (orderly : Orderly loop records closer (some id)) (live : loop.live? id = some task)
    (kept : task.cancelled = false) (hangs : task.job.hangs = false) (number : Nat) :
    Orderly (loop.await id number) records closer none ∧
      (loop.await id number).live? id = some { task with wait := .answer number } := by
  have waiting : (loop.await id number).live? id = some { task with wait := .answer number } :=
    Loop.live?_modifyTask_self (fun _ => rfl) live
  have begun : Orderly (loop.await id number) records closer (some id) := by
    refine orderly.modify (fun _ => rfl) (fun task' live' => ?_) fun _ _ _ => Or.inl rfl
    cases live.symm.trans live'
    exact (orderly.fit live).setWait hangs fun cancelled => nomatch kept.symm.trans cancelled
  refine ⟨begun.rest fun task' live' waits => ?_, waiting⟩
  cases waiting.symm.trans live'
  cases waits

/-- A request is sent under a key that none is in flight under. -/
theorem request (orderly : Orderly loop records closer acting) (asked : PageRequest)
    (free : ∀ other, records.inFlight.lookup asked.query.key = some other → loop.isLive other = false) :
    Orderly (loop.spawn (.request asked .unsent) [.strike]).2 (records.request asked.query.key loop.tasks.length)
      closer acting := by
  refine orderly.spawn (fun other task live fit => fit.setRecords (fun kept has => has.request fun twin aims same => ?_)
    fun lists => ?_) ?_ fun other lists => ?_
  · have unfinished := Loop.isLive_of_live? live
    rw [aims, Records.Has, same] at has
    rw [free other has] at unfinished
    cases unfinished
  · rcases Records.lists_request lists with rfl | before
    · exact absurd (Loop.lt_length_of_live? live) (Nat.lt_irrefl _)
    · exact before
  · exact {
      native := rfl
      closing := nofun
      cancelled := nofun
      hanging := nofun
      recorded := fun _ => (Records.lookup_request _ _ _ _).trans (if_pos rfl)
      listed := fun _ => nofun
      watched := nofun
      watchers := fun watcher inside => Or.inl (List.mem_singleton.mp inside) }
  · rcases Records.lists_request lists with rfl | before
    · exact Nat.le_refl _
    · exact Nat.le_of_lt (orderly.listed other before)

/-- The service is closed when no fetch goes on that was not cancelled. -/
theorem clear (orderly : Orderly loop records closer acting) (calm : loop.Calm) :
    Orderly loop .empty closer acting := by
  refine orderly.setRecords (fun other task live fit => fit.setRecords (fun kept _ => ?_) fun lists =>
    absurd lists Records.not_lists_empty) fun _ lists => absurd lists Records.not_lists_empty
  by_cases aims : task.job.aim = .other
  · rw [aims]
    trivial
  · cases kept.symm.trans (calm live aims)

/-- Work keeps order, and closing does if it goes on only after all fetches were cancelled. -/
theorem works (orderly : Orderly loop records closer (some id)) (live : loop.live? id = some task)
    (kept : task.cancelled = false)
    (calm : ∀ engine, task.job = .close (.gathered engine) → loop.Calm)
    (works : Works loop records id task.job after later) : Orderly after later closer none := by
  have fit := orderly.fit live
  cases works with
  | ends => exact orderly.finish live .done
  | sleeps aims hangs same still =>
    obtain ⟨asleep, wait, found⟩ := orderly.sleep live kept hangs _
    exact asleep.setJob found aims same fun hangs => nomatch still.symm.trans hangs
  | @hangs call next aims hangs same =>
    obtain ⟨waiting, found⟩ := orderly.await live kept hangs call
    exact waiting.setJob found aims same fun _ => ⟨call, rfl⟩
  | stays hangs =>
    obtain ⟨call, waits⟩ := fit.hanging kept hangs
    have aims : task.job.aim ≠ .other := fun aims => nomatch (Job.hangs_of_aim aims).symm.trans hangs
    have resting : Orderly loop records closer none := orderly.rest fun task' live' ready => by
      cases live.symm.trans live'
      cases waits.symm.trans ready
    exact resting.setJob live aims rfl fun _ => ⟨call, waits⟩
  | sends _ free =>
    exact (orderly.request _ free).finish (Loop.live?_spawn _ _ live) .done
  | waits idle _ lists =>
    exact (orderly.awaitAll live kept (by rw [idle]; rfl) fun other inside => (lists other inside).1).1
  | @cancels fetches engine closes _ lists =>
    have apart : ∀ other ∈ fetches, other ≠ id := by
      rintro _ inside rfl
      exact fit.listed ((lists _).mp inside).1 (by rw [closes]; rfl)
    have found := (Loop.live?_cancelAll_of_ne apart).trans live
    obtain ⟨waiting, watching⟩ := (orderly.cancelAll fetches).awaitAll found kept (by rw [closes]; rfl)
      fun other inside => ((lists other).mp inside).1
    refine waiting.modify (fun _ => rfl) (fun task' live' => ?_) fun task' live' waits => waiting.prompt live' waits
    cases watching.symm.trans live'
    exact (waiting.fit watching).proceed closes
  | closes closes =>
    refine Orderly.clear (orderly.finish live .done) fun live' aims => ?_
    obtain ⟨_, before⟩ := Loop.live?_finish_cases live live'
    rcases closes with ⟨_, ended⟩ | gathered
    · by_contra uncancelled
      have unfinished := Loop.isLive_of_live? before
      have has := (orderly.fit before).recorded (Bool.not_eq_true _ ▸ uncancelled)
      rw [ended _ (has.lists aims)] at unfinished
      cases unfinished
    · exact calm _ gathered before aims

/-- A task that waited for a timer or for others is ready to go on. -/
theorem wake (orderly : Orderly loop records closer none) (found : loop.tasks[id]? = some task)
    (waits : ∀ call, task.wait ≠ .answer call) :
    Orderly ((loop.enqueue [.run id]).modifyTask id fun task => { task with wait := .turn }) records closer none := by
  have queued := orderly.enqueue (List.getElem?_eq_some_iff.mp found).1
  refine queued.modify (fun _ => rfl) (fun task' live' => ?_) fun _ _ _ =>
    Or.inr (List.mem_append_right _ (List.mem_singleton.mpr rfl))
  have fit := queued.fit live'
  cases found.symm.trans (Loop.live?_eq_some_iff.mp live').1
  refine { fit with cancelled := fun _ => rfl, hanging := fun kept hangs => ?_ }
  obtain ⟨call, same⟩ := fit.hanging kept hangs
  exact absurd same (waits call)

theorem count (orderly : Orderly loop records closer acting) (found : loop.tasks[id]? = some task) {left : Nat}
    (waits : task.wait = .others (left + 2)) :
    Orderly (loop.modifyTask id fun task => { task with wait := .others (left + 1) }) records closer acting := by
  refine orderly.modify (fun _ => rfl) (fun task' live' => ?_) fun _ _ same => Wait.noConfusion same
  have fit := orderly.fit live'
  cases found.symm.trans (Loop.live?_eq_some_iff.mp live').1
  refine { fit with
    cancelled := fun cancelled => nomatch waits.symm.trans (fit.cancelled cancelled)
    hanging := fun kept hangs => ?_ }
  obtain ⟨call, same⟩ := fit.hanging kept hangs
  cases waits.symm.trans same

theorem strike (orderly : Orderly loop records closer acting) (ended : ∃ outcome, loop.outcome? id = some outcome) :
    Orderly loop (records.strike id) closer acting := by
  obtain ⟨outcome, ended⟩ := ended
  refine orderly.setRecords (fun other task live fit => fit.setRecords (fun _ has => has.strike ?_)
    Records.lists_strike) fun _ => Records.lists_strike
  rintro rfl
  have unfinished := Loop.isLive_of_live? live
  rw [Loop.isLive_of_outcome? ended] at unfinished
  cases unfinished

/-- A turn keeps order. -/
theorem turned (orderly : Orderly loop records closer none) {turn : Turn} {rest : List Turn}
    (taken : loop.ready.Perm (turn :: rest))
    (calm : ∀ id task engine, loop.live? id = some task → task.job = .close (.gathered engine) → loop.Calm)
    (turned : Turned { loop with ready := rest } records turn after later) : Orderly after later closer none := by
  have acting (next : Option TaskId) (runs : ∀ id, turn = .run id → next = some id) :
      Orderly { loop with ready := rest } records closer next := by
    refine orderly.setReady rfl (fun id ahead => ?_) fun other inside =>
      Or.inl (taken.mem_iff.mpr (List.mem_cons_of_mem turn inside))
    rcases ahead with same | inside
    · cases same
    · rcases List.mem_cons.mp (taken.mem_iff.mp inside) with same | left
      · exact Or.inl (runs id same.symm)
      · exact Or.inr left
  have first : turn ∈ loop.ready := taken.mem_iff.mpr List.mem_cons_self
  cases turned with
  | nothing ended _ =>
    cases turn with
    | run id =>
      refine (acting (some id) fun _ same => congrArg some (Turn.run.inj same)).rest fun task live => ?_
      cases (ended id rfl).symm.trans live
    | elapse id => exact acting none nofun
    | count id => exact acting none nofun
    | strike id => exact acting none nofun
  | ends live _ => exact (acting _ fun _ same => congrArg some (Turn.run.inj same)).finish live .cancelled
  | works live kept works =>
    exact (acting _ fun _ same => congrArg some (Turn.run.inj same)).works live kept
      (fun engine gathered => calm _ _ engine live gathered) works
  | wakes found cause =>
    refine (acting none fun id same => ?_).wake found fun call waits => ?_
    · rcases cause with ⟨elapses, _⟩ | ⟨counts, _⟩
      · cases elapses.symm.trans same
      · cases counts.symm.trans same
    · rcases cause with ⟨_, timer⟩ | ⟨_, others⟩
      · cases timer.symm.trans waits
      · cases others.symm.trans waits
  | counts found waits => exact (acting none nofun).count found waits
  | strikes id => exact (acting none nofun).strike (orderly.struck id first)

end Works

end Orderly

end QueryCompletion
