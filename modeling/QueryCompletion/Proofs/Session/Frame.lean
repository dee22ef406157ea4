import QueryCompletion.Proofs.Session.Tasks
import QueryCompletion.Proofs.Values.Pages

/-!
What the operations of a session come to, and what they leave as it is. Only a schema that is put in place changes
the schema, and only a call of the host makes another list; while a fetch is on its way all tasks go on as before, and
nothing changes but what was sent.
-/

namespace QueryCompletion

/-- The page that an answer brings. -/
def Answer.page? : Answer → Option ValuePage
  | .document json => (ValuePage.ofJson json).toOption
  | _ => none

/-- Names start from a declared model, if from any. -/
def Schema.Startable (schema : Schema) : Prop :=
  ∀ model, schema.currentModel = some model → schema.hasModel model = true

instance (schema : Schema) : Decidable schema.Startable :=
  decidable_of_iff (schema.currentModel.all schema.hasModel = true) (by simp [Schema.Startable, Option.all_eq_true])

namespace Session

/-- The session with a schema in all places. -/
def placing (session : Session) (schema : Schema) : Session :=
  { session with schema, resolver := schema, service := { session.service with apiUrl := schema.suggestionsUrl } }

/-- The settings and the places of the schema stay, and so do the list last offered and whether the host listens. -/
structure Frame (before after : Session) : Prop where
  settings : after.settings = before.settings
  enabled : after.enabled = before.enabled
  schema : after.schema = before.schema
  resolver : after.resolver = before.resolver
  apiUrl : after.service.apiUrl = before.service.apiUrl
  completion : after.completion = before.completion
  listening : after.listening = before.listening

/-- What a fetch does on its way: its call is sent and recorded, and its task gets on. -/
structure Onward (before after : Session) : Prop extends Frame before after where
  loop : Loop.Continues before.loop after.loop
  service : after.service = before.service
  updates : after.journal.updates = before.journal.updates
  log : after.journal.log = before.journal.log

variable {before after last : Session}

theorem Frame.refl (session : Session) : Frame session session := ⟨rfl, rfl, rfl, rfl, rfl, rfl, rfl⟩

theorem Frame.trans (first : Frame before after) (second : Frame after last) : Frame before last where
  settings := second.settings.trans first.settings
  enabled := second.enabled.trans first.enabled
  schema := second.schema.trans first.schema
  resolver := second.resolver.trans first.resolver
  apiUrl := second.apiUrl.trans first.apiUrl
  completion := second.completion.trans first.completion
  listening := second.listening.trans first.listening

theorem Onward.refl (session : Session) : Onward session session := ⟨.refl session, .refl _, rfl, rfl, rfl⟩

theorem Onward.trans (first : Onward before after) (second : Onward after last) : Onward before last where
  toFrame := first.toFrame.trans second.toFrame
  loop := first.loop.trans second.loop
  service := second.service.trans first.service
  updates := second.updates.trans first.updates
  log := second.log.trans first.log

theorem frame_withLoop (session : Session) (loop : Loop Job) : Frame session (session.withLoop loop) :=
  ⟨rfl, rfl, rfl, rfl, rfl, rfl, rfl⟩

theorem onward_withLoop (session : Session) {loop : Loop Job} (continues : Loop.Continues session.loop loop) :
    Onward session (session.withLoop loop) :=
  ⟨session.frame_withLoop loop, continues, rfl, rfl, rfl⟩

theorem frame_logError (session : Session) (message : String) : Frame session (session.logError message) :=
  ⟨rfl, rfl, rfl, rfl, rfl, rfl, rfl⟩

/-! Announcements. -/

theorem frame_announce (session : Session) (update : Update) : Frame session (session.announce update) := by
  unfold announce
  split <;> exact ⟨rfl, rfl, rfl, rfl, rfl, rfl, rfl⟩

@[simp] theorem announce_service (session : Session) (update : Update) :
    (session.announce update).service = session.service := by
  unfold announce
  split <;> rfl

@[simp] theorem announce_loop (session : Session) (update : Update) :
    (session.announce update).loop = session.loop := by
  unfold announce
  split <;> rfl

theorem announce_log (session : Session) (update : Update) :
    (session.announce update).journal.log = session.journal.log := by
  unfold announce
  split <;> rfl

/-! Fetches on their way. -/

theorem onward_call (session : Session) (url : Option String) (asked : Option PageRequest) :
    Onward session (session.call url asked).2 := by
  unfold call
  dsimp only
  split <;> exact ⟨⟨rfl, rfl, rfl, rfl, rfl, rfl, rfl⟩, .refl _, rfl, rfl, rfl⟩

theorem call_loop (session : Session) (url : Option String) (asked : Option PageRequest) :
    (session.call url asked).2.loop = session.loop := by
  unfold call
  dsimp only
  split <;> rfl

theorem onward_receive (session : Session) (id : TaskId) (url : Option String) (reply : Reply) :
    Onward session (session.receive id url reply).2 := by
  unfold receive
  split
  · exact .refl session
  · exact session.onward_withLoop (session.loop.continues_sleep id reply.delay)

theorem onward_fetchTurn (session : Session) (id : TaskId) (url : Option String) (asked : Option PageRequest)
    (stage : FetchStage) : Onward session (session.fetchTurn id url asked stage).2 := by
  cases stage with
  | unsent =>
    have called := session.onward_call url asked
    unfold fetchTurn
    dsimp only
    split
    · rename_i reply next same
      rw [same] at called
      exact called.trans (next.onward_receive id url reply)
    · rename_i next same
      rw [same] at called
      exact called.trans (next.onward_withLoop (next.loop.continues_setWait id _))
  | hanging sentTo => exact .refl session
  | received sentTo reply => exact session.onward_receive id sentTo reply
  | settled sentTo answer => exact .refl session

theorem onward_respond (session : Session) (call : Nat) (reply : Reply) :
    Onward session (session.respond call reply).2 := by
  unfold respond
  split
  · -- With the answer the fetch has come further; what it is for stays.
    refine session.onward_withLoop (.trans (Loop.continues_modifyTask fun task _ => ?_) (Loop.continues_run _ _))
    obtain ⟨job, wait, cancelled, watchers, outcome⟩ := task
    cases job with
    | request asked stage => cases stage <;> rfl
    | schema url stage => cases stage <;> rfl
    | debounce query loadMore waited => rfl
    | idle => rfl
    | close stage => rfl
  · exact .refl session

/-! The value service. -/

theorem frame_scheduleLoad (session : Session) (query : ValueQuery) (loadMore : Bool) :
    Frame session (session.scheduleLoad query loadMore).2 := by
  unfold scheduleLoad
  split <;> exact ⟨rfl, rfl, rfl, rfl, rfl, rfl, rfl⟩

theorem frame_valueOptions (session : Session) (query : ValueQuery) (loadMore : Bool) :
    Frame session (session.valueOptions query loadMore).2 := by
  have touched : Frame session { session with service := (session.service.lookUp query.key).2 } :=
    ⟨rfl, rfl, rfl, rfl, rfl, rfl, rfl⟩
  unfold valueOptions
  dsimp only
  split
  · exact touched.trans (frame_scheduleLoad _ query loadMore)
  · exact touched

theorem frame_loadPage (session : Session) (query : ValueQuery) (loadMore : Bool) :
    Frame session (session.loadPage query loadMore).2 := by
  unfold loadPage
  dsimp only
  split
  · exact .refl session
  split
  · exact ⟨rfl, rfl, rfl, rfl, rfl, rfl, rfl⟩
  split <;> exact ⟨rfl, rfl, rfl, rfl, rfl, rfl, rfl⟩

theorem frame_applyPage (session : Session) (key : Text) (page : ValuePage) :
    Frame session (session.applyPage key page).2 := by
  have address := congrArg ValueService.apiUrl (session.service.applyPage_eq key page)
  have merged : Frame session { session with service := (session.service.applyPage key page).2 } :=
    ⟨rfl, rfl, rfl, rfl, address, rfl, rfl⟩
  unfold applyPage
  dsimp only
  split
  · exact merged.trans (frame_announce _ _)
  · exact merged

theorem applyPage_service (session : Session) (key : Text) (page : ValuePage) :
    (session.applyPage key page).2.service = (session.service.applyPage key page).2 := by
  unfold applyPage
  dsimp only
  split
  · exact announce_service _ _
  · rfl

theorem applyPage_loop (session : Session) (key : Text) (page : ValuePage) :
    (session.applyPage key page).2.loop = session.loop := by
  unfold applyPage
  dsimp only
  split
  · exact announce_loop _ _
  · rfl

/-- An answer brings a page, or it is logged why it brings none. -/
theorem takePage_cases (session : Session) (asked : PageRequest) (url : Option String) (answer : Answer) :
    (∃ message, answer.page? = none ∧
        session.takePage asked url answer = session.failLoad asked.query.key message) ∨
      ∃ page, answer.page? = some page ∧
        session.takePage asked url answer = (session.applyPage asked.query.key page).2 := by
  cases answer with
  | refused reason => exact Or.inl ⟨_, rfl, rfl⟩
  | failed failure => exact Or.inl ⟨_, rfl, rfl⟩
  | document document =>
    unfold takePage Answer.page?
    dsimp only
    cases ValuePage.ofJson document with
    | error issues => exact Or.inl ⟨_, rfl, rfl⟩
    | ok page => exact Or.inr ⟨page, rfl, rfl⟩

theorem frame_takePage (session : Session) (asked : PageRequest) (url : Option String) (answer : Answer) :
    Frame session (session.takePage asked url answer) := by
  rcases session.takePage_cases asked url answer with ⟨message, _, failed⟩ | ⟨page, _, taken⟩
  · rw [failed]
    exact ⟨rfl, rfl, rfl, rfl, rfl, rfl, rfl⟩
  · rw [taken]
    exact session.frame_applyPage _ page

theorem takePage_loop (session : Session) (asked : PageRequest) (url : Option String) (answer : Answer) :
    (session.takePage asked url answer).loop = session.loop := by
  rcases session.takePage_cases asked url answer with ⟨message, _, failed⟩ | ⟨page, _, taken⟩
  · rw [failed]
    rfl
  · rw [taken]
    exact session.applyPage_loop _ page

/-! Schemas. -/

theorem install_of_startable {schema : Schema} (session : Session) (startable : schema.Startable) :
    session.install schema = .ok (session.placing schema) := by
  unfold install
  dsimp only
  split
  · rename_i model starts
    rw [if_pos (startable model starts)]
    rfl
  · rfl

theorem install_of_not_startable {schema : Schema} (session : Session) (unstartable : ¬schema.Startable) :
    ∃ problem, session.install schema = .error problem := by
  unfold install
  dsimp only
  split
  · rename_i model starts
    rw [if_neg]
    · exact ⟨_, rfl⟩
    · intro declared
      refine unstartable fun other same => ?_
      rw [starts, Option.some.injEq] at same
      rw [← same]
      exact declared
  · rename_i absent
    refine absurd (fun model starts => ?_) unstartable
    rw [absent] at starts
    cases starts

/-- An answer brings a schema that is put in place and announced, or it changes the log at most. -/
theorem takeSchema_cases (session : Session) (url : String) (answer : Answer) :
    (session.takeSchema url answer).2 = session ∨
      (∃ message, (session.takeSchema url answer).2 = session.logError message) ∨
      ∃ schema : Schema, schema.Startable ∧
        session.takeSchema url answer = (.answered true, (session.placing schema).announce .schema) := by
  unfold takeSchema
  dsimp only
  split
  · exact Or.inr (Or.inl ⟨_, rfl⟩)
  · exact Or.inl rfl
  split
  · exact Or.inr (Or.inl ⟨_, rfl⟩)
  split
  · exact Or.inl rfl
  rename_i located _
  by_cases startable : located.Startable
  · rw [session.install_of_startable startable]
    exact Or.inr (Or.inr ⟨located, startable, rfl⟩)
  · obtain ⟨problem, refused⟩ := session.install_of_not_startable startable
    rw [refused]
    exact Or.inr (Or.inl ⟨_, rfl⟩)

/-! Turns of tasks. -/

/-- A turn of closing lets its task wait, or ends closing. -/
theorem closeTurn_cases (session : Session) (id : TaskId) (stage : CloseStage) :
    (∃ loop, session.closeTurn id stage = session.withLoop loop) ∨
      ∃ engine, session.closeTurn id stage = session.closed id engine := by
  have closing (engine : Bool) : (∃ loop, session.closeServiceTurn id engine = session.withLoop loop) ∨
      ∃ other, session.closeServiceTurn id engine = session.closed id other := by
    unfold closeServiceTurn
    split
    · exact Or.inr ⟨engine, rfl⟩
    · exact Or.inl ⟨_, rfl⟩
  cases stage with
  | schema =>
    unfold closeTurn
    dsimp only
    split
    · split
      · exact Or.inl ⟨_, rfl⟩
      · exact closing true
    · exact closing true
  | service engine => exact closing engine
  | gathered engine => exact Or.inr ⟨engine, rfl⟩

/-- A turn of a task that fetches no schema. -/
theorem frame_jobTurn (session : Session) (id : TaskId) {job : Job} (other : ∀ url stage, job ≠ .schema url stage) :
    Frame session (session.jobTurn id job) := by
  cases job with
  | debounce query loadMore waited =>
    unfold jobTurn
    dsimp only
    split
    · exact ⟨rfl, rfl, rfl, rfl, rfl, rfl, rfl⟩
    · exact (session.frame_loadPage query loadMore).trans (frame_withLoop _ _)
  | request asked stage =>
    have fetched := session.onward_fetchTurn id session.service.apiUrl (some asked) stage
    unfold jobTurn
    dsimp only
    split
    · rename_i next after turned
      rw [turned] at fetched
      exact fetched.toFrame.trans (after.frame_withLoop _)
    · rename_i url answer after turned
      rw [turned] at fetched
      exact (fetched.toFrame.trans (after.frame_takePage asked url answer)).trans (frame_withLoop _ _)
  | schema url stage => exact absurd rfl (other url stage)
  | idle =>
    unfold jobTurn idleTurn
    dsimp only
    split <;> exact session.frame_withLoop _
  | close stage =>
    show Frame session (session.closeTurn id stage)
    rcases session.closeTurn_cases id stage with ⟨loop, waits⟩ | ⟨engine, ends⟩
    · rw [waits]
      exact session.frame_withLoop loop
    · rw [ends]
      exact ⟨rfl, rfl, rfl, rfl, rfl, rfl, rfl⟩

/-- A turn of a task that goes on with its job. -/
theorem taskTurn_of_live? {session : Session} {id : TaskId} {task : Task Job} (live : session.loop.live? id = some task)
    (kept : task.cancelled = false) : session.taskTurn id = session.jobTurn id task.job := by
  obtain ⟨found, unended⟩ := Loop.live?_eq_some_iff.mp live
  simp [taskTurn, found, unended, kept]

/-- A task that has ended does nothing, one that was cancelled ends, and any other goes on with its job. -/
theorem taskTurn_cases (session : Session) (id : TaskId) :
    session.loop.live? id = none ∧ session.taskTurn id = session ∨
      ∃ task, session.loop.live? id = some task ∧
        (task.cancelled = true ∧ session.taskTurn id = session.finish id .cancelled ∨
          task.cancelled = false ∧ session.taskTurn id = session.jobTurn id task.job) := by
  cases found : session.loop.tasks[id]? with
  | none => exact Or.inl ⟨by rw [Loop.live?, found]; rfl, by rw [taskTurn, found]⟩
  | some task =>
    cases ended : task.outcome with
    | some outcome => exact Or.inl ⟨by simp [Loop.live?, found, ended], by simp [taskTurn, found, ended]⟩
    | none =>
      have live := Loop.live?_eq_some_iff.mpr ⟨found, ended⟩
      refine Or.inr ⟨task, live, ?_⟩
      cases cancelled : task.cancelled with
      | true => exact Or.inl ⟨rfl, by simp [taskTurn, found, ended, cancelled]⟩
      | false => exact Or.inr ⟨rfl, taskTurn_of_live? live cancelled⟩

end Session

end QueryCompletion
