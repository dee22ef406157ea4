import QueryCompletion.Proofs.Session.Clearing
import QueryCompletion.Proofs.Session.Fetching
import QueryCompletion.Proofs.Session.Host
import QueryCompletion.Proofs.Session.Installation

/-!
Closing the value service. It comes to its end, and no fetch goes on then; but an entry that was marked as being
loaded when closing began keeps its mark.
-/

namespace QueryCompletion

open Loop (Advances Aside Fewer)

namespace Session

/-- Closing has been called and has its first turn ahead. -/
structure Called (closer : TaskId) (session : Session) : Prop where
  orderly : Orderly session.loop session.records (some closer) none
  live : session.loop.live? closer = some { job := .close (.service false) }
  debt : session.loop.debt closer = 0
  runs : session.loop.ready.count (.run closer) = 1

/-- What a turn does after closing has taken its first one. -/
structure Clears (closer : TaskId) (next : Turn) (left fewer : Nat) (before after : Loop Job) : Prop where
  below : fewer ≤ left
  fetches : Fewer before after
  ended : ∀ id task, next = .run id → before.live? id = some task → task.cancelled = true → after.live? id = none
  told : next = .count closer → 1 < left → fewer < left
  ends : next = .run closer → left = 1 → fewer = 0

/-- Closing has taken its first turn, and the cache is as it was then. -/
structure Clearing (closer : TaskId) (cache : Cache Text ValueEntry) (left : Nat) (session : Session) : Prop where
  orderly : Orderly session.loop session.records (some closer) none
  calm : session.loop.Calm
  cache : session.service.cache = cache
  stage : Ending closer session.loop session.records left

variable {session : Session} {closer : TaskId} {cache : Cache Text ValueEntry} {left : Nat} {next : Turn}
  {rest front behind : List Turn}

/-- When all fetches that go on were cancelled no turn changes the cache. -/
theorem turn_cache (native : ∀ {id task}, session.loop.live? id = some task → task.job.isNative = true)
    (calm : session.loop.Calm) (turn : Turn) : (session.turn turn).service.cache = session.service.cache := by
  cases turn with
  | run id =>
    show (session.taskTurn id).service.cache = _
    rcases session.taskTurn_cases id with ⟨_, same⟩ | ⟨task, live, ⟨_, ends⟩ | ⟨kept, works⟩⟩
    · rw [same]
    · rw [ends]
      rfl
    · rw [works]
      have aims : task.job.aim = .other := by
        by_contra fetches
        cases kept.symm.trans (calm live fetches)
      have native := native live
      generalize task.job = job at aims native
      cases job with
      | debounce query loadMore waited => cases aims
      | request asked stage => cases aims
      | schema url stage => cases native
      | idle =>
        show (session.idleTurn id).service.cache = _
        unfold idleTurn
        split <;> rfl
      | close stage => exact session.closeTurn_cache id stage
  | elapse id => rfl
  | count id => rfl
  | strike id => rfl

/-- The ready turns are taken from the front, and others are put behind them. -/
theorem run_front {I : List Turn → Session → Prop}
    (native : ∀ {front session}, I front session →
      ∀ {id task}, session.loop.live? id = some task → task.job.isNative = true)
    (step : ∀ {next front rest session}, I (next :: front) session → session.loop.ready = next :: rest →
      I front ((session.withLoop { session.loop with ready := rest }).turn next))
    (begun : I front session) (ahead : front ++ behind <+: session.loop.ready) :
    I [] (run front.length session) ∧ behind <+: (run front.length session).loop.ready := by
  induction front generalizing session with
  | nil => exact ⟨begun, ahead⟩
  | cons next front ih =>
    obtain ⟨added, split⟩ := ahead
    have taken : session.loop.ready = next :: (front ++ behind ++ added) := split.symm
    have turned := turned_turn (session.withLoop { session.loop with ready := front ++ behind ++ added }) next
      fun _ _ _ live => native begun live
    have stepped : session.step? =
        some ((session.withLoop { session.loop with ready := front ++ behind ++ added }).turn next) := by
      rw [step?, taken]
    rw [List.length_cons, run, stepped]
    exact ih (step begun taken) ((List.prefix_append _ added).trans turned.advances.ready)

theorem run_of_unready (unready : session.loop.ready = []) (fuel : Nat) : run fuel session = session := by
  cases fuel with
  | zero => rfl
  | succ fuel => rw [run, step?, unready]

theorem run_add (first second : Nat) (session : Session) :
    run (first + second) session = run second (run first session) := by
  induction first generalizing session with
  | zero => rw [Nat.zero_add, run]
  | succ first ih =>
    cases ready : session.loop.ready with
    | nil => rw [run_of_unready ready, run_of_unready ready, run_of_unready ready]
    | cons next rest =>
      rw [Nat.add_right_comm, run, run, step?, ready]
      exact ih _

/-- Nothing is gathered yet. -/
theorem Called.calm (called : Called closer session) (id : TaskId) (task : Task Job) (engine : Bool)
    (live : session.loop.live? id = some task) (gathers : task.job = .close (.gathered engine)) :
    session.loop.Calm := by
  cases (called.orderly.fit live).closing _ gathers
  cases called.live.symm.trans live
  cases gathers

/-- A turn that is not the closing task's leaves closing ahead. -/
theorem Called.turn (called : Called closer session) (taken : session.loop.ready = next :: rest)
    (differs : next.taker? ≠ some closer) :
    Called closer ((session.withLoop { session.loop with ready := rest }).turn next) := by
  have orderly := orderly_turn called.orderly (.of_eq taken) called.calm
  have turned := turned_turn (session.withLoop { session.loop with ready := rest }) next
    fun id task _ live => (called.orderly.fit live).native
  have aside := (Aside.take taken differs).trans (turned.aside called.orderly taken differs
    (Loop.lt_length_of_live? called.live) (called.orderly.unlisted called.live rfl) fun task found => by
      cases (Loop.live?_eq_some_iff.mp called.live).1.symm.trans found
      exact nofun)
  exact ⟨orderly, aside.live.trans called.live, aside.debt.trans called.debt, aside.runs.trans called.runs⟩

theorem Called.closes (called : Called closer session) (taken : session.loop.ready = .run closer :: rest) :
    ∃ left, Clearing closer session.service.cache left
      ((session.withLoop { session.loop with ready := rest }).turn (.run closer)) := by
  have orderly := orderly_turn called.orderly (.of_eq taken) called.calm
  have turned := turned_turn (session.withLoop { session.loop with ready := rest }) (.run closer)
    fun id task _ live => (called.orderly.fit live).native
  obtain ⟨calm, left, stage⟩ := turned.begins called.orderly called.live called.debt called.runs taken
  refine ⟨left, orderly, calm, ?_, stage⟩
  have live : (session.withLoop { session.loop with ready := rest }).loop.live? closer = _ := called.live
  show (taskTurn _ closer).service.cache = _
  rw [taskTurn_of_live? live rfl]
  exact closeTurn_cache _ closer (.service false)

theorem Clearing.turn (clearing : Clearing closer cache left session) (taken : session.loop.ready = next :: rest) :
    ∃ fewer, Clearing closer cache fewer ((session.withLoop { session.loop with ready := rest }).turn next) ∧
      Clears closer next left fewer session.loop
        ((session.withLoop { session.loop with ready := rest }).turn next).loop := by
  have orderly := orderly_turn clearing.orderly (.of_eq taken) fun _ _ _ _ _ => clearing.calm
  have turned := turned_turn (session.withLoop { session.loop with ready := rest }) next
    fun id task _ live => (clearing.orderly.fit live).native
  have native {id : TaskId} {task : Task Job}
      (live : (session.withLoop { session.loop with ready := rest }).loop.live? id = some task) :
      task.job.isNative = true := (clearing.orderly.fit live).native
  have fetches := turned.fewer clearing.calm
  obtain ⟨fewer, below, stage, told, ends⟩ := clearing.stage.proceeds clearing.orderly clearing.calm taken turned
  refine ⟨fewer, ⟨orderly, fetches.calm clearing.calm, (turn_cache native clearing.calm next).trans clearing.cache,
    stage⟩, below, ⟨fetches.earlier⟩, fun id task same live => ?_, told, ends⟩
  subst same
  exact turned.ended live

theorem Clearing.started (clearing : Clearing closer cache left session) :
    Clearing closer cache left (session.withLoop session.loop.startRound) := by
  have stage := clearing.stage.keep (Aside.startRound closer session.loop) (.refl _)
  exact ⟨orderly_startRound clearing.orderly, clearing.calm, clearing.cache, stage⟩

theorem Called.started (called : Called closer session) :
    Called closer (session.withLoop session.loop.startRound) := by
  have aside := Aside.startRound closer session.loop
  exact ⟨orderly_startRound called.orderly, aside.live.trans called.live, aside.debt.trans called.debt,
    aside.runs.trans called.runs⟩

/-- All ready turns are taken. -/
theorem run_all {I : List Turn → Session → Prop}
    (native : ∀ {front session}, I front session →
      ∀ {id task}, session.loop.live? id = some task → task.job.isNative = true)
    (step : ∀ {next front rest session}, I (next :: front) session → session.loop.ready = next :: rest →
      I front ((session.withLoop { session.loop with ready := rest }).turn next))
    (begun : I front session) (ahead : front <+: session.loop.ready) : I [] (run front.length session) := by
  have whole : front ++ [] <+: session.loop.ready := front.append_nil.symm ▸ ahead
  exact (run_front (I := I) native step begun whole).1

/-- A round after the first turn of closing. -/
theorem Clearing.round {J : List Turn → Nat → Loop Job → Prop} (clearing : Clearing closer cache left session)
    (begun : J session.loop.startRound.ready left session.loop.startRound)
    (step : ∀ {next front left fewer before after}, J (next :: front) left before → before.Calm →
      Clears closer next left fewer before after → J front fewer after) :
    ∃ fewer, Clearing closer cache fewer session.round ∧ J [] fewer session.round.loop := by
  refine run_all (I := fun front session => ∃ left, Clearing closer cache left session ∧ J front left session.loop)
    ?_ ?_ ⟨left, clearing.started, begun⟩ List.prefix_rfl
  · rintro front session ⟨left, clearing, _⟩ id task live
    exact (clearing.orderly.fit live).native
  · rintro next front rest session ⟨left, clearing, holds⟩ taken
    obtain ⟨fewer, later, clears⟩ := clearing.turn taken
    exact ⟨fewer, later, step holds clearing.calm clears⟩

/-- A cancelled fetch has its last turn ahead. -/
theorem Clearing.ahead (clearing : Clearing closer cache left session) {id : TaskId} {task : Task Job}
    (live : session.loop.live? id = some task) (aims : task.job.aim ≠ .other) : .run id ∈ session.loop.ready := by
  have waits := (clearing.orderly.fit live).cancelled (clearing.calm live aims)
  exact (clearing.orderly.prompt live waits).resolve_left nofun

/-- When no fetch goes on closing is about to be told of all ends that it waits for. -/
theorem Clearing.told (clearing : Clearing closer cache left session) (spent : session.loop.Spent) :
    left ≤ session.loop.ready.count (.count closer) + 1 := by
  have stage := clearing.stage
  cases stage with
  | gathering live debt runs =>
    have free : session.loop.owed closer = 0 := by
      refine Loop.owed_eq_zero fun {other task} live => ?_
      rw [(clearing.orderly.fit live).watched (spent live)]
      exact List.not_mem_nil
    rw [Loop.debt, free] at debt
    omega
  | gathered => omega
  | closed => omega

/-- When closing has been told of all ends it has its last turn ahead. -/
theorem Clearing.due (clearing : Clearing closer cache left session) (last : left ≤ 1) :
    left ≤ session.loop.ready.count (.run closer) := by
  have stage := clearing.stage
  cases stage with
  | gathering => omega
  | gathered live =>
    exact List.count_pos_iff.mpr ((clearing.orderly.prompt live rfl).resolve_left nofun)
  | closed => exact Nat.zero_le _

/-- In a round all cancelled fetches end. -/
theorem Clearing.spend (clearing : Clearing closer cache left session) :
    ∃ fewer, Clearing closer cache fewer session.round ∧ session.round.loop.Spent := by
  obtain ⟨fewer, later, none⟩ := clearing.round (J := fun front _ loop =>
      ∀ id task, loop.live? id = some task → task.job.aim ≠ .other → .run id ∈ front)
    (fun id task live aims => clearing.started.ahead live aims)
    fun {next _ _ _ _ _} holds calm clears id task live aims => by
      obtain ⟨old, before, fetches, _⟩ := clears.fetches.earlier live aims
      rcases List.mem_cons.mp (holds id old before fetches) with same | later
      · cases live.symm.trans (clears.ended id old same.symm before (calm before fetches))
      · exact later
  refine ⟨fewer, later, fun {id task} live => ?_⟩
  by_contra aims
  cases none id task live aims

/-- In a round closing is told of all ends. -/
theorem Clearing.tell (clearing : Clearing closer cache left session) (spent : session.loop.Spent) :
    ∃ fewer ≤ 1, Clearing closer cache fewer session.round ∧ session.round.loop.Spent := by
  obtain ⟨fewer, later, spent, told⟩ := clearing.round (J := fun front left loop =>
      loop.Spent ∧ left ≤ front.count (.count closer) + 1) ⟨spent, clearing.started.told spent⟩
    fun {next front left fewer _ _} holds _ clears => by
      refine ⟨clears.fetches.spent holds.1, ?_⟩
      have before := holds.2
      have below := clears.below
      by_cases same : next = .count closer
      · rw [same, List.count_cons_self] at before
        have told := clears.told same
        omega
      · rw [List.count_cons_of_ne same] at before
        omega
  exact ⟨fewer, told, later, spent⟩

/-- In a round closing ends. -/
theorem Clearing.close (clearing : Clearing closer cache left session) (spent : session.loop.Spent)
    (last : left ≤ 1) : Clearing closer cache 0 session.round ∧ session.round.loop.Spent := by
  obtain ⟨fewer, later, spent, _, ended⟩ := clearing.round (J := fun front left loop =>
      loop.Spent ∧ left ≤ 1 ∧ left ≤ front.count (.run closer)) ⟨spent, last, clearing.started.due last⟩
    fun {next front left fewer _ _} holds _ clears => by
      obtain ⟨spent, last, due⟩ := holds
      have below := clears.below
      refine ⟨clears.fetches.spent spent, by omega, ?_⟩
      by_cases same : next = .run closer
      · have ends := clears.ends same
        omega
      · rw [List.count_cons_of_ne same] at due
        omega
  cases Nat.le_zero.mp ended
  exact ⟨later, spent⟩

/-- Closing has ended, and no fetch goes on. -/
structure Closed (closer : TaskId) (cache : Cache Text ValueEntry) (session : Session) : Prop where
  clearing : Clearing closer cache 0 session
  spent : session.loop.Spent

/-- When nothing is ready closing has ended. -/
theorem Clearing.closed (clearing : Clearing closer cache left session) (unready : session.loop.ready = []) :
    Closed closer cache session := by
  have spent : session.loop.Spent := by
    intro id task live
    by_contra aims
    have ahead := clearing.ahead live aims
    rw [unready] at ahead
    cases ahead
  have told := clearing.told spent
  rw [unready] at told
  have due := clearing.due told
  rw [unready] at due
  cases Nat.le_zero.mp due
  exact ⟨clearing, spent⟩

theorem settleWithin_closed {fuel : Nat} (unready : session.loop.ready = [] → Closed closer cache session)
    (goes : Closed closer cache (settleWithin fuel session.round)) :
    Closed closer cache (settleWithin (fuel + 1) session) := by
  rw [settleWithin]
  split
  · rename_i empty
    exact unready (List.isEmpty_iff.mp empty)
  · exact goes

theorem Closed.settleWithin (closed : Closed closer cache session) (fuel : Nat) :
    Closed closer cache (settleWithin fuel session) := by
  induction fuel generalizing session with
  | zero => exact closed
  | succ fuel ih =>
    obtain ⟨clearing, spent⟩ := closed.clearing.close closed.spent (Nat.zero_le 1)
    exact settleWithin_closed (fun _ => closed) (ih ⟨clearing, spent⟩)

/-- Three rounds after its first turn closing has ended. -/
theorem Clearing.settleWithin (clearing : Clearing closer cache left session) (fuel : Nat) :
    Closed closer cache (Session.settleWithin (fuel + 3) session) := by
  obtain ⟨_, spends, spent⟩ := clearing.spend
  obtain ⟨_, last, tells, still⟩ := spends.tell spent
  obtain ⟨ends, empty⟩ := tells.close still last
  exact settleWithin_closed clearing.closed (settleWithin_closed spends.closed (settleWithin_closed tells.closed
    (Closed.settleWithin ⟨ends, empty⟩ fuel)))

/-- The round in which closing takes its first turn. -/
theorem Called.round (called : Called closer session) (ready : session.loop.ready = front ++ [.run closer])
    (others : ∀ turn ∈ front, turn.taker? ≠ some closer) :
    ∃ left, Clearing closer (run front.length (session.withLoop session.loop.startRound)).service.cache left
      session.round := by
  obtain ⟨due, split⟩ : ∃ due, session.loop.startRound.ready = front ++ .run closer :: due :=
    ⟨_, (congrArg (· ++ _) ready).trans (List.append_assoc _ _ _)⟩
  have ahead : front ++ .run closer :: due <+: (session.withLoop session.loop.startRound).loop.ready :=
    ⟨[], (List.append_nil _).trans split.symm⟩
  obtain ⟨⟨reached, _⟩, behind⟩ := run_front (I := fun front session => Called closer session ∧
      ∀ turn ∈ front, turn.taker? ≠ some closer) (fun holds _ _ live => (holds.1.orderly.fit live).native)
    (fun holds taken => ⟨holds.1.turn taken (holds.2 _ List.mem_cons_self), fun turn inside =>
      holds.2 turn (List.mem_cons_of_mem _ inside)⟩) ⟨called.started, others⟩ ahead
  generalize atClose : run front.length (session.withLoop session.loop.startRound) = first at reached behind ⊢
  obtain ⟨added, same⟩ := behind
  have taken : first.loop.ready = .run closer :: (due ++ added) := same.symm
  have round : session.round = run due.length
      ((first.withLoop { first.loop with ready := due ++ added }).turn (.run closer)) := by
    have length : session.loop.startRound.ready.length = front.length + (due.length + 1) := by
      rw [split, List.length_append, List.length_cons]
    show run session.loop.startRound.ready.length _ = _
    rw [length, run_add, atClose, run, step?, taken]
  rw [round]
  refine run_all (I := fun _ session => ∃ left, Clearing closer first.service.cache left session) ?_ ?_
    (reached.closes taken) ?_
  · rintro _ session ⟨left, clearing⟩ id task live
    exact (clearing.orderly.fit live).native
  · rintro next front rest session ⟨left, clearing⟩ taken
    obtain ⟨fewer, later, _⟩ := clearing.turn taken
    exact ⟨fewer, later⟩
  · have turned := turned_turn (first.withLoop { first.loop with ready := due ++ added }) (.run closer)
      fun _ _ _ live => (reached.orderly.fit live).native
    exact (List.prefix_append due added).trans turned.advances.ready

/-- The session with closing called. -/
def calling (session : Session) : Session :=
  session.withLoop (session.loop.spawn (.close (.service false)) []).2

/-- The session when closing takes its first turn. -/
def atClose (session : Session) : Session :=
  run session.loop.ready.length (session.calling.withLoop session.calling.loop.startRound)

/-- No ready turn is one of a task that is not there yet. -/
theorem taker?_ne_length {records : Records} {acting other : Option TaskId}
    (orderly : Orderly session.loop records other acting) {turn : Turn} (inside : turn ∈ session.loop.ready) :
    turn.taker? ≠ some session.loop.tasks.length :=
  fun own => Nat.lt_irrefl _ (orderly.known turn inside _ own)

theorem called_calling (orderly : Orderly session.loop session.records none none) :
    Called session.loop.tasks.length session.calling := by
  have absent : Turn.count session.loop.tasks.length ∉ session.loop.ready ∧
      Turn.run session.loop.tasks.length ∉ session.loop.ready :=
    ⟨fun inside => taker?_ne_length orderly inside rfl, fun inside => taker?_ne_length orderly inside rfl⟩
  have appointed : Orderly session.loop session.records (some session.loop.tasks.length) none :=
    { orderly with fit := fun live => { orderly.fit live with
        closing := fun stage closes => nomatch (orderly.fit live).closing stage closes } }
  refine ⟨appointed.spawnOther rfl rfl fun _ _ => rfl, session.loop.live?_spawn_self _ _, ?_, ?_⟩
  · have owed : (session.loop.spawn (.close (.service false)) []).2.owed session.loop.tasks.length = 0 := by
      refine Loop.owed_eq_zero fun {other task} live told => ?_
      rcases Loop.live?_spawn_cases live with ⟨_, rfl⟩ | before
      · cases told
      · rcases (orderly.fit before).watchers _ told with same | ⟨waiter, bound, same⟩
        · cases same
        · cases same
          exact Nat.lt_irrefl _ bound
    show (session.loop.ready ++ _).count _ + (session.loop.spawn (.close (.service false)) []).2.owed _ = 0
    rw [List.count_append, List.count_eq_zero.mpr absent.1, owed]
    simp
  · show (session.loop.ready ++ _).count _ = 1
    rw [List.count_append, List.count_eq_zero.mpr absent.2]
    simp

theorem potential_ge (session : Session) : 16 ≤ session.potential := by
  unfold potential
  have positive : 1 ≤ 2 * session.loop.tasks.length + session.loop.ready.length + 1 := by omega
  exact Nat.le_trans (Nat.le_mul_of_pos_right 16 positive) (Nat.le_mul_of_pos_right _ positive)

/-- Closing comes to its end without a move of the clock. -/
theorem closed_settle (orderly : Orderly session.loop session.records none none) :
    Closed session.loop.tasks.length session.atClose.service.cache session.calling.settle := by
  have called := called_calling orderly
  obtain ⟨fuel, same⟩ := Nat.exists_eq_add_of_le' (Nat.le_trans (by decide : 4 ≤ 16) session.calling.potential_ge)
  obtain ⟨left, clearing⟩ := called.round rfl fun turn inside => taker?_ne_length orderly inside
  rw [settle, same]
  refine settleWithin_closed (fun unready => ?_) (clearing.settleWithin fuel)
  have ahead := called.runs
  rw [unready] at ahead
  cases ahead

theorem Closed.outcome (closed : Closed closer cache session) :
    session.loop.outcome? closer = some .done ∧ session.records = .empty := by
  have stage := closed.clearing.stage
  cases stage with
  | closed ended none => exact ⟨ended, none⟩

theorem complete_close (orderly : Orderly session.loop session.records none none) :
    (session.complete (.close (.service false))).1 = some .done ∧
      Closed session.loop.tasks.length session.atClose.service.cache
        (session.complete (.close (.service false))).2 := by
  have settled := closed_settle orderly
  obtain ⟨fuel, same⟩ := Nat.exists_eq_add_of_le' (Nat.le_trans (by decide : 1 ≤ 16) session.calling.potential_ge)
  have ended : runUntil session.loop.tasks.length session.calling.potential session.calling =
      session.calling.settle := by
    rw [same, runUntil, Loop.isLive_of_outcome? settled.outcome.1, if_neg Bool.false_ne_true]
  show (runUntil _ session.calling.potential session.calling).loop.outcome? _ = _ ∧
    Closed _ _ (runUntil _ session.calling.potential session.calling)
  rw [ended]
  exact ⟨settled.outcome.1, settled⟩

/-- When closing has ended no task closes the service. -/
theorem Closed.released (closed : Closed closer cache session) :
    Orderly session.loop session.records none none := by
  have orderly := closed.clearing.orderly
  refine { orderly with fit := fun {id task} live => { orderly.fit live with closing := fun stage closes => ?_ } }
  cases (orderly.fit live).closing stage closes
  have unfinished := Loop.isLive_of_live? live
  rw [Loop.isLive_of_outcome? closed.outcome.1] at unfinished
  cases unfinished

theorem orderly_heed (orderly : Orderly session.loop session.records none none) (event : HostEvent) :
    Orderly (session.heed event).loop (session.heed event).records none none := by
  cases event with
  | passing event => exact orderly_after orderly event
  | running running => exact orderly.setReady rfl (fun _ same => same) fun _ => Or.inl
  | address url => exact orderly
  | cached use => exact orderly
  | waiting => exact orderly.spawnOther rfl rfl nofun
  | closing => exact (complete_close orderly).2.released

theorem orderly_foldl (orderly : Orderly session.loop session.records none none) (events : List HostEvent) :
    Orderly (events.foldl heed session).loop (events.foldl heed session).records none none := by
  induction events generalizing session with
  | nil => exact orderly
  | cons event events ih => exact ih (orderly_heed orderly event)

theorem valuesLoading_of_empty (none : session.records = .empty) : session.valuesLoading = false := by
  obtain ⟨inFlight, pending⟩ := Records.mk.inj none
  rw [valuesLoading, unfinishedFetches, inFlight, pending]
  rfl

/-- With nothing on record values are on their way after a load was asked for exactly if it was scheduled. -/
theorem scheduleLoad_eq_valuesLoading (none : session.records = .empty) (query : ValueQuery) (loadMore : Bool) :
    (session.scheduleLoad query loadMore).1 = (session.scheduleLoad query loadMore).2.valuesLoading := by
  unfold scheduleLoad
  split
  · have live := Loop.isLive_of_live? (session.cancelPending.loop.live?_spawn_self (.debounce query loadMore false) [])
    have inFlight : session.cancelPending.service.inFlight = [] := (Records.mk.inj none).1
    unfold valuesLoading unfinishedFetches
    dsimp only
    rw [inFlight]
    show true = !List.isEmpty ([] ++
      List.filter (Loop.isLive (Loop.spawn _ _ _).2) [session.cancelPending.loop.tasks.length])
    rw [List.filter_cons_of_pos live]
    rfl
  · exact (valuesLoading_of_empty none).symm

/-- After closing the values of a key are said to be on their way exactly if they are, unless its entry is
marked. -/
theorem Closed.valueOptions (closed : Closed closer cache session) (query : ValueQuery) (loadMore : Bool) :
    (session.valueOptions query loadMore).1.loading = (session.valueOptions query loadMore).2.valuesLoading ↔
      (cache.known query.key).loading = false := by
  let touched := { session with service := (session.service.lookUp query.key).2 }
  have none : touched.records = .empty := closed.outcome.2
  have known : (session.service.lookUp query.key).1 = cache.known query.key := by
    rw [← closed.clearing.cache]
    rfl
  unfold Session.valueOptions
  dsimp only
  rw [known]
  split
  · rename_i wants
    have unmarked : (cache.known query.key).loading = false := by
      rw [ValueEntry.wantsLoad, Bool.and_eq_true, Bool.not_eq_true'] at wants
      exact wants.1
    exact iff_of_true (scheduleLoad_eq_valuesLoading none query loadMore) unmarked
  · have quiet := valuesLoading_of_empty none
    exact Eq.congr_right quiet

/-- From every state closing the service comes to its end. No fetch waits or is in flight then, and none goes
on unrecorded. But closing clears no mark: the cache is as it was when closing took its first turn, and keys
whose entries were marked as being loaded then are said to be loading with nothing on its way. -/
theorem closing_keeps_marks (settings : Settings) (log : Log) (client : Client)
    (clientOwned listening running : Bool) (events : List HostEvent) :
    let session := events.foldl heed (opened settings log client clientOwned listening running)
    let closed := (session.complete (.close (.service false))).2
    (session.complete (.close (.service false))).1 = some .done ∧
      (closed.service.pending = none ∧ closed.service.inFlight = [] ∧ closed.valuesLoading = false) ∧
      (∀ id task, closed.loop.live? id = some task → task.job.aim = .other) ∧
      closed.service.cache = session.atClose.service.cache ∧
      ∀ query loadMore,
        (closed.valueOptions query loadMore).1.loading = (closed.valueOptions query loadMore).2.valuesLoading ↔
          (session.atClose.service.cache.known query.key).loading = false := by
  intro session closed
  have orderly := orderly_foldl (orderly_opened settings log client clientOwned listening running) events
  obtain ⟨done, ends⟩ := complete_close orderly
  have none := ends.outcome.2
  obtain ⟨inFlight, pending⟩ := Records.mk.inj none
  exact ⟨done, ⟨pending, inFlight, valuesLoading_of_empty none⟩, fun _ _ live => ends.spent live,
    ends.clearing.cache, fun query loadMore => ends.valueOptions query loadMore⟩

/-- A request in flight is cancelled when the service is closed, and its entry still says that it is being
loaded. -/
theorem closing_keeps_mark_of_cancelled :
    let query : ValueQuery := ⟨['m'], ['f'], []⟩
    let session := [.address (some "/api/"), .passing (.load query false), .passing (.turn 0)].foldl heed
      (opened {} [] (.scripted []) false true true)
    let closed := (session.complete (.close (.service false))).2
    session.valuesLoading = true ∧ closed.valuesLoading = false ∧
      closed.service.cache.entries = [(query.key, { loading := true })] ∧
      (closed.valueOptions query false).1.loading = true ∧
      (closed.valueOptions query false).2.valuesLoading = false := by
  decide +kernel

end Session

end QueryCompletion
