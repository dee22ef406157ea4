import QueryCompletion.Proofs.Session.Debts

/-!
How far closing the value service has come. With the first turn that closing takes all unfinished fetches are
cancelled, then it is told of the end of each, and with its second turn it ends.
-/

namespace QueryCompletion

namespace Loop

/-- No fetch goes on. -/
def Spent (loop : Loop Job) : Prop := ∀ {id task}, loop.live? id = some task → task.job.aim = .other

variable {before after loop : Loop Job} {id : TaskId} {turn : Turn} {rest : List Turn}

theorem Fewer.spent (fewer : Fewer before after) (spent : before.Spent) : after.Spent := by
  intro id task live
  by_contra aims
  obtain ⟨old, earlier, fetches, _⟩ := fewer.earlier live aims
  exact fetches (spent earlier)

/-- A turn of another task is taken. -/
theorem Aside.take (taken : loop.ready = turn :: rest) (differs : turn.taker? ≠ some id) :
    Aside id loop { loop with ready := rest } := by
  have counts : turn ≠ .count id := fun same => differs (congrArg Turn.taker? same)
  have runs : turn ≠ .run id := fun same => differs (congrArg Turn.taker? same)
  refine ⟨rfl, congrArg (· + loop.owed id) ?_, ?_⟩
  · rw [taken, List.count_cons_of_ne counts]
  · rw [taken, List.count_cons_of_ne runs]

theorem Aside.startRound (id : TaskId) (loop : Loop Job) : Aside id loop loop.startRound := by
  obtain ⟨due, same⟩ : ∃ due : Timers, loop.startRound.ready = loop.ready ++ due.map fun timer => .elapse timer.task :=
    ⟨_, rfl⟩
  have kept (turn : Turn) (other : ∀ task, turn ≠ .elapse task) :
      loop.startRound.ready.count turn = loop.ready.count turn := by
    have none : (due.map fun timer => Turn.elapse timer.task).count turn = 0 := by
      refine List.count_eq_zero.mpr fun inside => ?_
      obtain ⟨timer, _, same⟩ := List.mem_map.mp inside
      exact other timer.task same.symm
    rw [same, List.count_append, none, Nat.add_zero]
  exact ⟨rfl, congrArg (· + loop.owed id) (kept _ nofun), kept _ nofun⟩

/-- A task is owed nothing that no unfinished task will tell of its end. -/
theorem owed_eq_zero (silent : ∀ {other task}, loop.live? other = some task → .count id ∉ task.watchers) :
    loop.owed id = 0 := by
  refine List.count_eq_zero.mpr fun inside => ?_
  obtain ⟨task, member, told⟩ := List.mem_flatMap.mp inside
  obtain ⟨other, found⟩ := List.mem_iff_getElem?.mp member
  unfold Task.ahead at told
  split at told
  · rename_i unended
    exact silent (live?_eq_some_iff.mpr ⟨found, Option.isNone_iff_eq_none.mp unended⟩) told
  · cases told

end Loop

open Loop (Advances Aside Fewer)

/-- The closing task while it waits for the ends of cancelled fetches. -/
def Task.gathering (left : Nat) : Task Job := { job := .close (.gathered false), wait := .others (left + 1) }

/-- The closing task when it has been told of all ends. -/
def Task.gathered : Task Job := { job := .close (.gathered false) }

/-- How far closing has come after its first turn, by how many turns of its own are ahead at most. -/
inductive Ending (closer : TaskId) (loop : Loop Job) (records : Records) : Nat → Prop
  | gathering {left : Nat} : loop.live? closer = some (.gathering left) → loop.debt closer = left + 1 →
      loop.ready.count (.run closer) = 0 → Ending closer loop records (left + 2)
  | gathered : loop.live? closer = some .gathered → loop.debt closer = 0 → Ending closer loop records 1
  | closed : loop.outcome? closer = some .done → records = .empty → Ending closer loop records 0

namespace Loop

variable {loop : Loop Job} {id : TaskId} {task : Task Job}

/-- What was cancelled among others stays cancelled. -/
theorem cancelled_of_live?_cancelAll {others : List TaskId} (inside : id ∈ others)
    (live : (others.foldl cancel loop).live? id = some task) (aims : task.job.aim ≠ .other) :
    task.cancelled = true := by
  induction others generalizing loop with
  | nil => cases inside
  | cons first rest ih =>
    rcases List.mem_cons.mp inside with rfl | later
    · have fewer : Fewer (loop.cancel id) (rest.foldl cancel (loop.cancel id)) :=
        foldl_keeps .refl .trans (fun _ other _ => .cancel other) _
      obtain ⟨old, before, _, stays⟩ := fewer.earlier live aims
      exact stays (cancelled_of_live?_cancel before)
    · exact ih later live

theorem calm_cancelAll {others : List TaskId}
    (all : ∀ id task, loop.live? id = some task → task.job.aim ≠ .other → task.cancelled = false → id ∈ others) :
    (others.foldl cancel loop).Calm := by
  intro id task live aims
  have fewer : Fewer loop (others.foldl cancel loop) := foldl_keeps .refl .trans (fun _ other _ => .cancel other) loop
  obtain ⟨old, before, fetches, stays⟩ := fewer.earlier live aims
  by_cases earlier : old.cancelled = true
  · exact stays earlier
  · exact cancelled_of_live?_cancelAll (all id old before fetches (Bool.not_eq_true _ ▸ earlier)) live aims

end Loop

section Turns

variable {loop after : Loop Job} {records later : Records} {closer : TaskId} {id : TaskId} {task : Task Job}
  {turn : Turn} {rest : List Turn} {left : Nat}

theorem Ending.keep (stage : Ending closer loop records left) (aside : Aside closer loop after)
    (remembers : Loop.Remembers loop after) : Ending closer after records left := by
  cases stage with
  | gathering live debt runs =>
    exact .gathering (aside.live.trans live) (aside.debt.trans debt) (aside.runs.trans runs)
  | gathered live debt => exact .gathered (aside.live.trans live) (aside.debt.trans debt)
  | closed ended none => exact .closed (remembers _ _ ended) none

/-- Nothing comes on record when all fetches that go on were cancelled. -/
theorem Turned.empty (turned : Turned loop .empty turn after later) (calm : loop.Calm) : later = .empty := by
  cases turned with
  | works live kept works =>
    cases works with
    | sends fetches =>
      have cancelled := calm live (by rw [fetches]; exact nofun)
      cases kept.symm.trans cancelled
    | _ => rfl
  | _ => rfl

/-- A cancelled task ends with its turn. -/
theorem Turned.ended (turned : Turned loop records (.run id) after later) (live : loop.live? id = some task)
    (cancelled : task.cancelled = true) : after.live? id = none := by
  cases turned with
  | nothing none _ => exact none id rfl
  | ends found _ =>
    refine Option.eq_none_iff_forall_ne_some.mpr fun other unended => ?_
    exact (Loop.live?_finish_cases found unended).1 rfl
  | works found kept _ =>
    cases live.symm.trans found
    cases kept.symm.trans cancelled
  | wakes _ cause => rcases cause with ⟨same, _⟩ | ⟨same, _⟩ <;> cases same

theorem Orderly.unlisted {acting other : Option TaskId} (orderly : Orderly loop records other acting)
    (live : loop.live? id = some task) (aims : task.job.aim = .other) : ¬records.Lists id :=
  fun lists => (orderly.fit live).listed lists aims

/-- An end is told. -/
theorem debt_take (taken : loop.ready = .count closer :: rest) :
    Loop.debt { loop with ready := rest } closer + 1 = loop.debt closer := by
  unfold Loop.debt
  rw [taken, List.count_cons_self]
  show rest.count _ + loop.owed closer + 1 = _
  omega

/-- When it has been told of all ends closing ends. -/
theorem Works.of_gathered {engine : Bool}
    (works : Works loop records id (.close (.gathered engine)) after later) :
    after = loop.finish id .done ∧ later = .empty := by
  cases works with
  | ends other => exact absurd rfl (other _)
  | sleeps fetches => exact absurd rfl fetches
  | hangs fetches => exact absurd rfl fetches
  | stays hangs => cases hangs
  | sends fetches => cases fetches
  | waits idle => cases idle
  | cancels service => cases service
  | closes => exact ⟨rfl, rfl⟩

theorem Works.of_service {engine : Bool}
    (works : Works loop records id (.close (.service engine)) after later) :
    (∃ fetches, fetches ≠ [] ∧ (∀ other, other ∈ fetches ↔ records.Lists other ∧ loop.isLive other = true) ∧
      after = (((fetches.foldl Loop.cancel loop).awaitAll id fetches).modifyTask id fun task =>
        { task with job := .close (.gathered engine) }) ∧ later = records) ∨
      (∀ other, records.Lists other → loop.isLive other = false) ∧ after = loop.finish id .done ∧
        later = .empty := by
  cases works with
  | ends other => exact absurd rfl (other _)
  | sleeps fetches => exact absurd rfl fetches
  | hangs fetches => exact absurd rfl fetches
  | stays hangs => cases hangs
  | sends fetches => cases fetches
  | waits idle => cases idle
  | cancels service some' lists =>
    cases service
    exact Or.inl ⟨_, some', lists, rfl, rfl⟩
  | closes cause =>
    rcases cause with ⟨_, ended⟩ | gathered
    · exact Or.inr ⟨ended, rfl, rfl⟩
    · cases gathered

/-- A fetch that was not cancelled is on record. -/
theorem Orderly.lists {acting other : Option TaskId} (orderly : Orderly loop records other acting)
    (live : loop.live? id = some task) (aims : task.job.aim ≠ .other) (kept : task.cancelled = false) :
    records.Lists id :=
  ((orderly.fit live).recorded kept).lists aims

/-- Closing waits for the end of the fetches that it has cancelled. -/
theorem Ending.begin {fetches : List TaskId} (live : loop.live? closer = some { job := .close (.service false) })
    (debt : loop.debt closer = 0) (runs : loop.ready.count (.run closer) = 0) (some' : fetches ≠ [])
    (apart : ∀ other ∈ fetches, other ≠ closer) (unfinished : ∀ other ∈ fetches, loop.isLive other = true) :
    ∃ left, Ending closer (((fetches.foldl Loop.cancel loop).awaitAll closer fetches).modifyTask closer fun task =>
      { task with job := .close (.gathered false) }) records left := by
  have aside : Aside closer loop (fetches.foldl Loop.cancel loop) :=
    Loop.foldl_keeps (.refl closer) .trans (fun _ other inside => .cancel (apart other inside)) loop
  have awaited := Loop.live?_awaitAll apart (aside.live.trans live)
  obtain ⟨left, length⟩ := Nat.exists_eq_succ_of_ne_zero (mt List.length_eq_zero_iff.mp some')
  rw [length] at awaited
  refine ⟨left + 2, .gathering (Loop.live?_modifyTask_self (by exact fun _ => rfl) awaited) ?_ ?_⟩
  · rw [Loop.debt_modifyTask_of_keeps (by exact fun _ => rfl), Loop.debt_awaitAll, aside.debt, debt, length]
    · omega
    · exact fun other inside => Loop.isLive_cancelAll fetches (unfinished other inside)
  · show (Loop.awaitAll _ closer fetches).ready.count _ = 0
    rw [Loop.ready_awaitAll, aside.runs, runs]

/-- With its first turn closing cancels all fetches that go on. -/
theorem Turned.begins (turned : Turned { loop with ready := rest } records (.run closer) after later)
    (orderly : Orderly loop records (some closer) none)
    (live : loop.live? closer = some { job := .close (.service false) }) (debt : loop.debt closer = 0)
    (runs : loop.ready.count (.run closer) = 1) (taken : loop.ready = .run closer :: rest) :
    after.Calm ∧ ∃ left, Ending closer after later left := by
  have unlisted := orderly.unlisted live rfl
  have differs : Turn.run closer ≠ .count closer := nofun
  rw [Loop.debt, taken, List.count_cons_of_ne differs] at debt
  rw [taken, List.count_cons_self] at runs
  cases turned with
  | nothing ended _ => cases live.symm.trans (ended closer rfl)
  | ends found cancelled =>
    cases live.symm.trans found
    cases cancelled
  | wakes _ cause => rcases cause with ⟨same, _⟩ | ⟨same, _⟩ <;> cases same
  | works found kept works =>
    cases live.symm.trans found
    rcases works.of_service with ⟨fetches, some', lists, rfl, rfl⟩ | ⟨ended, rfl, rfl⟩
    · refine ⟨?_, Ending.begin found debt (Nat.succ.inj runs) some' (fun other inside => ?_) fun other inside =>
        ((lists other).mp inside).2⟩
      · refine Fewer.calm (.trans (.awaitAll closer fetches) (.modify (by exact fun _ => rfl) ?_ closer))
          (Loop.calm_cancelAll fun id task before aims kept => ?_)
        · exact fun _ aims => absurd rfl aims
        exact (lists id).mpr ⟨orderly.lists before aims kept, Loop.isLive_of_live? before⟩
      · rintro rfl
        exact unlisted ((lists _).mp inside).1
    · refine ⟨fun {id task} unended aims => ?_, 0, .closed (Loop.outcome?_finish_self found .done) rfl⟩
      by_contra uncancelled
      obtain ⟨_, before⟩ := Loop.live?_finish_cases found unended
      have unfinished := Loop.isLive_of_live? before
      rw [ended id (orderly.lists before aims (Bool.not_eq_true _ ▸ uncancelled))] at unfinished
      cases unfinished

/-- Closing is told of an end that it waits for. -/
theorem Turned.told (turned : Turned { loop with ready := rest } records (.count closer) after later)
    (taken : loop.ready = .count closer :: rest) (live : loop.live? closer = some (.gathering left))
    (debt : loop.debt closer = left + 1) (runs : loop.ready.count (.run closer) = 0) :
    Ending closer after later (left + 1) := by
  have found := (Loop.live?_eq_some_iff.mp live).1
  have told := debt_take taken
  cases turned with
  | nothing _ idle => exact absurd rfl (idle closer rfl _ left found)
  | wakes present cause =>
    obtain ⟨same, last⟩ : Turn.count closer = .count _ ∧ _ := cause.resolve_left fun other => nomatch other.1
    cases same
    cases found.symm.trans present
    cases last
    refine .gathered (Loop.live?_modifyTask_self (by exact fun _ => rfl) live) ?_
    rw [Loop.debt_modifyTask_of_keeps (by exact fun _ => rfl), Loop.debt_enqueue]
    omega
  | counts present waits =>
    cases found.symm.trans present
    cases waits
    refine .gathering (Loop.live?_modifyTask_self (by exact fun _ => rfl) live) ?_ ?_
    · rw [Loop.debt_modifyTask_of_keeps (by exact fun _ => rfl)]
      omega
    · have differs : Turn.count closer ≠ .run closer := nofun
      rw [taken, List.count_cons_of_ne differs] at runs
      exact runs

/-- When closing has been told of all ends it ends with its turn. -/
theorem Turned.closes (turned : Turned loop records (.run closer) after later)
    (live : loop.live? closer = some .gathered) : Ending closer after later 0 := by
  cases turned with
  | nothing ended _ => cases live.symm.trans (ended closer rfl)
  | ends found cancelled =>
    cases live.symm.trans found
    cases cancelled
  | works found kept works =>
    cases live.symm.trans found
    obtain ⟨rfl, rfl⟩ := works.of_gathered
    exact .closed (Loop.outcome?_finish_self found .done) rfl
  | wakes _ cause => rcases cause with ⟨same, _⟩ | ⟨same, _⟩ <;> cases same

theorem Turn.taker?_eq_some (own : turn.taker? = some id) : turn = .run id ∨ turn = .count id := by
  cases turn with
  | run _ => exact Or.inl (congrArg Turn.run (Option.some.inj own))
  | count _ => exact Or.inr (congrArg Turn.count (Option.some.inj own))
  | elapse _ => cases own
  | strike _ => cases own

/-- Closing never goes back. It gets on when it is told of an end that it waits for, and it ends with its own
turn when it has been told of all. -/
theorem Ending.proceeds (stage : Ending closer loop records left)
    (orderly : Orderly loop records (some closer) none) (calm : loop.Calm) (taken : loop.ready = turn :: rest)
    (turned : Turned { loop with ready := rest } records turn after later) :
    ∃ fewer ≤ left, Ending closer after later fewer ∧ (turn = .count closer → 1 < left → fewer < left) ∧
      (turn = .run closer → left = 1 → fewer = 0) := by
  have kept {task : Task Job} (live : loop.live? closer = some task) (aims : task.job.aim = .other)
      (awake : task.wait ≠ .timer) (differs : turn.taker? ≠ some closer) : Aside closer loop after := by
    refine (Aside.take taken differs).trans (turned.aside orderly taken differs (Loop.lt_length_of_live? live)
      (orderly.unlisted live aims) fun other found => ?_)
    cases (Loop.live?_eq_some_iff.mp live).1.symm.trans found
    exact awake
  have other (differs : turn.taker? ≠ some closer) : turn ≠ .count closer ∧ turn ≠ .run closer :=
    ⟨fun same => differs (congrArg Turn.taker? same), fun same => differs (congrArg Turn.taker? same)⟩
  cases stage with
  | @gathering left live debt runs =>
    by_cases own : turn.taker? = some closer
    · rcases Turn.taker?_eq_some own with rfl | rfl
      · rw [taken, List.count_cons_self] at runs
        cases runs
      · exact ⟨left + 1, by omega, turned.told taken live debt runs, fun _ _ => by omega, nofun⟩
    · have aside := kept live rfl nofun own
      exact ⟨left + 2, Nat.le_refl _,
        .gathering (aside.live.trans live) (aside.debt.trans debt) (aside.runs.trans runs),
        fun same => absurd same (other own).1, fun same => absurd same (other own).2⟩
  | gathered live debt =>
    by_cases own : turn.taker? = some closer
    · rcases Turn.taker?_eq_some own with rfl | rfl
      · exact ⟨0, by omega, turned.closes live, nofun, fun _ _ => rfl⟩
      · have told := debt_take taken
        omega
    · have aside := kept live rfl nofun own
      exact ⟨1, Nat.le_refl _, .gathered (aside.live.trans live) (aside.debt.trans debt),
        fun same => absurd same (other own).1, fun same => absurd same (other own).2⟩
  | closed ended none =>
    subst none
    exact ⟨0, Nat.le_refl _, .closed (turned.advances.remembers _ _ ended) (turned.empty calm), nofun, nofun⟩

end Turns

end QueryCompletion
