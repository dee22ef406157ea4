import Mathlib.Data.List.Perm.Basic
import QueryCompletion.Proofs.Session.Installation
import QueryCompletion.Proofs.Session.Orderly

/-!
Every event keeps order among the tasks of a value service.
-/

namespace QueryCompletion

namespace Loop

variable {loop : Loop Job} {id : TaskId} {task : Task Job}

theorem cancelled_of_live?_cancel (live : (loop.cancel id).live? id = some task) : task.cancelled = true := by
  cases before : loop.live? id with
  | none =>
    rw [cancel_of_not_live before, before] at live
    cases live
  | some old =>
    rw [cancel_eq before] at live
    rcases live?_modifyTask_cases (by exact fun _ => rfl) live with ⟨_, _, _, rfl⟩ | ⟨differs, _⟩
    · rfl
    · exact absurd rfl differs

theorem live?_of_awaiting? {call : Nat} (found : loop.awaiting? call = some id) :
    ∃ task, loop.live? id = some task ∧ task.wait = .answer call := by
  obtain ⟨inside, waits, _⟩ := List.findIdx?_eq_some_iff_getElem.mp found
  rw [Bool.and_eq_true, Option.isNone_iff_eq_none, decide_eq_true_eq] at waits
  exact ⟨_, live?_eq_some_iff.mpr ⟨List.getElem?_eq_getElem inside, waits.1⟩, waits.2⟩

end Loop

namespace Session

variable {session : Session} {closer : Option TaskId}

theorem orderly_opened (settings : Settings) (log : Log) (client : Client) (clientOwned listening running : Bool) :
    Orderly (opened settings log client clientOwned listening running).loop
      (opened settings log client clientOwned listening running).records none none where
  fit := fun live => nomatch live
  prompt := fun live => nomatch live
  known := nofun
  struck := nofun
  listed := fun _ lists => absurd lists Records.not_lists_empty

theorem orderly_cancelPending (orderly : Orderly session.loop session.records closer none) :
    Orderly session.cancelPending.loop session.cancelPending.records closer none := by
  have ended : Orderly session.cancelPending.loop session.records closer none := by
    unfold cancelPending
    cases session.service.pending with
    | none => exact orderly
    | some id => exact orderly.cancel id
  refine ended.setRecords (fun id task live fit => fit.setRecords (fun kept has => ?_) fun lists => ?_)
    fun id lists => ?_
  · generalize task.job.aim = aim at has ⊢
    cases aim with
    | load query loadMore =>
      -- Only the fetch on record waits for typing to pause, and it was cancelled.
      have waiting : session.service.pending = some id := has
      unfold cancelPending at live
      rw [waiting] at live
      cases kept.symm.trans (Loop.cancelled_of_live?_cancel live)
    | fetch asked => exact has
    | other => trivial
  · exact lists.imp_right nofun
  · exact lists.imp_right nofun

theorem orderly_scheduleLoad (orderly : Orderly session.loop session.records closer none) (query : ValueQuery)
    (loadMore : Bool) :
    Orderly (session.scheduleLoad query loadMore).2.loop (session.scheduleLoad query loadMore).2.records closer
      none := by
  unfold scheduleLoad
  split
  · have cleared := orderly_cancelPending orderly
    have added (id : TaskId)
        (lists : Records.Lists ⟨session.service.inFlight, some session.cancelPending.loop.tasks.length⟩ id) :
        id = session.cancelPending.loop.tasks.length ∨ session.cancelPending.records.Lists id := by
      rcases lists with inside | same
      · exact Or.inr (Or.inl inside)
      · exact Or.inl (Option.some.inj same).symm
    refine cleared.spawn (fun id task live fit => fit.setRecords (fun _ has => ?_) fun lists => ?_) ?_
      fun id lists => ?_
    · generalize task.job.aim = aim at has ⊢
      cases aim with
      | load query loadMore => exact nomatch has
      | fetch asked => exact has
      | other => trivial
    · rcases added id lists with rfl | before
      · exact absurd (Loop.lt_length_of_live? live) (Nat.lt_irrefl _)
      · exact before
    · exact {
        native := rfl
        closing := nofun
        cancelled := nofun
        hanging := nofun
        recorded := fun _ => rfl
        listed := fun _ => nofun
        watched := nofun
        watchers := nofun }
    · rcases added id lists with rfl | before
      · exact Nat.le_refl _
      · exact Nat.le_of_lt (cleared.listed id before)
  · exact orderly

theorem orderly_valueOptions (orderly : Orderly session.loop session.records closer none) (query : ValueQuery)
    (loadMore : Bool) :
    Orderly (session.valueOptions query loadMore).2.loop (session.valueOptions query loadMore).2.records closer
      none := by
  let touched := { session with service := (session.service.lookUp query.key).2 }
  have kept : Orderly touched.loop touched.records closer none := orderly
  unfold valueOptions
  dsimp only
  split
  · exact orderly_scheduleLoad kept query loadMore
  · exact orderly

theorem orderly_loadPage (orderly : Orderly session.loop session.records closer none) (query : ValueQuery)
    (loadMore : Bool) :
    Orderly (session.loadPage query loadMore).2.loop (session.loadPage query loadMore).2.records closer none := by
  unfold loadPage
  dsimp only
  split
  · exact orderly
  rename_i free
  split
  · exact orderly
  rename_i page _
  split
  · rw [Bool.not_eq_true, Bool.or_eq_false_iff] at free
    exact orderly.request ⟨query, page⟩ fun other found => not_live_of_not_inFlight free.2 found
  · exact orderly

theorem orderly_applyPage (orderly : Orderly session.loop session.records closer none) (key : Text)
    (page : ValuePage) :
    Orderly (session.applyPage key page).2.loop (session.applyPage key page).2.records closer none := by
  have settles := ValueService.settles_applyPage session.service key page
  have same : (session.applyPage key page).2.records = session.records := by
    refine records_eq ?_ ?_
    · rw [applyPage_service, settles.inFlight]
    · rw [applyPage_service, settles.pending]
  rw [applyPage_loop, same]
  exact orderly

theorem orderly_respond (orderly : Orderly session.loop session.records closer none) (call : Nat) (reply : Reply) :
    Orderly (session.respond call reply).2.loop (session.respond call reply).2.records closer none := by
  unfold respond
  split
  · rename_i id found
    obtain ⟨task, live, _⟩ := Loop.live?_of_awaiting? found
    refine Orderly.modify (orderly.enqueue (Loop.lt_length_of_live? live)) (fun _ => rfl) (fun task' live' => ?_)
      fun _ _ _ => Or.inr (List.mem_append_right _ (List.mem_singleton.mpr rfl))
    have fit := orderly.fit live'
    obtain ⟨job, wait, cancelled, watchers, outcome⟩ := task'
    cases job with
    | request asked stage =>
      cases stage <;> exact { fit with closing := nofun, cancelled := fun _ => rfl, hanging := nofun }
    | schema url stage => exact nomatch fit.native
    | debounce query loadMore waited => exact { fit with cancelled := fun _ => rfl, hanging := nofun }
    | idle => exact { fit with cancelled := fun _ => rfl, hanging := nofun }
    | close stage => exact { fit with cancelled := fun _ => rfl, hanging := nofun }
  · exact orderly

theorem orderly_startRound {loop : Loop Job} {records : Records} (orderly : Orderly loop records closer none) :
    Orderly loop.startRound records closer none := by
  refine orderly.setReady rfl (fun _ => Or.imp_right (List.mem_append_left _)) fun turn inside => ?_
  rcases List.mem_append.mp inside with old | due
  · exact Or.inl old
  · obtain ⟨timer, _, rfl⟩ := List.mem_map.mp due
    exact Or.inr (Or.inr ⟨timer.task, rfl⟩)

/-- A turn keeps order, and closing does if it goes on only after all fetches were cancelled. -/
theorem orderly_turn (orderly : Orderly session.loop session.records closer none) {turn : Turn} {rest : List Turn}
    (taken : session.loop.ready.Perm (turn :: rest))
    (calm : ∀ id task engine, session.loop.live? id = some task → task.job = .close (.gathered engine) →
      session.loop.Calm) :
    Orderly ((session.withLoop { session.loop with ready := rest }).turn turn).loop
      ((session.withLoop { session.loop with ready := rest }).turn turn).records closer none := by
  have turned := turned_turn (session.withLoop { session.loop with ready := rest }) turn
    fun id task _ live => (orderly.fit live).native
  exact orderly.turned taken calm turned

/-- As long as the service is not being closed every event keeps order. -/
theorem orderly_after (orderly : Orderly session.loop session.records none none) (event : ValueEvent) :
    Orderly (session.after event).loop (session.after event).records none none := by
  cases event with
  | options query loadMore => exact orderly_valueOptions orderly query loadMore
  | schedule query loadMore => exact orderly_scheduleLoad orderly query loadMore
  | cancelPending => exact orderly_cancelPending orderly
  | load query loadMore => exact orderly_loadPage orderly query loadMore
  | deliver key page => exact orderly_applyPage orderly key page
  | respond call reply => exact orderly_respond orderly call reply
  | round time => exact orderly_startRound (orderly.setReady rfl (fun _ same => same) fun _ => Or.inl)
  | turn index =>
    unfold after
    dsimp only
    cases found : session.loop.ready[index]? with
    | none => exact orderly
    | some next =>
      obtain ⟨inside, same⟩ := List.getElem?_eq_some_iff.mp found
      refine orderly_turn orderly (same ▸ (List.getElem_cons_eraseIdx_perm inside).symm)
        fun id task engine live closes => ?_
      cases (orderly.fit live).closing _ closes

end Session

end QueryCompletion
