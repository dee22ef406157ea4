import QueryCompletion.Proofs.Context.Reading
import QueryCompletion.Proofs.Session.Events
import QueryCompletion.Session.Completion

/-!
The list offered for a request. It is made from the context, the schema, the settings and the values that are
known, and making it changes none of them: the same request gives the same list again.
-/

namespace QueryCompletion

theorem Loop.cancel_running (loop : Loop Job) (id : TaskId) : (loop.cancel id).running = loop.running :=
  cancel_keeps (R := fun before after => after.running = before.running) (fun _ => rfl)
    (fun first second => second.trans first) (fun _ => rfl) (fun _ => rfl) loop

namespace Session

/-- What lists are made from is the same in both sessions. Whether anything is on its way is told only as
long as there is no current model. -/
structure Alike (session other : Session) : Prop where
  enabled : other.enabled = session.enabled
  settings : other.settings = session.settings
  schema : other.schema = session.schema
  resolver : other.resolver = session.resolver
  api : other.service.hasApi = session.service.hasApi
  running : other.loop.running = session.loop.running
  known : ∀ key, other.service.cache.peek? key = session.service.cache.peek? key
  loading : session.schema.currentModel = none → other.loading = session.loading

variable {session other : Session}

theorem Alike.refl (session : Session) : Alike session session :=
  ⟨rfl, rfl, rfl, rfl, rfl, rfl, fun _ => rfl, fun _ => rfl⟩

theorem Alike.offering (alike : Alike session other) (completion : Completion) :
    Alike session { other with completion } :=
  ⟨alike.enabled, alike.settings, alike.schema, alike.resolver, alike.api, alike.running, alike.known, alike.loading⟩

theorem scheduleLoad_scheduled (session : Session) (query : ValueQuery) (loadMore : Bool) :
    (session.scheduleLoad query loadMore).1 = session.loop.running := by
  unfold scheduleLoad
  split
  · rename_i running
    exact running.symm
  · rename_i still
    exact (Bool.eq_false_iff.mpr still).symm

/-- The values given are those known, and more are on their way if a fetch could be scheduled. -/
theorem valueOptions_eq (session : Session) (query : ValueQuery) (loadMore : Bool) :
    (session.valueOptions query loadMore).1 =
      let entry := (session.service.cache.peek? query.key).getD {}
      ⟨entry.items, if entry.wantsLoad loadMore then session.loop.running else entry.loading⟩ := by
  unfold valueOptions
  dsimp only
  split
  · rename_i wants
    rw [scheduleLoad_scheduled]
    exact congrArg (ValueOptions.mk _) (if_pos wants).symm
  · rename_i served
    exact congrArg (ValueOptions.mk _) (if_neg served).symm

theorem scheduleLoad_running (session : Session) (query : ValueQuery) (loadMore : Bool) :
    (session.scheduleLoad query loadMore).2.loop.running = session.loop.running := by
  unfold scheduleLoad
  split
  · show (session.service.pending.elim session.loop session.loop.cancel).running = session.loop.running
    cases session.service.pending with
    | none => rfl
    | some id => exact session.loop.cancel_running id
  · rfl

/-- Scheduling a fetch changes no value that is known. -/
theorem Alike.scheduling (alike : Alike session other) (modelled : session.schema.currentModel ≠ none)
    (query : ValueQuery) (loadMore : Bool) : Alike session (other.scheduleLoad query loadMore).2 := by
  have cache := other.scheduleLoad_cache query loadMore
  have running := other.scheduleLoad_running query loadMore
  have frame := other.frame_scheduleLoad query loadMore
  exact {
    enabled := frame.enabled.trans alike.enabled
    settings := frame.settings.trans alike.settings
    schema := frame.schema.trans alike.schema
    resolver := frame.resolver.trans alike.resolver
    api := Eq.trans (by rw [ValueService.hasApi, ValueService.hasApi, frame.apiUrl]) alike.api
    running := running.trans alike.running
    known := fun key => by rw [cache, alike.known]
    loading := fun absent => absurd absent modelled }

theorem alike_valueOptions (modelled : session.schema.currentModel ≠ none) (query : ValueQuery)
    (loadMore : Bool) : Alike session (session.valueOptions query loadMore).2 := by
  have touched : Alike session { session with service := (session.service.lookUp query.key).2 } :=
    { Alike.refl session with
      known := session.service.cache.peek?_touch query.key
      loading := fun absent => absurd absent modelled }
  unfold valueOptions
  dsimp only
  split
  · exact touched.scheduling modelled query loadMore
  · exact touched

theorem alike_valueCandidates (modelled : session.schema.currentModel ≠ none) (context : Context)
    (loadMore : Bool) : Alike session (session.valueCandidates context loadMore).2 := by
  unfold valueCandidates
  dsimp only
  split
  · exact Alike.refl session
  split
  · split
    · exact Alike.refl session
    · split
      · exact alike_valueOptions modelled _ loadMore
      · exact Alike.refl session
  · exact Alike.refl session

theorem Alike.valueOptions_eq (alike : Alike session other) (query : ValueQuery) (loadMore : Bool) :
    (other.valueOptions query loadMore).1 = (session.valueOptions query loadMore).1 := by
  rw [Session.valueOptions_eq, Session.valueOptions_eq, alike.known, alike.running]

theorem Alike.valueCandidates_eq (alike : Alike session other) (context : Context) (loadMore : Bool) :
    (other.valueCandidates context loadMore).1 = (session.valueCandidates context loadMore).1 := by
  unfold valueCandidates
  rw [alike.schema, alike.settings, alike.api]
  dsimp only
  split
  · rfl
  split
  · split
    · rfl
    · split
      · rw [alike.valueOptions_eq]
      · rfl
  · rfl

/-- Which source serves a context, and what it leaves behind. -/
theorem offer_eq (session : Session) (context : Context) (loadMore : Bool) :
    session.offer (sources context loadMore) =
      if offersFields context then { session with completion := (fieldCandidates session.schema context).complete }
      else if context.scope == some .comparison then
        { session with completion := (operatorCandidates session.schema context).complete }
      else if context.scope == some .value then
        { (session.valueCandidates context loadMore).2 with
          completion := (session.valueCandidates context loadMore).1.complete }
      else if context.scope == some .logical then
        { session with completion := (connectorCandidates context).complete }
      else { session with completion := .empty false } := by
  simp only [offer, choose, sources, chooseFrom, fieldSource, operatorSource, valueSource, connectorSource]
  cases offersFields context <;> cases context.scope == some .comparison <;>
    cases context.scope == some .value <;> cases context.scope == some .logical <;> rfl

theorem alike_offer (modelled : session.schema.currentModel ≠ none) (context : Context) (loadMore : Bool) :
    Alike session (session.offer (sources context loadMore)) := by
  have same := Alike.refl session
  rw [offer_eq]
  split
  · exact same.offering _
  split
  · exact same.offering _
  split
  · exact (alike_valueCandidates modelled context loadMore).offering _
  split
  · exact same.offering _
  · exact same.offering _

theorem Alike.offer_eq (alike : Alike session other) (context : Context) (loadMore : Bool) :
    (other.offer (sources context loadMore)).completion =
      (session.offer (sources context loadMore)).completion := by
  rw [Session.offer_eq, Session.offer_eq, alike.schema, alike.valueCandidates_eq]
  split
  · rfl
  split
  · rfl
  split
  · rfl
  split <;> rfl

section

variable (text : Text) (cursor selectionEnd : Option Int) (loadMore : Bool)

/-- Making a list leaves everything as it is that lists are made from. -/
theorem alike_generate (session : Session) :
    Alike session (session.generate text cursor selectionEnd loadMore) := by
  have same := Alike.refl session
  unfold generate
  split
  · exact same.offering _
  split
  · exact same.offering _
  rename_i modelled
  split
  · exact same.offering _
  split
  · exact alike_offer (fun absent => modelled (by rw [absent]; rfl)) _ loadMore
  · exact ⟨rfl, rfl, rfl, rfl, rfl, rfl, fun _ => rfl, fun _ => rfl⟩

theorem Alike.generate_eq (alike : Alike session other) :
    (other.generate text cursor selectionEnd loadMore).completion =
      (session.generate text cursor selectionEnd loadMore).completion := by
  unfold generate
  rw [alike.enabled, alike.schema, alike.resolver]
  split
  · rfl
  split
  · rename_i absent
    exact congrArg Completion.empty (alike.loading (Option.isNone_iff_eq_none.mp absent))
  split
  · rfl
  split
  · exact alike.offer_eq _ loadMore
  · rfl

end

/-- Nothing behind the cursor counts: a session is the same after a request in either text. -/
theorem generate_of_same {text other : Text} {cursor : Nat} (session : Session)
    (same : other.take cursor = text.take cursor) (selectionEnd : Option Int) (loadMore : Bool) :
    session.generate other (some cursor) selectionEnd loadMore =
      session.generate text (some cursor) selectionEnd loadMore := by
  have sameSources : sources (session.resolver.contextAt other cursor) loadMore =
      sources (session.resolver.contextAt text cursor) loadMore := by
    -- No source reads the token.
    rw [session.resolver.contextAt_of_same same]
    rfl
  rw [generate, generate, Schema.contextAt?, Schema.contextAt?]
  dsimp only
  rw [sameSources]

end Session

namespace Schema

/-- What is typed stands right before the cursor. Texts that agree up to the cursor have the same context,
the token under the cursor apart, and a session offers the same list in them, from one state and one
after the other. -/
theorem context_reads_before_cursor (schema : Schema) {text : Text} {cursor : Nat}
    (within : cursor ≤ text.length) :
    ((schema.contextAt text cursor).typed.length ≤ cursor ∧
        (schema.contextAt text cursor).typed =
          text.slice (cursor - (schema.contextAt text cursor).typed.length : Int) cursor) ∧
      ∀ other : Text, cursor ≤ other.length → other.take cursor = text.take cursor →
        ((schema.contextAt other cursor).typed = (schema.contextAt text cursor).typed ∧
            (schema.contextAt other cursor).scope = (schema.contextAt text cursor).scope ∧
            (schema.contextAt other cursor).model = (schema.contextAt text cursor).model ∧
            (schema.contextAt other cursor).field = (schema.contextAt text cursor).field ∧
            (schema.contextAt other cursor).stack = (schema.contextAt text cursor).stack) ∧
          ∀ (session : Session) (selectionEnd : Option Int) (loadMore : Bool),
            (session.generate other (some cursor) selectionEnd loadMore).completion =
                (session.generate text (some cursor) selectionEnd loadMore).completion ∧
              ((session.generate text (some cursor) selectionEnd loadMore).generate other
                  (some cursor) selectionEnd loadMore).completion =
                (session.generate text (some cursor) selectionEnd loadMore).completion := by
  refine ⟨schema.typed_eq_slice within, fun other _ same => ⟨?_, fun session selectionEnd loadMore => ⟨?_, ?_⟩⟩⟩
  · rw [schema.contextAt_of_same same]
    exact ⟨rfl, rfl, rfl, rfl, rfl⟩
  · rw [session.generate_of_same same]
  · rw [Session.generate_of_same _ same,
      (session.alike_generate text (some cursor) selectionEnd loadMore).generate_eq]

/-- In an open string the values cached for what is typed are offered, whatever follows. -/
theorem context_reads_before_cursor_in_string :
    let schema : Schema :=
      { currentModel := some "core.book".toList
        models := [("core.book".toList, [("name".toList, { type := .str, choices := .served true })])] }
    let session : Session :=
      { schema
        service :=
          { apiUrl := some "/suggestions/", fetchDelay := .zero
            cache := ⟨10, [("core.book.name|b".toList, { items := ["blue".toList, "red".toList], page := some 1 })]⟩ }
        loop := { running := false } }
    let text := "name = \"b and other".toList
    let other := "name = \"bee\" or".toList
    (9 ≤ text.length ∧ 9 ≤ other.length ∧ other.take 9 = text.take 9) ∧
      (schema.contextAt text (9 : Nat)).typed = ['b'] ∧ (schema.contextAt other (9 : Nat)).typed = ['b'] ∧
      (session.generate text (some (9 : Nat)) none false).completion.suggestions.map Suggestion.text =
        ["blue".toList] ∧
      ((session.generate text (some (9 : Nat)) none false).generate other (some (9 : Nat)) none
        false).completion.suggestions.map Suggestion.text = ["blue".toList] := by
  intro schema session text other
  have same : other.take 9 = text.take 9 := by decide
  obtain ⟨_, agree⟩ := schema.context_reads_before_cursor (show 9 ≤ text.length by decide)
  obtain ⟨⟨typed, _⟩, offers⟩ := agree other (by decide) same
  have before : (schema.contextAt text (9 : Nat)).typed = ['b'] := by decide +kernel
  have offered : (session.generate text (some (9 : Nat)) none false).completion.suggestions.map Suggestion.text =
      ["blue".toList] := by decide +kernel
  refine ⟨⟨by decide, by decide, same⟩, before, typed.trans before, offered, ?_⟩
  rw [(offers session none false).2, offered]

end Schema

end QueryCompletion
