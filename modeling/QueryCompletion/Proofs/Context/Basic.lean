import QueryCompletion.Context
import QueryCompletion.Proofs.Text.Pieces

/-!
What a context can be. The typed text always ends at the cursor, and the token is that of the window.
-/

namespace QueryCompletion

/-- The context of a window in which nothing can be suggested. -/
def Window.bare (window : Window) (schema : Schema) : Context :=
  { typed := window.typed, scope := none, model := none, field := none, token := window.token,
    stack := schema.rootStack }

namespace Schema

/-- What the context at a cursor can be. All but fields are asked for behind blanks only. -/
theorem contextAt_outcomes (schema : Schema) (text : Text) (cursor : Int) :
    (Window.atCursor text cursor).startsField = true ∧
        schema.contextAt text cursor =
          schema.fieldContext ((Window.atCursor text cursor).path text cursor)
            (Window.atCursor text cursor).token ∨
      schema.contextAt text cursor = (Window.atCursor text cursor).bare schema ∨
      (Window.atCursor text cursor).spaced = true ∧
        ((∃ name, (Window.atCursor text cursor).comparedName? = some name ∧
            schema.contextAt text cursor =
              schema.valueContext name ((Window.atCursor text cursor).bare schema)) ∨
          (∃ last, (Window.atCursor text cursor).last = some last ∧ last.kind = .name ∧
            schema.contextAt text cursor =
              schema.comparisonContext last.value ((Window.atCursor text cursor).bare schema)) ∨
          schema.contextAt text cursor =
            { (Window.atCursor text cursor).bare schema with scope := some .logical }) := by
  generalize atWindow : Window.atCursor text cursor = window
  simp only [contextAt, atWindow]
  split
  · exact Or.inr (Or.inl rfl)
  split
  · rename_i starts
    exact Or.inl ⟨starts, rfl⟩
  split
  · exact Or.inr (Or.inl rfl)
  rename_i spaced
  rw [Bool.not_eq_true', Bool.not_eq_false] at spaced
  split
  · rename_i name compared
    exact Or.inr (Or.inr ⟨spaced, Or.inl ⟨name, compared, rfl⟩⟩)
  · rename_i last _ atLast
    split
    · rename_i name
      exact Or.inr (Or.inr ⟨spaced, Or.inr (Or.inl ⟨last, atLast, beq_iff_eq.mp name, rfl⟩)⟩)
    · split
      · exact Or.inr (Or.inr ⟨spaced, Or.inr (Or.inr rfl)⟩)
      · exact Or.inr (Or.inl rfl)
  · exact Or.inr (Or.inl rfl)

/-- Where a field path starts it is typed, unless what is typed is a lone closing parenthesis. -/
theorem contextAt_of_startsField (schema : Schema) {text : Text} {cursor : Int}
    (starts : (Window.atCursor text cursor).startsField = true)
    (outside : ¬ ((Window.atCursor text cursor).typed = [')'] ∧ (Window.atCursor text cursor).spaced = false)) :
    schema.contextAt text cursor =
      schema.fieldContext ((Window.atCursor text cursor).path text cursor) (Window.atCursor text cursor).token := by
  simp only [contextAt, starts, if_true]
  rw [if_neg (by simpa using outside)]

theorem contextAt_cases (schema : Schema) (text : Text) (cursor : Int) :
    (Window.atCursor text cursor).startsField = true ∧
        schema.contextAt text cursor =
          schema.fieldContext ((Window.atCursor text cursor).path text cursor)
            (Window.atCursor text cursor).token ∨
      schema.contextAt text cursor = (Window.atCursor text cursor).bare schema ∨
      (∃ name, schema.contextAt text cursor =
        schema.valueContext name ((Window.atCursor text cursor).bare schema)) ∨
      (∃ name, schema.contextAt text cursor =
        schema.comparisonContext name ((Window.atCursor text cursor).bare schema)) ∨
      schema.contextAt text cursor =
        { (Window.atCursor text cursor).bare schema with scope := some .logical } := by
  rcases schema.contextAt_outcomes text cursor with
    field | same | ⟨_, ⟨name, _, same⟩ | ⟨last, _, _, same⟩ | logical⟩
  · exact Or.inl field
  · exact Or.inr (Or.inl same)
  · exact Or.inr (Or.inr (Or.inl ⟨name, same⟩))
  · exact Or.inr (Or.inr (Or.inr (Or.inl ⟨last.value, same⟩)))
  · exact Or.inr (Or.inr (Or.inr (Or.inr logical)))

theorem fieldContext_token (schema : Schema) (path : Text) (token : Option Token) :
    (schema.fieldContext path token).token = token := by
  simp only [fieldContext]
  split
  · rfl
  · split <;> rfl

theorem valueContext_token (schema : Schema) (name : Text) (context : Context) :
    (schema.valueContext name context).token = context.token := by
  simp only [valueContext]
  split <;> rfl

theorem comparisonContext_token (schema : Schema) (name : Text) (context : Context) :
    (schema.comparisonContext name context).token = context.token := by
  simp only [comparisonContext]
  split <;> rfl

/-- The context takes the token of the window. -/
theorem contextAt_token (schema : Schema) (text : Text) (cursor : Int) :
    (schema.contextAt text cursor).token = (Window.atCursor text cursor).token := by
  rcases schema.contextAt_cases text cursor with
    ⟨_, same⟩ | same | ⟨name, same⟩ | ⟨name, same⟩ | same <;> rw [same]
  · exact fieldContext_token _ _ _
  · rfl
  · exact valueContext_token _ _ _
  · exact comparisonContext_token _ _ _
  · rfl

theorem fieldContext_setToken (schema : Schema) (path : Text) (token token' : Option Token) :
    schema.fieldContext path token' = { schema.fieldContext path token with token := token' } := by
  simp only [fieldContext]
  split
  · rfl
  · split <;> rfl

theorem valueContext_setToken (schema : Schema) (name : Text) (context : Context) (token : Option Token) :
    schema.valueContext name { context with token } = { schema.valueContext name context with token } := by
  simp only [valueContext]
  split <;> rfl

theorem comparisonContext_setToken (schema : Schema) (name : Text) (context : Context)
    (token : Option Token) :
    schema.comparisonContext name { context with token } =
      { schema.comparisonContext name context with token } := by
  simp only [comparisonContext]
  split <;> rfl

theorem fieldContext_of_not_mem (schema : Schema) {path : Text} (token : Option Token)
    (noDot : '.' ∉ path) :
    schema.fieldContext path token =
      ⟨path, some .field, schema.currentModel, none, token, schema.rootStack⟩ := by
  simp only [fieldContext, Text.pieces_of_not_mem noDot, List.length_singleton, Nat.le_refl, if_true]

/-- The context of a path with dots: what stands behind the last dot is typed, in the model that the
rest leads to. -/
theorem fieldContext_append (schema : Schema) {front typed : Text} (token : Option Token)
    (noDot : '.' ∉ typed) :
    schema.fieldContext (front ++ '.' :: typed) token =
      if (named? (schema.resolve front).model).isSome && (named? (schema.resolve front).field).isNone then
        ⟨typed, some .field, (schema.resolve front).model, none, token, (schema.resolve front).stack⟩
      else ⟨typed, none, none, none, token, schema.rootStack⟩ := by
  have several : ¬ (Text.pieces '.' front ++ [typed]).length ≤ 1 := by
    have := List.length_pos_iff.mpr (Text.pieces_ne_nil '.' front)
    rw [List.length_append, List.length_singleton]
    omega
  simp only [fieldContext, Text.pieces_append, Text.pieces_of_not_mem noDot, if_neg several,
    List.getLast?_concat, List.dropLast_concat, Text.joinWith_pieces, Option.getD_some]

theorem fieldContext_cases (schema : Schema) (path : Text) (token : Option Token) :
    '.' ∉ path ∧ schema.fieldContext path token =
        ⟨path, some .field, schema.currentModel, none, token, schema.rootStack⟩ ∨
      ∃ front typed, path = front ++ '.' :: typed ∧ '.' ∉ typed ∧
        ((named? (schema.resolve front).model).isSome = true ∧
            (named? (schema.resolve front).field).isNone = true ∧
            schema.fieldContext path token =
              ⟨typed, some .field, (schema.resolve front).model, none, token,
                (schema.resolve front).stack⟩ ∨
          schema.fieldContext path token = ⟨typed, none, none, none, token, schema.rootStack⟩) := by
  rcases Text.split_last '.' path with absent | ⟨front, typed, rfl, absent⟩
  · exact Or.inl ⟨absent, schema.fieldContext_of_not_mem token absent⟩
  · refine Or.inr ⟨front, typed, rfl, absent, ?_⟩
    rw [schema.fieldContext_append token absent]
    split
    · rename_i resolved
      rw [Bool.and_eq_true] at resolved
      exact Or.inl ⟨resolved.1, resolved.2, rfl⟩
    · exact Or.inr rfl

theorem fieldContext_typed_suffix (schema : Schema) (path : Text) (token : Option Token) :
    (schema.fieldContext path token).typed <:+ path := by
  rcases schema.fieldContext_cases path token with
    ⟨_, same⟩ | ⟨front, typed, rfl, _, ⟨_, _, same⟩ | same⟩
  · exact ⟨[], by simp [same]⟩
  · exact ⟨front ++ ['.'], by simp [same]⟩
  · exact ⟨front ++ ['.'], by simp [same]⟩

theorem valueContext_typed_suffix (schema : Schema) (name : Text) (context : Context) :
    (schema.valueContext name context).typed <:+ context.typed := by
  simp only [valueContext]
  split
  · dsimp only
    split
    · exact List.drop_suffix 1 _
    · exact List.suffix_refl _
  · exact List.suffix_refl _

theorem comparisonContext_typed (schema : Schema) (name : Text) (context : Context) :
    (schema.comparisonContext name context).typed = context.typed := by
  simp only [comparisonContext]
  split <;> rfl

theorem slice_suffix (text : Text) (start : Int) (cursor : Nat) :
    text.slice start cursor <:+ text.take cursor := by
  rw [← Text.before_natCast]
  exact List.drop_suffix _ _

theorem atCursor_typed_suffix (text : Text) (cursor : Nat) :
    (Window.atCursor text cursor).typed <:+ text.take cursor := by
  simp only [Window.atCursor, Window.typedIn]
  split
  · exact List.nil_suffix
  · exact (List.drop_suffix _ _).trans (slice_suffix text _ cursor)

theorem path_suffix (text : Text) (cursor : Nat) :
    (Window.atCursor text cursor).path text cursor <:+ text.take cursor := by
  unfold Window.path
  split
  · split
    · exact slice_suffix text _ cursor
    · exact atCursor_typed_suffix text cursor
  · exact atCursor_typed_suffix text cursor

/-- The typed text stands right before the cursor. -/
theorem contextAt_typed_suffix (schema : Schema) (text : Text) (cursor : Nat) :
    (schema.contextAt text cursor).typed <:+ text.take cursor := by
  have window := atCursor_typed_suffix text cursor
  rcases schema.contextAt_cases text cursor with
    ⟨_, same⟩ | same | ⟨name, same⟩ | ⟨name, same⟩ | same <;> rw [same]
  · exact (schema.fieldContext_typed_suffix _ _).trans (path_suffix text cursor)
  · exact window
  · exact (schema.valueContext_typed_suffix name _).trans window
  · rw [comparisonContext_typed]; exact window
  · exact window

end Schema

end QueryCompletion
