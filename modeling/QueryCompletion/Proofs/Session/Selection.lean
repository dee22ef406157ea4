import Mathlib.Data.Nat.GCD.Basic
import Mathlib.Data.Nat.ModEq
import Mathlib.Logic.Function.Iterate
import QueryCompletion.Proofs.Session.Installation
import QueryCompletion.Session.Completion

/-!
The selection. It is nothing or a place in the list last offered, and moving it down or up goes round a circle
of these places with one more for no selection.
-/

namespace QueryCompletion

/-- What is selected is in the list. -/
def Completion.InRange (completion : Completion) : Prop :=
  ∀ index, completion.selected = some index → index < completion.suggestions.length

theorem Completion.inRange_empty (loading : Bool) : (Completion.empty loading).InRange := nofun

theorem Candidates.inRange_complete (candidates : Candidates) : candidates.complete.InRange := by
  intro index selected
  unfold complete at selected ⊢
  dsimp only at selected ⊢
  split at selected
  · rename_i alone
    cases selected
    exact Nat.lt_of_lt_of_eq Nat.zero_lt_one alone.symm
  · cases selected

/-- What any sources offer has its selection in range. -/
theorem inRange_chooseFrom (state : σ) (sources : List (Source σ)) (index : Nat) :
    (chooseFrom state index sources).completion.InRange := by
  induction sources generalizing index with
  | nil => exact Completion.inRange_empty false
  | cons source rest ih =>
    unfold chooseFrom
    split
    · exact Completion.inRange_empty false
    · exact ih (index + 1)
    · split
      · exact Completion.inRange_empty false
      · exact Candidates.inRange_complete _

namespace Session

/-- What can happen to the selection of a session. -/
inductive SelectionEvent where
  | generate (text : Text) (cursor selectionEnd : Option Int) (loadMore : Bool)
  | below
  | above
  | accept (index : Int) (text : Text) (cursor : Option Int)
  | enable
  | disable
  /-- A call about schemas or values, a turn of the event loop or the passing of time. -/
  | passing (event : SchemaEvent)

def upon (session : Session) : SelectionEvent → Session
  | .generate text cursor selectionEnd loadMore => session.generate text cursor selectionEnd loadMore
  | .below => session.selectNext
  | .above => session.selectPrevious
  | .accept index text cursor => (session.accept index text cursor).2
  | .enable => session.enable
  | .disable => session.disable
  | .passing event => session.next event

/-- The list offered stays what it is until another is made. -/
theorem next_completion (session : Session) (event : SchemaEvent) :
    (session.next event).completion = session.completion := (session.placed_next event).completion

/-! Every event leaves the selection in range. -/

variable {session : Session}

theorem inRange_offer (session : Session) (sources : List (Source Session)) :
    (session.offer sources).completion.InRange := by
  have chosen := inRange_chooseFrom session sources 0
  unfold offer
  dsimp only
  split <;> exact chosen

theorem inRange_generate (session : Session) (text : Text) (cursor selectionEnd : Option Int) (loadMore : Bool) :
    (session.generate text cursor selectionEnd loadMore).completion.InRange := by
  unfold generate
  split
  · exact Completion.inRange_empty _
  split
  · exact Completion.inRange_empty _
  split
  · exact Completion.inRange_empty _
  split
  · exact session.inRange_offer _
  · exact Completion.inRange_empty _

/-- The place of a selection on the circle: no selection comes before the first suggestion. -/
def place : Option Nat → Nat
  | none => 0
  | some index => index + 1

theorem place_injective : Function.Injective place := by
  intro first second same
  cases first with
  | none =>
    cases second with
    | none => rfl
    | some index => cases same
  | some index =>
    cases second with
    | none => cases same
    | some other => exact congrArg some (Nat.succ.inj same)

theorem place_le_iff {completion : Completion} :
    place completion.selected ≤ completion.suggestions.length ↔ completion.InRange := by
  unfold Completion.InRange
  cases completion.selected with
  | none => exact ⟨fun _ => nofun, fun _ => Nat.zero_le _⟩
  | some index => exact ⟨fun bound other same => by cases same; exact bound, fun range => range index rfl⟩

/-- A move goes on by the same number of places everywhere on the circle, and so meets all of them. -/
structure Rotates (count distance : Nat) (move : Option Nat → Option Nat) : Prop where
  place_eq : ∀ selected, place selected ≤ count → place (move selected) = (place selected + distance) % (count + 1)
  coprime : distance.Coprime (count + 1)

namespace Rotates

variable {count distance back : Nat} {move other : Option Nat → Option Nat} {selected : Option Nat}

theorem place_le (rotates : Rotates count distance move) (range : place selected ≤ count) :
    place (move selected) ≤ count := by
  rw [rotates.place_eq selected range]
  exact Nat.le_of_lt_succ (Nat.mod_lt _ (Nat.succ_pos count))

theorem place_iterate (rotates : Rotates count distance move) (steps : Nat) (range : place selected ≤ count) :
    place (move^[steps] selected) = (place selected + steps * distance) % (count + 1) := by
  induction steps generalizing selected with
  | zero => rw [Nat.zero_mul, Nat.add_zero, Nat.mod_eq_of_lt (Nat.lt_succ_of_le range)]; rfl
  | succ steps ih =>
    rw [Function.iterate_succ_apply, ih (rotates.place_le range), rotates.place_eq selected range, Nat.mod_add_mod,
      Nat.succ_mul, Nat.add_assoc, Nat.add_comm distance]

/-- A number of moves leads back if it is a multiple of the length of the circle, and only then. -/
theorem iterate_eq_iff (rotates : Rotates count distance move) (steps : Nat) (range : place selected ≤ count) :
    move^[steps] selected = selected ↔ count + 1 ∣ steps := by
  have here : place selected = place selected % (count + 1) := (Nat.mod_eq_of_lt (Nat.lt_succ_of_le range)).symm
  rw [← place_injective.eq_iff, rotates.place_iterate steps range]
  constructor
  · intro same
    rw [here, Nat.mod_add_mod] at same
    have multiple : count + 1 ∣ steps * distance := Nat.modEq_zero_iff_dvd.mp (Nat.ModEq.add_left_cancel' _ same)
    exact rotates.coprime.symm.dvd_of_dvd_mul_right multiple
  · rintro ⟨times, rfl⟩
    rw [Nat.mul_assoc, Nat.add_mul_mod_self_left]
    exact here.symm

/-- Two moves that make up the circle together undo each other. -/
theorem undo (rotates : Rotates count distance move) (rotates' : Rotates count back other)
    (whole : distance + back = count + 1) (range : place selected ≤ count) : other (move selected) = selected := by
  apply place_injective
  rw [rotates'.place_eq _ (rotates.place_le range), rotates.place_eq selected range, Nat.mod_add_mod, Nat.add_assoc,
    whole, Nat.add_mod_right, Nat.mod_eq_of_lt (Nat.lt_succ_of_le range)]

end Rotates

theorem rotates_selectionBelow {count : Nat} (some' : 0 < count) : Rotates count 1 (selectionBelow count) := by
  refine ⟨fun selected range => ?_, Nat.coprime_one_left _⟩
  cases selected with
  | none => exact (Nat.mod_eq_of_lt (Nat.succ_lt_succ some')).symm
  | some index =>
    unfold selectionBelow
    dsimp only
    split
    · rename_i inside
      exact (Nat.mod_eq_of_lt (Nat.succ_lt_succ inside)).symm
    · rename_i last
      have wraps : index + 1 = count := Nat.le_antisymm range (Nat.le_of_not_lt last)
      rw [place, place, wraps, Nat.mod_self]

theorem rotates_selectionAbove {count : Nat} (some' : 0 < count) : Rotates count count (selectionAbove count) := by
  refine ⟨fun selected range => ?_, Nat.coprime_self_add_right.mpr (Nat.coprime_one_right _)⟩
  cases selected with
  | none =>
    rw [place, Nat.zero_add, Nat.mod_eq_of_lt (Nat.lt_succ_self count)]
    exact Nat.sub_add_cancel some'
  | some index =>
    have wraps : place (some index) + count = index + (count + 1) := by
      rw [place]
      omega
    rw [wraps, Nat.add_mod_right, Nat.mod_eq_of_lt (Nat.lt_of_lt_of_le range (Nat.le_succ count))]
    cases index <;> rfl

theorem selectNext_eq (session : Session) (some' : session.completion.suggestions ≠ []) :
    session.selectNext =
      session.select (selectionBelow session.completion.suggestions.length session.completion.selected) := by
  unfold selectNext
  exact if_neg (mt List.length_eq_zero_iff.mp some')

theorem selectPrevious_eq (session : Session) (some' : session.completion.suggestions ≠ []) :
    session.selectPrevious =
      session.select (selectionAbove session.completion.suggestions.length session.completion.selected) := by
  unfold selectPrevious
  exact if_neg (mt List.length_eq_zero_iff.mp some')

/-- The list stays while the selection moves, so all moves go round the same circle. -/
theorem iterate_select {action : Session → Session} {move : Nat → Option Nat → Option Nat}
    (acts : ∀ session : Session, session.completion.suggestions ≠ [] →
      action session = session.select (move session.completion.suggestions.length session.completion.selected))
    (some' : session.completion.suggestions ≠ []) (steps : Nat) :
    action^[steps] session =
      session.select ((move session.completion.suggestions.length)^[steps] session.completion.selected) := by
  induction steps generalizing session with
  | zero => rfl
  | succ steps ih =>
    rw [Function.iterate_succ_apply, acts session some']
    exact ih some'

theorem selectPrevious_selectNext (range : session.completion.InRange)
    (some' : session.completion.suggestions ≠ []) : session.selectNext.selectPrevious = session := by
  have positive := List.length_pos_iff.mpr some'
  rw [selectNext_eq session some']
  refine (selectPrevious_eq (session.select (selectionBelow _ _)) some').trans ?_
  exact congrArg session.select
    ((rotates_selectionBelow positive).undo (rotates_selectionAbove positive) (Nat.add_comm _ _)
      (place_le_iff.mpr range))

theorem selectNext_selectPrevious (range : session.completion.InRange)
    (some' : session.completion.suggestions ≠ []) : session.selectPrevious.selectNext = session := by
  have positive := List.length_pos_iff.mpr some'
  rw [selectPrevious_eq session some']
  refine (selectNext_eq (session.select (selectionAbove _ _)) some').trans ?_
  exact congrArg session.select
    ((rotates_selectionAbove positive).undo (rotates_selectionBelow positive) rfl (place_le_iff.mpr range))

theorem inRange_select {move : Option Nat → Option Nat} {distance : Nat} (range : session.completion.InRange)
    (rotates : Rotates session.completion.suggestions.length distance move) :
    (session.select (move session.completion.selected)).completion.InRange :=
  place_le_iff.mp (rotates.place_le (place_le_iff.mpr range))

theorem inRange_selectNext (range : session.completion.InRange) : session.selectNext.completion.InRange := by
  unfold selectNext
  dsimp only
  split
  · exact range
  · rename_i some'
    exact inRange_select range (rotates_selectionBelow (Nat.pos_of_ne_zero some'))

theorem inRange_selectPrevious (range : session.completion.InRange) :
    session.selectPrevious.completion.InRange := by
  unfold selectPrevious
  dsimp only
  split
  · exact range
  · rename_i some'
    exact inRange_select range (rotates_selectionAbove (Nat.pos_of_ne_zero some'))

theorem inRange_accept (range : session.completion.InRange) (index : Int) (text : Text) (cursor : Option Int) :
    (session.accept index text cursor).2.completion.InRange := by
  unfold accept
  split
  · exact range
  · exact range
  · exact inRange_generate _ _ _ _ _

theorem inRange_upon (range : session.completion.InRange) (event : SelectionEvent) :
    (session.upon event).completion.InRange := by
  cases event with
  | generate text cursor selectionEnd loadMore => exact session.inRange_generate text cursor selectionEnd loadMore
  | below => exact inRange_selectNext range
  | above => exact inRange_selectPrevious range
  | accept index text cursor => exact inRange_accept range index text cursor
  | enable => exact range
  | disable => exact Completion.inRange_empty false
  | passing event =>
    show (session.next event).completion.InRange
    rw [next_completion]
    exact range

theorem inRange_foldl (range : session.completion.InRange) (events : List SelectionEvent) :
    (events.foldl upon session).completion.InRange := by
  induction events generalizing session with
  | nil => exact range
  | cons event events ih => exact ih (inRange_upon range event)

/-- Over every run what is selected is in the list. While anything is listed, moving down and moving up undo each
other and change nothing but the selection, and either of them leads back to the selection behind as many
moves as a multiple of the number of suggestions and one, and behind no other number of moves. -/
theorem selection_goes_round (settings : Settings) (log : Log) (client : Client)
    (clientOwned listening running : Bool) (events : List SelectionEvent) :
    let session := events.foldl upon (opened settings log client clientOwned listening running)
    let completion := session.completion
    completion.InRange ∧
      (completion.suggestions ≠ [] →
        (session.selectNext.selectPrevious = session ∧ session.selectPrevious.selectNext = session) ∧
        (∀ steps, (selectNext^[steps] session).completion.selected = completion.selected ↔
          completion.suggestions.length + 1 ∣ steps) ∧
        (∀ steps, (selectPrevious^[steps] session).completion.selected = completion.selected ↔
          completion.suggestions.length + 1 ∣ steps) ∧
        (∃ selected, session.selectNext = { session with completion := { completion with selected } }) ∧
        ∃ selected, session.selectPrevious = { session with completion := { completion with selected } }) := by
  intro session completion
  have start : (opened settings log client clientOwned listening running).completion.InRange :=
    Completion.inRange_empty false
  have range : completion.InRange := inRange_foldl start events
  refine ⟨range, fun some' => ⟨⟨selectPrevious_selectNext range some', selectNext_selectPrevious range some'⟩,
    fun steps => ?_, fun steps => ?_, ⟨_, session.selectNext_eq some'⟩, ⟨_, session.selectPrevious_eq some'⟩⟩⟩
  · rw [iterate_select selectNext_eq some']
    exact (rotates_selectionBelow (List.length_pos_iff.mpr some')).iterate_eq_iff steps (place_le_iff.mpr range)
  · rw [iterate_select selectPrevious_eq some']
    exact (rotates_selectionAbove (List.length_pos_iff.mpr some')).iterate_eq_iff steps (place_le_iff.mpr range)

/-- Among the two fields of a model three moves lead back and two do not; when one field is left, it is selected
from the start, and two moves lead back. -/
theorem selection_goes_round_among_fields :
    let schema : Schema :=
      { currentModel := some ['b'], models := [(['b'], [("name".toList, {}), ("rating".toList, {})])] }
    let start := opened {} [] (.scripted []) false true true
    let session := [.passing (.given (.ok schema)), .generate [] (some 0) none false].foldl upon start
    let narrowed := [.passing (.given (.ok schema)), .generate ['r'] (some 1) none false].foldl upon start
    (session.completion.suggestions.length = 2 ∧ session.selectNext.selectPrevious = session ∧
      (selectNext^[3] session).completion.selected = session.completion.selected ∧
      (selectPrevious^[2] session).completion.selected ≠ session.completion.selected) ∧
    narrowed.completion.suggestions.length = 1 ∧ narrowed.completion.selected = some 0 ∧
      (selectPrevious^[2] narrowed).completion.selected = narrowed.completion.selected := by
  intro schema start session narrowed
  have two : session.completion.suggestions.length = 2 := by decide +kernel
  have one : narrowed.completion.suggestions.length = 1 := by decide +kernel
  obtain ⟨_, moves⟩ := selection_goes_round {} [] (.scripted []) false true true
    [.passing (.given (.ok schema)), .generate [] (some 0) none false]
  obtain ⟨⟨undo, _⟩, below, above, _⟩ := moves (List.length_pos_iff.mp (by rw [two]; decide))
  obtain ⟨_, moves'⟩ := selection_goes_round {} [] (.scripted []) false true true
    [.passing (.given (.ok schema)), .generate ['r'] (some 1) none false]
  obtain ⟨_, _, above', _⟩ := moves' (List.length_pos_iff.mp (by rw [one]; decide))
  rw [two] at below above
  rw [one] at above'
  have three := (below 3).mpr (by decide)
  have apart := mt (above 2).mp (by decide)
  have back := (above' 2).mpr (by decide)
  refine ⟨⟨two, undo, ?_, ?_⟩, one, by decide +kernel, ?_⟩
  -- Compared beyond their reducible part the sides would be evaluated.
  · with_reducible exact three
  · with_reducible exact apart
  · with_reducible exact back

end Session

end QueryCompletion
