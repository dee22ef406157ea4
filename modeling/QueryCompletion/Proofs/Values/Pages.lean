import QueryCompletion.Proofs.Values.Cache
import QueryCompletion.Values

/-!
What a delivered page does to the cache. A page is merged only right behind those merged before, so an
entry is always made of the pages from the first on without a gap; any other page leaves what is cached
as it is.
-/

namespace QueryCompletion

namespace ValueEntry

/-- The pages make the entry: they are numbered from one on, their values are those of the entry in
order, and the last of them says whether there is more. -/
structure MadeOf (pages : List ValuePage) (entry : ValueEntry) : Prop where
  numbered : pages.map ValuePage.number = (List.range' 1 pages.length).map Int.ofNat
  items : entry.items = pages.flatMap ValuePage.items
  page : entry.page = pages.getLast?.map ValuePage.number
  hasNext : entry.hasNext = (pages.getLast?.map ValuePage.hasNext).getD false

/-- What an entry holds, whether it is being loaded or not. -/
def content (entry : ValueEntry) : List Text × Option Int × Bool := (entry.items, entry.page, entry.hasNext)

theorem madeOf_nil : MadeOf [] {} := ⟨rfl, rfl, rfl, rfl⟩

namespace MadeOf

variable {pages : List ValuePage} {entry : ValueEntry}

theorem setLoading (made : MadeOf pages entry) (loading : Bool) : MadeOf pages { entry with loading } :=
  ⟨made.numbered, made.items, made.page, made.hasNext⟩

theorem lastPage (made : MadeOf pages entry) : entry.lastPage = pages.length := by
  rw [ValueEntry.lastPage, made.page]
  rcases List.eq_nil_or_concat' pages with rfl | ⟨init, last, rfl⟩
  · rfl
  · have numbers := made.numbered
    rw [List.length_append, List.length_singleton, List.range'_concat, List.map_append, List.map_append] at numbers
    have ends := (List.append_inj' numbers rfl).2
    simp only [List.map_cons, List.map_nil, List.cons.injEq, and_true] at ends
    rw [List.getLast?_concat, Option.map_some, Option.getD_some, ends, List.length_append, List.length_singleton]
    simp only [Int.ofNat_eq_natCast]
    omega

/-- An entry is empty, or it goes as far as the last page. -/
theorem cases (made : MadeOf pages entry) :
    entry.page = none ∧ entry.items = [] ∧ entry.hasNext = false ∨
      ∃ last, pages.getLast? = some last ∧ entry.page = some (pages.length : Int) ∧
        entry.hasNext = last.hasNext := by
  have number := made.lastPage
  have page := made.page
  have hasNext := made.hasNext
  cases ends : pages.getLast? with
  | none =>
    have items := made.items
    rw [ends] at page hasNext
    rw [List.getLast?_eq_none_iff.mp ends] at items
    exact Or.inl ⟨page, items, hasNext⟩
  | some last =>
    rw [ends] at page hasNext
    rw [ValueEntry.lastPage, page] at number
    exact Or.inr ⟨last, rfl, page.trans (congrArg some number), hasNext⟩

/-- One more page behind the last. -/
theorem merge {page : ValuePage} (made : MadeOf pages entry) (follows : page.number - 1 = entry.lastPage) :
    MadeOf (pages ++ [page]) (entry.merge page) := by
  rw [made.lastPage] at follows
  refine ⟨?_, ?_, ?_, ?_⟩
  · rw [List.length_append, List.length_singleton, List.range'_concat, List.map_append, List.map_append,
      made.numbered]
    simp only [List.map_cons, List.map_nil, List.append_cancel_left_eq, List.cons.injEq, and_true,
      Int.ofNat_eq_natCast]
    omega
  · rw [List.flatMap_append, List.flatMap_singleton, ← made.items]
    rfl
  · rw [List.getLast?_concat]
    rfl
  · rw [List.getLast?_concat]
    rfl

end MadeOf

end ValueEntry

namespace ValueService

variable {service : ValueService} {key : Text} {entry : Text × ValueEntry}

theorem lookUp_cases (service : ValueService) (key : Text) :
    service.cache.peek? key = none ∧ (service.lookUp key).1 = {} ∨
      (key, (service.lookUp key).1) ∈ service.cache.entries := by
  unfold lookUp Cache.get?
  cases found : service.cache.peek? key with
  | none => exact Or.inl ⟨rfl, rfl⟩
  | some value => exact Or.inr (Cache.mem_of_peek? found)

theorem mem_clearLoading (inside : entry ∈ (service.clearLoading key).cache.entries) :
    entry ∈ service.cache.entries ∧ entry.1 ≠ key ∨
      entry.1 = key ∧ ∃ old, (key, old) ∈ service.cache.entries ∧ entry.2 = { old with loading := false } := by
  obtain ⟨value, member, same⟩ := Cache.mem_of_mem_modify inside
  have before := Cache.mem_of_mem_touch member
  by_cases atKey : entry.1 = key
  · rw [if_pos atKey] at same
    exact Or.inr ⟨atKey, value, atKey ▸ before, same⟩
  · rw [if_neg atKey] at same
    exact Or.inl ⟨by rw [← same] at before; exact before, atKey⟩

/-- A delivery changes nothing but what is cached. -/
theorem applyPage_eq (service : ValueService) (key : Text) (page : ValuePage) :
    (service.applyPage key page).2 = { service with cache := (service.applyPage key page).2.cache } := by
  unfold applyPage
  dsimp only
  split <;> rfl

/-- What is cached after a delivery: under other keys what was cached before, under its key the entry
with the page merged if it follows, and otherwise the entry as it was. -/
theorem mem_applyPage {page : ValuePage} (inside : entry ∈ (service.applyPage key page).2.cache.entries) :
    entry ∈ service.cache.entries ∧ entry.1 ≠ key ∨
      entry.1 = key ∧
        (page.number - 1 = (service.lookUp key).1.lastPage ∧ entry.2 = (service.lookUp key).1.merge page ∨
          ∃ old, (key, old) ∈ service.cache.entries ∧ entry.2 = { old with loading := false }) := by
  unfold applyPage at inside
  dsimp only at inside
  split at inside
  · rename_i follows
    rcases Cache.mem_of_mem_set inside with rfl | ⟨kept, other⟩
    · exact Or.inr ⟨rfl, Or.inl ⟨follows, rfl⟩⟩
    · exact Or.inl ⟨Cache.mem_of_mem_touch kept, other⟩
  · rcases mem_clearLoading inside with kept | ⟨atKey, old⟩
    · exact Or.inl kept
    · exact Or.inr ⟨atKey, Or.inr old⟩

/-- A page that is not merged changes nothing that is cached, and nothing is forgotten for it. -/
theorem applyPage_of_rejected {page : ValuePage} (rejected : (service.applyPage key page).1 = false)
    (other : Text) :
    ((service.applyPage key page).2.cache.peek? other).map ValueEntry.content =
      (service.cache.peek? other).map ValueEntry.content := by
  unfold applyPage at rejected ⊢
  dsimp only at rejected ⊢
  split
  · rename_i follows
    rw [if_pos follows] at rejected
    cases rejected
  · show ((Cache.modify _ key _).peek? other).map _ = _
    rw [Cache.peek?_modify, Cache.peek?_touch, Option.map_map]
    congr 1
    funext value
    simp only [Function.comp_apply]
    split <;> rfl

end ValueService

end QueryCompletion
