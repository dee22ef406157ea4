import QueryCompletion.Proofs.Session.Events

/-!
Pages stay in sequence. Whatever is delivered, in whatever order, and whatever is forgotten meanwhile,
an entry consists of pages from the first on that were delivered since its key was last absent.
-/

namespace QueryCompletion

/-- The pages that a delivery brings under a key. -/
def pagesFor (key : Text) (delivery : Option (Text × ValuePage)) : List ValuePage :=
  (delivery.toList.filter fun brought => brought.1 = key).map Prod.snd

theorem pagesFor_self (key : Text) (page : ValuePage) : pagesFor key (some (key, page)) = [page] := by
  simp [pagesFor]

/-- A run so far, with the pages delivered under each key since the key was last absent from the
cache. -/
structure History where
  session : Session
  delivered : Text → List ValuePage

namespace History

def start (session : Session) : History := ⟨session, fun _ => []⟩

def after (history : History) (event : ValueEvent) : History :=
  { session := history.session.after event
    delivered := fun key =>
      if (history.session.after event).service.cache.contains key then
        history.delivered key ++ pagesFor key (history.session.delivery? event)
      else [] }

def run (session : Session) (events : List ValueEvent) : History := events.foldl after (start session)

end History

/-- Every entry is made of pages from a log. -/
def Ordered (log : Text → List ValuePage) (entries : List (Text × ValueEntry)) : Prop :=
  ∀ entry ∈ entries, ∃ pages, pages.Sublist (log entry.1) ∧ entry.2.MadeOf pages

/-- The entry that is looked up under a key is made of pages from the log. -/
theorem Ordered.lookUp {service : ValueService} {log : Text → List ValuePage}
    (ordered : Ordered log service.cache.entries) (key : Text) :
    ∃ pages, pages.Sublist (log key) ∧ (service.lookUp key).1.MadeOf pages := by
  rcases service.lookUp_cases key with ⟨_, empty⟩ | inside
  · rw [empty]
    exact ⟨[], List.nil_sublist _, ValueEntry.madeOf_nil⟩
  · exact ordered _ inside

theorem CacheStep.ordered {service : ValueService} {delivered : Option (Text × ValuePage)}
    {cache : Cache Text ValueEntry} {log : Text → List ValuePage}
    (step : CacheStep service delivered cache) (ordered : Ordered log service.cache.entries) :
    Ordered (fun key => log key ++ pagesFor key delivered) cache.entries := by
  have kept : ∀ {key : Text} {entry : ValueEntry},
      (∃ pages, pages.Sublist (log key) ∧ entry.MadeOf pages) →
      ∃ pages, pages.Sublist (log key ++ pagesFor key delivered) ∧ entry.MadeOf pages :=
    fun ⟨pages, among, made⟩ => ⟨pages, among.trans (List.sublist_append_left _ _), made⟩
  have reset : ∀ {key : Text} {entry : ValueEntry} (loading : Bool),
      (∃ pages, pages.Sublist (log key) ∧ entry.MadeOf pages) →
      ∃ pages, pages.Sublist (log key) ∧ ({ entry with loading } : ValueEntry).MadeOf pages :=
    fun loading ⟨pages, among, made⟩ => ⟨pages, among, made.setLoading loading⟩
  intro entry inside
  cases step with
  | same => exact kept (ordered entry inside)
  | used key => exact kept (ordered entry (Cache.mem_of_mem_touch inside))
  | loading key =>
    rcases Cache.mem_of_mem_set inside with rfl | ⟨old, _⟩
    · exact kept (reset true (ordered.lookUp key))
    · exact kept (ordered entry (Cache.mem_of_mem_touch old))
  | cleared key =>
    rcases ValueService.mem_clearLoading inside with ⟨old, _⟩ | ⟨rfl, old, member, same⟩
    · exact kept (ordered entry old)
    · rw [same]
      exact kept (reset false (ordered _ member))
  | @delivered key page brought =>
    rcases ValueService.mem_applyPage inside with
      ⟨old, _⟩ | ⟨rfl, ⟨follows, merged⟩ | ⟨old, member, same⟩⟩
    · exact kept (ordered entry old)
    · obtain ⟨pages, among, made⟩ := ordered.lookUp entry.1
      refine ⟨pages ++ [page], ?_, merged ▸ made.merge follows⟩
      show (pages ++ [page]).Sublist (log entry.1 ++ pagesFor entry.1 delivered)
      rw [brought, pagesFor_self]
      exact among.append_right [page]
    · rw [same]
      exact kept (reset false (ordered _ member))

namespace History

theorem ordered_after {history : History} (event : ValueEvent)
    (ordered : Ordered history.delivered history.session.service.cache.entries) :
    Ordered (history.after event).delivered (history.after event).session.service.cache.entries := by
  intro entry inside
  have present : (history.after event).delivered entry.1 =
      history.delivered entry.1 ++ pagesFor entry.1 (history.session.delivery? event) :=
    if_pos (Cache.contains_of_mem inside)
  rw [present]
  exact (history.session.after_cacheStep event).ordered ordered entry inside

theorem ordered_foldl {history : History} (events : List ValueEvent)
    (ordered : Ordered history.delivered history.session.service.cache.entries) :
    Ordered (events.foldl after history).delivered
      (events.foldl after history).session.service.cache.entries := by
  induction events generalizing history with
  | nil => exact ordered
  | cons event events ih => exact ih (ordered_after event ordered)

/-- In every state of every run each entry is empty, or it consists of pages one to its number, in this
order, delivered since its key was last absent; and a page that is not merged changes nothing that is
cached. -/
theorem cached_pages_in_sequence {start : Session} (fresh : start.service.cache.entries = [])
    (events : List ValueEvent) :
    (∀ key entry, (key, entry) ∈ (run start events).session.service.cache.entries →
      entry.page = none ∧ entry.items = [] ∧ entry.hasNext = false ∨
        ∃ (pages : List ValuePage) (last : ValuePage), pages.Sublist ((run start events).delivered key) ∧
          pages.getLast? = some last ∧
          pages.map ValuePage.number = (List.range' 1 pages.length).map Int.ofNat ∧
          entry.page = some (pages.length : Int) ∧ entry.items = pages.flatMap ValuePage.items ∧
          entry.hasNext = last.hasNext) ∧
      ∀ key page, ((run start events).session.applyPage key page).1 = false → ∀ other,
        (((run start events).session.applyPage key page).2.service.cache.peek? other).map ValueEntry.content =
          ((run start events).session.service.cache.peek? other).map ValueEntry.content := by
  constructor
  · intro key entry inside
    have nothing : Ordered (History.start start).delivered start.service.cache.entries := by
      rw [fresh]
      exact fun entry inside => absurd inside List.not_mem_nil
    obtain ⟨pages, among, made⟩ := ordered_foldl events nothing (key, entry) inside
    rcases made.cases with empty | ⟨last, ends, page, hasNext⟩
    · exact Or.inl empty
    · exact Or.inr ⟨pages, last, among, ends, made.numbered, page, made.items, hasNext⟩
  · intro key page rejected other
    rw [Session.applyPage_service]
    exact ValueService.applyPage_of_rejected rejected other

/-- An entry that was forgotten starts anew with the first page: the page that would have followed the
forgotten one is not merged, and the entry holds nothing from before. -/
theorem cached_pages_in_sequence_after_forgetting :
    let start : Session := { service := { cache := ⟨1, []⟩, fetchDelay := .zero } }
    let key : Text := "core.book.name|".toList
    let first : ValuePage := ⟨["Emma".toList], 1, true⟩
    let again : ValuePage := ⟨["Ulysses".toList], 1, true⟩
    let second : ValuePage := ⟨["Walden".toList], 2, false⟩
    let events : List ValueEvent := [.deliver key first, .deliver "auth.user.name|".toList first,
      .deliver key second, .deliver key again, .deliver key second]
    start.service.cache.entries = [] ∧ (run start events).delivered key = [again, second] ∧
      (key, { items := ["Ulysses".toList, "Walden".toList], page := some 2 }) ∈
        (run start events).session.service.cache.entries ∧
      ∃ pages : List ValuePage, pages.Sublist ((run start events).delivered key) ∧
        ["Ulysses".toList, "Walden".toList] = pages.flatMap ValuePage.items := by
  intro start key first again second events
  have fresh : start.service.cache.entries = [] := rfl
  have since : (run start events).delivered key = [again, second] := by decide +kernel
  have inside : (key, { items := ["Ulysses".toList, "Walden".toList], page := some 2 }) ∈
      (run start events).session.service.cache.entries := by decide +kernel
  have sequence := (cached_pages_in_sequence fresh events).1
  rcases sequence key _ inside with ⟨empty, _⟩ | ⟨pages, _, among, _, _, _, items, _⟩
  · cases empty
  · exact ⟨fresh, since, inside, pages, among, items⟩

end History

end QueryCompletion
