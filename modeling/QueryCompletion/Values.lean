import QueryCompletion.Cache
import QueryCompletion.Json.Lenient
import QueryCompletion.Loop

/-!
Field values that are served page by page. Pages are cached under the field and the text searched
for; a page is merged only if it is the one right behind those cached already.
-/

namespace QueryCompletion

/-- A search among the values of a field. -/
structure ValueQuery where
  model : Text
  field : Text
  search : Text
deriving DecidableEq, Repr

/-- The key under which pages of a search are cached. -/
def ValueQuery.key (query : ValueQuery) : Text :=
  query.model ++ '.' :: query.field ++ '|' :: query.search

/-- One page of values, numbered from one. -/
structure ValuePage where
  items : List Text
  number : Int
  hasNext : Bool
deriving DecidableEq, Repr

def ValuePage.ofJson : Json → Json.Checked ValuePage
  | .obj members =>
    let items := Json.checkMember members "items" [] Json.checkTexts
    let number := Json.checkRequired members "page" Json.checkInt
    let hasNext := Json.checkMember members "has_next" false Json.checkBool
    (items.both (number.both hasNext)).map fun (items, number, hasNext) => { items, number, hasNext }
  | _ => .fail .notRecord

/-- What is known of one search. -/
structure ValueEntry where
  items : List Text := []
  /-- The number of the last page merged. -/
  page : Option Int := none
  hasNext : Bool := false
  loading : Bool := false
deriving DecidableEq, Repr

namespace ValueEntry

/-- The number of the last page merged, zero if there is none. -/
def lastPage (entry : ValueEntry) : Int := entry.page.getD 0

/-- Whether values have to be fetched before the entry can be shown. -/
def wantsLoad (entry : ValueEntry) (loadMore : Bool) : Bool :=
  !entry.loading && (entry.page.isNone || (loadMore && entry.hasNext))

/-- The page to fetch next, if one is needed. -/
def nextPage? (entry : ValueEntry) (loadMore : Bool) : Option Int :=
  if loadMore && entry.hasNext then some (entry.lastPage + 1)
  else if entry.lastPage ≠ 0 then none
  else some 1

/-- The entry with one more page behind those it has. -/
def merge (entry : ValueEntry) (page : ValuePage) : ValueEntry :=
  { items := entry.items ++ page.items, page := some page.number, hasNext := page.hasNext, loading := false }

end ValueEntry

/-- Values known so far, and whether more are on their way. -/
structure ValueOptions where
  items : List Text
  loading : Bool
deriving DecidableEq, Repr

/-- The service of field values. -/
structure ValueService where
  /-- Without an address no values can be fetched. -/
  apiUrl : Option String := none
  cache : Cache Text ValueEntry
  fetchDelay : Binary64
  /-- The fetch that waits for typing to pause. -/
  pending : Option TaskId := none
  /-- The request in flight under each key, the oldest first. -/
  inFlight : List (Text × TaskId) := []

namespace ValueService

def hasApi (service : ValueService) : Bool :=
  match service.apiUrl with
  | some url => url ≠ ""
  | none => false

/-- The entry of a key, empty if there is none; looking it up uses it. -/
def lookUp (service : ValueService) (key : Text) : ValueEntry × ValueService :=
  let (found, cache) := service.cache.get? key
  (found.getD {}, { service with cache })

/-- Records a request in flight under its key. -/
def recordRequest (service : ValueService) (key : Text) (id : TaskId) : ValueService :=
  { service with
    inFlight :=
      if (service.inFlight.lookup key).isSome then
        service.inFlight.map fun request => if request.1 = key then (key, id) else request
      else service.inFlight ++ [(key, id)] }

/-- Strikes an ended request off the table. -/
def strikeRequest (service : ValueService) (id : TaskId) : ValueService :=
  { service with inFlight := service.inFlight.filter fun request => request.2 ≠ id }

/-- Marks a key as no longer being loaded. -/
def clearLoading (service : ValueService) (key : Text) : ValueService :=
  { service with cache := (service.cache.touch key).modify key fun entry => { entry with loading := false } }

/-- Merges a delivered page if it directly follows the pages cached under its key; any other page is
dropped and only ends the loading of the key. -/
def applyPage (service : ValueService) (key : Text) (page : ValuePage) : Bool × ValueService :=
  let (entry, touched) := service.lookUp key
  if page.number - 1 = entry.lastPage then
    (true, { touched with cache := touched.cache.set key (entry.merge page) })
  else (false, service.clearLoading key)

end ValueService

end QueryCompletion
