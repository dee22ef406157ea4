import QueryCompletion.Session.Basic

/-!
Field values in a session: what is known is given at once, what is missing is fetched in the
background. Fetches wait for typing to pause, and under each key at most one request is in flight.
-/

namespace QueryCompletion.Session

/-- A request can only be sent while an event loop runs. -/
inductive LoadError where
  | noLoop
deriving DecidableEq, Repr

def LoadError.message : LoadError → String
  | .noLoop => "no running event loop"

/-- Cancels the fetch that waits for typing to pause. -/
def cancelPending (session : Session) : Session :=
  { session with
    loop := session.service.pending.elim session.loop session.loop.cancel
    service := { session.service with pending := none } }

/-- Lets a fetch wait for typing to pause, in the place of any that waited before. -/
def scheduleLoad (session : Session) (query : ValueQuery) (loadMore : Bool) : Bool × Session :=
  if session.loop.running then
    let cleared := session.cancelPending
    let (id, loop) := cleared.loop.spawn (.debounce query loadMore false) []
    (true, { cleared with loop, service := { cleared.service with pending := some id } })
  else
    (false, session.logWarning "No running event loop, remote field values are unavailable")

/-- The values known so far; a fetch is scheduled if nothing is known yet or more is asked for and
there is more. -/
def valueOptions (session : Session) (query : ValueQuery) (loadMore : Bool) : ValueOptions × Session :=
  let (entry, service) := session.service.lookUp query.key
  let touched := { session with service }
  if entry.wantsLoad loadMore then
    let (scheduled, after) := touched.scheduleLoad query loadMore
    (⟨entry.items, scheduled⟩, after)
  else (⟨entry.items, entry.loading⟩, touched)

/-- Whether an unfinished request is in flight under a key. -/
def inFlight (session : Session) (key : Text) : Bool :=
  ((session.service.inFlight.lookup key).map session.loop.isLive).getD false

/-- Sends the request for the next page that is needed. Says whether one was sent. -/
def loadPage (session : Session) (query : ValueQuery) (loadMore : Bool) :
    Except LoadError Bool × Session :=
  let key := query.key
  if !session.service.hasApi || session.inFlight key then (.ok false, session)
  else
    let (entry, service) := session.service.lookUp key
    match entry.nextPage? loadMore with
    | none => (.ok false, { session with service })
    | some page =>
      let marked := { service with cache := service.cache.set key { entry with loading := true } }
      if session.loop.running then
        let (id, loop) := session.loop.spawn (.request ⟨query, page⟩ .unsent) [.strike]
        (.ok true, { session with loop, service := marked.recordRequest key id })
      else (.error .noLoop, { session with service := marked })

/-- Takes in a delivered page and announces it if it was merged. -/
def applyPage (session : Session) (key : Text) (page : ValuePage) : Bool × Session :=
  let (merged, service) := session.service.applyPage key page
  let after := { session with service }
  (merged, if merged then after.announce (.values key) else after)

/-- Logs why no page came and marks the key as no longer being loaded. -/
def failLoad (session : Session) (key : Text) (message : String) : Session :=
  let logged := session.logError message
  { logged with service := logged.service.clearLoading key }

/-- An address in messages. -/
def urlText (url : Option String) : String := url.getD "None"

/-- Takes in the answer to a request for a page that was sent to an address. -/
def takePage (session : Session) (asked : PageRequest) (url : Option String) (answer : Answer) : Session :=
  let key := asked.query.key
  match answer with
  | .refused reason => session.failLoad key (FetchError.message ⟨urlText url, reason⟩)
  | .failed _ =>
    session.failLoad key ("Unexpected error fetching values for " ++ String.ofList key)
  | .document document =>
    match ValuePage.ofJson document with
    | .ok page => (session.applyPage key page).2
    | .error issues =>
      session.failLoad key ("Malformed value page from " ++ urlText session.service.apiUrl ++ ": " ++
        Json.issueCount issues "ValuePage")

end QueryCompletion.Session
