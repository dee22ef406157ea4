import QueryCompletion.Failure
import QueryCompletion.Json.Encoding
import QueryCompletion.Url.Request

/-!
Fetching JSON documents over the web. The transport is given as the list of its replies; it keeps
what was sent over it.
-/

namespace QueryCompletion

/-- A document could not be fetched from a URL. -/
structure FetchError where
  url : String
  reason : String
deriving DecidableEq, Repr

def FetchError.message (error : FetchError) : String :=
  "failed to fetch from " ++ error.url ++ ": " ++ error.reason

/-- Why there is no document: it could not be fetched, or something unexpected happened. -/
inductive GetError where
  | fetch (error : FetchError)
  | unexpected (failure : Failure)
deriving DecidableEq, Repr

namespace Web

/-- What comes back for a request that was sent. -/
inductive Reply where
  | response (status : Int) (body : Text)
  | failure (message : String)
deriving DecidableEq, Repr

structure Sent where
  method : String
  url : Text
  timeout : Text
deriving DecidableEq, Repr

/-- The replies still to come and the requests sent so far. Without a reply left nothing is
found. -/
structure Transport where
  replies : List Reply := []
  sent : List Sent := []
deriving DecidableEq, Repr

namespace Transport

def send (transport : Transport) (request : Sent) : Reply × Transport :=
  (transport.replies.head?.getD (.response 404 []),
    { replies := transport.replies.tail, sent := transport.sent ++ [request] })

end Transport

/-- Why a reply holds no document. -/
inductive ReplyError where
  | refused (reason : String)
  | unexpected (failure : Failure)
deriving DecidableEq, Repr

/-- The document in a reply. -/
def Reply.document : Reply → Except ReplyError Json
  | .failure message => .error (.refused message)
  | .response status body =>
    if status ≠ 200 then .error (.refused ("HTTP " ++ toString status))
    else
      let text := Json.documentText body
      (Json.read text).mapError fun error =>
        match error with
        | .deepArray | .deepObject => .unexpected (.recursion (error.message text))
        | _ => .refused ("invalid JSON body: " ++ error.message text)

/-- A value as text: a text as it is, anything else as messages show it. -/
def plainText : Json → Text
  | .str s => s.toList
  | other => other.display

/-- The texts sent for one item of a parameter: one for each item of a list or each name in an
object. -/
def itemTexts : Json → List Text
  | .arr items => items.map plainText
  | .obj members => members.map fun member => member.1.toList
  | item => [plainText item]

/-- The texts of a parameter; an absent one is not sent. -/
def parameterTexts : Json → List Text
  | .null => []
  | .arr items =>
    items.flatMap fun item =>
      match item with
      | .null => []
      | other => itemTexts other
  | .obj members => members.map fun member => member.1.toList
  | other => [plainText other]

/-- Names and texts of all parameters that are sent. -/
def parameterFields (parameters : List (String × Json)) : List (Text × Text) :=
  parameters.flatMap fun parameter =>
    (parameterTexts parameter.2).map fun value => (parameter.1.toList, value)

/-- Why no request is made of a URL. -/
def targetError (url : String) : Url.TargetError → GetError
  | .unsplittable error => .unexpected (.value error.message)
  | problem => .fetch ⟨url, problem.message⟩

/-- Fetches the document at a URL; a URL that no request can be made of never reaches the
transport. -/
def getJson (transport : Transport) (timeout : Text) (url : String) (parameters : List (String × Json)) :
    Except GetError Json × Transport :=
  match Url.webTarget url.toList (parameterFields parameters) with
  | .error problem => (.error (targetError url problem), transport)
  | .ok target =>
    let (reply, after) := transport.send ⟨"GET", target, timeout⟩
    let result := reply.document.mapError fun error =>
      match error with
      | .refused reason => GetError.fetch ⟨url, reason⟩
      | .unexpected failure => .unexpected failure
    (result, after)

end Web

end QueryCompletion
