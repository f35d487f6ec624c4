/-
  CatalogIndex.Cluster.Exchange — talking to a cluster.

  A cluster takes requests and gives responses.  What it answers may depend on everything that was
  sent before, so a backend is a function of a state of its own; it may also fail to answer at all.
  An exchange is a program that sends requests one after the other and may fail on the way.  The
  requests it sent are kept, whether it fails or not.

  ## Main definitions

    * `Request`, `Response` — what goes to and fro;
    * `Backend`, `Link` — the other end, and what has passed so far;
    * `Exchange` — a program that sends requests.
-/
import CatalogIndex.Error
import CatalogIndex.Json.Printer

namespace CatalogIndex

/-! ## §1. Requests. -/

/-- The verb of a request. -/
inductive Method where
  | get | head | post | put | delete
  deriving DecidableEq

/-- The word for a verb. -/
def Method.word : Method → String
  | .get => "GET"
  | .head => "HEAD"
  | .post => "POST"
  | .put => "PUT"
  | .delete => "DELETE"

/-- The body of a request. -/
inductive Body where
  | json (v : Json)
  /-- Values on lines of their own. -/
  | lines (vs : List Json)
  deriving DecidableEq

namespace Body

/-- The type of a body. -/
def contentType : Body → String
  | .json _ => "application/json"
  | .lines _ => "application/x-ndjson"

/-- The characters of lines: each value is followed by the end of its line. -/
def lineChars : List Json → List Char
  | [] => []
  | v :: rest => v.render ++ '\n' :: lineChars rest

/-- The text of a body. -/
def encode : Body → String
  | .json v => v.compact
  | .lines vs => String.ofList (lineChars vs)

/-- The JSON form: the content under the name of its kind. -/
def toJson : Body → Json
  | .json v => .object [("json", v)]
  | .lines vs => .object [("ndjson", .arr vs)]

end Body

/-- A request: verb, path and body. -/
structure Request where
  method : Method
  path : String
  body : Option Body := none
  deriving DecidableEq

/-- The JSON form: a list of verb, path and body. -/
def Request.toJson (r : Request) : Json :=
  .arr [.str r.method.word, .str r.path, Json.orNull (r.body.map Body.toJson)]

/-! ## §2. Responses. -/

/-- A response: status and body. -/
structure Response where
  status : Nat
  body : Json

namespace Response

/-- Whether the request was carried out. -/
def isSuccess (r : Response) : Bool := 200 ≤ r.status && r.status < 300

/-- Whether there was nothing under the path. -/
def isNotFound (r : Response) : Bool := r.status == 404

/-- Why a request was refused: what the body says, or else the whole body. -/
def reason (r : Response) : String :=
  ((r.body.path? ["error", "reason"]).bind Json.asStr?).getD r.body.compact

/-- The body of a success; anything else is an error of `action`. -/
def accepted (r : Response) (action : String) : Outcome Json :=
  if r.isSuccess then .ok r.body else .error (.refused action r.status r.reason)

end Response

/-! ## §3. Exchanges. -/

/-- The other end: it answers a request, or fails to, and changes its state. -/
abbrev Backend (σ : Type) := Request → σ → Outcome Response × σ

/-- What has passed: the state of the other end, and the requests in the order they were sent. -/
structure Link (σ : Type) where
  state : σ
  sent : List Request := []

/-- A program that sends requests to a backend and may fail. -/
abbrev Exchange (σ : Type) := ReaderT (Backend σ) (ExceptT Error (StateM (Link σ)))

namespace Exchange

variable {σ α : Type}

/-- Fails if the outcome does. -/
def ofOutcome (o : Outcome α) : Exchange σ α := fun _ => ExceptT.mk (pure o)

/-- Sends a request and returns the response, whatever its status. -/
def perform (r : Request) : Exchange σ Response := fun backend => ExceptT.mk fun link =>
  let (outcome, state) := backend r link.state
  (outcome, { state, sent := link.sent ++ [r] })

/-- Sends a request and returns the body of the response, if that is a success. -/
def send (action : String) (method : Method) (path : String) (body : Option Body := none) :
    Exchange σ Json := do
  let response ← perform { method, path, body }
  ofOutcome (response.accepted action)

/-- Runs an exchange: its outcome, and what has passed then. -/
def run (x : Exchange σ α) (backend : Backend σ) (link : Link σ) : Outcome α × Link σ :=
  (x backend).run link

end Exchange

end CatalogIndex
