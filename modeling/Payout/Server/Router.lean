import Payout.Server.Body
import Payout.Api.Handlers
import Payout.Decimal.Parse

/-!
# The HTTP routes

Eight routes serve the service over HTTP:

* `POST /distributions` opens a distribution, `GET /distributions` lists them;
* `GET /distributions/{id}` answers a summary, `GET /distributions/{id}/audit` the audit trail;
* `PUT /distributions/{id}/total_profit`, `POST /distributions/{id}/details` and
  `POST /distributions/{id}/allocate` change a distribution;
* `DELETE /details/{id}` removes a row.

A path that matches no route answers 404, and one that matches only under other methods
answers 405, both with no body; `HEAD` is served wherever `GET` is, without the body. A
route's identifier must read as a 64-bit integer, else the request is a bad URL (400). A
body must be declared JSON (`application/json`, or any `application/…+json`), else 415;
then it is read (400 for a body that is not JSON, 422 for JSON of the wrong shape). These
refusals answer in plain text.

The service's answers are JSON: the result with 200, or `{"error": true, "message": …}` with
400 for bad input, 404 for a missing resource, 422 for a broken rule and 500 for an internal
failure.
-/

namespace Payout.Server

open Api

/-- A request: method, target, declared content type and body. -/
structure Request where
  method : String
  target : String
  contentType : Option String
  body : String
deriving Inhabited

/-- A response: status, content type and body. -/
structure Response where
  status : Nat
  contentType : Option String
  body : String
deriving Inhabited

/-- A JSON answer. -/
def Response.json (status : Nat) (j : Json) : Response := ⟨status, some "application/json", j.render⟩

/-- A plain-text refusal. -/
def Response.text (status : Nat) (t : String) : Response :=
  ⟨status, some "text/plain; charset=utf-8", t⟩

/-- An answer with no body. -/
def Response.empty (status : Nat) : Response := ⟨status, none, ""⟩

/-- The status of a failure of the service. -/
def errorStatus : ApiError → Nat
  | .invalidInput _ _ => 400
  | .notFound _ _ => 404
  | .ruleViolation _ _ => 422
  | .internal _ => 500

/-- The answer to a failure of the service. -/
def errorResponse (e : ApiError) : Response :=
  .json (errorStatus e) (.obj [("error", .bool true), ("message", .str e.text)])

/-- The answer to a refused body. -/
def BodyRejection.response : BodyRejection → Response
  | .notJson m => .text 400 ("Failed to parse the request body as JSON: " ++ m)
  | .wrongShape m => .text 422 ("Failed to deserialize the JSON body into the target type: " ++ m)

/-! ### Routes -/

/-- What a route does. -/
inductive Endpoint where
  | createDistribution
  | listDistributions
  | showDistribution
  | setTotalProfit
  | addDetail
  | allocate
  | removeDetail
  | showAudit
deriving DecidableEq, Inhabited

/-- A route: a method, the segments of its path (`none` for the identifier) and what it does. -/
structure Route where
  method : String
  pattern : List (Option String)
  endpoint : Endpoint

/-- The routes of the service. -/
def routes : List Route :=
  [⟨"POST", [some "distributions"], .createDistribution⟩,
   ⟨"GET", [some "distributions"], .listDistributions⟩,
   ⟨"GET", [some "distributions", none], .showDistribution⟩,
   ⟨"PUT", [some "distributions", none, some "total_profit"], .setTotalProfit⟩,
   ⟨"POST", [some "distributions", none, some "details"], .addDetail⟩,
   ⟨"POST", [some "distributions", none, some "allocate"], .allocate⟩,
   ⟨"DELETE", [some "details", none], .removeDetail⟩,
   ⟨"GET", [some "distributions", none, some "audit"], .showAudit⟩]

/-- The identifiers a path gives a pattern, if it matches: literal segments must be equal,
an identifier segment must not be empty. -/
def matchPattern : List (Option String) → List String → Option (List String)
  | [], [] => some []
  | some lit :: ps, s :: ss => if lit == s then matchPattern ps ss else none
  | none :: ps, s :: ss => if s.isEmpty then none else (matchPattern ps ss).map (s :: ·)
  | _, _ => none

/-- What a request's method and path lead to. -/
inductive Resolution where
  | found (endpoint : Endpoint) (ids : List String)
  | wrongMethod
  | missing

/-- The segments of a target's path, when it is absolute. -/
def pathSegments (target : String) : Option (List String) :=
  let path := (target.splitOn "?").headD ""
  match path.toList with
  | '/' :: rest => some ((String.ofList rest).splitOn "/")
  | _ => none

/-- Finds the route of a method and target; `HEAD` is looked up as `GET`. -/
def resolve (method target : String) : Resolution :=
  match pathSegments target with
  | none => .missing
  | some segs =>
    let method := if method == "HEAD" then "GET" else method
    let hits := routes.filterMap fun r => (matchPattern r.pattern segs).map (r, ·)
    match hits.find? (·.1.method == method) with
    | some (r, ids) => .found r.endpoint ids
    | none => if hits.isEmpty then .missing else .wrongMethod

/-! ### Reading the parts of a request -/

/-- The value of a hexadecimal digit. -/
def hexDigit? (c : Char) : Option Nat :=
  if c.isDigit then some (c.toNat - '0'.toNat)
  else if 'a' ≤ c && c ≤ 'f' then some (c.toNat - 'a'.toNat + 10)
  else if 'A' ≤ c && c ≤ 'F' then some (c.toNat - 'A'.toNat + 10)
  else none

/-- The bytes of a percent-encoded text: `%` and two hex digits stand for a byte; anything
else stands for itself. -/
def percentBytes : List Char → List UInt8
  | '%' :: a :: b :: rest =>
    match hexDigit? a, hexDigit? b with
    | some x, some y => (x * 16 + y).toUInt8 :: percentBytes rest
    | _, _ => (String.singleton '%').toUTF8.toList ++ percentBytes (a :: b :: rest)
  | c :: rest => (String.singleton c).toUTF8.toList ++ percentBytes rest
  | [] => []

/-- A percent-encoded text decoded, if the bytes are UTF-8. -/
def percentDecode (s : String) : Option String :=
  String.fromUTF8? (ByteArray.mk (percentBytes s.toList).toArray)

/-- Reads a 64-bit integer: an optional sign and at least one digit, nothing else. -/
def parseWord (s : String) : Option Int :=
  let (negative, ds) := match s.toList with
    | '+' :: r => (false, r)
    | '-' :: r => (true, r)
    | r => (false, r)
  if ds.isEmpty || !ds.all Char.isDigit then none
  else
    let v : Int := Decimal.natOfDigits ds
    let i := if negative then -v else v
    if fitsWord i then some i else none

/-- Reads the identifier of a route, named `key`. -/
def readId (key raw : String) : Except Response Int :=
  match percentDecode raw with
  | none => .error (.text 400 ("Invalid URL: Invalid UTF-8 in `" ++ key ++ "`"))
  | some s =>
    match parseWord s with
    | some i => .ok i
    | none => .error (.text 400 ("Invalid URL: Cannot parse `" ++ s ++ "` to a `i64`"))

/-- Whether a token character of a media type. -/
def isTokenChar (c : Char) : Bool :=
  c.isAlphanum || "!#$%&'*+-.^_`|~".toList.contains c

/-- Whether a declared content type is JSON: `application/json`, or an `application` subtype
with the suffix `+json`, with any parameters, in any case. -/
def isJsonType (ct : String) : Bool :=
  let essence := ((ct.splitOn ";").headD "").toLower
  match essence.splitOn "/" with
  | [ty, sub] =>
    ty == "application" && !sub.isEmpty && sub.toList.all isTokenChar &&
      (sub == "json" || sub.endsWith "+json")
  | _ => false

/-- Reads a JSON body after checking that it is declared JSON. -/
def jsonBody {α : Type} (req : Request) (read : String → Except BodyRejection α) : Except Response α :=
  if !(req.contentType.map isJsonType).getD false then
    .error (.text 415 "Expected request with `Content-Type: application/json`")
  else
    match read req.body with
    | .ok a => .ok a
    | .error r => .error r.response

/-! ### Serving -/

/-- Runs the service and answers with its result or its failure. -/
def answer {α : Type} (act : ApiM α) (enc : α → Json) : StateM Database.Handle Response := do
  match ← act.run with
  | .ok a => pure (.json 200 (enc a))
  | .error e => pure (errorResponse e)

/-- Serves an endpoint with the identifiers of its path. -/
def Endpoint.serve (e : Endpoint) (ids : List String) (req : Request) :
    StateM Database.Handle Response :=
  let idNamed := fun (key : String) => readId key (ids.headD "")
  let refused := fun (r : Response) => (pure r : StateM Database.Handle Response)
  match e with
  | .createDistribution =>
    match jsonBody req readCreate with
    | .error r => refused r
    | .ok (r, a, c) =>
      answer (Api.createDistribution (r.text "period") (r.text "distribution_date") (r.int "total_profit") a c)
        Created.toJson
  | .listDistributions => answer Api.listDistributions distributionsJson
  | .showDistribution =>
    match idNamed "distribution_id" with
    | .error r => refused r
    | .ok id => answer (Api.distributionSummary id) summaryJson
  | .showAudit =>
    match idNamed "distribution_id" with
    | .error r => refused r
    | .ok id => answer (Api.distributionAudit id) (trailJson id)
  | .setTotalProfit =>
    match idNamed "distribution_id" >>= fun id => (jsonBody req readTotal).map (id, ·) with
    | .error r => refused r
    | .ok (id, r, a, c) => answer (Api.updateTotalProfit id (r.int "total_profit") a c) Retotaled.toJson
  | .addDetail =>
    match idNamed "distribution_id" >>= fun id => (jsonBody req readDetail).map (id, ·) with
    | .error r => refused r
    | .ok (id, r, a, c) =>
      answer (Api.addManualDetail id (r.int "participant_id") (r.float "percentage") a c) Added.toJson
  | .allocate =>
    match idNamed "distribution_id" >>= fun id => (jsonBody req readAttribution).map (id, ·) with
    | .error r => refused r
    | .ok (id, a, c) => answer (Api.runAutomaticAllocation id a c) Allocated.toJson
  | .removeDetail =>
    match idNamed "detail_id" >>= fun id => (jsonBody req readAttribution).map (id, ·) with
    | .error r => refused r
    | .ok (id, a, c) => answer (Api.removeDetail id a c) Removed.toJson

/-- Serves a request. -/
def respond (req : Request) : StateM Database.Handle Response := do
  match resolve req.method req.target with
  | .missing => pure (.empty 404)
  | .wrongMethod => pure (.empty 405)
  | .found e ids =>
    let res ← e.serve ids req
    pure (if req.method == "HEAD" then { res with body := "" } else res)

end Payout.Server
