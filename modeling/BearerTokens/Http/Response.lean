/-
BearerTokens.Http.Response — answers and what they hold.

A response has a status, headers and a body. `Abort` lists the ways in which a
request ends without the answer that it asked for, and says which response
each of them becomes. An error that none of them covers is `Unhandled`; it
becomes a response too, but only after the request has been logged as failed.
-/
import BearerTokens.Failure
import BearerTokens.Request.Issue

namespace BearerTokens.Http

/-! ## Responses -/

/-- The body of a response. -/
inductive Payload
  | json (value : Json)
  | text (s : String)
  | empty

/-- A status, headers and a body. -/
structure Response where
  status : Nat
  headers : List (String × String)
  payload : Payload

/-- A response with a JSON body. -/
def Response.json (status : Nat) (value : Json) (headers : List (String × String)) : Response :=
  ⟨status, ("content-type", "application/json") :: headers, .json value⟩

/-- The answer that a request asked for. -/
def Response.ok (value : Json) : Response :=
  .json 200 value []

/-- The answer to a request that failed for a reason nobody has foreseen. -/
def Response.internalError : Response :=
  ⟨500, [("content-type", "text/plain; charset=utf-8")], .text "Internal Server Error"⟩

/-- The response with one more header. -/
def Response.withHeader (r : Response) (name value : String) : Response :=
  { r with headers := r.headers ++ [(name, value)] }

/-! ## Errors -/

/-- Why there is no codec. -/
inductive CodecFault
  | config (error : Codec.ConfigError)
  | salt (error : Codec.NotAscii)
deriving DecidableEq, Repr

/-- An error that becomes no response of its own. -/
inductive Unhandled
  | failure (error : Failure)
  | codec (fault : CodecFault)
  | notText (error : Tag.NotText)
  /-- The response holds a number that has no JSON text. -/
  | notFinite
  /-- The response quotes a string that is no text. -/
  | notCharacters
  /-- The response quotes bytes that are no text. -/
  | notUtf8
deriving DecidableEq

/-- Why the body of a response cannot be written, if it cannot: it has no text,
or no text of characters. -/
def Response.flaw? (r : Response) : Option Unhandled :=
  match r.payload with
  | .json value =>
    if !value.isFinite then some .notFinite
    else if !value.isText then some .notCharacters
    else none
  | _ => none

/-- Why a request does not get the answer that it asked for. -/
inductive Abort
  | token (error : TokenError)
  | status (status : Nat) (detail : String)
  | issues (issues : List Request.Issue)
  | unhandled (error : Unhandled)

/-- A list of texts. -/
def textList (texts : List String) : Json :=
  .list (texts.map .text)

/-- A name that is kept for the inside of the service: it starts with `_sa`. -/
def isReserved (name : Text.Wide) : Bool :=
  (Text.points "_sa").isPrefixOf name.points

/-- An issue in a response. What was sent is quoted without the members whose
names are reserved. -/
def issueJson (i : Request.Issue) : Json :=
  .object [("type", .text i.problem.code), ("loc", textList i.place),
    ("msg", .text i.problem.message), ("input", i.input.withoutNamed isReserved)]

/-- A token error in a response. -/
def errorJson (e : TokenError) : Json :=
  let link : Json.Fields := e.link?.toList.map fun l => ("token_link", .text l.value)
  let fields : Json.Fields :=
    [("message", .text e.message), ("error_identifier", .text e.identifier)]
  .object (fields ++ link)

/-- The response that reports a token error. -/
def errorResponse (e : TokenError) : Response :=
  let headers := if e.status == 401 then [("www-authenticate", "Bearer")] else []
  .json e.status (errorJson e) headers

/-- The response that reports one thing in words. -/
def detailResponse (status : Nat) (detail : String) (headers : List (String × String)) : Response :=
  .json status (.object [("detail", .text detail)]) headers

/-- The response that reports issues. -/
def issuesResponse (issues : List Request.Issue) : Response :=
  .json 422 (.object [("detail", .list (issues.map issueJson))]) []

/-! ## Tokens in responses -/

/-- A text or null. -/
def optionalText (s : Option String) : Json :=
  Json.ofOption .text s

/-- The name of a tag. -/
def tagJson {α : Type} [Tag α] (a : α) : Json :=
  .text (Tag.name a)

/-- A time or null. -/
def timeJson (t : Option Timestamp) : Json :=
  Json.ofOption (fun t => .text t.wireText) t

/-- A token as it is listed. -/
def tokenJson (e : Entity) : Json :=
  .object [("token_link", .text e.link.value), ("description", .text e.metadata.description),
    ("account_id", optionalText e.metadata.accountId),
    ("service_external_id", optionalText e.metadata.serviceId),
    ("service_mode", Json.ofOption tagJson e.metadata.mode),
    ("token_type", tagJson e.metadata.paymentType), ("type", tagJson e.metadata.source),
    ("created_by", .text e.metadata.creator), ("issued_date", timeJson e.issued),
    ("last_used", timeJson e.lastUsed), ("revoked", timeJson e.revoked)]

/-- What a key authorises. -/
def grantJson (e : Entity) : Json :=
  .object [("account_id", optionalText e.metadata.accountId),
    ("service_external_id", optionalText e.metadata.serviceId),
    ("service_mode", Json.ofOption tagJson e.metadata.mode),
    ("token_link", .text e.link.value), ("token_type", tagJson e.metadata.paymentType)]

end BearerTokens.Http
