/-
BearerTokens.Http.Body — the content of a request.

A body is read as JSON if its media type says so. Three things can be found:
no body, the members of an object, or a value that is not an object; text of
another media type counts as such a value. JSON that is malformed is an issue;
JSON that cannot be decoded or held is not even that.
-/
import BearerTokens.Http.Request
import BearerTokens.Json.Reader
import BearerTokens.Json.Encoding
import BearerTokens.Request.Issue

namespace BearerTokens.Http

/-! ## Media types -/

/-- A media type in lower case, without its parameters. -/
def mediaType (contentType : String) : String :=
  let cs := contentType.toList
  String.ofList ((Text.trimChars Text.isBlank (cs.takeWhile (· != ';'))).map Char.toLower)

/-- Does the content type say that a body is JSON? -/
def isJsonType (contentType : String) : Bool :=
  match Text.splitAt '/' (mediaType contentType).toList with
  | [main, sub] =>
    main == "application".toList && (sub == "json".toList || "+json".toList.isSuffixOf sub)
  | _ => false

/-! ## Reading -/

/-- What a body holds. -/
inductive Content
  | absent
  | fields (fields : Json.Fields)
  | value (value : Json)
  /-- Bytes that are no text. -/
  | binary

/-- Why a body cannot be read. -/
inductive BodyError
  | malformed
  | unreadable
deriving DecidableEq, Repr

/-- The most levels of lists and objects in a body. -/
def maxDepth : Nat := 960

/-- What a JSON document holds. -/
def readDocument (bytes : List UInt8) : Except BodyError Content :=
  match Json.documentPoints? bytes with
  | none => .error .unreadable
  | some points =>
    match Json.read maxDepth points with
    | .error .malformed => .error .malformed
    | .error .unreadable => .error .unreadable
    | .ok (.object fields) => .ok (.fields fields)
    | .ok value => .ok (.value value)

/-- What the body of a request holds. -/
def readBody (r : Request) : Except BodyError Content :=
  if r.body.isEmpty then .ok .absent
  else if (r.header? "content-type").any isJsonType then readDocument r.body
  else
    match Text.decode? r.body with
    | some s => .ok (.value (.text s))
    | none => .ok .binary

end BearerTokens.Http
