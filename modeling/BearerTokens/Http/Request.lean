/-
BearerTokens.Http.Request — a request as it comes in.

The target is a percent-encoded path and perhaps a query. The path is decoded
as a whole before anything looks at it, so an encoded slash separates segments
like any other.
-/
import BearerTokens.Http.Query
import BearerTokens.Http.Host
import BearerTokens.Number.Binary64
import BearerTokens.Text.Uppercase
import BearerTokens.Text.Blank

namespace BearerTokens.Http

open Number (Binary64)

/-- A request. `latency` is how far the clock goes on while it is answered, in
microseconds. -/
structure Request where
  method : String
  target : String
  headers : List (String × String)
  body : List UInt8
  latency : Int

namespace Request

/-- The path, decoded. -/
def path (r : Request) : String :=
  Text.percentDecode (String.ofList (r.target.toList.takeWhile (· != '?')))

/-- The query, as it was sent; none is the same as an empty one. -/
def query (r : Request) : String :=
  String.ofList ((r.target.toList.dropWhile (· != '?')).drop 1)

/-- The value of a header, whose name may be in any case; of several headers of
the name the first counts. -/
def header? (r : Request) (name : String) : Option String :=
  (r.headers.find? fun h => Text.fold h.1 == name).map (·.2)

/-- The latency in milliseconds, without their fraction. The seconds and a
thousand times them are both rounded on the way. -/
def milliseconds (r : Request) : Int :=
  r.latency.sign * ((Binary64.ofDecimal false r.latency.natAbs (-6)).times 1000).whole

/-! ## The host -/

/-- The host that a request is sent to where it does not say. -/
def defaultHost : String := "test"

/-- The host that a request is sent to, as the `Host` header gives it. A header
that holds no host does not count. -/
def host (r : Request) : String :=
  ((r.header? "host").filter Host.isValid).getD defaultHost

/-! ## The bearer key -/

/-- The key of an `Authorization` header: what follows the word `Bearer`, which
may be in any case, and a space, without blanks around it. -/
def bearerKeyOf? (value : String) : Option String :=
  let cs := value.toList
  let scheme := String.ofList (cs.takeWhile (· != ' '))
  let key := Text.strip (String.ofList ((cs.dropWhile (· != ' ')).drop 1))
  if Text.fold scheme == "bearer" && !key.isEmpty then some key else none

/-- The key that a request presents. -/
def bearerKey? (r : Request) : Option String :=
  (r.header? "authorization").bind bearerKeyOf?

/-! ## The path in the log -/

/-- One character of a path in a text where a path ends at `?` or `#`. -/
def loggedChar (c : Char) : List Char :=
  if c == '?' then "%3F".toList
  else if c == '#' then "%23".toList
  else if c == Char.ofNat 0x5C then "%5C".toList
  else [c]

/-- The path as it stands in a URL before it is encoded. Unless it is empty it
starts with a slash there, even if it does not itself. -/
def urlPath (path : String) : String :=
  let shown := path.toList.flatMap loggedChar
  String.ofList (if shown.isEmpty || shown.head? == some '/' then shown else '/' :: shown)

/-- The path as it is logged: on one line. -/
def loggedPath (r : Request) : String :=
  String.ofList ((urlPath r.path).toList.filter fun c => c != '\t' && c != '\n' && c != '\r')

end Request
end BearerTokens.Http
