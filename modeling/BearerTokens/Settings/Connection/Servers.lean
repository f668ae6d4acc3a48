/-
BearerTokens.Settings.Connection.Servers — the servers that a query names.

A query names servers in one of two ways: by the parameters `host` and `port`,
each a list with commas between its items or a repeated name, or by `host`
alone, each host with its port after a colon. `Servers.ofAddress` reads both
and pairs hosts with ports. Where there are several servers, each of them must
have both.
-/
import BearerTokens.Settings.Address

namespace BearerTokens.Settings

/-! ## Errors -/

/-- Why a query does not say which servers to connect to. -/
inductive ServersError
  /-- Every host has more than one colon. -/
  | manyParts
  | bothWays
  | badPorts (ports : List (Option String))
  | unequal
  | noHost
  | noPort
deriving DecidableEq, Repr

/-- Ports in parentheses, with a comma after a single one. -/
def portsText (ports : List (Option String)) : String :=
  let items := ports.map fun port => (port.map Text.quote).getD "None"
  match items with
  | [item] => s!"({item},)"
  | items => "(" ++ ", ".intercalate items ++ ")"

/-- The text for people. -/
def ServersError.message : ServersError → String
  | manyParts => "too many values to unpack (expected 2)"
  | bothWays =>
    "Can't mix 'multihost' formats together; use \"host=h1,h2,h3&port=p1,p2,p3\" or "
      ++ "\"host=h1:p1&host=h2:p2&host=h3:p3\" separately"
  | badPorts ports => s!"Received non-integer port arguments: {portsText ports}"
  | unequal => "number of hosts and ports don't match"
  | noHost => "All hosts are required to be present for asyncpg multiple host URL"
  | noPort => "All ports are required to be present for asyncpg multiple host URL"

/-! ## Servers as they are written -/

/-- Hosts and ports as a query gives them. -/
structure ServerTexts where
  hosts : List String
  ports : List (Option String)
  /-- Do the ports stand beside the hosts? -/
  joined : Bool

/-- The pieces of a text between the characters `c`. -/
def pieces (c : Char) (s : String) : List String :=
  (Text.splitAt c s.toList).map String.ofList

/-- A character of a host that a port may stand beside. -/
def isHostChar (c : Char) : Bool :=
  Text.isAlphanumeric c || c == '-' || c == '.'

/-- A host and its port, if the text is a host, a colon and digits; one line
feed may follow. The digits may be missing. -/
def hostAndPort? (s : String) : Option (String × Option String) :=
  let host := s.toList.takeWhile isHostChar
  match s.toList.dropWhile isHostChar with
  | ':' :: rest =>
    let digits := rest.takeWhile Text.isDecimalDigit
    match rest.dropWhile Text.isDecimalDigit with
    | [] | ['\n'] =>
      let port := if digits.isEmpty then none else some (String.ofList digits)
      some (String.ofList host, port)
    | _ => none
  | _ => none

/-- The hosts and ports of a repeated `host`. A host without a colon has no
port, and what follows a second colon does not count, unless every host has one. -/
def ServerTexts.ofRepeated (hosts : List String) : Except ServersError ServerTexts :=
  let parts := hosts.map (pieces ':')
  if parts.all (3 ≤ ·.length) then .error .manyParts
  else .ok ⟨parts.map fun part => part.headD "", parts.map (·[1]?), true⟩

/-- The hosts and ports of a single `host`; its port may stand beside it only if
there is no parameter for it. -/
def ServerTexts.ofSingle (host : String) (hasPort : Bool) : ServerTexts :=
  let plain : ServerTexts := ⟨pieces ',' host, [], false⟩
  if hasPort || plain.hosts.length != 1 then plain
  else
    match hostAndPort? host with
    | some (host, port) => ⟨[host], [port], true⟩
    | none => plain

/-- The hosts and ports of an address as they are written in its query. -/
def Address.serverTexts (a : Address) : Except ServersError ServerTexts := do
  let port := a.parameter? "port"
  let texts ← match a.parameter? "host" with
    | none => .ok ⟨[], [], false⟩
    | some ⟨_, host, []⟩ => .ok (.ofSingle host port.isSome)
    | some p => ServerTexts.ofRepeated p.values
  match port with
  | none => .ok texts
  | some p =>
    if texts.joined then .error .bothWays
    else
      let ports := if p.others.isEmpty then pieces ',' p.value else p.values
      .ok { texts with ports := ports.map some }

/-! ## Servers -/

/-- A port as a number: nothing, or the empty text, is none. -/
def portNumber : Option String → Except Number.NumeralError (Option Int)
  | none => .ok none
  | some text => if text.isEmpty then .ok none else (Number.readInteger text).map some

/-- Hosts, and for each of them its port if it has one. -/
structure Servers where
  hosts : List String
  ports : List (Option Int)
deriving DecidableEq, Repr

/-- Is there no port, or one that stands for none? -/
def lacksPort (port : Option Int) : Bool :=
  port.all (· == 0)

/-- Do numbers of hosts and ports that are both given go together? Without hosts
there is at most one port. -/
def agree (hosts ports : Nat) : Bool :=
  ports == 0 || hosts == ports || (hosts == 0 && ports == 1)

/-- The servers that texts name. -/
def Servers.ofTexts (t : ServerTexts) : Except ServersError Servers := do
  let ports ← (t.ports.mapM portNumber).mapError fun _ => .badPorts t.ports
  if !agree t.hosts.length ports.length then .error .unequal
  else if ports.isEmpty then .ok ⟨t.hosts, t.hosts.map fun _ => none⟩
  else .ok ⟨t.hosts, ports⟩

/-- Several servers must all have a host and a port. -/
def Servers.check (s : Servers) : Except ServersError Servers :=
  if s.hosts.length < 2 then .ok s
  else if s.hosts.any (·.isEmpty) then .error .noHost
  else if s.ports.any lacksPort then .error .noPort
  else .ok s

end BearerTokens.Settings
