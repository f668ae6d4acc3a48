/-
BearerTokens.Proofs.RequestEffects — the status of a response and the table.

Every request either leaves the table or carries a command out, which is what
`Serves` says, and the two can be told apart by the response: a request that
leaves the table gets status 200 only if it is a GET. `Accounts` is what this
means for each method, and `status_accounts_for_table` that it holds of every
request, whatever its path, headers and body are and whether or not the
database is disturbed.

Names are distinct in a committed table because the database does not accept
rows whose hash or link is taken.
-/
import BearerTokens.Proofs.Commands
import BearerTokens.Proofs.TenantIsolation

namespace BearerTokens.Http

open Service (Answer ComesTo TellsNoChange settled)

/-! ## What a request comes to -/

/-- What a request comes to on the table of a server: the response, and the
table afterwards. -/
inductive Serves (s : Server) (c : Conditions) (r : Request) :
    Except Unhandled Response → List Row → Prop
  | unchanged {response : Except Unhandled Response}
      (look : ∀ answer, response = .ok answer → answer.status = 200 → r.method = "GET") :
      Serves s c r response s.rows
  | carriedOut {endpoint : Endpoint} {params segments : List String} {codec : Codec}
      {command : Command} {answer : Answer} {response : Response} {rows : List Row}
      (method : endpoint.method = r.method) (path : pathSegments? r.path = some segments)
      (fits : Matches endpoint.path segments params)
      (reads : Reads s.codec params r endpoint (.run codec command))
      (answers : Answers command answer response)
      (comesTo : ComesTo codec c s.rows (command.operation s.links.next.1) (.ok answer) rows) :
      Serves s c r (.ok response) rows

/-- A tenant that a path names can be named in a message. -/
theorem Scope.Names.isNamed {scope : Scope} {params rest : List String} {t : Tenant}
    (h : scope.Names params t rest) : t.IsNamed := by
  cases h <;> rfl

/-- A command that is read from a request revokes for a tenant that can be named. -/
theorem Reads.isNamed {codec? : Except CodecFault Codec} {params : List String} {r : Request}
    {endpoint : Endpoint} {codec : Codec} {command : Command} {link : Link} {t : Tenant}
    (h : Reads codec? params r endpoint (.run codec command))
    (ht : (command.operation link).revoker? = some t) : t.IsNamed := by
  cases h with
  | authenticate | create | describe | list | get => cases ht
  | revokeTenant hnames | revoke hbody hnames =>
    cases ht
    exact hnames.isNamed

section

variable (s : Server) (c : Conditions) (r : Request)

/-- What was refused is not answered as if all had gone well. -/
theorem Abort.Refuses.look {a : Abort} (h : a.Refuses) :
    ∀ answer, Server.written (Server.respond (.error a)).1 = .ok answer → answer.status ≠ 200 := by
  intro answer hanswer
  unfold Server.written at hanswer
  split at hanswer
  · rename_i response hresponse
    split at hanswer
    · cases hanswer
      exact h _ hresponse
    · cases hanswer
  · cases hanswer

/-- Where nothing is pending it does not matter how the session ends. -/
theorem rows_settle {o : Outcome} {rows : List Row} {draws : Draws}
    (h : o.service = settled rows draws) : (s.settle o).rows = rows := by
  unfold Server.settle
  rw [h]
  split <;> rfl

/-- A ping leaves the service, since nothing is pending. -/
theorem service_ping (rows : List Row) (draws : Draws) :
    (Task.perform s.settings c (settled rows draws) s.links .ping).service
      = settled rows draws := by
  simp only [Task.perform, Service.lift, Store.ping]
  split
  · rfl
  · rfl

theorem serves_ping (hmethod : r.method = "GET") :
    let o := Task.perform s.settings c (settled s.rows s.draws) s.links .ping
    Serves s c r (Server.written (Server.respond o.result).1) (s.settle o).rows := by
  intro o
  rw [rows_settle s (service_ping s c s.rows s.draws)]
  exact .unchanged fun _ _ _ => hmethod

/-- **A command** is carried out, or it is refused and the table is left. -/
theorem serves_command {endpoint : Endpoint} {params segments : List String} {codec : Codec}
    {command : Command} (hmethod : endpoint.method = r.method)
    (hpath : pathSegments? r.path = some segments) (hfits : Matches endpoint.path segments params)
    (hreads : Reads s.codec params r endpoint (.run codec command)) :
    let o := command.perform codec c (settled s.rows s.draws) s.links
    Serves s c r (Server.written (Server.respond o.result).1) (s.settle o).rows := by
  intro o
  have hcarries := carries_perform codec c (settled s.rows s.draws) s.links command
  obtain ⟨rows, draws, hstate, hcomes⟩ := Service.reaches_perform codec c s.rows s.draws
    (command.operation s.links.next.1)
  have hservice : o.service = settled rows draws := hcarries.service.trans hstate
  rw [rows_settle s hservice]
  cases hresult : o.result with
  | ok response =>
    obtain ⟨answer, hanswer, hanswers⟩ := hcarries.answers response hresult
    rw [hanswer] at hcomes
    have hwritten : Server.written (Server.respond (.ok response)).1 = .ok response :=
      hanswers.written
    rw [hwritten]
    exact .carriedOut hmethod hpath hfits hreads hanswers hcomes
  | error a =>
    -- The service has failed, or has told that there was nothing to change.
    have hnamed : (Service.perform codec ⟨c, command.operation s.links.next.1⟩
        (settled s.rows s.draws)).answer ≠ .error .unnamedTenant := by
      intro hunnamed
      obtain ⟨t, ht, hnot⟩ := hcomes.not_isNamed hunnamed
      exact hnot (hreads.isNamed ht)
    have hrows := hcomes.eq_of_tellsNoChange (hcarries.tellsNoChange a hresult) hnamed
    have hrefuses := (hcarries.refuses a hresult).look
    rw [hrows]
    exact .unchanged fun answer hanswer hstatus => absurd hstatus (hrefuses answer hanswer)

/-- A request on a route likewise. -/
theorem serves_runRoute {route : Route} {params segments : List String}
    (hmethod : route.endpoint.method = r.method) (hpath : pathSegments? r.path = some segments)
    (hfits : Matches route.endpoint.path segments params) :
    Serves s c r (Server.written (Server.respond (s.runRoute c route params r).result).1)
      (s.settle (s.runRoute c route params r)).rows := by
  unfold Server.runRoute
  dsimp only
  generalize route.endpoint = endpoint at hmethod hfits ⊢
  cases hread : (Task.read s.codec endpoint params r).result with
  | error a =>
    have hrefuses := (refuses_read endpoint a hread).look
    exact .unchanged fun answer hanswer hstatus => absurd hstatus (hrefuses answer hanswer)
  | ok task =>
    have hreads := read_iff.1 hread
    cases task with
    | ping =>
      cases hreads
      exact serves_ping s c r hmethod.symm
    | run codec command => exact serves_command s c r hmethod hpath hfits hreads

/-- **One request**: it carries a command out or leaves the table. -/
theorem serves_answer : Serves s c r (s.answer c r).1 (s.answer c r).2.2.rows := by
  unfold Server.answer
  split
  · rename_i route params hfound
    obtain ⟨hmethod, segments, hpath, hfits⟩ := found_of_find hfound
    exact serves_runRoute s c r hmethod hpath hfits
  · refine .unchanged ?_
    rintro _ ⟨⟩ hstatus
    cases hstatus
  · refine .unchanged ?_
    rintro _ ⟨⟩ hstatus
    cases hstatus
  · refine .unchanged ?_
    rintro _ ⟨⟩ hstatus
    cases hstatus

/-- With the id that is added at the end: an error that becomes no response of
its own is answered with one that says nothing. -/
theorem serves_handle (now : Instant) (fault : Option Fault) :
    let e := s.handle now fault r
    let c := s.conditions now fault
    (∃ response : Response, e.response = response.withHeader "x-request-id" (s.requestId r).1
        ∧ Serves s c r (.ok response) e.server.rows)
      ∨ ∃ error, e.response = .internalError ∧ Serves s c r (.error error) e.server.rows := by
  intro e c
  have hserves := serves_answer s c r
  simp only [e, Server.handle]
  generalize s.answer c r = exchange at hserves ⊢
  obtain ⟨answer, log, after⟩ := exchange
  cases answer with
  | ok response => exact Or.inl ⟨response, rfl, hserves⟩
  | error error => exact Or.inr ⟨error, rfl, hserves⟩

/-- On a known route, what can be written is what is answered. -/
theorem handle_of_written {now : Instant} {fault : Option Fault} {route : Route}
    {params : List String} {response : Response}
    (hfind : find r.method r.path = .found route params) :
    let o := s.runRoute (s.conditions now fault) route params r
    let e := s.handle now fault r
    Server.written (Server.respond o.result).1 = .ok response →
      e.response = response.withHeader "x-request-id" (s.requestId r).1
        ∧ e.server.rows = (s.settle o).rows := by
  intro o e hwritten
  simp only [o] at hwritten
  simp only [e, Server.handle, Server.answer, hfind, hwritten]
  exact ⟨trivial, rfl⟩

end

/-! ## Changes -/

/-- The request asks whom a key belongs to, and presents one of this hash. -/
structure Presents (s : Server) (r : Request) (h : StorageHash) : Prop where
  path : ∃ last, pathSegments? r.path = some ["v1", "api", last]
    ∧ (last = "auth" ∨ last = "auth\n")
  key : ∃ codec key, s.codec = .ok codec ∧ r.bearerKey? = some key
    ∧ (codec.check key).hash? = .ok (some h)

/-- What a request that got this payload may have made of the table. -/
inductive Change (s : Server) (now : Instant) (r : Request) (payload : Payload) :
    List Row → Prop
  | nothing (method : r.method = "GET") : Change s now r payload s.rows
  | used (method : r.method = "GET") {h : StorageHash} (presents : Presents s r h)
      (one : s.rows.countP (Store.isActiveHash h) = 1) :
      Change s now r payload (updateWhere (Store.isActiveHash h) (Row.used now) s.rows)
  | issued (method : r.method = "POST") (h : StorageHash) (token : PendingToken) :
      Change s now r payload (s.rows ++ [Row.ofPending now h token])
  | described (method : r.method = "PUT") {fields : Json.Fields} {request : Request.Describe}
      (body : readBody r = .ok (.fields fields))
      (check : (Request.Describe.check fields).result = .ok request)
      (one : s.rows.countP (Store.isActiveLink request.link none) = 1) :
      Change s now r payload
        (updateWhere (Store.isActiveLink request.link none) (Row.described request.description)
          s.rows)
  | revoked (method : r.method = "DELETE") {t : Tenant} {i : Identifier} {segments : List String}
      (path : pathSegments? r.path = some segments) (addresses : Addresses segments t)
      (one : s.rows.countP (Store.isRevocable t i) = 1) :
      Change s now r payload (updateWhere (Store.isRevocable t i) (Row.ended now) s.rows)
  | revokedTenant (method : r.method = "DELETE") {t : Tenant} {segments : List String}
      {last : String} (path : pathSegments? r.path = some (segments ++ [last]))
      (all : last = "all" ∨ last = "all\n") (addresses : Addresses segments t)
      (counted : payload = .json (.object [("revoked_count",
        .int (s.rows.countP (Store.isActiveOf t)))])) :
      Change s now r payload (updateWhere (Store.isActiveOf t) (Row.ended now) s.rows)

section

variable {s : Server} {c : Conditions} {r : Request} {params segments : List String}
  {codec : Codec} {command : Command} {answer : Answer} {response : Response} {rows : List Row}

/-- A key that was found is used, unless this could not be recorded. -/
theorem change_authenticate (hkeyed : Keyed s.rows) (hmethod : r.method = "GET") {key : String}
    (hpath : pathSegments? r.path = some segments)
    (hfits : Matches Endpoint.authenticate.path segments params)
    (hkey : r.bearerKey? = some key) (hcodec : s.codec = .ok codec)
    (hcomes : ComesTo codec c s.rows (.authenticateOrRefuse key) (.ok answer) rows)
    (payload : Payload) : Change s c.now r payload rows := by
  generalize hanswer : (Except.ok answer : Except Failure Answer) = result at hcomes
  cases hcomes with
  | failed => cases hanswer
  | @used _ h row writes found answers =>
    have hany : s.rows.any (Store.isActiveHash h) = true :=
      List.any_eq_true.2 ⟨row, List.mem_of_find?_eq_some found, List.find?_some found⟩
    have hone : s.rows.countP (Store.isActiveHash h) = 1 :=
      hkeyed.countP_of_names (fun _ => Store.names_of_isActiveHash) hany
    cases hupdate : c.updateError? with
    | some e =>
      rw [Conditions.touch_of_refused hupdate, updateWhere_id]
      exact .nothing hmethod
    | none =>
      rw [Conditions.touch_of_recorded hupdate]
      refine .used hmethod ⟨?_, codec, key, hcodec, hkey, ?_⟩ hone
      · simp only [Endpoint.path, matches_literal_iff] at hfits
        obtain ⟨_, rfl, _, rfl, hauth⟩ := hfits
        obtain ⟨rest, last, rfl, hlast, hrest⟩ := hauth.of_append_literal []
        obtain ⟨rfl, -⟩ := matches_nil_iff.1 hrest
        exact ⟨last, hpath, hlast⟩
      · cases writes with
        | authenticateOrRefuse check => exact check
  | revoked writes => cases writes

/-- A description is that of the one active token of its link. -/
theorem change_describe (hkeyed : Keyed s.rows) (hmethod : r.method = "PUT")
    {fields : Json.Fields} {request : Request.Describe} (hbody : readBody r = .ok (.fields fields))
    (hcheck : (Request.Describe.check fields).result = .ok request) {e : Entity}
    (hcomes : ComesTo codec c s.rows (.describe request.link request.description none)
      (.ok (.entity (some e))) rows)
    (payload : Payload) : Change s c.now r payload rows := by
  generalize hanswer : (Except.ok (Answer.entity (some e)) : Except Failure Answer) = result
    at hcomes
  cases hcomes with
  | failed | notDescribed => cases hanswer
  | used writes | revoked writes => cases writes
  | described description found link =>
    exact .described hmethod hbody hcheck
      (hkeyed.countP_of_names (fun _ => Store.names_of_isActiveLink) found)

/-- A revocation is that of the one active token of its name. -/
theorem change_revoke (hkeyed : Keyed s.rows) (hmethod : r.method = "DELETE") {t : Tenant}
    {link : Option Link} {key : Option String} (hpath : pathSegments? r.path = some segments)
    (haddresses : Addresses segments t) {time : Timestamp}
    (hcomes : ComesTo codec c s.rows (.revoke t link key) (.ok (.time (some time))) rows)
    (payload : Payload) : Change s c.now r payload rows := by
  generalize hanswer : (Except.ok (Answer.time (some time)) : Except Failure Answer) = result
    at hcomes
  cases hcomes with
  | failed | notRevoked => cases hanswer
  | used writes => cases writes
  | @revoked _ t' i writes found =>
    have ht : t' = t := Option.some.inj (writes.revoker?.symm.trans rfl)
    rw [ht] at found ⊢
    exact .revoked hmethod hpath haddresses
      (hkeyed.countP_of_names (fun _ => Store.names_of_isRevocable) found)

/-- A revocation of all tokens tells how many there were. -/
theorem change_revokeTenant (hmethod : r.method = "DELETE") {t : Tenant} {last : String}
    (hpath : pathSegments? r.path = some (segments ++ [last]))
    (hall : last = "all" ∨ last = "all\n") (haddresses : Addresses segments t)
    (hnamed : t.IsNamed) {n : Nat}
    (hcomes : ComesTo codec c s.rows (.revokeTenant t) (.ok (.count n)) rows) :
    Change s c.now r (.json (.object [("revoked_count", .int n)])) rows := by
  generalize hanswer : (Except.ok (Answer.count n) : Except Failure Answer) = result at hcomes
  cases hcomes with
  | failed => cases hanswer
  | used writes | revoked writes => cases writes
  | revokedTenant =>
    rw [Service.reported, if_pos hnamed] at hanswer
    cases hanswer
    exact .revokedTenant hmethod hpath hall haddresses rfl

/-- **What is carried out** is one of a few changes, known by the method. -/
theorem change_of_carriedOut (hkeyed : Keyed s.rows) {endpoint : Endpoint}
    (hmethod : endpoint.method = r.method) (hpath : pathSegments? r.path = some segments)
    (hfits : Matches endpoint.path segments params)
    (hreads : Reads s.codec params r endpoint (.run codec command))
    (hanswers : Answers command answer response)
    (hcomes : ComesTo codec c s.rows (command.operation s.links.next.1) (.ok answer) rows) :
    Change s c.now r response.payload rows := by
  cases hreads with
  | authenticate hkey hcodec =>
    exact change_authenticate hkeyed hmethod.symm hpath hfits hkey hcodec hcomes _
  | create hbody hcodec hcheck =>
    cases hanswers with
    | create request key e =>
      generalize hanswer : (Except.ok (Answer.issued key e) : Except Failure Answer) = result
        at hcomes
      cases hcomes with
      | failed => cases hanswer
      | used writes | revoked writes => cases writes
      | issued => exact .issued hmethod.symm _ _
  | describe hbody hcodec hcheck =>
    cases hanswers
    exact change_describe hkeyed hmethod.symm hbody hcheck hcomes _
  | list hnames hcodec =>
    generalize hanswer : (Except.ok answer : Except Failure Answer) = result at hcomes
    cases hcomes with
    | failed | listed => exact .nothing hmethod.symm
    | used writes | revoked writes => cases writes
  | get hnames hcodec =>
    generalize hanswer : (Except.ok answer : Except Failure Answer) = result at hcomes
    cases hcomes with
    | failed | found => exact .nothing hmethod.symm
    | used writes | revoked writes => cases writes
  | revokeTenant hnames hcodec =>
    cases hanswers
    obtain ⟨path, last, rfl, hall, hrest⟩ := hfits.of_append_literal _
    exact change_revokeTenant hmethod.symm hpath hall (addresses_of_names hrest hnames)
      hnames.isNamed hcomes
  | revoke hbody hnames hcodec hcheck =>
    cases hanswers
    exact change_revoke hkeyed hmethod.symm hpath (addresses_of_names hfits hnames) hcomes _

end

/-! ## Statuses -/

/-- The status and the payload of a response account for what became of the table. -/
structure Accounts (s : Server) (now : Instant) (r : Request) (response : Response)
    (rows : List Row) : Prop where
  /-- What was not answered as asked has changed nothing. -/
  refused : response.status ≠ 200 → rows = s.rows
  /-- A GET writes down the use of the key that it presents, and nothing else. -/
  get : r.method = "GET" → rows = s.rows
    ∨ ∃ h, Presents s r h ∧ s.rows.countP (Store.isActiveHash h) = 1
      ∧ rows = updateWhere (Store.isActiveHash h) (Row.used now) s.rows
  /-- A POST adds a row. -/
  post : r.method = "POST" → response.status = 200 →
    ∃ h token, rows = s.rows ++ [Row.ofPending now h token]
  /-- A PUT describes the active token of the link in its body. -/
  put : r.method = "PUT" → response.status = 200 →
    ∃ fields request, readBody r = .ok (.fields fields)
      ∧ (Request.Describe.check fields).result = .ok request
      ∧ s.rows.countP (Store.isActiveLink request.link none) = 1
      ∧ rows = updateWhere (Store.isActiveLink request.link none)
        (Row.described request.description) s.rows
  /-- A DELETE revokes active tokens of the tenant in its path: one of them, or
  as many as it tells. -/
  delete : r.method = "DELETE" → response.status = 200 →
    ∃ t p segments, Addresses segments t
      ∧ (∀ row, p row = true → t.owns row = true ∧ row.isActive = true)
      ∧ rows = updateWhere p (Row.ended now) s.rows
      ∧ (pathSegments? r.path = some segments ∧ s.rows.countP p = 1
        ∨ ∃ last, (last = "all" ∨ last = "all\n")
          ∧ pathSegments? r.path = some (segments ++ [last])
          ∧ response.payload = .json (.object [("revoked_count", .int (s.rows.countP p))]))

/-- One of the changes is accounted for by what it is. -/
theorem Change.accounts {s : Server} {now : Instant} {r : Request} {response : Response}
    {rows : List Row} (h : Change s now r response.payload rows)
    (hstatus : response.status = 200) : Accounts s now r response rows := by
  have hother : ∀ {a b : String}, a ≠ b → r.method = a → r.method ≠ b :=
    fun hab ha hb => hab (ha.symm.trans hb)
  refine ⟨fun hne => absurd hstatus hne, ?_, ?_, ?_, ?_⟩
  · intro hget
    cases h with
    | nothing => exact Or.inl rfl
    | used _ presents one => exact Or.inr ⟨_, presents, one, rfl⟩
    | issued method | described method | revoked method | revokedTenant method =>
      exact absurd hget (hother (by decide) method)
  · intro hpost _
    cases h with
    | issued _ h token => exact ⟨h, token, rfl⟩
    | nothing method | used method | described method | revoked method | revokedTenant method =>
      exact absurd hpost (hother (by decide) method)
  · intro hput _
    cases h with
    | described _ body check one => exact ⟨_, _, body, check, one, rfl⟩
    | nothing method | used method | issued method | revoked method | revokedTenant method =>
      exact absurd hput (hother (by decide) method)
  · intro hdelete _
    cases h with
    | @revoked _ t i segments path addresses one =>
      refine ⟨t, _, segments, addresses, ?_, rfl, Or.inl ⟨path, one⟩⟩
      intro row hrow
      exact ⟨t.covers_isRevocable i row hrow, Store.isActive_of_isRevocable hrow⟩
    | @revokedTenant _ t segments last path all addresses counted =>
      refine ⟨t, _, segments, addresses, ?_, rfl, Or.inr ⟨last, all, path, counted⟩⟩
      intro row hrow
      exact ⟨t.covers_isActiveOf row hrow, Store.isActive_of_isActiveOf hrow⟩
    | nothing method | used method | issued method | described method =>
      exact absurd hdelete (hother (by decide) method)

/-- A table that was left is accounted for, unless a change was asked for and
the response says that all went well. -/
theorem Accounts.of_unchanged {s : Server} {now : Instant} {r : Request} {response : Response}
    (h : response.status = 200 → r.method = "GET") : Accounts s now r response s.rows := by
  have hne : ∀ method, method ≠ "GET" → r.method = method → response.status ≠ 200 := by
    intro method hget hmethod hstatus
    exact hget (hmethod.symm.trans (h hstatus))
  refine ⟨fun _ => rfl, fun _ => Or.inl rfl, ?_, ?_, ?_⟩
  · intro hmethod hstatus
    exact absurd hstatus (hne "POST" (by decide) hmethod)
  · intro hmethod hstatus
    exact absurd hstatus (hne "PUT" (by decide) hmethod)
  · intro hmethod hstatus
    exact absurd hstatus (hne "DELETE" (by decide) hmethod)

/-- The response accounts for the table if the one without its id does. -/
theorem Serves.accounts {s : Server} {c : Conditions} {r : Request} {response : Response}
    {rows : List Row} (h : Serves s c r (.ok response) rows) (hkeyed : Keyed s.rows) :
    Accounts s c.now r response rows := by
  generalize hresult : (Except.ok response : Except Unhandled Response) = result at h
  cases h with
  | unchanged look => exact .of_unchanged (look response hresult.symm)
  | carriedOut method path fits reads answers comesTo =>
    cases hresult
    exact (change_of_carriedOut hkeyed method path fits reads answers comesTo).accounts
      answers.status

/-- An error that becomes no response of its own comes before any change. -/
theorem Serves.rows_of_error {s : Server} {c : Conditions} {r : Request} {e : Unhandled}
    {rows : List Row} (h : Serves s c r (.error e) rows) : rows = s.rows := by
  generalize hresult : (Except.error e : Except Unhandled Response) = result at h
  cases h with
  | unchanged => rfl
  | carriedOut => cases hresult

/-- **Status and table agree**: the response to any request, at any time and
whatever disturbs the database, accounts for the table that the server has after it. -/
theorem status_accounts_for_table (s : Server) (hkeyed : Keyed s.rows) (now : Instant)
    (fault : Option Fault) (r : Request) :
    Accounts s now r (s.handle now fault r).response (s.handle now fault r).server.rows := by
  rcases serves_handle s r now fault with ⟨response, hresponse, hserves⟩ | ⟨e, hresponse, hserves⟩
  · have haccounts := hserves.accounts hkeyed
    rw [hresponse]
    exact ⟨haccounts.refused, haccounts.get, haccounts.post, haccounts.put, haccounts.delete⟩
  · have hstatus : Response.internalError.status ≠ 200 := by decide
    rw [hresponse, hserves.rows_of_error]
    exact .of_unchanged fun h => absurd h hstatus

/-! ## Samples -/

/-- A server on a table, with a codec that can hash. -/
def Server.sample (rows : List Row) : Server where
  settings :=
    { appName := "tokens", appVersion := "1", debug := false, logLevel := "INFO"
      databaseUrl := "sqlite://", poolSize := 5, maxOverflow := 10
      poolTimeout := .ofDecimal false 30 0, createTables := true
      hmacSecret := Codec.sampleConfig.secret, bcryptSalt := Codec.sampleConfig.salt }
  threshold := 20
  tableReady := true
  rows := rows
  draws := Draws.sample
  links := ⟨[⟨"l"⟩], 0, fun _ => ⟨"f"⟩⟩
  ids := ⟨[], 0, fun _ => "1"⟩

/-- The codec of a sample server is the sample codec. -/
theorem codec_sample (rows : List Row) : (Server.sample rows).codec = .ok Codec.sample := by
  have hconfig : (Server.sample rows).settings.codecConfig = .ok Codec.sampleConfig :=
    Codec.sampleConfig.mk?_self
  rw [Server.codec, hconfig]
  rfl

/-- All tokens of an account are revoked, of which there is one. -/
theorem revoked_all_of_account :
    let row := Row.ofPending 5 ⟨"h"⟩ sampleToken
    let s := Server.sample [row]
    let e := s.handle 7 none ⟨"DELETE", "/v1/frontend/auth/a/all", [], [], 0⟩
    Keyed s.rows ∧ e.response.status = 200 ∧ e.server.rows = [row.ended 7]
      ∧ ∃ t : Tenant, t.owns row = true ∧ row.isActive = true := by
  intro row s e
  have hkeyed : Keyed s.rows := ⟨List.nodup_singleton _, List.nodup_singleton _⟩
  have hstatus : e.response.status = 200 := by decide +kernel
  have hended : e.server.rows = [row.ended 7] := by decide +kernel
  obtain ⟨t, p, _, -, hp, hrows, -⟩ :=
    (status_accounts_for_table s hkeyed 7 none
      ⟨"DELETE", "/v1/frontend/auth/a/all", [], [], 0⟩).delete rfl hstatus
  -- The row has changed, so it is one of those that the theorem speaks of.
  have hrow : p row = true := by
    by_contra hnot
    have hkept : updateWhere p (Row.ended 7) [row] = [row] := by
      simp [updateWhere, hnot]
    have hsame : [row.ended 7] = [row] := hended.symm.trans (hrows.trans hkept)
    simp [row, Row.ended, Row.ofPending] at hsame
  exact ⟨hkeyed, hstatus, hended, t, hp row hrow⟩

end BearerTokens.Http
