/-
BearerTokens.Proofs.TenantReach — a tenant that has tokens has a path.

Whoever may be named in a request for a token should be found under a path of
their own. `isPathOf_of_addresses` says that a tenant is, and that the path is
nobody else's, if the name of the account or of the service holds no slash.
With a slash in it the name is accepted all the same, and then no path is the
tenant's: `ne_of_slash`. What would be its path may even be that of another
tenant; see `path_of_other_tenant`.

`created_token_in_reach` follows a token from the request that made it to a
listing that shows it and to its revocation.
-/
import BearerTokens.Proofs.Addresses
import BearerTokens.Proofs.RequestEffects

namespace BearerTokens

/-- The name that a path of the tenant holds. -/
def Tenant.pathName? : Tenant → Option String
  | account id => some id
  | service id _ => id

namespace Http

open Service (Operation Answer ComesTo settled)

/-! ## What is asked at a path -/

/-- The tenant that a command is about. -/
def Command.tenant? : Command → Option Tenant
  | list t _ _ | get t _ | revoke t _ | revokeTenant t => some t
  | _ => none

/-- The command that a request is understood as. -/
def Server.command? (s : Server) (r : Request) : Option Command :=
  match find r.method r.path with
  | .found route params =>
    match (Task.read s.codec route.endpoint params r).result with
    | .ok (.run _ command) => some command
    | _ => none
  | _ => none

/-- The request goes to the path of these segments, perhaps with a query. -/
def Request.IsAt (r : Request) (segments : List String) : Prop :=
  r.target = encodedPathOf segments ∨ ∃ query, r.target = encodedPathOf segments ++ "?" ++ query

/-- Whatever is asked at the path of these segments is asked of the tenant. -/
structure Server.IsPathOf (s : Server) (segments : List String) (t : Tenant) : Prop where
  list : ∀ r : Request, r.method = "GET" → r.IsAt segments →
    ∃ state source, s.command? r = some (.list t state source)
  revoke : ∀ (r : Request) (fields : Json.Fields) (request : Request.Revoke),
    r.method = "DELETE" → r.IsAt segments → readBody r = .ok (.fields fields) →
    (Request.Revoke.check fields).result = .ok request → s.command? r = some (.revoke t request)
  only : ∀ (r : Request) (command : Command), r.method = "GET" ∨ r.method = "DELETE" →
    r.IsAt segments → s.command? r = some command → command.tenant? = some t

theorem Request.IsAt.path {r : Request} {segments : List String} (h : r.IsAt segments) :
    r.path = pathOf segments := by
  rcases h with h | ⟨query, h⟩
  · exact path_of_target_eq h
  · exact (path_of_target h).1

section

variable {s : Server} {r : Request} {command : Command}

/-- A request on a route is understood as what is read. -/
theorem command?_of_reads {route : Route} {params : List String} {codec : Codec}
    (hfind : find r.method r.path = .found route params)
    (hreads : Reads s.codec params r route.endpoint (.run codec command)) :
    s.command? r = some command := by
  rw [Server.command?, hfind]
  dsimp only
  rw [read_iff.2 hreads]

/-- And as nothing else. -/
theorem reads_of_command? (h : s.command? r = some command) :
    ∃ route params codec, find r.method r.path = .found route params
      ∧ Reads s.codec params r route.endpoint (.run codec command) := by
  unfold Server.command? at h
  split at h
  · rename_i route params hfind
    split at h
    · rename_i codec command' hread
      cases h
      exact ⟨route, params, codec, hfind, read_iff.1 hread⟩
    · cases h
  · cases h

/-- The codec that a command is read with is the one that there is. -/
theorem Reads.codec_eq {codec? : Except CodecFault Codec} {params : List String}
    {endpoint : Endpoint} {codec : Codec}
    (h : Reads codec? params r endpoint (.run codec command)) : codec? = .ok codec := by
  cases h <;> assumption

/-- A revocation is read from the members of the body. -/
theorem body_of_revoke {t : Tenant} {request : Request.Revoke}
    (h : s.command? r = some (.revoke t request)) :
    ∃ fields, readBody r = .ok (.fields fields)
      ∧ (Request.Revoke.check fields).result = .ok request := by
  obtain ⟨_, _, _, -, hreads⟩ := reads_of_command? h
  generalize Route.endpoint _ = endpoint at hreads
  cases hreads with
  | revoke hbody hnames hcodec hcheck => exact ⟨_, hbody, hcheck⟩

/-- The name of a tenant that a path names is one of its parameters. -/
theorem Scope.Names.mem {scope : Scope} {params rest : List String} {t : Tenant} {id : String}
    (h : scope.Names params t rest) (hid : t.pathName? = some id) : id ∈ params := by
  cases h with
  | account =>
    cases hid
    exact List.mem_cons_self
  | service =>
    cases hid
    exact List.mem_cons_self

/-- Parameters name one tenant. -/
theorem Scope.Names.unique {scope : Scope} {params rest rest' : List String} {t t' : Tenant}
    (h : scope.Names params t rest) (h' : scope.Names params t' rest') : t = t' := by
  cases h with
  | account =>
    cases h'
    rfl
  | service known =>
    cases h' with
    | service known' =>
      rw [known] at known'
      cases known'
      rfl

/-- A command about a tenant was read from parameters that name it. -/
theorem Reads.names {codec? : Except CodecFault Codec} {params : List String}
    {endpoint : Endpoint} {codec : Codec} {t : Tenant}
    (h : Reads codec? params r endpoint (.run codec command)) (ht : command.tenant? = some t) :
    ∃ (scope : Scope) (rest : List String), scope.Names params t rest := by
  cases h with
  | authenticate | create | describe => cases ht
  | list hnames | get hnames | revokeTenant hnames | revoke hbody hnames =>
    cases ht
    exact ⟨_, _, hnames⟩

/-- A tenant's path is found, whichever the two methods, if its name is one segment. -/
theorem find_of_addresses {t : Tenant} {id : String} {segments : List String}
    (haddresses : Addresses segments t) (hid : t.pathName? = some id) (hne : id ≠ "")
    (hshort : id.length ≤ Request.nameLimit) (hslash : '/' ∉ id.toList) :
    ∃ (scope : Scope) (params : List String), scope.Names params t []
      ∧ ∀ r : Request, r.IsAt segments →
        find "GET" r.path = .found ⟨"GET", scope.path, .list scope⟩ params
          ∧ find "DELETE" r.path = .found ⟨"DELETE", scope.path, .revoke scope⟩ params := by
  cases haddresses with
  | account =>
    cases hid
    refine ⟨.account, [id], .account hshort [], ?_⟩
    intro r hr
    have hplain : ∀ s ∈ ["v1", "frontend", "auth", id], '/' ∉ s.toList := by
      simp [hslash]
    exact find_account hne (hr.path ▸ pathSegments?_pathOf hplain)
  | @service _ text mode known =>
    cases hid
    refine ⟨.service, [id, text], .service known hshort [], ?_⟩
    intro r hr
    have hplain : ∀ s ∈ ["v1", "frontend", "auth", "service", id, "mode", text],
        '/' ∉ s.toList := by
      simp [hslash, Mode.slash_not_mem known]
    exact find_service hne (Mode.ne_empty known) (hr.path ▸ pathSegments?_pathOf hplain)

/-- **A path of one's own**: at the path of a tenant whose name is one segment,
everything is about the tenant. -/
theorem isPathOf_of_addresses {t : Tenant} {id : String} {segments : List String} {codec : Codec}
    (hcodec : s.codec = .ok codec) (haddresses : Addresses segments t)
    (hid : t.pathName? = some id) (hne : id ≠ "") (hshort : id.length ≤ Request.nameLimit)
    (hslash : '/' ∉ id.toList) : s.IsPathOf segments t := by
  obtain ⟨scope, params, hnames, hfind⟩ := find_of_addresses haddresses hid hne hshort hslash
  refine ⟨?_, ?_, ?_⟩
  · intro r hmethod hr
    obtain ⟨hget, -⟩ := hfind r hr
    rw [← hmethod] at hget
    exact ⟨_, _, command?_of_reads hget (.list hnames hcodec)⟩
  · intro r fields request hmethod hr hbody hcheck
    obtain ⟨-, hdelete⟩ := hfind r hr
    rw [← hmethod] at hdelete
    exact command?_of_reads hdelete (.revoke hbody hnames hcodec hcheck)
  · intro r command hmethod hr hcommand
    obtain ⟨route, params', codec', hroute, hreads⟩ := reads_of_command? hcommand
    obtain ⟨hget, hdelete⟩ := hfind r hr
    have hunique : ∀ {t' : Tenant} {rest : List String}, scope.Names params t' rest → t' = t :=
      fun hnames' => hnames'.unique hnames
    rcases hmethod with hmethod | hmethod
    · rw [hmethod, hget] at hroute
      cases hroute
      cases hreads with
      | list hnames' => exact congrArg some (hunique hnames')
    · rw [hmethod, hdelete] at hroute
      cases hroute
      cases hreads with
      | revoke hbody hnames' => exact congrArg some (hunique hnames')

/-- **No path** is that of a tenant with a slash in its name. -/
theorem ne_of_slash {t : Tenant} {id : String} (hid : t.pathName? = some id)
    (hslash : '/' ∈ id.toList) (h : s.command? r = some command) : command.tenant? ≠ some t := by
  intro ht
  obtain ⟨route, params, codec, hfind, hreads⟩ := reads_of_command? h
  obtain ⟨-, segments, hpath, hfits⟩ := found_of_find hfind
  obtain ⟨scope, rest, hnames⟩ := hreads.names ht
  have hmem : id ∈ segments := hfits.mem_of_mem_params (hnames.mem hid)
  exact slash_not_mem_of_pathSegments? hpath id hmem hslash

end

/-! ## What is accepted for a new token -/

/-- A text that was accepted is not too long. -/
theorem length_le_of_optionalText {name id : String} {value : Option Json}
    (h : Request.optionalText name (some Request.nameLimit) value = .ok (some id)) :
    id.length ≤ Request.nameLimit := by
  unfold Request.optionalText at h
  split at h
  · cases h
  · cases h
  · rename_i w
    cases w with
    | broken points noText => cases h
    | text s =>
      simp only [Request.limitedText] at h
      split at h
      · cases h
      · rename_i hlength
        cases h
        exact Nat.le_of_not_lt hlength
  · cases h

/-- The names in a request that was accepted are those of its draft. -/
theorem names_of_check {draft : Request.Draft} {request : Request.Create}
    (h : draft.check.result = .ok request) :
    Request.optionalText "account_id" (some Request.nameLimit) draft.accountId
        = .ok request.accountId
      ∧ Request.optionalText "service_external_id" (some Request.nameLimit) draft.serviceId
        = .ok request.serviceId := by
  unfold Request.Draft.check at h
  split at h
  · cases h
  · split at h
    · cases h
    · dsimp only at h
      split at h
      · cases h
      · rename_i fields hfields
        split at h
        · rename_i accepted hrequest
          cases h
          unfold Request.StrictFields.request? at hrequest
          split at hrequest
          · cases hrequest
            unfold Request.Draft.strictFields at hfields
            dsimp only at hfields
            split at hfields
            · rename_i haccount hservice _ _ _
              cases hfields
              exact ⟨haccount, hservice⟩
            · cases hfields
          · cases hrequest
        · cases h

/-- **Accepted names** are short enough for a path. -/
theorem length_le_of_check {draft : Request.Draft} {request : Request.Create} {t : Tenant}
    {id : String} (h : draft.check.result = .ok request) {now : Instant} {hash : StorageHash}
    {link : Link} (howns : t.owns (Row.ofPending now hash (request.token link)) = true)
    (hid : t.pathName? = some id) : id.length ≤ Request.nameLimit := by
  obtain ⟨haccount, hservice⟩ := names_of_check h
  cases t with
  | account a =>
    cases hid
    have hname : request.accountId = some id := eq_of_beq howns
    rw [hname] at haccount
    exact length_le_of_optionalText haccount
  | service external mode =>
    cases hid
    simp only [Tenant.owns, Bool.and_eq_true] at howns
    have hname : request.serviceId = some id := eq_of_beq howns.1
    rw [hname] at hservice
    exact length_le_of_optionalText hservice

/-! ## From a new token to its revocation -/

section

variable {s : Server} {now : Instant} {fault : Option Fault}

/-- What a request for a token that was answered as asked has done. -/
theorem created_of_post {post : Request} (hmethod : post.method = "POST")
    (hstatus : (s.handle now fault post).response.status = 200) :
    ∃ (codec : Codec) (draft : Request.Draft) (request : Request.Create) (hash : StorageHash),
      s.codec = .ok codec ∧ s.tableReady = true
        ∧ draft.check.result = .ok request
        ∧ s.rows.any (Store.collides hash s.links.next.1) = false
        ∧ (s.handle now fault post).server.rows
          = s.rows ++ [Row.ofPending now hash (request.token s.links.next.1)] := by
  rcases serves_handle s post now fault with ⟨response, hresponse, hserves⟩ | ⟨e, hresponse, -⟩
  · rw [hresponse] at hstatus
    generalize hresult : (Except.ok response : Except Unhandled Response) = result at hserves
    generalize (s.handle now fault post).server.rows = rows at hserves ⊢
    cases hserves with
    | unchanged look =>
      rw [look response hresult.symm hstatus] at hmethod
      exact absurd hmethod (by decide)
    | @carriedOut _ _ _ codec _ _ _ _ method path fits reads answers comesTo =>
      rw [hmethod] at method
      have hget : "GET" ≠ "POST" := by decide
      have hput : "PUT" ≠ "POST" := by decide
      have hdelete : "DELETE" ≠ "POST" := by decide
      cases reads with
      | authenticate | list | get => exact absurd method hget
      | describe => exact absurd method hput
      | revokeTenant | revoke => exact absurd method hdelete
      | @create _ fields request hbody hcodec hcheck =>
        cases answers with
        | create _ key e =>
          generalize hanswer : (Except.ok (Answer.issued key e) : Except Failure Answer) = answer
            at comesTo
          cases comesTo with
          | failed => cases hanswer
          | used writes | revoked writes => cases writes
          | @issued _ hash _ ready free =>
            exact ⟨codec, _, request, hash, hcodec, Conditions.insertError?_eq_none_iff.1 ready,
              hcheck, free, rfl⟩
  · rw [hresponse] at hstatus
    exact absurd hstatus (by decide)

/-- What the server answers where a command gets a response. -/
theorem handle_of_reads (now : Instant) (fault : Option Fault) {r : Request} {route : Route}
    {params : List String} {codec : Codec} {command : Command} {response : Response}
    (hfind : find r.method r.path = .found route params)
    (hreads : Reads s.codec params r route.endpoint (.run codec command)) :
    let o := command.perform codec (s.conditions now fault)
      (settled s.rows s.draws) s.links
    let e := s.handle now fault r
    o.result = .ok response →
      e.response = response.withHeader "x-request-id" (s.requestId r).1
        ∧ e.server.rows = (s.settle o).rows := by
  intro o e hresult
  obtain ⟨answer, -, hanswers⟩ := (carries_perform codec (s.conditions now fault)
    (settled s.rows s.draws) s.links command).answers response hresult
  have hrun : (s.runRoute (s.conditions now fault) route params r)
      = o.after (Task.read s.codec route.endpoint params r).log := by
    unfold Server.runRoute
    dsimp only
    rw [read_iff.2 hreads]
    rfl
  have hwritten : Server.written (Server.respond
      (o.after (Task.read s.codec route.endpoint params r).log).result).1 = .ok response := by
    show Server.written (Server.respond o.result).1 = .ok response
    rw [hresult]
    exact hanswers.written
  rw [← hrun] at hwritten
  obtain ⟨hresponse, hrows⟩ := handle_of_written s r hfind hwritten
  refine ⟨hresponse, hrows.trans ?_⟩
  rw [hrun]
  rfl

/-- A listing shows the rows that are listed. -/
theorem result_performList {c : Conditions} (hselect : c.selectError? = none) (rows : List Row)
    (draws : Draws) (links : Supply Link) (t : Tenant) (state source : String) :
    ∃ tokens, (performList c (settled rows draws) links t state source).result
        = .ok (.ok (.object [("tokens", .list tokens)]))
      ∧ ∀ row ∈ rows, Store.isListed t (Tag.ofText state).1 (Tag.ofText source).1 row = true →
        tokenJson row.entity ∈ tokens := by
  unfold performList
  generalize (Tag.ofText state : State × List Event) = readState
  generalize (Tag.ofText source : Source × List Event) = readSource
  obtain ⟨state', stateLog⟩ := readState
  obtain ⟨source', sourceLog⟩ := readSource
  simp only [Service.list_settled, hselect]
  refine ⟨_, rfl, ?_⟩
  intro row hrow hlisted
  refine List.mem_map.2 ⟨row.entity, List.mem_map.2 ⟨row, ?_, rfl⟩, rfl⟩
  exact List.mem_mergeSort.2 (List.mem_filter.2 ⟨hrow, hlisted⟩)

/-- A revocation by a link that is not empty revokes the active token of the link. -/
theorem performRevoke_of_link (codec : Codec) {c : Conditions} (hupdate : c.updateError? = none)
    {rows : List Row} (draws : Draws) (links : Supply Link) {t : Tenant} (hnamed : t.IsNamed)
    {request : Request.Revoke} {link : Link} (hlink : request.link = some link)
    (hne : link.value ≠ "") (hany : rows.any (Store.isRevocable t (.link link)) = true) :
    let o := performRevoke codec c (settled rows draws) links t request
    o.result = .ok (.ok (.object [("revoked", timeJson (some (.utc c.now)))]))
      ∧ o.service = settled (updateWhere (Store.isRevocable t (.link link)) (Row.ended c.now) rows)
        draws := by
  have hfilter : request.link.filter (fun l => !l.value.isEmpty) = some link := by
    simp [hlink, hne]
  obtain ⟨name, hname⟩ := Option.isSome_iff_exists.1 hnamed
  have hreply : ∀ key, Service.revoke codec c (settled rows draws) t (some link) key
      = ⟨.ok (some (.utc c.now)), [.revokedOne (Identifier.link link).column name],
          settled (updateWhere (Store.isRevocable t (.link link)) (Row.ended c.now) rows)
            draws⟩ := by
    intro key
    simp only [Service.revoke, Service.revokeNamed_settled, hupdate, hany, if_true,
      Service.reportRevoked, hname, List.nil_append]
  simp only [performRevoke, hfilter, hreply, Option.isNone_some, Bool.false_and]
  exact ⟨rfl, rfl⟩

/-- Of a table and a new row, only the new row has its link. -/
theorem updateWhere_isRevocable_concat {rows : List Row} {row : Row} {hash : StorageHash}
    (hfree : rows.any (Store.collides hash row.link) = false) {t : Tenant}
    (howns : t.owns row = true) (hactive : row.isActive = true) (now : Instant) :
    updateWhere (Store.isRevocable t (.link row.link)) (Row.ended now) (rows ++ [row])
      = rows ++ [row.ended now] := by
  have hother : rows.any (Store.isRevocable t (.link row.link)) = false := by
    rw [List.any_eq_false] at hfree ⊢
    intro r hr hrevocable
    have hlink : r.link = row.link := eq_of_beq (Store.names_of_isRevocable hrevocable)
    exact hfree r hr (by simp [Store.collides, hlink])
  have hrow : Store.isRevocable t (.link row.link) row = true := by
    simp [Store.isRevocable, Identifier.names, howns, hactive]
  have hkept := updateWhere_eq_self (f := Row.ended now) hother
  rw [updateWhere] at hkept ⊢
  rw [List.map_append, hkept, List.map_singleton, hrow, if_pos rfl]

/-- The settings stay the same from one request to the next, and a table that is
there stays there. -/
theorem setup_handle (s : Server) (now : Instant) (fault : Option Fault) (r : Request) :
    (s.handle now fault r).server.settings = s.settings
      ∧ (s.handle now fault r).server.tableReady = s.tableReady := by
  have hanswer : ∀ c, (s.answer c r).2.2.settings = s.settings
      ∧ (s.answer c r).2.2.tableReady = s.tableReady := by
    intro c
    unfold Server.answer
    split <;> exact ⟨rfl, rfl⟩
  have hafter := hanswer (s.conditions now fault)
  simp only [Server.handle]
  split <;> exact hafter

/-- The tags in a query are those that were meant. -/
theorem queryValue?_type (source : Source) :
    queryValue? "type" ("type=" ++ Tag.name source) = some (Tag.name source)
      ∧ queryValue? "state" ("type=" ++ Tag.name source) = none := by
  cases source <;> decide

theorem ofText_name (source : Source) :
    (Tag.ofText (Tag.name source) : Source × List Event) = (source, []) := by
  cases source <;> decide

theorem ofText_active : (Tag.ofText "active" : State × List Event) = (.active, []) := by
  decide

end

section

variable {s : Server} {codec : Codec} {t : Tenant} {id : String} {segments : List String} {row : Row}

/-- A GET at a tenant's path shows the tenant's active tokens of the source that
it asks for. -/
theorem listed_at_path (hcodec : s.codec = .ok codec) (hready : s.tableReady = true)
    (haddresses : Addresses segments t) (hid : t.pathName? = some id) (hne : id ≠ "")
    (hshort : id.length ≤ Request.nameLimit) (hslash : '/' ∉ id.toList) (hrow : row ∈ s.rows)
    (howns : t.owns row = true) (hactive : row.isActive = true) (later : Instant)
    {get : Request} (hmethod : get.method = "GET")
    (htarget : get.target
      = encodedPathOf segments ++ "?" ++ ("type=" ++ Tag.name row.metadata.source)) :
    ∃ tokens, (s.handle later none get).response.status = 200
      ∧ (s.handle later none get).response.payload = .json (.object [("tokens", .list tokens)])
      ∧ tokenJson row.entity ∈ tokens := by
  obtain ⟨scope, params, hnames, hfind⟩ := find_of_addresses haddresses hid hne hshort hslash
  obtain ⟨hget, -⟩ := hfind get (Or.inr ⟨_, htarget⟩)
  rw [← hmethod] at hget
  obtain ⟨htype, hstate⟩ := queryValue?_type row.metadata.source
  rw [← (path_of_target htarget).2] at htype hstate
  have hreads : Reads s.codec params get (.list scope)
      (.run codec (.list t "active" (Tag.name row.metadata.source))) := by
    have h := Reads.list (r := get) hnames hcodec
    rw [htype, hstate] at h
    exact h
  have hselect : Conditions.selectError? (s.conditions later none) = none := by
    simp [Conditions.selectError?, hready]
  obtain ⟨tokens, hresult, hshown⟩ := result_performList hselect s.rows s.draws s.links t "active"
    (Tag.name row.metadata.source)
  have hlisted : Store.isListed t .active row.metadata.source row = true := by
    simp [Store.isListed, howns, State.holds, hactive]
  rw [ofText_active, ofText_name] at hshown
  obtain ⟨hresponse, -⟩ := handle_of_reads later none hget hreads hresult
  rw [hresponse]
  exact ⟨tokens, rfl, rfl, hshown row hrow hlisted⟩

/-- A DELETE at a tenant's path that names one of the tenant's active tokens
by its link revokes it. -/
theorem revoked_at_path (hcodec : s.codec = .ok codec) (hready : s.tableReady = true)
    (haddresses : Addresses segments t) (hid : t.pathName? = some id) (hne : id ≠ "")
    (hshort : id.length ≤ Request.nameLimit) (hslash : '/' ∉ id.toList) (hrow : row ∈ s.rows)
    (howns : t.owns row = true) (hactive : row.isActive = true) (hlink : row.link.value ≠ "")
    (later : Instant) {delete : Request} {fields : Json.Fields} {request : Request.Revoke}
    (hmethod : delete.method = "DELETE") (hat : delete.IsAt segments)
    (hbody : readBody delete = .ok (.fields fields))
    (hcheck : (Request.Revoke.check fields).result = .ok request)
    (hrequest : request.link = some row.link) :
    (s.handle later none delete).response.status = 200
      ∧ (s.handle later none delete).server.rows
        = updateWhere (Store.isRevocable t (.link row.link)) (Row.ended later) s.rows := by
  obtain ⟨scope, params, hnames, hfind⟩ := find_of_addresses haddresses hid hne hshort hslash
  obtain ⟨-, hdelete⟩ := hfind delete hat
  rw [← hmethod] at hdelete
  have hreads : Reads s.codec params delete (.revoke scope) (.run codec (.revoke t request)) :=
    .revoke hbody hnames hcodec hcheck
  have hupdate : Conditions.updateError? (s.conditions later none) = none := by
    simp [Conditions.updateError?, hready]
  have hany : s.rows.any (Store.isRevocable t (.link row.link)) = true := by
    refine List.any_eq_true.2 ⟨row, hrow, ?_⟩
    simp [Store.isRevocable, Identifier.names, howns, hactive]
  obtain ⟨hresult, hservice⟩ := performRevoke_of_link codec hupdate s.draws s.links
    hnames.isNamed hrequest hlink hany
  obtain ⟨hresponse, hrows⟩ := handle_of_reads later none hdelete hreads hresult
  rw [hresponse, hrows]
  exact ⟨rfl, rows_settle s hservice⟩

end

/-- The last row is in reach of a tenant: the tenant has the path of these segments,
a GET there shows the row and a DELETE revokes it and no other one. -/
structure Server.InReach (s : Server) (segments : List String) (t : Tenant) (others : List Row)
    (row : Row) : Prop where
  path : s.IsPathOf segments t
  listed : ∀ (later : Instant) (get : Request), get.method = "GET" →
    get.target = encodedPathOf segments ++ "?" ++ ("type=" ++ Tag.name row.metadata.source) →
    ∃ tokens, (s.handle later none get).response.status = 200
      ∧ (s.handle later none get).response.payload = .json (.object [("tokens", .list tokens)])
      ∧ tokenJson row.entity ∈ tokens
  revoked : ∀ (later : Instant) (delete : Request) (fields : Json.Fields)
    (request : Request.Revoke), delete.method = "DELETE" → delete.IsAt segments →
    readBody delete = .ok (.fields fields) →
    (Request.Revoke.check fields).result = .ok request → request.link = some row.link →
    row.link.value ≠ "" →
    (s.handle later none delete).response.status = 200
      ∧ (s.handle later none delete).server.rows = others ++ [row.ended later]

/-- **A new token is in reach**: who is named in a request for a token that was
answered as asked has a path of their own, and a GET there shows the token and a
DELETE revokes it, unless there is a slash in the name. With a slash in it the
name is accepted too, but nothing that is asked is about the tenant. -/
theorem created_token_in_reach (s : Server) (now : Instant) (fault : Option Fault) (post : Request)
    (hmethod : post.method = "POST") (hstatus : (s.handle now fault post).response.status = 200) :
    let s' := (s.handle now fault post).server
    ∃ row, s'.rows = s.rows ++ [row] ∧ row.isActive = true
      ∧ ∀ (t : Tenant) (id : String) (segments : List String), t.owns row = true →
        t.pathName? = some id → id ≠ "" → Addresses segments t →
        ('/' ∉ id.toList → s'.InReach segments t s.rows row)
          ∧ ('/' ∈ id.toList → ∀ (r : Request) (command : Command),
            s'.command? r = some command → command.tenant? ≠ some t) := by
  intro s'
  obtain ⟨codec, draft, request, hash, hcodec, hready, hcheck, hfree, hrows⟩ :=
    created_of_post hmethod hstatus
  obtain ⟨hsettings, htable⟩ : s'.settings = s.settings ∧ s'.tableReady = s.tableReady :=
    setup_handle s now fault post
  have hcodec' : s'.codec = .ok codec := by
    rw [← hcodec, Server.codec, hsettings, Server.codec]
  have hready' : s'.tableReady = true := htable.trans hready
  refine ⟨Row.ofPending now hash (request.token s.links.next.1), hrows, rfl, ?_⟩
  intro t id segments howns hid hne haddresses
  have hshort := length_le_of_check hcheck howns hid
  have hmem : Row.ofPending now hash (request.token s.links.next.1) ∈ s'.rows := by
    rw [hrows]
    exact List.mem_append_right _ List.mem_cons_self
  refine ⟨?_, ?_⟩
  · intro hslash
    refine ⟨isPathOf_of_addresses hcodec' haddresses hid hne hshort hslash, ?_, ?_⟩
    · intro later get hget htarget
      exact listed_at_path hcodec' hready' haddresses hid hne hshort hslash hmem howns rfl later
        hget htarget
    · intro later delete fields revoke hdelete hat hbody hrevoke hrequest hlink
      obtain ⟨hanswered, hended⟩ := revoked_at_path hcodec' hready' haddresses hid hne hshort hslash
        hmem howns rfl hlink later hdelete hat hbody hrevoke hrequest
      refine ⟨hanswered, ?_⟩
      rw [hended, hrows]
      exact updateWhere_isRevocable_concat hfree howns rfl later
  · intro hslash r command hcommand
    exact ne_of_slash hid hslash hcommand

/-! ## Samples -/

/-- A token of an account that is also one of a service. -/
def sampleCreate : Request.Create :=
  ⟨some "a b", some "x?", some .test, "d", "me", .card, .api, by decide⟩

/-- A request for it. -/
def samplePost : Request :=
  ⟨"POST", "/v1/frontend/auth", [("content-type", "application/json")], Text.encode
    ("\x7b\"account_id\":\"a b\",\"service_external_id\":\"x?\",\"service_mode\":\"TEST\","
      ++ "\"description\":\"d\",\"created_by\":\"me\"\x7d"), 0⟩

theorem command?_samplePost :
    (Server.sample []).command? samplePost = some (.create sampleCreate) := by
  decide +kernel

/-- The token is made. Its hash is left open, as it takes long to compute. -/
theorem handle_samplePost :
    let e := (Server.sample []).handle 5 none samplePost
    e.response.status = 200
      ∧ ∃ h, e.server.rows = [Row.ofPending 5 h (sampleCreate.token ⟨"l"⟩)] := by
  intro e
  obtain ⟨route, params, codec, hfind, hreads⟩ := reads_of_command? command?_samplePost
  have hcodec : codec = Codec.sample :=
    Except.ok.inj (hreads.codec_eq.symm.trans (codec_sample []))
  subst hcodec
  obtain ⟨h, hissue⟩ := Service.exists_first_issue Codec.isUsable_sample Draws.isBounded_sample 5
    (sampleCreate.token ⟨"l"⟩)
  have hcarries := carries_perform Codec.sample ⟨5, none, true⟩ (settled [] Draws.sample)
    (Server.sample []).links (.create sampleCreate)
  have hissue' : Service.perform Codec.sample ⟨⟨5, none, true⟩,
      (Command.create sampleCreate).operation (Server.sample []).links.next.1⟩
      (settled [] Draws.sample) = _ := hissue
  rw [hissue'] at hcarries
  cases hresult : ((Command.create sampleCreate).perform Codec.sample ⟨5, none, true⟩
      (settled [] Draws.sample) (Server.sample []).links).result with
  | error a => cases hcarries.tellsNoChange a hresult
  | ok response =>
    obtain ⟨answer, -, hanswers⟩ := hcarries.answers response hresult
    obtain ⟨hresponse, hrows⟩ := handle_of_reads 5 none hfind hreads hresult
    refine ⟨?_, h, ?_⟩
    · rw [hresponse]
      exact hanswers.status
    · rw [hrows]
      exact rows_settle _ hcarries.service

/-- A request to revoke it. -/
def sampleDelete : Request :=
  ⟨"DELETE", "/v1/frontend/auth/" ++ Text.percentEncode "a b", [("content-type", "application/json")],
    Text.encode "\x7b\"token_link\":\"l\"\x7d", 0⟩

theorem command?_sampleDelete :
    (Server.sample []).command? sampleDelete
      = some (.revoke (.account "a b") ⟨some ⟨"l"⟩, none⟩) := by
  decide +kernel

/-- The token is found below the account and below the service, and the account
can revoke it. -/
theorem sample_token_in_reach :
    let e := (Server.sample []).handle 5 none samplePost
    let listed (path : String) := e.server.handle 6 none ⟨"GET", path ++ "?type=API", [], [], 0⟩
    samplePost.method = "POST" ∧ e.response.status = 200
      ∧ (listed ("/v1/frontend/auth/" ++ Text.percentEncode "a b")).response.status = 200
      ∧ (listed ("/v1/frontend/auth/service/" ++ Text.percentEncode "x?" ++ "/mode/"
          ++ Text.percentEncode "TEST")).response.status = 200
      ∧ (e.server.handle 7 none sampleDelete).response.status = 200 := by
  dsimp only
  obtain ⟨hstatus, h, hcreated⟩ := handle_samplePost
  obtain ⟨row, hrows, -, hreach⟩ :=
    created_token_in_reach (Server.sample []) 5 none samplePost rfl hstatus
  have hrow : row = Row.ofPending 5 h (sampleCreate.token ⟨"l"⟩) :=
    List.head_eq_of_cons_eq (hrows.symm.trans hcreated)
  subst hrow
  have hservice : Mode.ofText "TEST" = .ok .test := by decide
  obtain ⟨haccount, -⟩ := hreach (.account "a b") "a b" _ rfl rfl (by decide) (.account "a b")
  obtain ⟨hinService, -⟩ := hreach (.service (some "x?") (some .test)) "x?" _ rfl rfl (by decide)
    (.service "x?" hservice)
  obtain ⟨-, hget, hdelete⟩ := haccount (by decide)
  obtain ⟨-, hget', -⟩ := hinService (by decide)
  rw [encodedPathOf_account] at hget
  rw [encodedPathOf_service] at hget'
  obtain ⟨fields, hbody, hcheck⟩ := body_of_revoke command?_sampleDelete
  have htarget : ∀ path : String,
      path ++ "?type=API" = path ++ "?" ++ ("type=" ++ Tag.name Source.api) := by
    intro path
    rw [String.append_assoc]
    rfl
  obtain ⟨_, hlisted, -⟩ := hget 6 ⟨"GET", _, [], [], 0⟩ rfl (htarget _)
  obtain ⟨_, hlisted', -⟩ := hget' 6 ⟨"GET", _, [], [], 0⟩ rfl (htarget _)
  have hat : sampleDelete.IsAt ["v1", "frontend", "auth", "a b"] :=
    Or.inl (encodedPathOf_account "a b").symm
  have hne : "l" ≠ "" := by decide
  obtain ⟨hrevoked, -⟩ := hdelete 7 sampleDelete fields _ rfl hat hbody hcheck rfl hne
  exact ⟨rfl, hstatus, hlisted, hlisted', hrevoked⟩

/-- The path of an account `b/all` is that of all tokens of an account `b`: a
token is made for the first one, and the DELETE that names it revokes the tokens
of the second one. -/
theorem path_of_other_tenant :
    let token (id link : String) (h : hasText (some id) = true) : PendingToken :=
      ⟨⟨"d", "me", some id, none, none, .card, .api⟩, ⟨link⟩, Or.inl h⟩
    let plain := Row.ofPending 5 ⟨"g"⟩ (token "b" "k" (by decide))
    let slashed := Row.ofPending 6 ⟨"h"⟩ (token "b/all" "l" (by decide))
    let s := Server.sample [plain, slashed]
    let post : Request := ⟨"POST", "/v1/frontend/auth", [("content-type", "application/json")],
      Text.encode ("\x7b\"account_id\":\"b/all\","
        ++ "\"description\":\"d\",\"created_by\":\"me\"\x7d"), 0⟩
    let delete : Request := ⟨"DELETE", "/v1/frontend/auth/b%2Fall",
      [("content-type", "application/json")], Text.encode "\x7b\"token_link\":\"l\"\x7d", 0⟩
    (∃ request, s.command? post = some (.create request) ∧ request.accountId = some "b/all")
      ∧ delete.target = "/v1/frontend/auth/" ++ Text.percentEncode "b/all"
      ∧ (s.command? delete).bind Command.tenant? = some (.account "b")
      ∧ (s.handle 7 none delete).response.status = 200
      ∧ (s.handle 7 none delete).server.rows = [plain.ended 7, slashed] := by
  intro token plain slashed s post delete
  let request : Request.Create :=
    ⟨some "b/all", none, none, "d", "me", .card, .api, by decide⟩
  have haccepted : s.command? post = some (.create request) := by
    decide +kernel
  refine ⟨⟨request, haccepted, rfl⟩, by decide, ?_, ?_, ?_⟩
  · decide +kernel
  · decide +kernel
  · decide +kernel

end Http
end BearerTokens
