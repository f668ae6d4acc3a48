/-
BearerTokens.Proofs.Routing — what a path and a request are understood as.

`Matches` says when the segments of a path fit a route and which of them are
the parameters, and `found_of_find` that a request is on a route only if they
fit. A route is known by what it is for, so everything after the look-up is by
cases on the endpoint.

`Reads` says what task a request on an endpoint is read as. There is one way
for each endpoint, and `read_iff` that there is no other. Where nothing is read
the response is not one that says that all went well; see `Refuses`.
-/
import BearerTokens.Http.Server
import Mathlib.Data.List.Basic

namespace BearerTokens.Http

/-! ## Paths and routes -/

/-- The segments of a path fit a route, which takes parameters from them. -/
inductive Matches : List Segment → List String → List String → Prop
  | nil : Matches [] [] []
  /-- The path ends in a line feed after its last literal. -/
  | line (name : String) : Matches [.literal name] [name ++ "\n"] []
  | literal (name : String) {route : List Segment} {path params : List String}
      (rest : Matches route path params) : Matches (.literal name :: route) (name :: path) params
  | parameter {s : String} (nonempty : s ≠ "") {route : List Segment} {path params : List String}
      (rest : Matches route path params) : Matches (.parameter :: route) (s :: path) (s :: params)

theorem matches_of_matchSegments {route : List Segment} {path params : List String}
    (h : matchSegments route path = some params) : Matches route path params := by
  induction route generalizing path params with
  | nil =>
    cases path with
    | nil =>
      cases h
      exact .nil
    | cons s path => cases h
  | cons segment route ih =>
    cases path with
    | nil => cases segment <;> cases route <;> cases h
    | cons s path =>
      cases segment with
      | parameter =>
        simp only [matchSegments] at h
        split at h
        · cases h
        · rename_i hne
          obtain ⟨params, hparams, rfl⟩ := Option.map_eq_some_iff.1 h
          have hs : s ≠ "" := by simpa using hne
          exact .parameter hs (ih hparams)
      | literal name =>
        by_cases hlast : route = [] ∧ path = []
        · obtain ⟨rfl, rfl⟩ := hlast
          simp only [matchSegments] at h
          split at h
          · rename_i hs
            cases h
            rw [Bool.or_eq_true] at hs
            rcases hs with hs | hs
            · rw [eq_of_beq hs]
              exact .literal name .nil
            · rw [eq_of_beq hs]
              exact .line name
          · cases h
        · have hrest : (if s == name then matchSegments route path else none) = some params := by
            cases route with
            | nil =>
              cases path with
              | nil => exact absurd ⟨rfl, rfl⟩ hlast
              | cons s' path => exact h
            | cons segment route => exact h
          split at hrest
          · rename_i hs
            rw [eq_of_beq hs]
            exact .literal name (ih hrest)
          · cases hrest

theorem matches_nil_iff {path params : List String} :
    Matches [] path params ↔ path = [] ∧ params = [] := by
  constructor
  · intro h
    cases h
    exact ⟨rfl, rfl⟩
  · rintro ⟨rfl, rfl⟩
    exact .nil

/-- A literal after which the route goes on. -/
theorem matches_literal_iff {name : String} {segment : Segment} {route : List Segment}
    {path params : List String} :
    Matches (.literal name :: segment :: route) path params
      ↔ ∃ rest, path = name :: rest ∧ Matches (segment :: route) rest params := by
  constructor
  · intro h
    cases h with
    | literal _ rest => exact ⟨_, rfl, rest⟩
  · rintro ⟨rest, rfl, h⟩
    exact .literal name h

theorem matches_parameter_iff {route : List Segment} {path params : List String} :
    Matches (.parameter :: route) path params
      ↔ ∃ s rest more, s ≠ "" ∧ path = s :: rest ∧ params = s :: more
        ∧ Matches route rest more := by
  constructor
  · intro h
    cases h with
    | parameter nonempty rest => exact ⟨_, _, _, nonempty, rfl, rfl, rest⟩
  · rintro ⟨s, rest, more, nonempty, rfl, rfl, h⟩
    exact .parameter nonempty h

/-- What ends with a literal ends with its name, after which a line feed may stand. -/
theorem Matches.of_append_literal {name : String} (route : List Segment) {path params : List String}
    (h : Matches (route ++ [.literal name]) path params) :
    ∃ rest last, path = rest ++ [last] ∧ (last = name ∨ last = name ++ "\n")
      ∧ Matches route rest params := by
  induction route generalizing path params with
  | nil =>
    cases h with
    | line => exact ⟨[], _, rfl, Or.inr rfl, .nil⟩
    | literal _ rest =>
      obtain ⟨rfl, rfl⟩ := matches_nil_iff.1 rest
      exact ⟨[], name, rfl, Or.inl rfl, .nil⟩
  | cons segment route ih =>
    generalize hroute : segment :: route ++ [.literal name] = whole at h
    cases h with
    | nil => cases hroute
    | line => simp at hroute
    | literal _ rest =>
      obtain ⟨rfl, rfl⟩ := List.cons.inj hroute
      obtain ⟨path, last, rfl, hlast, hmatch⟩ := ih rest
      exact ⟨_ :: path, last, rfl, hlast, .literal _ hmatch⟩
    | parameter nonempty rest =>
      obtain ⟨rfl, rfl⟩ := List.cons.inj hroute
      obtain ⟨path, last, rfl, hlast, hmatch⟩ := ih rest
      exact ⟨_ :: path, last, rfl, hlast, .parameter nonempty hmatch⟩

/-! ### Endpoints -/

/-- The path below which a tenant's tokens are administered. -/
def Scope.path : Scope → List Segment
  | account => accountPath
  | service => servicePath

namespace Endpoint

/-- The method of an endpoint. -/
def method : Endpoint → String
  | health | authenticate | list _ | get _ => "GET"
  | create => "POST"
  | describe => "PUT"
  | revoke _ | revokeTenant _ => "DELETE"

/-- The path of an endpoint. -/
def path : Endpoint → List Segment
  | health => [.literal "healthcheck"]
  | authenticate => [.literal "v1", .literal "api", .literal "auth"]
  | create | describe => adminPath
  | list scope | revoke scope => scope.path
  | get scope => scope.path ++ [.parameter]
  | revokeTenant scope => scope.path ++ [.literal "all"]

end Endpoint

/-- A route is known by what it is for. -/
theorem eq_of_mem_routes :
    ∀ route ∈ routes, route = ⟨route.endpoint.method, route.endpoint.path, route.endpoint⟩ := by
  decide

/-! ### Looking a route up -/

/-- The first route of a table that a request fits. -/
def findRouteIn (table : List Route) (method path : String) : Option (Route × List String) :=
  table.findSome? fun r =>
    if r.method == method then (r.params? path).map fun params => (r, params) else none

section

variable {table : List Route} {method path : String} {route : Route} {params : List String}

theorem mem_of_findRouteIn (h : findRouteIn table method path = some (route, params)) :
    route ∈ table ∧ route.method = method ∧ route.params? path = some params := by
  obtain ⟨candidate, hmem, hcandidate⟩ := List.exists_of_findSome?_eq_some h
  split at hcandidate
  · rename_i hmethod
    obtain ⟨found, hfound, heq⟩ := Option.map_eq_some_iff.1 hcandidate
    cases heq
    exact ⟨hmem, eq_of_beq hmethod, hfound⟩
  · cases hcandidate

theorem find_eq_found_iff :
    find method path = .found route params ↔ findRoute? method path = some (route, params) := by
  unfold find
  cases findRoute? method path with
  | some found => simp [Prod.ext_iff]
  | none =>
    dsimp only
    split
    · simp
    · split <;> simp

/-- What a route finds are the parameters of segments that fit it. -/
theorem Route.matches_of_params? {r : Route} (h : r.params? path = some params) :
    ∃ segments, pathSegments? path = some segments ∧ Matches r.path segments params := by
  obtain ⟨segments, hsegments, hmatch⟩ := Option.bind_eq_some_iff.1 h
  exact ⟨segments, hsegments, matches_of_matchSegments hmatch⟩

/-- A request is on a route only if method and path fit it. -/
theorem found_of_find (h : find method path = .found route params) :
    route.endpoint.method = method
      ∧ ∃ segments, pathSegments? path = some segments
        ∧ Matches route.endpoint.path segments params := by
  have hfound : findRouteIn routes method path = some (route, params) := find_eq_found_iff.1 h
  obtain ⟨hmem, rfl, hparams⟩ := mem_of_findRouteIn hfound
  obtain ⟨segments, hsegments, hmatch⟩ := route.matches_of_params? hparams
  have hform := eq_of_mem_routes route hmem
  have hmethod : route.endpoint.method = route.method := by rw [hform]
  have hpath : route.endpoint.path = route.path := by rw [hform]
  exact ⟨hmethod, segments, hsegments, hpath ▸ hmatch⟩

end

/-! ## Tenants in paths -/

/-- The parameters of a path name a tenant, and others follow. -/
inductive Scope.Names : Scope → List String → Tenant → List String → Prop
  | account {id : String} (short : id.length ≤ Request.nameLimit) (rest : List String) :
      Names .account (id :: rest) (.account id) rest
  | service {id text : String} {mode : Mode} (known : Mode.ofText text = .ok mode)
      (short : id.length ≤ Request.nameLimit) (rest : List String) :
      Names .service (id :: text :: rest) (.service (some id) (some mode)) rest

/-- The segments are those of the path of a tenant. -/
inductive Addresses : List String → Tenant → Prop
  | account (id : String) : Addresses ["v1", "frontend", "auth", id] (.account id)
  | service (id : String) {text : String} {mode : Mode} (known : Mode.ofText text = .ok mode) :
      Addresses ["v1", "frontend", "auth", "service", id, "mode", text]
        (.service (some id) (some mode))

/-- The tenant whose path it is is the tenant that its parameters name. -/
theorem addresses_of_names {scope : Scope} {segments params rest : List String} {t : Tenant}
    (hfits : Matches scope.path segments params) (hnames : scope.Names params t rest) :
    Addresses segments t := by
  cases scope with
  | account =>
    simp only [Scope.path, accountPath, adminPath, List.cons_append, List.nil_append,
      matches_literal_iff, matches_parameter_iff, matches_nil_iff] at hfits
    obtain ⟨_, rfl, _, rfl, _, rfl, id, _, _, -, rfl, rfl, rfl, rfl⟩ := hfits
    cases hnames
    exact .account id
  | service =>
    simp only [Scope.path, servicePath, adminPath, List.cons_append, List.nil_append,
      matches_literal_iff, matches_parameter_iff, matches_nil_iff] at hfits
    obtain ⟨_, rfl, _, rfl, _, rfl, _, rfl, id, _, _, -, rfl, rfl, _, rfl, text, _, _, -, rfl, rfl,
      rfl, rfl⟩ := hfits
    cases hnames with
    | service known => exact .service id known

/-! ## What is understood -/

namespace Understood

variable {α β : Type}

theorem result_bind_ok_iff {u : Understood α} {next : α → Understood β} {b : β} :
    (u >>= next).result = .ok b ↔ ∃ a, u.result = .ok a ∧ (next a).result = .ok b := by
  show (u.bind next).result = .ok b ↔ _
  unfold bind
  cases u.result with
  | error a => simp
  | ok a => simp

@[simp] theorem result_abort (a : Abort) : (abort a : Understood α).result = .error a := rfl

@[simp] theorem result_ok (a : α) : (ok a : Understood α).result = .ok a := rfl

end Understood

section

variable {codec? : Except CodecFault Codec} {params : List String} {r : Request}

theorem content_ok_iff {c : Content} : (content r).result = .ok c ↔ readBody r = .ok c := by
  unfold content
  split <;> simp [*]

theorem requireCodec_ok_iff {codec : Codec} :
    (requireCodec codec?).result = .ok codec ↔ codec? = .ok codec := by
  unfold requireCodec
  split <;> simp

theorem requireTenant_ok_iff {t : PathTenant} {tenant : Tenant} :
    (requireTenant t).result = .ok tenant ↔ t = .ok tenant := by
  unfold requireTenant
  split <;> simp

theorem checkBody_ok_iff {α : Type} {before : List Request.Issue}
    {check : Json.Fields → Request.Checked α} {content : Content} {a : α} :
    (checkBody before check content).result = .ok a
      ↔ before = [] ∧ ∃ fields, content = .fields fields ∧ (check fields).result = .ok a := by
  unfold checkBody
  split
  · simp
  · simp
  · simp
  · rename_i fields
    dsimp only
    split <;> simp_all

theorem pathIssues_eq_nil_iff (name value : String) :
    pathIssues name value = [] ↔ value.length ≤ Request.nameLimit := by
  unfold pathIssues
  split
  · simp
    omega
  · simp
    omega

theorem accountOf_ok_iff {id : String} {t : Tenant} :
    accountOf id = .ok t ↔ id.length ≤ Request.nameLimit ∧ .account id = t := by
  rw [← pathIssues_eq_nil_iff "account_id" id]
  unfold accountOf
  split
  · simp_all
  · simp_all

theorem serviceOf_ok_iff {id text : String} {t : Tenant} :
    (serviceOf id text).result = .ok (.ok t)
      ↔ id.length ≤ Request.nameLimit
        ∧ ∃ mode, Mode.ofText text = .ok mode ∧ .service (some id) (some mode) = t := by
  rw [← pathIssues_eq_nil_iff "service_external_id" id]
  unfold serviceOf
  split
  · split <;> simp_all
  · simp_all

/-- The parameters name the tenant that is read from them. -/
theorem tenantOf_ok_iff {scope : Scope} {t : Tenant} {rest : List String} :
    (tenantOf scope params).result = .ok (.ok t, rest) ↔ scope.Names params t rest := by
  unfold tenantOf
  constructor
  · intro h
    split at h
    · obtain ⟨haccount, rfl⟩ := Prod.mk.inj (Except.ok.inj h)
      obtain ⟨hshort, rfl⟩ := accountOf_ok_iff.1 haccount
      exact .account hshort _
    · obtain ⟨tenant, htenant, hpure⟩ := Understood.result_bind_ok_iff.1 h
      obtain ⟨rfl, rfl⟩ := Prod.mk.inj (Except.ok.inj hpure)
      obtain ⟨hshort, mode, hmode, rfl⟩ := serviceOf_ok_iff.1 htenant
      exact .service hmode hshort _
    · cases h
  · intro h
    cases h with
    | account short =>
      show Except.ok _ = _
      rw [accountOf_ok_iff.2 ⟨short, rfl⟩]
    | service known short =>
      refine Understood.result_bind_ok_iff.2 ⟨_, serviceOf_ok_iff.2 ⟨short, _, known, rfl⟩, rfl⟩

/-! ### Tasks -/

/-- What a request on an endpoint is read as. -/
inductive Reads (codec? : Except CodecFault Codec) (params : List String) (r : Request) :
    Endpoint → Task → Prop
  | health : Reads codec? params r .health .ping
  | authenticate {codec : Codec} {key : String} (hkey : r.bearerKey? = some key)
      (hcodec : codec? = .ok codec) :
      Reads codec? params r .authenticate (.run codec (.authenticate key))
  | create {codec : Codec} {fields : Json.Fields} {request : Request.Create}
      (hbody : readBody r = .ok (.fields fields)) (hcodec : codec? = .ok codec)
      (hcheck : (Request.Draft.ofFields fields).check.result = .ok request) :
      Reads codec? params r .create (.run codec (.create request))
  | describe {codec : Codec} {fields : Json.Fields} {request : Request.Describe}
      (hbody : readBody r = .ok (.fields fields)) (hcodec : codec? = .ok codec)
      (hcheck : (Request.Describe.check fields).result = .ok request) :
      Reads codec? params r .describe (.run codec (.describe request))
  | list {codec : Codec} {scope : Scope} {t : Tenant} {rest : List String}
      (hnames : scope.Names params t rest) (hcodec : codec? = .ok codec) :
      Reads codec? params r (.list scope) (.run codec (.list t
        ((queryValue? "state" r.query).getD "active") ((queryValue? "type" r.query).getD "API")))
  | get {codec : Codec} {scope : Scope} {t : Tenant} {rest : List String}
      (hnames : scope.Names params t rest) (hcodec : codec? = .ok codec) :
      Reads codec? params r (.get scope) (.run codec (.get t ⟨rest.headD ""⟩))
  | revokeTenant {codec : Codec} {scope : Scope} {t : Tenant} {rest : List String}
      (hnames : scope.Names params t rest) (hcodec : codec? = .ok codec) :
      Reads codec? params r (.revokeTenant scope) (.run codec (.revokeTenant t))
  | revoke {codec : Codec} {scope : Scope} {t : Tenant} {rest : List String}
      {fields : Json.Fields} {request : Request.Revoke}
      (hbody : readBody r = .ok (.fields fields)) (hnames : scope.Names params t rest)
      (hcodec : codec? = .ok codec) (hcheck : (Request.Revoke.check fields).result = .ok request) :
      Reads codec? params r (.revoke scope) (.run codec (.revoke t request))

/-- Nothing else is read. -/
theorem read_iff {endpoint : Endpoint} {task : Task} :
    (Task.read codec? endpoint params r).result = .ok task ↔ Reads codec? params r endpoint task := by
  constructor
  · intro h
    cases endpoint with
    | health =>
      cases h
      exact .health
    | authenticate =>
      simp only [Task.read] at h
      split at h
      · cases h
      · rename_i key hkey
        obtain ⟨codec, hcodec, hpure⟩ := Understood.result_bind_ok_iff.1 h
        cases hpure
        exact .authenticate hkey (requireCodec_ok_iff.1 hcodec)
    | create =>
      simp only [Task.read, Understood.result_bind_ok_iff, content_ok_iff, requireCodec_ok_iff,
        checkBody_ok_iff] at h
      obtain ⟨_, hbody, codec, hcodec, request, ⟨-, fields, rfl, hcheck⟩, hpure⟩ := h
      cases hpure
      exact .create hbody hcodec hcheck
    | describe =>
      simp only [Task.read, Understood.result_bind_ok_iff, content_ok_iff, requireCodec_ok_iff,
        checkBody_ok_iff] at h
      obtain ⟨_, hbody, codec, hcodec, request, ⟨-, fields, rfl, hcheck⟩, hpure⟩ := h
      cases hpure
      exact .describe hbody hcodec hcheck
    | list scope =>
      simp only [Task.read, Understood.result_bind_ok_iff, requireCodec_ok_iff,
        requireTenant_ok_iff] at h
      obtain ⟨⟨_, rest⟩, hnames, codec, hcodec, t, rfl, hpure⟩ := h
      cases hpure
      exact .list (tenantOf_ok_iff.1 hnames) hcodec
    | get scope =>
      simp only [Task.read, Understood.result_bind_ok_iff, requireCodec_ok_iff,
        requireTenant_ok_iff] at h
      obtain ⟨⟨_, rest⟩, hnames, codec, hcodec, t, rfl, hpure⟩ := h
      cases hpure
      exact .get (tenantOf_ok_iff.1 hnames) hcodec
    | revokeTenant scope =>
      simp only [Task.read, Understood.result_bind_ok_iff, requireCodec_ok_iff,
        requireTenant_ok_iff] at h
      obtain ⟨⟨_, rest⟩, hnames, codec, hcodec, t, rfl, hpure⟩ := h
      cases hpure
      exact .revokeTenant (tenantOf_ok_iff.1 hnames) hcodec
    | revoke scope =>
      simp only [Task.read, Understood.result_bind_ok_iff, content_ok_iff, requireCodec_ok_iff,
        checkBody_ok_iff, requireTenant_ok_iff] at h
      obtain ⟨_, hbody, ⟨_, rest⟩, hnames, codec, hcodec, request, ⟨-, fields, rfl, hcheck⟩, t,
        rfl, hpure⟩ := h
      cases hpure
      exact .revoke hbody (tenantOf_ok_iff.1 hnames) hcodec hcheck
  · intro h
    cases h with
    | health => rfl
    | authenticate hkey hcodec =>
      simp only [Task.read, hkey]
      exact Understood.result_bind_ok_iff.2 ⟨_, requireCodec_ok_iff.2 hcodec, rfl⟩
    | create hbody hcodec hcheck | describe hbody hcodec hcheck =>
      simp only [Task.read, Understood.result_bind_ok_iff, content_ok_iff, requireCodec_ok_iff,
        checkBody_ok_iff]
      exact ⟨_, hbody, _, hcodec, _, ⟨trivial, _, rfl, hcheck⟩, rfl⟩
    | list hnames hcodec | get hnames hcodec | revokeTenant hnames hcodec =>
      simp only [Task.read, Understood.result_bind_ok_iff, requireCodec_ok_iff,
        requireTenant_ok_iff]
      exact ⟨_, tenantOf_ok_iff.2 hnames, _, hcodec, _, rfl, rfl⟩
    | revoke hbody hnames hcodec hcheck =>
      simp only [Task.read, Understood.result_bind_ok_iff, content_ok_iff, requireCodec_ok_iff,
        checkBody_ok_iff, requireTenant_ok_iff]
      exact ⟨_, hbody, _, tenantOf_ok_iff.2 hnames, _, hcodec, _, ⟨rfl, _, rfl, hcheck⟩, _, rfl,
        rfl⟩

/-! ## Refusals -/

/-- The end of a request does not make it look as if all had gone well. -/
def Abort.Refuses (a : Abort) : Prop :=
  ∀ response, (Server.respond (.error a)).1 = .ok response → response.status ≠ 200

theorem Abort.refuses_token (e : TokenError) : (token e).Refuses := by
  intro response h
  cases h
  show e.status ≠ 200
  cases e <;> simp [TokenError.status]

theorem Abort.refuses_status {n : Nat} (hn : n ≠ 200) (detail : String) :
    (status n detail).Refuses := by
  intro response h
  cases h
  exact hn

theorem Abort.refuses_issues (issues : List Request.Issue) : (Abort.issues issues).Refuses := by
  intro response h
  cases h
  show 422 ≠ 200
  decide

theorem Abort.refuses_unhandled (e : Unhandled) : (unhandled e).Refuses := by
  intro response h
  cases h

namespace Understood

variable {α β : Type}

/-- Whatever is not understood is refused. -/
def Refuses (u : Understood α) : Prop :=
  ∀ a, u.result = .error a → a.Refuses

theorem refuses_ok (a : α) : (ok a).Refuses := by
  intro _ h
  cases h

theorem refuses_abort {a : Abort} (h : a.Refuses) : (abort a : Understood α).Refuses := by
  rintro _ ⟨⟩
  exact h

theorem Refuses.bind {u : Understood α} {next : α → Understood β} (hu : u.Refuses)
    (hnext : ∀ a, (next a).Refuses) : (u >>= next).Refuses := by
  intro a h
  have hbind : (u.bind next).result = .error a := h
  unfold Understood.bind at hbind
  cases hresult : u.result with
  | error e =>
    rw [hresult] at hbind
    cases hbind
    exact hu a hresult
  | ok b =>
    rw [hresult] at hbind
    exact hnext b a hbind

end Understood

theorem refuses_content : (content r).Refuses := by
  unfold content
  split
  · exact Understood.refuses_ok _
  · exact Understood.refuses_abort (Abort.refuses_issues _)
  · exact Understood.refuses_abort (Abort.refuses_status (by decide) _)

theorem refuses_requireCodec : (requireCodec codec?).Refuses := by
  unfold requireCodec
  split
  · exact Understood.refuses_ok _
  · exact Understood.refuses_abort (Abort.refuses_unhandled _)

theorem refuses_requireTenant (t : PathTenant) : (requireTenant t).Refuses := by
  unfold requireTenant
  split
  · exact Understood.refuses_ok _
  · exact Understood.refuses_abort (Abort.refuses_issues _)

theorem refuses_tenantOf (scope : Scope) : (tenantOf scope params).Refuses := by
  unfold tenantOf
  split
  · exact Understood.refuses_ok _
  · refine Understood.Refuses.bind ?_ fun _ => Understood.refuses_ok _
    unfold serviceOf
    split
    · split
      · exact Understood.refuses_ok _
      · exact Understood.refuses_abort (Abort.refuses_status (by decide) _)
    · exact Understood.refuses_ok _
  · exact Understood.refuses_abort (Abort.refuses_status (by decide) _)

theorem refuses_checkBody {α : Type} (before : List Request.Issue)
    (check : Json.Fields → Request.Checked α) (content : Content) :
    (checkBody before check content).Refuses := by
  unfold checkBody
  split
  · exact Understood.refuses_abort (Abort.refuses_issues _)
  · exact Understood.refuses_abort (Abort.refuses_issues _)
  · exact Understood.refuses_abort (Abort.refuses_unhandled _)
  · rename_i fields
    dsimp only
    intro a ha
    split at ha
    · cases ha
    · cases ha
      exact Abort.refuses_issues _
    · cases ha
      exact Abort.refuses_issues _
    · cases ha
      exact Abort.refuses_unhandled _

/-- A request that is not understood is refused. -/
theorem refuses_read (endpoint : Endpoint) : (Task.read codec? endpoint params r).Refuses := by
  have hcodec : ∀ {α : Type} {next : Codec → Understood α}, (∀ codec, (next codec).Refuses) →
      (requireCodec codec? >>= next).Refuses := fun hnext => refuses_requireCodec.bind hnext
  cases endpoint with
  | health => exact Understood.refuses_ok _
  | authenticate =>
    simp only [Task.read]
    split
    · exact Understood.refuses_abort (Abort.refuses_token _)
    · exact hcodec fun _ => Understood.refuses_ok _
  | create | describe =>
    exact refuses_content.bind fun _ => hcodec fun _ => (refuses_checkBody _ _ _).bind fun _ =>
      Understood.refuses_ok _
  | list scope | get scope | revokeTenant scope =>
    exact (refuses_tenantOf scope).bind fun _ => hcodec fun _ => (refuses_requireTenant _).bind
      fun _ => Understood.refuses_ok _
  | revoke scope =>
    exact refuses_content.bind fun _ => (refuses_tenantOf scope).bind fun _ => hcodec fun _ =>
      (refuses_checkBody _ _ _).bind fun _ => (refuses_requireTenant _).bind fun _ =>
        Understood.refuses_ok _

end

end BearerTokens.Http
