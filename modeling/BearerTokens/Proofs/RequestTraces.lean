/-
BearerTokens.Proofs.RequestTraces — what each request leaves in the log.

The log of requests has a name of its own. Whatever a request asks for, nothing
that is done for it reports there (`quiet_answer`), and none of the responses
that are made for it names an id (`hasNoId_answer`). So the id on a response is
the one that is added at the very end, and the line in the log is the one that is
written at the very end; both come from one place and carry one id.

A request that fails for a reason nobody has foreseen is different. Its line is
written all the same, with the id, but the response is made further out and names
none.
-/
import BearerTokens.Proofs.KeyVerdicts

namespace BearerTokens

open Service (settled)

/-! ## The log of requests -/

/-- Does the event go to the log of requests? -/
def Event.isRequestLine (e : Event) : Bool :=
  e.logger == "tokenauth.api.request_logging"

/-- The lines in the log of requests. -/
def requestLines (log : List Event) : List Event :=
  log.filter Event.isRequestLine

/-- Nothing goes to the log of requests. -/
def Quiet (log : List Event) : Prop :=
  requestLines log = []

@[simp] theorem quiet_nil : Quiet [] := rfl

@[simp] theorem quiet_append {log more : List Event} :
    Quiet (log ++ more) ↔ Quiet log ∧ Quiet more := by
  rw [Quiet, requestLines, List.filter_append, List.append_eq_nil_iff]
  rfl

@[simp] theorem quiet_cons {e : Event} {log : List Event} :
    Quiet (e :: log) ↔ e.isRequestLine = false ∧ Quiet log := by
  simp [Quiet, requestLines]

/-- An event of any other kind is quiet. That it is of another kind can be seen
from its constructor alone. -/
theorem quiet_singleton {e : Event} (h : e.isRequestLine = false) : Quiet [e] :=
  quiet_cons.2 ⟨h, quiet_nil⟩

/-- After a quiet log, the lines of what follows are all there are. -/
theorem Quiet.requestLines_append {log : List Event} (h : Quiet log) (more : List Event) :
    requestLines (log ++ more) = requestLines more := by
  have hnil : log.filter Event.isRequestLine = [] := h
  rw [requestLines, List.filter_append, hnil, List.nil_append, requestLines]

/-- It does not matter whether lines are looked for before or after a threshold. -/
theorem requestLines_keptFrom (threshold : Nat) (log : List Event) :
    requestLines (keptFrom threshold log) = keptFrom threshold (requestLines log) := by
  simp only [requestLines, keptFrom, List.filter_filter, Bool.and_comm]

/-! ### The service -/

theorem Codec.quiet_check (codec : Codec) (key : String) : Quiet (codec.check key).log := by
  unfold check
  split
  · exact quiet_singleton rfl
  · split
    · exact quiet_singleton rfl
    · dsimp only
      split
      · exact quiet_nil
      · exact quiet_singleton rfl
      · exact quiet_nil

namespace Service

section

variable (codec : Codec) (c : Conditions) (rows : List Row) (draws : Draws)

theorem quiet_issue (token : PendingToken) :
    Quiet (issue codec c (settled rows draws) token).log := by
  rw [issue_settled]
  split
  · exact quiet_nil
  · split
    · exact quiet_nil
    · split
      · exact quiet_singleton rfl
      · exact quiet_singleton rfl

theorem quiet_touchReport (h : StorageHash) : Quiet (c.touchReport h) := by
  unfold Conditions.touchReport
  split
  · exact quiet_nil
  · exact quiet_singleton rfl

theorem quiet_refuse (h : StorageHash) : Quiet (refuse c (settled rows draws) h).log := by
  rw [refuse_settled]
  split
  · exact quiet_nil
  · split
    · exact quiet_nil
    · split
      · exact quiet_singleton rfl
      · exact quiet_nil

theorem quiet_authenticateOrRefuse (key : String) :
    Quiet (authenticateOrRefuse codec c (settled rows draws) key).log := by
  have hquiet := codec.quiet_check key
  cases hcheck : codec.check key with | mk hash? log =>
  rw [hcheck] at hquiet
  cases hash? with
  | error e => simpa [authenticateOrRefuse, hcheck] using hquiet
  | ok h? =>
    cases h? with
    | none => simpa [authenticateOrRefuse, hcheck] using hquiet
    | some h =>
      rw [authenticateOrRefuse_settled codec c rows draws hcheck]
      split
      · exact quiet_append.2 ⟨hquiet, quiet_touchReport c h⟩
      · exact quiet_append.2
          ⟨quiet_append.2 ⟨hquiet, quiet_touchReport c h⟩, quiet_refuse c rows draws h⟩

theorem quiet_list (t : Tenant) (state : State) (source : Source) :
    Quiet (list c (settled rows draws) t state source).log := by
  rw [list_settled]
  split <;> exact quiet_nil

theorem quiet_get (l : Link) (t : Option Tenant) :
    Quiet (get c (settled rows draws) l t).log := by
  rw [get_settled]
  split <;> exact quiet_nil

theorem quiet_describe (l : Link) (description : String) (t : Option Tenant) :
    Quiet (describe c (settled rows draws) l description t).log := by
  rw [describe_settled]
  split
  · exact quiet_nil
  · split
    · exact quiet_singleton rfl
    · exact quiet_nil

theorem quiet_reportRevoked {α : Type} (s : Service) (t : Tenant) {event : String → Event}
    (hevent : ∀ name, (event name).isRequestLine = false) (answer : α) :
    Quiet (reportRevoked s t event answer []).log := by
  unfold reportRevoked
  split
  · exact quiet_singleton (hevent _)
  · exact quiet_nil

theorem quiet_revokeNamed (t : Tenant) (i : Identifier) :
    Quiet (revokeNamed c (settled rows draws) t i).log := by
  rw [revokeNamed_settled]
  split
  · exact quiet_nil
  · split
    · exact quiet_reportRevoked _ t (fun _ => rfl) _
    · exact quiet_nil

theorem quiet_revoke (t : Tenant) (link : Option Link) (key : Option String) :
    Quiet (revoke codec c (settled rows draws) t link key).log := by
  cases link with
  | some l => exact quiet_revokeNamed c rows draws t (.link l)
  | none =>
    cases key with
    | none => exact quiet_nil
    | some key =>
      have hquiet := codec.quiet_check key
      simp only [revoke]
      split
      · exact hquiet
      · exact hquiet
      · exact quiet_append.2 ⟨hquiet, quiet_revokeNamed c rows draws t _⟩

theorem quiet_revokeTenant (t : Tenant) :
    Quiet (revokeTenant c (settled rows draws) t).log := by
  rw [revokeTenant_settled]
  split
  · exact quiet_nil
  · exact quiet_reportRevoked _ t (fun _ => rfl) _

end

end Service

/-! ### Requests -/

namespace Tag

variable {α : Type} [DefaultTag α]

theorem quiet_ofText (s : String) : Quiet (ofText s : α × List Event).2 := by
  unfold ofText
  split
  · exact quiet_nil
  · exact quiet_singleton rfl

theorem quiet_ofJson {value : Json} {a : α} {log : List Event} (h : ofJson value = .ok (a, log)) :
    Quiet log := by
  have hfallBack : ∀ value : Json, Quiet (fallBack value : α × List Event).2 :=
    fun _ => quiet_singleton rfl
  have hof : ∀ {read : α × List Event}, Quiet read.2 →
      (Except.ok read : Except NotText (α × List Event)) = .ok (a, log) → Quiet log := by
    rintro read hquiet ⟨⟩
    exact hquiet
  unfold ofJson at h
  split at h
  · exact hof (quiet_ofText _) h
  · exact hof (hfallBack _) h
  · split at h
    · exact hof (hfallBack _) h
    · cases h

end Tag

namespace Request

theorem quiet_readTag {α : Type} [DefaultTag α] {given : Option (Given α)} {a : α}
    {log : List Event} (h : readTag given = .ok (a, log)) : Quiet log := by
  unfold readTag at h
  split at h
  · cases h
    exact quiet_nil
  · cases h
    exact quiet_nil
  · exact Tag.quiet_ofJson h

theorem quiet_check (d : Draft) : Quiet d.check.log := by
  unfold Draft.check
  split
  · exact quiet_nil
  · rename_i htype
    split
    · exact quiet_readTag htype
    · rename_i hsource
      have hboth := quiet_append.2 ⟨quiet_readTag htype, quiet_readTag hsource⟩
      dsimp only
      split
      · exact hboth
      · split <;> exact hboth

theorem quiet_checkDescribe (fields : Json.Fields) : Quiet (Describe.check fields).log := by
  unfold Describe.check
  dsimp only
  split <;> exact quiet_nil

theorem quiet_checkRevoke (fields : Json.Fields) : Quiet (Revoke.check fields).log := by
  unfold Revoke.check
  dsimp only
  split <;> exact quiet_nil

end Request

namespace Http

/-- What is understood in two steps is quiet if both are. -/
theorem Understood.quiet_bind {α β : Type} {u : Understood α} {next : α → Understood β}
    (hu : Quiet u.log) (hnext : ∀ a, Quiet (next a).log) : Quiet (u >>= next).log := by
  change Quiet (u.bind next).log
  unfold Understood.bind
  split
  · exact hu
  · exact quiet_append.2 ⟨hu, hnext _⟩

section

variable {codec? : Except CodecFault Codec} {params : List String} {r : Request}

theorem quiet_content : Quiet (content r).log := by
  unfold content
  split <;> exact quiet_nil

theorem quiet_requireCodec : Quiet (requireCodec codec?).log := by
  unfold requireCodec
  split <;> exact quiet_nil

theorem quiet_requireTenant (t : PathTenant) : Quiet (requireTenant t).log := by
  unfold requireTenant
  split <;> exact quiet_nil

theorem quiet_tenantOf (scope : Scope) : Quiet (tenantOf scope params).log := by
  unfold tenantOf
  split
  · exact quiet_nil
  · refine Understood.quiet_bind ?_ fun _ => quiet_nil
    unfold serviceOf
    split
    · split <;> exact quiet_nil
    · exact quiet_nil
  · exact quiet_nil

theorem quiet_checkBody {α : Type} (before : List Request.Issue)
    {check : Json.Fields → Request.Checked α} (hcheck : ∀ fields, Quiet (check fields).log)
    (content : Content) : Quiet (checkBody before check content).log := by
  unfold checkBody
  split
  · exact quiet_nil
  · exact quiet_nil
  · exact quiet_nil
  · dsimp only
    split <;> exact hcheck _

/-- Nothing that is wrong with a request is reported in the log of requests. -/
theorem quiet_read (endpoint : Endpoint) : Quiet (Task.read codec? endpoint params r).log := by
  have hcodec : ∀ {α : Type} {next : Codec → Understood α}, (∀ codec, Quiet (next codec).log) →
      Quiet (requireCodec codec? >>= next).log :=
    fun hnext => Understood.quiet_bind quiet_requireCodec hnext
  cases endpoint with
  | health => exact quiet_nil
  | authenticate =>
    simp only [Task.read]
    split
    · exact quiet_nil
    · exact hcodec fun _ => quiet_nil
  | create =>
    refine Understood.quiet_bind quiet_content fun _ => hcodec fun _ => ?_
    exact Understood.quiet_bind (quiet_checkBody [] (fun _ => Request.quiet_check _) _) fun _ =>
      quiet_nil
  | describe =>
    refine Understood.quiet_bind quiet_content fun _ => hcodec fun _ => ?_
    exact Understood.quiet_bind (quiet_checkBody [] Request.quiet_checkDescribe _) fun _ => quiet_nil
  | list scope | get scope | revokeTenant scope =>
    refine Understood.quiet_bind (quiet_tenantOf scope) fun _ => hcodec fun _ => ?_
    exact Understood.quiet_bind (quiet_requireTenant _) fun _ => quiet_nil
  | revoke scope =>
    refine Understood.quiet_bind quiet_content fun _ => ?_
    refine Understood.quiet_bind (quiet_tenantOf scope) fun _ => hcodec fun _ => ?_
    refine Understood.quiet_bind (quiet_checkBody _ Request.quiet_checkRevoke _) fun _ => ?_
    exact Understood.quiet_bind (quiet_requireTenant _) fun _ => quiet_nil

end

/-! ### Outcomes -/

theorem quiet_ofReply {α : Type} {links : Supply Link} {r : Reply Service α}
    {respond : α → Except Abort Response} (h : Quiet r.log) :
    Quiet (Outcome.ofReply links r respond).log := by
  unfold Outcome.ofReply
  split <;> exact h

section

variable (codec : Codec) (c : Conditions) (rows : List Row) (draws : Draws) (links : Supply Link)

theorem quiet_performList (t : Tenant) (state source : String) :
    Quiet (performList c (settled rows draws) links t state source).log := by
  have hstate := Tag.quiet_ofText (α := State) state
  have hsource := Tag.quiet_ofText (α := Source) source
  unfold performList
  generalize (Tag.ofText state : State × List Event) = readState at hstate ⊢
  generalize (Tag.ofText source : Source × List Event) = readSource at hsource ⊢
  exact quiet_append.2 ⟨quiet_append.2 ⟨hstate, hsource⟩,
    quiet_ofReply (Service.quiet_list c rows draws t _ _)⟩

/-- No command reports there. -/
theorem quiet_perform (command : Command) :
    Quiet (command.perform codec c (settled rows draws) links).log := by
  cases command with
  | authenticate key =>
    exact quiet_ofReply (Service.quiet_authenticateOrRefuse codec c rows draws key)
  | create request => exact quiet_ofReply (Service.quiet_issue codec c rows draws _)
  | describe request => exact quiet_ofReply (Service.quiet_describe c rows draws _ _ _)
  | list t state source => exact quiet_performList c rows draws links t state source
  | get t l => exact quiet_ofReply (Service.quiet_get c rows draws l _)
  | revoke t request =>
    simp only [Command.perform, performRevoke]
    split
    · exact quiet_nil
    · exact quiet_ofReply (Service.quiet_revoke codec c rows draws t _ _)
  | revokeTenant t => exact quiet_ofReply (Service.quiet_revokeTenant c rows draws t)

theorem quiet_ping (settings : Settings) :
    Quiet (Task.perform settings c (settled rows draws) links .ping).log := by
  refine quiet_ofReply ?_
  simp only [Service.lift, Store.ping]
  split
  · exact quiet_singleton rfl
  · exact quiet_nil

end

/-! ## Responses without an id -/

/-- The response names no id. -/
def Response.HasNoId (response : Response) : Prop :=
  response.valuesOf "x-request-id" = []

theorem hasNoId_json (status : Nat) (value : Json) {headers : List (String × String)}
    (h : (headers.filter fun h => h.1 == "x-request-id") = []) :
    (Response.json status value headers).HasNoId := by
  have hfilter : (("content-type", "application/json") :: headers).filter
      (fun h => h.1 == "x-request-id") = [] := by
    simpa using h
  rw [Response.HasNoId, Response.valuesOf, Response.json, hfilter, List.map_nil]

/-- The id that is added is the only one. -/
theorem Response.HasNoId.valuesOf_withHeader {response : Response} (h : response.HasNoId)
    (id : String) :
    (response.withHeader "x-request-id" id).valuesOf "x-request-id" = [id] := by
  have hmap : (response.headers.filter fun h => h.1 == "x-request-id").map (·.2) = [] := h
  rw [Response.valuesOf, Response.withHeader, List.filter_append, List.map_append, hmap]
  rfl

section

variable (s : Server) (c : Conditions) (r : Request)

/-- What a request asked for is answered without an id. -/
theorem hasNoId_runRoute (route : Route) (params : List String) {response : Response}
    (h : (s.runRoute c route params r).result = .ok response) : response.HasNoId := by
  unfold Server.runRoute at h
  dsimp only at h
  split at h
  · cases h
  · rename_i task _
    cases task with
    | ping =>
      simp only [Outcome.after, Task.perform, Outcome.ofReply] at h
      split at h
      · cases h
        exact hasNoId_json _ _ rfl
      · cases h
    | run codec command =>
      obtain ⟨answer, -, hanswers⟩ :=
        (carries_perform codec c (settled s.rows s.draws) s.links command).answers response h
      obtain ⟨value, -, rfl⟩ := hanswers.exists_plain
      exact hasNoId_json _ _ rfl

/-- So are the errors that become responses. -/
theorem hasNoId_respond {result : Except Abort Response}
    (hok : ∀ response, result = .ok response → response.HasNoId) {response : Response}
    (h : (Server.respond result).1 = .ok response) : response.HasNoId := by
  unfold Server.respond at h
  split at h
  · cases h
    exact hok _ rfl
  · cases h
    unfold errorResponse
    exact hasNoId_json _ _ (by split <;> rfl)
  · cases h
    exact hasNoId_json _ _ rfl
  · cases h
    exact hasNoId_json _ _ rfl
  · cases h

theorem quiet_respond (result : Except Abort Response) : Quiet (Server.respond result).2 := by
  unfold Server.respond
  split
  · exact quiet_nil
  · dsimp only
    split
    · exact quiet_singleton rfl
    · exact quiet_nil
  · exact quiet_nil
  · exact quiet_nil
  · exact quiet_nil

/-- What can be written is written as it is. -/
theorem eq_of_written {answer : Except Unhandled Response} {response : Response}
    (h : Server.written answer = .ok response) : answer = .ok response := by
  unfold Server.written at h
  split at h
  · split at h
    · exact h
    · cases h
  · cases h

theorem quiet_runRoute (route : Route) (params : List String) :
    Quiet (s.runRoute c route params r).log := by
  unfold Server.runRoute
  dsimp only
  split
  · exact quiet_read _
  · rename_i task _
    refine quiet_append.2 ⟨quiet_read _, ?_⟩
    cases task with
    | ping => exact quiet_ping c s.rows s.draws s.links s.settings
    | run codec command => exact quiet_perform codec c s.rows s.draws s.links command

/-- **Before the end** of a request there is no line about it, wherever it goes. -/
theorem quiet_answer : Quiet (s.answer c r).2.1 := by
  unfold Server.answer
  split
  · exact quiet_append.2 ⟨quiet_runRoute s c r _ _, quiet_respond _⟩
  · exact quiet_nil
  · exact quiet_nil
  · exact quiet_nil

/-- Nor is there an id on the response. -/
theorem hasNoId_answer {response : Response} (h : (s.answer c r).1 = .ok response) :
    response.HasNoId := by
  unfold Server.answer at h
  split at h
  · exact hasNoId_respond (fun _ => hasNoId_runRoute s c r _ _) (eq_of_written h)
  · cases h
    exact hasNoId_json _ _ rfl
  · cases h
    rfl
  · cases h
    exact hasNoId_json _ _ rfl

end

/-! ## The id and the line -/

/-- The id of a request, and the supply of ids afterwards. A header that is empty
counts as none. -/
inductive Server.Identifies (s : Server) (r : Request) : String → Supply String → Prop
  | given {id : String} (header : r.header? "x-request-id" = some id) (ne : id ≠ "") :
      Identifies s r id s.ids
  | fresh (absent : ∀ id, r.header? "x-request-id" = some id → id = "") :
      Identifies s r s.ids.next.1 s.ids.next.2

theorem Server.identifies_requestId (s : Server) (r : Request) :
    s.Identifies r (s.requestId r).1 (s.requestId r).2 := by
  unfold Server.requestId
  split
  · rename_i id hid
    split
    · rename_i hempty
      refine .fresh fun id' hid' => ?_
      rw [hid, Option.some.injEq] at hid'
      rw [← hid']
      exact String.isEmpty_iff.1 hempty
    · rename_i hne
      exact .given hid fun hempty => hne (String.isEmpty_iff.2 hempty)
  · rename_i hnone
    exact .fresh fun id hid => by
      rw [hnone] at hid
      cases hid

/-- A request that gives an id has that id. -/
theorem Server.Identifies.eq_given {s : Server} {r : Request} {id given : String}
    {ids : Supply String} (h : s.Identifies r id ids)
    (header : r.header? "x-request-id" = some given) (ne : given ≠ "") : id = given := by
  cases h with
  | given header' => exact Option.some.inj (header'.symm.trans header)
  | fresh absent => exact absurd (absent given header) ne

/-- One that gives none has the next id of the supply. -/
theorem Server.Identifies.eq_next {s : Server} {r : Request} {id : String} {ids : Supply String}
    (h : s.Identifies r id ids) (header : r.header? "x-request-id" = none) :
    id = s.ids.next.1 := by
  cases h with
  | given header' =>
    rw [header] at header'
    cases header'
  | fresh _ => rfl

/-- The characters that a path in the log does not have: three stand for
something else in a URL and are escaped, the others would break a line. -/
def unloggedChars : List Char :=
  ['?', '#', Char.ofNat 0x5C, '\t', '\n', '\r']

/-- A path that starts with a slash and has none of those characters is logged as
it is. -/
theorem Request.loggedPath_eq_path {r : Request} (hslash : r.path.toList.head? = some '/')
    (hplain : ∀ c ∈ r.path.toList, c ∉ unloggedChars) : r.loggedPath = r.path := by
  have hshown : r.path.toList.flatMap loggedChar = r.path.toList := by
    have hchar : ∀ c ∈ r.path.toList, loggedChar c = [c] := by
      intro c hc
      have hne := hplain c hc
      simp only [unloggedChars, List.mem_cons, not_or] at hne
      simp [loggedChar, hne]
    rw [List.flatMap_congr hchar, List.flatMap_singleton']
  have hurl : urlPath r.path = r.path := by
    simp [urlPath, hshown, hslash]
  have hkept : ∀ c ∈ r.path.toList, (c != '\t' && c != '\n' && c != '\r') = true := by
    intro c hc
    have hne := hplain c hc
    simp only [unloggedChars, List.mem_cons, not_or] at hne
    simp [hne]
  rw [loggedPath, hurl, List.filter_eq_self.2 hkept, String.ofList_toList]

/-- The request can be traced under the id. A request that was answered has it on
the response and in its one line, if it has a line; one that failed has it in its
line only. The path in the line is that of the request, if it is a plain one. -/
structure Traces (r : Request) (id : String) (e : Exchange) : Prop where
  onResponse : e.unhandled = none → e.response.valuesOf "x-request-id" = [id]
  answered : e.unhandled = none → requestLines e.log =
    if r.loggedPath ∈ Server.quietPaths then []
    else [.requestAnswered id r.method r.loggedPath e.response.status r.milliseconds]
  failed : e.unhandled ≠ none → requestLines e.log =
    [.requestFailed id r.method r.loggedPath r.milliseconds]
  notOnResponse : e.unhandled ≠ none → e.response = .internalError
  path : r.path.toList.head? = some '/' → (∀ c ∈ r.path.toList, c ∉ unloggedChars) →
    r.loggedPath = r.path

/-- The lines in what a server logs after a quiet log. -/
theorem requestLines_logged {s : Server} {log line : List Event} (hlog : Quiet log)
    (hline : ∀ e ∈ line, e.isRequestLine = true ∧ s.threshold ≤ e.level.rank) :
    requestLines (s.logged (log ++ line)) = line := by
  rw [Server.logged, requestLines_keptFrom, hlog.requestLines_append, requestLines,
    List.filter_eq_self.2 fun e he => (hline e he).1, keptFrom, List.filter_eq_self]
  exact fun e he => decide_eq_true (hline e he).2

section

variable (s : Server) (now : Instant) (fault : Option Fault) (r : Request)

theorem ids_handle : (s.handle now fault r).server.ids = (s.requestId r).2 := by
  unfold Server.handle
  dsimp only
  split <;> rfl

/-- What is answered gets the id, and a line unless its path is a quiet one. -/
theorem handle_of_ok {response : Response}
    (h : (s.answer (s.conditions now fault) r).1 = .ok response) :
    let id := (s.requestId r).1
    let log := (s.answer (s.conditions now fault) r).2.1
    let e := s.handle now fault r
    e.unhandled = none ∧ e.response = response.withHeader "x-request-id" id
      ∧ e.log = s.logged (log ++ if r.loggedPath ∈ Server.quietPaths then []
          else [.requestAnswered id r.method r.loggedPath response.status r.milliseconds]) := by
  simp only [Server.handle, h, List.contains_iff_mem, and_self]

/-- What is not answered gets a line and a response that is made elsewhere. -/
theorem handle_of_error {error : Unhandled}
    (h : (s.answer (s.conditions now fault) r).1 = .error error) :
    let id := (s.requestId r).1
    let log := (s.answer (s.conditions now fault) r).2.1
    let e := s.handle now fault r
    e.unhandled = some error ∧ e.response = .internalError
      ∧ e.log = s.logged (log ++ [.requestFailed id r.method r.loggedPath r.milliseconds]) := by
  simp only [Server.handle, h, and_self]

end

/-- **Requests are traced**: to a server that keeps what is for information, every
request has one id, whatever it asks for and whether or not the database is
disturbed. -/
theorem requests_are_traced (s : Server) (now : Instant) (fault : Option Fault) (r : Request)
    (hlevel : s.threshold ≤ Level.info.rank) :
    let e := s.handle now fault r
    ∃ id, s.Identifies r id e.server.ids ∧ Traces r id e := by
  intro e
  refine ⟨(s.requestId r).1, ids_handle s now fault r ▸ s.identifies_requestId r, ?_⟩
  have hquiet := quiet_answer s (s.conditions now fault) r
  cases hanswer : (s.answer (s.conditions now fault) r).1 with
  | ok response =>
    obtain ⟨hunhandled, hresponse, hlog⟩ := handle_of_ok s now fault r hanswer
    have hnone := hasNoId_answer s (s.conditions now fault) r hanswer
    refine ⟨fun _ => ?_, fun _ => ?_, fun h => absurd hunhandled h, fun h => absurd hunhandled h,
      Request.loggedPath_eq_path⟩
    · rw [hresponse]
      exact hnone.valuesOf_withHeader _
    · rw [hlog, hresponse]
      refine requestLines_logged hquiet ?_
      split
      · exact nofun
      · exact List.forall_mem_singleton.2 ⟨rfl, hlevel⟩
  | error error =>
    obtain ⟨hunhandled, hresponse, hlog⟩ := handle_of_error s now fault r hanswer
    have hsome : e.unhandled ≠ none := by
      rw [hunhandled]
      exact Option.some_ne_none error
    refine ⟨fun h => absurd h hsome, fun h => absurd h hsome, fun _ => ?_, fun _ => hresponse,
      Request.loggedPath_eq_path⟩
    have hrank : Level.info.rank ≤ Level.error.rank := by decide
    rw [hlog]
    exact requestLines_logged hquiet (List.forall_mem_singleton.2 ⟨rfl, hlevel.trans hrank⟩)

/-- A request with an id of its own for a path that is nowhere, which is answered,
and one without an id that fails because the database is not reached. -/
theorem sample_requests_are_traced :
    let s := Server.sample []
    let lost := s.handle 5 none ⟨"GET", "/x", [("X-Request-Id", "7")], [], 0⟩
    let failed := s.handle 5 (some .connection) ⟨"GET", "/v1/frontend/auth/a", [], [], 0⟩
    s.threshold ≤ Level.info.rank
      ∧ lost.response.valuesOf "x-request-id" = ["7"]
      ∧ requestLines failed.log = [.requestFailed "1" "GET" "/v1/frontend/auth/a" 0] := by
  intro s lost failed
  have hlevel : s.threshold ≤ Level.info.rank := by decide
  obtain ⟨id, hid, htraces⟩ := requests_are_traced s 5 none
    ⟨"GET", "/x", [("X-Request-Id", "7")], [], 0⟩ hlevel
  obtain ⟨id', hid', htraces'⟩ := requests_are_traced s 5 (some .connection)
    ⟨"GET", "/v1/frontend/auth/a", [], [], 0⟩ hlevel
  obtain rfl : id = "7" := hid.eq_given (by decide) (by decide)
  obtain rfl : id' = "1" := hid'.eq_next rfl
  exact ⟨hlevel, htraces.onResponse (by decide +kernel),
    (htraces'.failed (by decide +kernel)).trans (by decide +kernel)⟩

/-- A request that fails is answered without its id. -/
theorem failed_request_has_no_id :
    let failed := (Server.sample []).handle 5 (some .connection)
      ⟨"GET", "/v1/frontend/auth/a", [("X-Request-Id", "7")], [], 0⟩
    failed.response.status = 500 ∧ failed.response.valuesOf "x-request-id" = []
      ∧ requestLines failed.log = [.requestFailed "7" "GET" "/v1/frontend/auth/a" 0] := by
  decide +kernel

end Http

end BearerTokens
