/-
BearerTokens.Proofs.KeyVerdicts — what is said about a key that is presented.

A request for the owner of a key can fail in five places: there may be no
header or no credential in it, the key may be malformed or have the wrong code,
and its hash may be that of no row. All of them come to one and the same
answer. Where the hash is that of a row, hashes being distinct, the row alone
decides between the two other answers.

`verdict_cases` lists the three cases for the service and `response_cases` for
the response. They exclude each other because a key yields one hash at most
and the three answers differ. That the use of a key cannot be recorded makes no
difference to any of them.
-/
import BearerTokens.Proofs.KeyLifecycle
import BearerTokens.Proofs.RequestEffects

namespace BearerTokens.Http

open Service (settled)

/-! ## What a header leads to -/

/-- The header holds a credential whose key leads to this hash. -/
def Request.Yields (r : Request) (codec : Codec) (h : StorageHash) : Prop :=
  ∃ key, r.bearerKey? = some key ∧ (codec.check key).hash? = .ok (some h)

/-- Why a header leads to no row of the table. -/
inductive Request.Fails (r : Request) (codec : Codec) (rows : List Row) : Prop
  | noHeader (header : r.header? "authorization" = none)
  /-- The scheme is another one, or nothing comes after it. -/
  | noCredential {value : String} (header : r.header? "authorization" = some value)
      (noKey : Request.bearerKeyOf? value = none)
  | malformed {key : String} (credential : r.bearerKey? = some key)
      (malformed : Codec.IsMalformed key)
  | wrongCode {key : String} (credential : r.bearerKey? = some key) (code : ¬ codec.HasCode key)
  | unknown {key : String} {h : StorageHash} (credential : r.bearerKey? = some key)
      (check : (codec.check key).hash? = .ok (some h)) (unknown : ∀ row ∈ rows, row.hash ≠ h)

section

variable {r : Request} {codec : Codec} {rows : List Row}

/-- A header leads to one hash at most. -/
theorem Request.Yields.unique {h h' : StorageHash} (hr : r.Yields codec h)
    (hr' : r.Yields codec h') : h = h' := by
  obtain ⟨key, hkey, hcheck⟩ := hr
  obtain ⟨key', hkey', hcheck'⟩ := hr'
  obtain rfl : key = key' := Option.some.inj (hkey.symm.trans hkey')
  simpa [hcheck] using hcheck'

/-- A key that is none leads to no hash. -/
theorem Request.not_yields_of_none {key : String} (hkey : r.bearerKey? = some key)
    (hcheck : (codec.check key).hash? = .ok none) (h : StorageHash) : ¬ r.Yields codec h := by
  rintro ⟨key', hkey', hcheck'⟩
  obtain rfl : key = key' := Option.some.inj (hkey.symm.trans hkey')
  simp [hcheck] at hcheck'

/-- The reasons are all there are. -/
theorem Request.fails_iff (hcodec : codec.IsUsable) :
    r.Fails codec rows ↔ ∀ row ∈ rows, ¬ r.Yields codec row.hash := by
  constructor
  · intro hfails row hrow
    cases hfails with
    | noHeader header =>
      rintro ⟨key, hkey, -⟩
      simp [bearerKey?, header] at hkey
    | noCredential header hnone =>
      rintro ⟨key, hkey, -⟩
      simp [bearerKey?, header, hnone] at hkey
    | malformed credential hmalformed =>
      obtain ⟨e, hcheck⟩ := Codec.check_of_isMalformed hmalformed
      exact not_yields_of_none credential (by rw [hcheck codec]) row.hash
    | wrongCode credential code =>
      exact not_yields_of_none credential (Codec.hash?_of_not_hasCode code) row.hash
    | unknown credential check hunknown =>
      intro hyields
      exact hunknown row hrow (hyields.unique ⟨_, credential, check⟩)
  · intro hnone
    cases hheader : r.header? "authorization" with
    | none => exact .noHeader hheader
    | some value =>
      cases hkey : bearerKeyOf? value with
      | none => exact .noCredential hheader hkey
      | some key =>
        have hcredential : r.bearerKey? = some key := by
          simp [bearerKey?, hheader, hkey]
        rcases Codec.check_cases hcodec key with ⟨h, hcheck⟩ | ⟨-, hmalformed | hcode⟩
        · refine .unknown hcredential (by rw [hcheck]) fun row hrow heq => ?_
          exact hnone row hrow ⟨key, hcredential, by rw [hcheck, heq]⟩
        · exact .malformed hcredential hmalformed
        · exact .wrongCode hcredential hcode

end

/-! ## Verdicts -/

section

variable (s : Server) (codec : Codec) (c : Conditions) (r : Request)

/-- What the service says about a request; without a key it is not asked. -/
def Server.verdict : Except Failure Entity :=
  match r.bearerKey? with
  | some key => (Service.authenticateOrRefuse codec c (settled s.rows s.draws) key).answer
  | none => .error (.token .unknownKey)

variable {s codec c r}

/-- **The three cases**: the header leads to an active row, to a revoked one, or to none. -/
theorem verdict_cases (hkeyed : Keyed s.rows) (hcodec : codec.IsUsable) (hup : c.IsUp) :
    (∃ row ∈ s.rows, row.isActive = true ∧ r.Yields codec row.hash
        ∧ s.verdict codec c r = .ok (c.touch row).entity)
      ∨ (∃ row ∈ s.rows, row.isActive = false ∧ r.Yields codec row.hash
        ∧ s.verdict codec c r = .error (.token (.revoked row.link)))
      ∨ (∀ row ∈ s.rows, ¬ r.Yields codec row.hash)
        ∧ s.verdict codec c r = .error (.token .unknownKey) := by
  by_cases hnone : ∀ row ∈ s.rows, ¬ r.Yields codec row.hash
  · refine Or.inr (Or.inr ⟨hnone, ?_⟩)
    unfold Server.verdict
    split
    · rename_i key hkey
      refine Service.answer_of_unknown hcodec (fun row hrow hcheck => ?_) hup
      exact hnone row hrow ⟨key, hkey, hcheck⟩
    · rfl
  · simp only [not_forall, not_not] at hnone
    obtain ⟨row, hrow, key, hkey, hhash⟩ := hnone
    have hyields : r.Yields codec row.hash := ⟨key, hkey, hhash⟩
    have hcheck : codec.check key = ⟨.ok (some row.hash), []⟩ := Codec.check_eq_of_hash? hhash
    cases hactive : row.isActive with
    | true =>
      refine Or.inl ⟨row, hrow, hactive, hyields, ?_⟩
      simp only [Server.verdict, hkey, Service.answer_of_active hkeyed hrow hcheck hactive hup]
    | false =>
      refine Or.inr (Or.inl ⟨row, hrow, hactive, hyields, ?_⟩)
      simp only [Server.verdict, hkey,
        (Service.answer_of_revoked hkeyed hrow hcheck hactive hup).2]

end

/-! ## Responses -/

/-- The values of a header of a response. -/
def Response.valuesOf (response : Response) (name : String) : List String :=
  (response.headers.filter fun h => h.1 == name).map (·.2)

/-- The response says whom the token of the row belongs to. -/
structure Response.Grants (response : Response) (row : Row) : Prop where
  status : response.status = 200
  payload : response.payload = .json (.object [
    ("account_id", optionalText row.metadata.accountId),
    ("service_external_id", optionalText row.metadata.serviceId),
    ("service_mode", Json.ofOption tagJson row.metadata.mode),
    ("token_link", .text row.link.value),
    ("token_type", tagJson row.metadata.paymentType)])

/-- The response says that the token of the link was revoked. -/
structure Response.TellsRevoked (response : Response) (link : Link) : Prop where
  status : response.status = 401
  payload : response.payload = .json (.object [
    ("message", .text s!"Token with token_link {link.value} has been revoked"),
    ("error_identifier", .text "AUTH_TOKEN_REVOKED"),
    ("token_link", .text link.value)])
  challenge : response.valuesOf "www-authenticate" = ["Bearer"]

/-- The response says that there is no such key. -/
structure Response.TellsInvalid (response : Response) : Prop where
  status : response.status = 401
  payload : response.payload = .json (.object [
    ("message", .text "Token invalid!"),
    ("error_identifier", .text "AUTH_TOKEN_INVALID")])
  challenge : response.valuesOf "www-authenticate" = ["Bearer"]

/-- Two responses are the same to whoever looks at the status, the body and the
header that asks for a key. -/
structure Response.LooksLike (a b : Response) : Prop where
  status : a.status = b.status
  payload : a.payload = b.payload
  challenge : a.valuesOf "www-authenticate" = b.valuesOf "www-authenticate"

namespace Response

section

variable {response response' : Response} {row row' : Row} {link link' : Link}

theorem TellsInvalid.looksLike (h : response.TellsInvalid) (h' : response'.TellsInvalid) :
    response.LooksLike response' :=
  ⟨h.status.trans h'.status.symm, h.payload.trans h'.payload.symm,
    h.challenge.trans h'.challenge.symm⟩

/-- Responses that grant tell the rows apart by their links. -/
theorem Grants.link_eq (h : response.Grants row) (h' : response.Grants row') :
    row.link = row'.link := by
  have hpayload := h.payload.symm.trans h'.payload
  simp only [Payload.json.injEq, Json.object.injEq, List.cons.injEq, Prod.mk.injEq,
    Json.string.injEq, Text.Wide.text.injEq] at hpayload
  exact congrArg Link.mk hpayload.2.2.2.1.2

/-- So do those that tell of a revocation. -/
theorem TellsRevoked.link_eq (h : response.TellsRevoked link) (h' : response.TellsRevoked link') :
    link = link' := by
  have hpayload := h.payload.symm.trans h'.payload
  simp only [Payload.json.injEq, Json.object.injEq, List.cons.injEq, Prod.mk.injEq,
    Json.string.injEq, Text.Wide.text.injEq] at hpayload
  exact congrArg Link.mk hpayload.2.2.1.2

theorem Grants.not_tellsRevoked (h : response.Grants row) : ¬ response.TellsRevoked link :=
  fun h' => absurd (h.status.symm.trans h'.status) (by decide)

theorem Grants.not_tellsInvalid (h : response.Grants row) : ¬ response.TellsInvalid :=
  fun h' => absurd (h.status.symm.trans h'.status) (by decide)

theorem TellsRevoked.not_tellsInvalid (h : response.TellsRevoked link) :
    ¬ response.TellsInvalid := by
  intro h'
  have hpayload := h.payload.symm.trans h'.payload
  simp at hpayload

end

end Response

/-! ## From the verdict to the response -/

/-- A request for the owner of a key, to a server that can tell: hashing works
with its codec, there is a table, which is one that the service has made, and
the database is reached. -/
structure Asks (s : Server) (codec : Codec) (fault : Option Fault) (r : Request) : Prop where
  method : r.method = "GET"
  path : r.path = "/v1/api/auth"
  codec_eq : s.codec = .ok codec
  hashes : ∃ secret hash, codec.storageHash secret = .ok hash
  ready : s.tableReady = true
  reachable : ∃ (maker : Codec) (draws : Draws) (steps : List Service.Step),
    s.rows = (Service.run maker (settled [] draws) steps).session.committed
  reached : fault ≠ some .connection

section

variable {s : Server} {codec : Codec} {fault : Option Fault} {r : Request}

theorem Asks.isUsable (h : Asks s codec fault r) : codec.IsUsable := by
  obtain ⟨secret, hash, hhash⟩ := h.hashes
  exact Codec.isUsable_of_storageHash hhash

theorem Asks.keyed (h : Asks s codec fault r) : Keyed s.rows := by
  obtain ⟨maker, draws, steps, hrows⟩ := h.reachable
  obtain ⟨rows, draws', hrun, hkeyed⟩ := Service.run_keyed maker draws keyed_nil steps
  rw [hrows, hrun]
  exact hkeyed

theorem Asks.isUp (h : Asks s codec fault r) (now : Instant) : (s.conditions now fault).IsUp :=
  ⟨h.reached, h.ready⟩

/-- The path of the request is that of the route. -/
theorem find_auth : find "GET" "/v1/api/auth"
    = .found ⟨"GET", [.literal "v1", .literal "api", .literal "auth"], .authenticate⟩ [] := by
  decide

/-- The result of a request that is made of a verdict. -/
def verdictResult : Except Failure Entity → Except Abort Response
  | .ok e => .ok (.ok (grantJson e))
  | .error failure => .error (abortOf failure)

/-- On this route the result is made of the verdict. -/
theorem result_runRoute (hcodec : s.codec = .ok codec) (c : Conditions) (path : List Segment) :
    (s.runRoute c ⟨"GET", path, .authenticate⟩ [] r).result
      = verdictResult (s.verdict codec c r) := by
  unfold Server.runRoute Server.verdict
  cases hkey : r.bearerKey? with
  | none => simp [Task.read, hkey, Understood.abort, verdictResult, abortOf]
  | some key =>
    have hreads : Reads s.codec [] r .authenticate (.run codec (.authenticate key)) :=
      .authenticate hkey hcodec
    simp only [read_iff.2 hreads]
    show (Outcome.ofReply s.links (Service.authenticateOrRefuse codec c (settled s.rows s.draws) key)
      fun e => .ok (.ok (grantJson e))).result = _
    unfold Outcome.ofReply
    split
    · rename_i e hanswer
      simp [hanswer, verdictResult]
    · rename_i failure hanswer
      simp [hanswer, verdictResult]

/-- What can be written of a verdict is answered. -/
theorem response_of_verdict (h : Asks s codec fault r) {now : Instant}
    {verdict : Except Failure Entity} {response : Response}
    (hverdict : s.verdict codec (s.conditions now fault) r = verdict)
    (hwritten : Server.written (Server.respond (verdictResult verdict)).1 = .ok response) :
    (s.handle now fault r).response = response.withHeader "x-request-id" (s.requestId r).1 := by
  have hfind := find_auth
  rw [← h.path, ← h.method] at hfind
  refine (handle_of_written s r hfind ?_).1
  rw [h.method, ← hwritten, ← hverdict]
  exact congrArg (fun result => Server.written (Server.respond result).1)
    (result_runRoute h.codec_eq (s.conditions now fault) _)

/-- A grant can be written. -/
theorem written_grant (e : Entity) :
    Server.written (Server.respond (verdictResult (.ok e))).1 = .ok (.ok (grantJson e)) :=
  (Answers.authenticate "" e).written

/-- So can the report of an error. -/
theorem written_error (e : TokenError) :
    Server.written (Server.respond (verdictResult (.error (.token e)))).1
      = .ok (errorResponse e) := by
  have hplain := isPlain_errorJson e
  simp [verdictResult, abortOf, Server.respond, Server.written, Response.flaw?, errorResponse,
    Response.json, hplain.isFinite, hplain.isText]

/-! ### What the responses say -/

theorem grants_of_sameToken {row row' : Row} (h : row.SameToken row') (id : String) :
    ((Response.ok (grantJson row'.entity)).withHeader "x-request-id" id).Grants row where
  status := rfl
  payload := by
    rw [← h.accountId, ← h.serviceId, ← h.mode, ← h.link, ← h.paymentType]
    rfl

theorem tellsRevoked_errorResponse (link : Link) (id : String) :
    ((errorResponse (.revoked link)).withHeader "x-request-id" id).TellsRevoked link :=
  ⟨rfl, rfl, rfl⟩

theorem tellsInvalid_errorResponse (id : String) :
    ((errorResponse .unknownKey).withHeader "x-request-id" id).TellsInvalid :=
  ⟨rfl, rfl, rfl⟩

/-- **The three answers**, each in its case. -/
theorem response_cases (h : Asks s codec fault r) (now : Instant) :
    (∃ row ∈ s.rows, row.isActive = true ∧ r.Yields codec row.hash
        ∧ (s.handle now fault r).response.Grants row)
      ∨ (∃ row ∈ s.rows, row.isActive = false ∧ r.Yields codec row.hash
        ∧ (s.handle now fault r).response.TellsRevoked row.link)
      ∨ (∀ row ∈ s.rows, ¬ r.Yields codec row.hash)
        ∧ (s.handle now fault r).response.TellsInvalid := by
  rcases verdict_cases h.keyed h.isUsable (h.isUp now) with
    ⟨row, hrow, hactive, hyields, hverdict⟩ | ⟨row, hrow, hactive, hyields, hverdict⟩
      | ⟨hnone, hverdict⟩
  · refine Or.inl ⟨row, hrow, hactive, hyields, ?_⟩
    rw [response_of_verdict h hverdict (written_grant _)]
    exact grants_of_sameToken (row.sameToken_touch _) _
  · refine Or.inr (Or.inl ⟨row, hrow, hactive, hyields, ?_⟩)
    rw [response_of_verdict h hverdict (written_error _)]
    exact tellsRevoked_errorResponse row.link _
  · refine Or.inr (Or.inr ⟨hnone, ?_⟩)
    rw [response_of_verdict h hverdict (written_error _)]
    exact tellsInvalid_errorResponse _

/-! ## Exact answers -/

/-- The response says that a token is in force, was revoked or is none exactly
if the header leads to an active row, to a revoked one or to none. -/
structure IsExact (rows : List Row) (codec : Codec) (r : Request) (response : Response) : Prop where
  granted : ∀ row ∈ rows,
    response.Grants row ↔ row.isActive = true ∧ r.Yields codec row.hash
  answered : response.status = 200 ↔ ∃ row ∈ rows, row.isActive = true ∧ r.Yields codec row.hash
  revoked : ∀ link, response.TellsRevoked link
    ↔ ∃ row ∈ rows, row.link = link ∧ row.isActive = false ∧ r.Yields codec row.hash
  invalid : response.TellsInvalid ↔ ∀ row ∈ rows, ¬ r.Yields codec row.hash

section

variable {rows : List Row} {row : Row} {response : Response}

/-- The header leads to one row at most. -/
theorem eq_of_yields (hkeyed : Keyed rows) (hrow : row ∈ rows) (hyields : r.Yields codec row.hash)
    {row' : Row} (hrow' : row' ∈ rows) (hyields' : r.Yields codec row'.hash) : row' = row :=
  hkeyed.eq_of_hash hrow' hrow (hyields'.unique hyields)

theorem isExact_of_grants (hkeyed : Keyed rows) (hrow : row ∈ rows)
    (hactive : row.isActive = true) (hyields : r.Yields codec row.hash)
    (hgrants : response.Grants row) : IsExact rows codec r response where
  granted row' hrow' := by
    constructor
    · intro hgrants'
      rw [hkeyed.eq_of_link hrow' hrow (hgrants'.link_eq hgrants)]
      exact ⟨hactive, hyields⟩
    · rintro ⟨-, hyields'⟩
      rw [eq_of_yields hkeyed hrow hyields hrow' hyields']
      exact hgrants
  answered := iff_of_true hgrants.status ⟨row, hrow, hactive, hyields⟩
  revoked link := by
    refine iff_of_false hgrants.not_tellsRevoked ?_
    rintro ⟨row', hrow', -, hrevoked, hyields'⟩
    rw [eq_of_yields hkeyed hrow hyields hrow' hyields', hactive] at hrevoked
    exact absurd hrevoked (by decide)
  invalid := iff_of_false hgrants.not_tellsInvalid fun hnone => hnone row hrow hyields

theorem isExact_of_tellsRevoked (hkeyed : Keyed rows) (hrow : row ∈ rows)
    (hactive : row.isActive = false) (hyields : r.Yields codec row.hash)
    (hrevoked : response.TellsRevoked row.link) : IsExact rows codec r response where
  granted row' hrow' := by
    refine iff_of_false (fun hgrants => hgrants.not_tellsRevoked hrevoked) ?_
    rintro ⟨hactive', hyields'⟩
    rw [eq_of_yields hkeyed hrow hyields hrow' hyields', hactive] at hactive'
    exact absurd hactive' (by decide)
  answered := by
    refine iff_of_false (fun hstatus => ?_) ?_
    · exact absurd (hstatus.symm.trans hrevoked.status) (by decide)
    · rintro ⟨row', hrow', hactive', hyields'⟩
      rw [eq_of_yields hkeyed hrow hyields hrow' hyields', hactive] at hactive'
      exact absurd hactive' (by decide)
  revoked link := by
    constructor
    · intro hrevoked'
      exact ⟨row, hrow, hrevoked.link_eq hrevoked', hactive, hyields⟩
    · rintro ⟨row', hrow', rfl, -, hyields'⟩
      rw [eq_of_yields hkeyed hrow hyields hrow' hyields']
      exact hrevoked
  invalid := iff_of_false hrevoked.not_tellsInvalid fun hnone => hnone row hrow hyields

theorem isExact_of_tellsInvalid (hnone : ∀ row ∈ rows, ¬ r.Yields codec row.hash)
    (hinvalid : response.TellsInvalid) : IsExact rows codec r response where
  granted row hrow := iff_of_false (fun hgrants => hgrants.not_tellsInvalid hinvalid)
    fun hyields => hnone row hrow hyields.2
  answered := by
    refine iff_of_false (fun hstatus => ?_) ?_
    · exact absurd (hstatus.symm.trans hinvalid.status) (by decide)
    · rintro ⟨row, hrow, -, hyields⟩
      exact hnone row hrow hyields
  revoked link := by
    refine iff_of_false (fun hrevoked => hrevoked.not_tellsInvalid hinvalid) ?_
    rintro ⟨row, hrow, -, -, hyields⟩
    exact hnone row hrow hyields
  invalid := iff_of_true hinvalid hnone

end

/-- The answer to a request for the owner of a key is exact. -/
theorem isExact_handle (h : Asks s codec fault r) (now : Instant) :
    IsExact s.rows codec r (s.handle now fault r).response := by
  rcases response_cases h now with ⟨row, hrow, hactive, hyields, hgrants⟩
    | ⟨row, hrow, hactive, hyields, hrevoked⟩ | ⟨hnone, hinvalid⟩
  · exact isExact_of_grants h.keyed hrow hactive hyields hgrants
  · exact isExact_of_tellsRevoked h.keyed hrow hactive hyields hrevoked
  · exact isExact_of_tellsInvalid hnone hinvalid

end

/-- **What is said about a key**: whatever the header is, the response grants,
tells of a revocation or tells that there is no such key exactly if the header
leads to an active row, to a revoked one or to none. There are five reasons for
the last, and two requests that lead to none are answered alike, whatever the
two servers, the two tables and the reasons are. -/
theorem key_verdict_is_exact (s : Server) (codec : Codec) (fault : Option Fault) (r : Request)
    (now : Instant) (h : Asks s codec fault r) :
    IsExact s.rows codec r (s.handle now fault r).response
      ∧ (r.Fails codec s.rows ↔ ∀ row ∈ s.rows, ¬ r.Yields codec row.hash)
      ∧ ∀ (s' : Server) (codec' : Codec) (fault' : Option Fault) (r' : Request) (now' : Instant),
        Asks s' codec' fault' r' → (∀ row ∈ s.rows, ¬ r.Yields codec row.hash) →
          (∀ row ∈ s'.rows, ¬ r'.Yields codec' row.hash) →
            (s.handle now fault r).response.LooksLike (s'.handle now' fault' r').response := by
  have hexact := isExact_handle h now
  refine ⟨hexact, Request.fails_iff h.isUsable, ?_⟩
  intro s' codec' fault' r' now' h' hnone hnone'
  have hexact' := isExact_handle h' now'
  exact (hexact.invalid.2 hnone).looksLike (hexact'.invalid.2 hnone')

/-! ## Samples -/

/-- A text without blanks is presented after the word and a space. -/
theorem Request.bearerKeyOf?_append {key : String} (hne : key ≠ "")
    (hkey : ∀ x ∈ key.toList, Text.isBlank x = false) :
    bearerKeyOf? ("Bearer " ++ key) = some key := by
  have hlist : ("Bearer " ++ key).toList = "Bearer".toList ++ ' ' :: key.toList := by
    rw [String.toList_append]
    rfl
  have hscheme : ∀ x ∈ "Bearer".toList, (x != ' ') = true := List.all_eq_true.1 (by decide)
  have htake : ("Bearer " ++ key).toList.takeWhile (· != ' ') = "Bearer".toList := by
    rw [hlist, List.takeWhile_append_of_pos hscheme]
    simp
  have hdrop : (("Bearer " ++ key).toList.dropWhile (· != ' ')).drop 1 = key.toList := by
    rw [hlist, List.dropWhile_append_of_pos hscheme]
    simp
  have hstrip : Text.strip (String.ofList key.toList) = key := by
    rw [Text.strip, String.toList_ofList, Text.trimChars_eq_self hkey, String.ofList_toList]
  have hfold : (Text.fold (String.ofList "Bearer".toList) == "bearer") = true := by decide +kernel
  simp only [bearerKeyOf?, htake, hdrop, hstrip, hfold]
  simp [hne]

/-- A request for the owner of a key, with these headers. -/
def sampleQuestion (headers : List (String × String)) : Request :=
  ⟨"GET", "/v1/api/auth?why", headers, [], 0⟩

/-- The key of a secret is presented as it is. -/
theorem bearerKey?_sampleQuestion (codec : Codec) {secret : String} (h : IsSecret secret) :
    (sampleQuestion [("Authorization", "Bearer " ++ codec.keyOf secret)]).bearerKey?
      = some (codec.keyOf secret) := by
  have hname : (Text.fold "Authorization" == "authorization") = true := by decide +kernel
  have hblank : Base32Hex.alphabet.all (fun x => !Text.isBlank x) = true := by decide
  have hne : codec.keyOf secret ≠ "" := by
    intro hempty
    have hlength := codec.length_keyOf secret
    simp [hempty, Codec.codeLength] at hlength
  have hheader : (sampleQuestion [("Authorization", "Bearer " ++ codec.keyOf secret)]).header?
      "authorization" = some ("Bearer " ++ codec.keyOf secret) := by
    simp [sampleQuestion, Request.header?, hname]
  rw [Request.bearerKey?, hheader, Option.bind_some]
  refine Request.bearerKeyOf?_append hne fun x hx => ?_
  simpa using List.all_eq_true.1 hblank x (Codec.mem_alphabet_of_mem_keyOf h hx)

/-- A server whose table was made by these steps of the service. -/
def serverAfter (steps : List Service.Step) : Server :=
  Server.sample (Service.run Codec.sample (settled [] Draws.sample) steps).session.committed

theorem asks_sampleQuestion (steps : List Service.Step) (headers : List (String × String))
    {fault : Option Fault} (hfault : fault ≠ some .connection) :
    Asks (serverAfter steps) Codec.sample fault (sampleQuestion headers) where
  method := rfl
  path := by
    show Text.percentDecode (String.ofList ("/v1/api/auth?why".toList.takeWhile (· != '?')))
      = "/v1/api/auth"
    decide +kernel
  codec_eq := codec_sample _
  hashes := ⟨_, _, Codec.storageHash_of_isUsable Codec.isUsable_sample
    (isSecret_drawSecret Draws.isBounded_sample)⟩
  ready := rfl
  reachable := ⟨Codec.sample, Draws.sample, steps, rfl⟩
  reached := hfault

/-- A token is issued. -/
def sampleIssue : Service.Step :=
  ⟨⟨5, none, true⟩, .issue sampleToken⟩

/-- All tokens of its account are revoked. -/
def sampleStop : Service.Step :=
  ⟨⟨6, none, true⟩, .revokeTenant (.account "a")⟩

/-- The tables after these steps. The hash is left open, as it takes long to
compute. -/
theorem rows_serverAfter :
    ∃ h, (serverAfter [sampleIssue]).rows = [Row.ofPending 5 h sampleToken]
      ∧ (serverAfter [sampleIssue, sampleStop]).rows = [(Row.ofPending 5 h sampleToken).ended 6]
      ∧ Codec.sample.check (Codec.sample.keyOf Draws.sample.drawSecret.1)
        = ⟨.ok (some h), []⟩ := by
  have hsecret : IsSecret Draws.sample.drawSecret.1 := isSecret_drawSecret Draws.isBounded_sample
  have hcheck := Codec.sample.check_keyOf hsecret
  have hhash := Codec.storageHash_of_isUsable Codec.isUsable_sample hsecret
  generalize StorageHash.mk _ = h at hhash
  rw [hhash] at hcheck
  have hissued : Service.next Codec.sample (settled [] Draws.sample) sampleIssue
      = settled [Row.ofPending 5 h sampleToken] Draws.sample.drawSecret.2 := by
    simp only [Service.next, Service.perform, sampleIssue, Service.issue_settled, hhash]
    rfl
  refine ⟨h, ?_, ?_, hcheck⟩
  · simp only [serverAfter, Server.sample, Service.run, List.foldl_cons, List.foldl_nil, hissued]
    rfl
  · simp only [serverAfter, Server.sample, Service.run, List.foldl_cons, List.foldl_nil, hissued]
    rfl

/-- A key that was handed out is granted, even if its use cannot be recorded,
until its token goes with all the tokens of its account. Without a header there
is no such key, and neither is there on a server with no tokens. -/
theorem sample_key_verdicts :
    let key := Codec.sample.keyOf Draws.sample.drawSecret.1
    let present := sampleQuestion [("Authorization", "Bearer " ++ key)]
    let granted := ((serverAfter [sampleIssue]).handle 7 (some .touch) present).response
    let revoked := ((serverAfter [sampleIssue, sampleStop]).handle 8 none present).response
    let missing := ((serverAfter [sampleIssue]).handle 9 none (sampleQuestion [])).response
    let unknown := ((serverAfter []).handle 9 none present).response
    (∃ h, granted.Grants (Row.ofPending 5 h sampleToken)) ∧ revoked.TellsRevoked ⟨"l"⟩
      ∧ missing.TellsInvalid ∧ missing.LooksLike unknown := by
  intro key present granted revoked missing unknown
  obtain ⟨h, hrows, hrows', hcheck⟩ := rows_serverAfter
  have hkey : present.bearerKey? = some key :=
    bearerKey?_sampleQuestion Codec.sample (isSecret_drawSecret Draws.isBounded_sample)
  have hyields : present.Yields Codec.sample h := ⟨key, hkey, by rw [hcheck]⟩
  have hnone : ∀ h, ¬ (sampleQuestion []).Yields Codec.sample h := by
    rintro h ⟨key, hmissing, -⟩
    cases hmissing
  have hgranted := key_verdict_is_exact (serverAfter [sampleIssue]) Codec.sample (some .touch)
    present 7 (asks_sampleQuestion _ _ (by decide))
  have hrevoked := key_verdict_is_exact (serverAfter [sampleIssue, sampleStop]) Codec.sample none
    present 8 (asks_sampleQuestion _ _ (by decide))
  have hmissing := key_verdict_is_exact (serverAfter [sampleIssue]) Codec.sample none
    (sampleQuestion []) 9 (asks_sampleQuestion _ _ (by decide))
  refine ⟨⟨h, ?_⟩, ?_, ?_, ?_⟩
  · exact (hgranted.1.granted _ (by simp [hrows])).2 ⟨rfl, hyields⟩
  · refine (hrevoked.1.revoked ⟨"l"⟩).2 ⟨(Row.ofPending 5 h sampleToken).ended 6, ?_⟩
    exact ⟨by simp [hrows'], rfl, rfl, hyields⟩
  · exact hmissing.1.invalid.2 fun row _ => hnone row.hash
  · refine hmissing.2.2 (serverAfter []) Codec.sample none present 9
      (asks_sampleQuestion _ _ (by decide)) (fun row _ => hnone row.hash) ?_
    intro row hrow
    cases hrow

end BearerTokens.Http
