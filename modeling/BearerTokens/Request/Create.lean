/-
BearerTokens.Request.Create — requests for a new token.

A draft holds what was given for each field; `check` reads it. Every field
that is wrong is reported, in the order of the fields. Types of tokens are
read leniently, so a wrong one is only noted in the log; the mode of a service
is read strictly. A draft without a wrong field must still name whom the token
is for.
-/
import BearerTokens.Request.Issue

namespace BearerTokens.Request

/-! ## Drafts -/

/-- A tag as it was given: a value to read it from, or the tag itself. -/
inductive Given (α : Type)
  | value (value : Json)
  | tag (tag : α)

/-- What was given for the fields of a request for a token. -/
structure Draft where
  accountId : Option Json
  serviceId : Option Json
  mode : Option (Given Mode)
  description : Option Json
  creator : Option Json
  paymentType : Option (Given PaymentType)
  source : Option (Given Source)
  whole : Json

/-- The members of an object as a draft. The source goes by two names, of
which `type` counts if both are there. -/
def Draft.ofFields (fields : Json.Fields) : Draft where
  accountId := fields.get? "account_id"
  serviceId := fields.get? "service_external_id"
  mode := (fields.get? "service_mode").map .value
  description := fields.get? "description"
  creator := fields.get? "created_by"
  paymentType := (fields.get? "token_type").map .value
  source := ((fields.get? "type").or (fields.get? "source")).map .value
  whole := .object fields

/-! ## Requests -/

/-- Is an account named, or a service together with its mode? -/
def namesOwner (account external : Option String) (mode : Option Mode) : Bool :=
  hasText account || (hasText external && mode.isSome)

/-- A request for a new token, which says whom the token is for. -/
structure Create where
  accountId : Option String
  serviceId : Option String
  mode : Option Mode
  description : String
  creator : String
  paymentType : PaymentType
  source : Source
  owned : namesOwner accountId serviceId mode = true
deriving DecidableEq

/-- What the new token will say. -/
def Create.metadata (r : Create) : Metadata where
  description := r.description
  creator := r.creator
  accountId := r.accountId
  serviceId := r.serviceId
  mode := r.mode
  paymentType := r.paymentType
  source := r.source

/-- The two ways to say whom a token is for agree. -/
theorem namesOwner_iff {m : Metadata} :
    namesOwner m.accountId m.serviceId m.mode = true ↔ m.HasScope := by
  simp [namesOwner, Metadata.HasScope, Option.isSome_iff_ne_none]

/-- A request makes a token with a scope. -/
theorem Create.hasScope_metadata (r : Create) : r.metadata.HasScope :=
  namesOwner_iff.1 r.owned

/-- The token that a request asks for, under a link. -/
def Create.token (r : Create) (link : Link) : PendingToken :=
  ⟨r.metadata, link, r.hasScope_metadata⟩

/-! ## Tags in a draft -/

/-- The mode of a service that was given. -/
def readMode : Option (Given Mode) → Except Issue (Option Mode)
  | none | some (.value .null) => .ok none
  | some (.tag mode) => .ok (some mode)
  | some (.value value) =>
    match Mode.ofJson value with
    | .ok mode => .ok (some mode)
    | .error e => .error ⟨.refused e.message, ["service_mode"], value⟩

/-- The tag that was given, or the fallback, without a report, if none was. -/
def readTag {α : Type} [DefaultTag α] : Option (Given α) → Except Tag.NotText (α × List Event)
  | none => .ok (DefaultTag.fallback, [])
  | some (.tag a) => .ok (a, [])
  | some (.value value) => Tag.ofJson value

/-! ## Checking -/

/-- The issue with a request that does not say whom the token is for. -/
def noOwner (whole : Json) : Issue where
  problem := .refused "account_id or service_external_id with service_mode is required"
  place := []
  input := whole

/-- The fields that are read strictly. -/
structure StrictFields where
  accountId : Option String
  serviceId : Option String
  mode : Option Mode
  description : String
  creator : String
deriving DecidableEq

/-- Read the strict fields, or report all that is wrong with them. -/
def Draft.strictFields (d : Draft) : Except (List Issue) StrictFields :=
  let account := optionalText "account_id" (some nameLimit) d.accountId
  let external := optionalText "service_external_id" (some nameLimit) d.serviceId
  let mode := readMode d.mode
  let description := requiredText "description" nameLimit d.whole d.description
  let creator := requiredText "created_by" nameLimit d.whole d.creator
  match account, external, mode, description, creator with
  | .ok account, .ok external, .ok mode, .ok description, .ok creator =>
    .ok ⟨account, external, mode, description, creator⟩
  | account, external, mode, description, creator =>
    .error (issueOf account ++ issueOf external ++ issueOf mode ++ issueOf description
      ++ issueOf creator)

/-- The request of strict fields and tags, if they say whom the token is for. -/
def StrictFields.request? (f : StrictFields) (paymentType : PaymentType) (source : Source) :
    Option Create :=
  if h : namesOwner f.accountId f.serviceId f.mode = true then
    some ⟨f.accountId, f.serviceId, f.mode, f.description, f.creator, paymentType,
      source, h⟩
  else none

/-- Read a draft. -/
def Draft.check (d : Draft) : Checked Create :=
  match readTag d.paymentType with
  | .error e => ⟨.error (.notText e), []⟩
  | .ok (paymentType, typeLog) =>
    match readTag d.source with
    | .error e => ⟨.error (.notText e), typeLog⟩
    | .ok (source, sourceLog) =>
      let log := typeLog ++ sourceLog
      match d.strictFields with
      | .error issues => ⟨.error (.issues issues), log⟩
      | .ok fields =>
        match fields.request? paymentType source with
        | some request => ⟨.ok request, log⟩
        | none => ⟨.error (.issues [noOwner d.whole]), log⟩

/-- Read a value as a request for a token. -/
def Create.ofJson : Json → Checked Create :=
  Checked.ofJson "CreateTokenRequest" fun fields => (Draft.ofFields fields).check

end BearerTokens.Request
