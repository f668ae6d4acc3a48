/-
BearerTokens.Proofs.Commands — what a command comes to.

A command is carried out by one operation of the service, and its response is
made of the operation's answer: `Carries` says so, and that a request which ends
without a response is refused after an operation that tells of no change. With
`ComesTo` for the operation this settles what any command does to the table.

The responses to commands can always be written, since every text in them is
a text. This is what keeps a change from being reported as an error once it
has been made.
-/
import BearerTokens.Proofs.Routing
import BearerTokens.Proofs.StepAnswers

namespace BearerTokens

/-! ## Values that can be written -/

namespace Json

/-- The value can be written: its numbers are finite and its strings are texts. -/
structure IsPlain (value : Json) : Prop where
  isFinite : value.isFinite = true
  isText : value.isText = true

theorem isPlain_text (s : String) : (text s).IsPlain :=
  ⟨rfl, rfl⟩

theorem isPlain_int (n : Int) : (int n).IsPlain :=
  ⟨rfl, rfl⟩

theorem isPlain_ofOption {α : Type} {encode : α → Json} (h : ∀ a, (encode a).IsPlain)
    (x : Option α) : (ofOption encode x).IsPlain := by
  cases x with
  | none => exact ⟨rfl, rfl⟩
  | some a => exact h a

theorem isPlain_list {items : List Json} (h : ∀ item ∈ items, item.IsPlain) :
    (list items).IsPlain := by
  induction items with
  | nil => exact ⟨rfl, rfl⟩
  | cons item rest ih =>
    obtain ⟨hitem, hrest⟩ := List.forall_mem_cons.1 h
    obtain ⟨hfinite, htext⟩ := ih hrest
    constructor
    · simp only [isFinite, all, allItems, Bool.and_eq_true] at hfinite ⊢
      exact ⟨hitem.isFinite, hfinite⟩
    · simp only [isText, all, allItems, Bool.and_eq_true] at htext ⊢
      exact ⟨hitem.isText, htext⟩

theorem isPlain_object {fields : Fields}
    (h : ∀ field ∈ fields, field.1.isText = true ∧ field.2.IsPlain) : (object fields).IsPlain := by
  induction fields with
  | nil => exact ⟨rfl, rfl⟩
  | cons field rest ih =>
    obtain ⟨⟨hname, hvalue⟩, hrest⟩ := List.forall_mem_cons.1 h
    obtain ⟨hfinite, htext⟩ := ih hrest
    constructor
    · simp only [isFinite, all, allFields, Bool.and_eq_true] at hfinite ⊢
      exact ⟨⟨trivial, hvalue.isFinite⟩, hfinite⟩
    · simp only [isText, all, allFields, Bool.and_eq_true] at htext ⊢
      exact ⟨⟨hname, hvalue.isText⟩, htext⟩

end Json

namespace Http

/-! ## Responses to commands -/

theorem isPlain_tokenJson (e : Entity) : (tokenJson e).IsPlain := by
  have htext : ∀ s, (optionalText s).IsPlain := Json.isPlain_ofOption Json.isPlain_text
  have htime : ∀ t, (timeJson t).IsPlain := Json.isPlain_ofOption fun _ => Json.isPlain_text _
  have hmode : ∀ m : Option Mode, (Json.ofOption tagJson m).IsPlain :=
    Json.isPlain_ofOption fun _ => Json.isPlain_text _
  refine Json.isPlain_object ?_
  simp only [List.forall_mem_cons, Json.isPlain_text, htext, htime, hmode, tagJson]
  simp [Text.Wide.isText]

theorem isPlain_grantJson (e : Entity) : (grantJson e).IsPlain := by
  have htext : ∀ s, (optionalText s).IsPlain := Json.isPlain_ofOption Json.isPlain_text
  have hmode : ∀ m : Option Mode, (Json.ofOption tagJson m).IsPlain :=
    Json.isPlain_ofOption fun _ => Json.isPlain_text _
  refine Json.isPlain_object ?_
  simp only [List.forall_mem_cons, Json.isPlain_text, htext, hmode, tagJson]
  simp [Text.Wide.isText]

/-- The report of an error quotes nothing but texts. -/
theorem isPlain_errorJson (e : TokenError) : (errorJson e).IsPlain := by
  refine Json.isPlain_object ?_
  cases e with
  | revoked link => simp [TokenError.link?, Text.Wide.isText, Json.isPlain_text]
  | invalid | storage | generic => simp [TokenError.link?, Text.Wide.isText, Json.isPlain_text]

/-- An object with one member. -/
theorem isPlain_member (name : String) {value : Json} (h : value.IsPlain) :
    (Json.object [(.text name, value)]).IsPlain :=
  Json.isPlain_object (List.forall_mem_singleton.2 ⟨rfl, h⟩)

open Service (Operation Answer ComesTo TellsNoChange)

/-- The answer to the operation of a command makes this response. -/
inductive Answers : Command → Answer → Response → Prop
  | authenticate (key : String) (e : Entity) :
      Answers (.authenticate key) (.entity (some e)) (.ok (grantJson e))
  | create (request : Request.Create) (key : String) (e : Entity) :
      Answers (.create request) (.issued key e) (.ok (.object [("token", .text key)]))
  | describe (request : Request.Describe) (e : Entity) :
      Answers (.describe request) (.entity (some e)) (.ok (tokenJson e))
  | list (t : Tenant) (state source : String) (entities : List Entity) :
      Answers (.list t state source) (.entities entities)
        (.ok (.object [("tokens", .list (entities.map tokenJson))]))
  | get (t : Tenant) (l : Link) (e : Entity) :
      Answers (.get t l) (.entity (some e)) (.ok (tokenJson e))
  | revoke (t : Tenant) (request : Request.Revoke) (time : Timestamp) :
      Answers (.revoke t request) (.time (some time))
        (.ok (.object [("revoked", timeJson (some time))]))
  | revokeTenant (t : Tenant) (n : Nat) :
      Answers (.revokeTenant t) (.count n) (.ok (.object [("revoked_count", .int n)]))

/-- Every such response is one that can be written and says that all went well. -/
theorem Answers.exists_plain {command : Command} {answer : Answer} {response : Response}
    (h : Answers command answer response) : ∃ value : Json, value.IsPlain ∧ response = .ok value := by
  cases h with
  | authenticate key e => exact ⟨_, isPlain_grantJson e, rfl⟩
  | create request key e => exact ⟨_, isPlain_member _ (Json.isPlain_text key), rfl⟩
  | describe request e => exact ⟨_, isPlain_tokenJson e, rfl⟩
  | list t state source entities =>
    refine ⟨_, isPlain_member _ (Json.isPlain_list fun item hitem => ?_), rfl⟩
    obtain ⟨e, -, rfl⟩ := List.mem_map.1 hitem
    exact isPlain_tokenJson e
  | get t l e => exact ⟨_, isPlain_tokenJson e, rfl⟩
  | revoke t request time => exact ⟨_, isPlain_member _ (Json.isPlain_text _), rfl⟩
  | revokeTenant t n => exact ⟨_, isPlain_member _ (Json.isPlain_int n), rfl⟩

theorem Answers.written {command : Command} {answer : Answer} {response : Response}
    (h : Answers command answer response) : Server.written (.ok response) = .ok response := by
  obtain ⟨value, hplain, rfl⟩ := h.exists_plain
  simp [Server.written, Response.flaw?, Response.ok, Response.json, hplain.isFinite, hplain.isText]

theorem Answers.status {command : Command} {answer : Answer} {response : Response}
    (h : Answers command answer response) : response.status = 200 := by
  obtain ⟨value, -, rfl⟩ := h.exists_plain
  rfl

/-! ## Commands as operations -/

/-- The operation that carries a command out; a new token gets this link. An
empty link or key counts as none. -/
def Command.operation (link : Link) : Command → Operation
  | .authenticate key => .authenticateOrRefuse key
  | .create request => .issue (request.token link)
  | .describe request => .describe request.link request.description none
  | .list t state source => .list t (Tag.ofText state).1 (Tag.ofText source).1
  | .get t l => .get l (some t)
  | .revoke t request =>
    .revoke t (request.link.filter fun l => !l.value.isEmpty) (request.key.filter fun k => !k.isEmpty)
  | .revokeTenant t => .revokeTenant t

/-- The outcome of a command is that of an operation: the service is what the
operation leaves, a response is made of its answer, and where there is none
nothing was changed. -/
structure Carries (command : Command) (operation : Operation) (o : Outcome)
    (reply : Reply Service Answer) : Prop where
  service : o.service = reply.state
  answers : ∀ response, o.result = .ok response →
    ∃ answer, reply.answer = .ok answer ∧ Answers command answer response
  refuses : ∀ a, o.result = .error a → a.Refuses
  tellsNoChange : ∀ a, o.result = .error a → TellsNoChange operation reply.answer

/-- What ends a request because of a failure refuses it. -/
theorem refuses_abortOf (failure : Failure) : (abortOf failure).Refuses := by
  unfold abortOf
  split
  · exact Abort.refuses_token _
  · exact Abort.refuses_unhandled _

theorem refuses_withTenantName (t : Tenant) (message : String → String) :
    (withTenantName t message).Refuses := by
  unfold withTenantName
  split
  · exact Abort.refuses_status (by decide) _
  · exact Abort.refuses_unhandled _

/-- A reply of the service becomes an outcome answer by answer. -/
theorem carries_ofReply {α : Type} {command : Command} {operation : Operation}
    (links : Supply Link) (r : Reply Service α) (f : α → Answer)
    {respond : α → Except Abort Response}
    (hok : ∀ a response, respond a = .ok response → Answers command (f a) response)
    (herror : ∀ a abort, respond a = .error abort →
      abort.Refuses ∧ TellsNoChange operation (.ok (f a))) :
    Carries command operation (.ofReply links r respond) (r.map f) := by
  obtain ⟨answer, log, s⟩ := r
  cases answer with
  | error failure =>
    refine ⟨rfl, ?_, ?_, ?_⟩
    · rintro _ ⟨⟩
    · rintro _ ⟨⟩
      exact refuses_abortOf failure
    · intro _ _
      exact .failed _ _
  | ok a =>
    refine ⟨rfl, ?_, ?_, ?_⟩
    · intro response h
      exact ⟨f a, rfl, hok a response h⟩
    · intro abort h
      exact (herror a abort h).1
    · intro abort h
      exact (herror a abort h).2

/-- Where every answer makes a response, nothing else is left to show. -/
theorem carries_ofReply_ok {α : Type} {command : Command} {operation : Operation}
    (links : Supply Link) (r : Reply Service α) (f : α → Answer) {respond : α → Response}
    (h : ∀ a, Answers command (f a) (respond a)) :
    Carries command operation (.ofReply links r fun a => .ok (respond a)) (r.map f) := by
  refine carries_ofReply links r f ?_ ?_
  · rintro a _ ⟨⟩
    exact h a
  · rintro _ _ ⟨⟩

/-- What was reported before does not matter. -/
theorem Carries.after {command : Command} {operation : Operation} {o : Outcome}
    {reply : Reply Service Answer} (h : Carries command operation o reply) (log : List Event) :
    Carries command operation (o.after log) reply :=
  ⟨h.service, h.answers, h.refuses, h.tellsNoChange⟩

section

variable (codec : Codec) (c : Conditions) (s : Service) (links : Supply Link)

theorem carries_list (t : Tenant) (state source : String) :
    Carries (.list t state source) (.list t (Tag.ofText state).1 (Tag.ofText source).1)
      (performList c s links t state source)
      ((s.list c t (Tag.ofText state).1 (Tag.ofText source).1).map .entities) := by
  unfold performList
  generalize (Tag.ofText state : State × List Event) = readState
  generalize (Tag.ofText source : Source × List Event) = readSource
  obtain ⟨state', stateLog⟩ := readState
  obtain ⟨source', sourceLog⟩ := readSource
  exact Carries.after (carries_ofReply_ok links _ .entities (.list t state source)) _

theorem carries_revoke (t : Tenant) (request : Request.Revoke) :
    Carries (.revoke t request) ((Command.revoke t request).operation links.next.1)
      (performRevoke codec c s links t request)
      (Service.perform codec ⟨c, (Command.revoke t request).operation links.next.1⟩ s) := by
  unfold performRevoke Command.operation
  dsimp only
  generalize request.link.filter (fun l => !l.value.isEmpty) = link
  generalize request.key.filter (fun k => !k.isEmpty) = key
  split
  · rename_i hnone
    rw [Bool.and_eq_true, Option.isNone_iff_eq_none, Option.isNone_iff_eq_none] at hnone
    obtain ⟨rfl, rfl⟩ := hnone
    refine ⟨rfl, ?_, ?_, ?_⟩
    · rintro _ ⟨⟩
    · rintro _ ⟨⟩
      exact Abort.refuses_status (by decide) _
    · intro _ _
      exact .failed _ _
  · refine carries_ofReply links _ .time ?_ ?_
    · rintro (_ | time) _ ⟨⟩
      exact .revoke t request time
    · rintro (_ | time) _ ⟨⟩
      exact ⟨refuses_withTenantName t _, .noTime _⟩

/-- **Commands**: every command is one operation of the service. -/
theorem carries_perform (command : Command) :
    Carries command (command.operation links.next.1) (command.perform codec c s links)
      (Service.perform codec ⟨c, command.operation links.next.1⟩ s) := by
  cases command with
  | authenticate key =>
    exact carries_ofReply_ok links _ (fun e => .entity (some e)) (.authenticate key)
  | create request =>
    exact carries_ofReply_ok _ (s.issue codec c (request.token links.next.1))
      (fun issued => .issued issued.1 issued.2) fun issued => .create request issued.1 issued.2
  | describe request =>
    refine carries_ofReply links _ .entity ?_ ?_
    · rintro (_ | e) _ ⟨⟩
      exact .describe request e
    · rintro (_ | e) _ ⟨⟩
      exact ⟨Abort.refuses_status (by decide) _, .noEntity _⟩
  | list t state source => exact carries_list c s links t state source
  | get t l =>
    refine carries_ofReply links _ .entity ?_ ?_
    · rintro (_ | e) _ ⟨⟩
      exact .get t l e
    · rintro (_ | e) _ ⟨⟩
      exact ⟨refuses_withTenantName t _, .noEntity _⟩
  | revoke t request => exact carries_revoke codec c s links t request
  | revokeTenant t =>
    exact carries_ofReply_ok links _ .count (.revokeTenant t)

end

end Http
end BearerTokens
