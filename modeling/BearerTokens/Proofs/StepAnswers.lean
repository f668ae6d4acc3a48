/-
BearerTokens.Proofs.StepAnswers — what a step answers and what it does to the table.

`Moves` says by which statement a step may change the table. `ComesTo` adds what
the step answers: it has one constructor for each way in which an operation can
end, with the condition under which it ends so. An answer and a change of the
table belong together, and whatever is said about both is said by cases on
`ComesTo`, without a look at the operations.

There is one answer that does not tell what happened. A tenant without a text
cannot be written to the log, and by the time this is found out its tokens have
been revoked for good; see `reported`.

`step_is_atomic` reads the relation from the answer to the table.
-/
import BearerTokens.Proofs.ServiceSteps

namespace BearerTokens.Service

/-! ## The ways in which an operation can end -/

/-- The answer to a revocation on behalf of a tenant. It is given after the
tenant was written to the log. -/
def reported (t : Tenant) (answer : Answer) : Except Failure Answer :=
  if t.IsNamed then .ok answer else .error .unnamedTenant

/-- It is the answer, if it is one. -/
theorem reported_ne {t : Tenant} {a b : Answer} (h : a ≠ b) : reported t a ≠ .ok b := by
  unfold reported
  split
  · intro hok
    exact h (Except.ok.inj hok)
  · simp

/-- What an operation comes to on a table: its answer, and the table that it
leaves. -/
inductive ComesTo (codec : Codec) (c : Conditions) (rows : List Row) :
    Operation → Except Failure Answer → List Row → Prop
  | failed {operation : Operation} {e : Failure} (he : e ≠ .unnamedTenant) :
      ComesTo codec c rows operation (.error e) rows
  | issued {token : PendingToken} {h : StorageHash} (key : String)
      (ready : c.insertError? = none) (free : rows.any (Store.collides h token.link) = false) :
      ComesTo codec c rows (.issue token)
        (.ok (.issued key (Row.ofPending c.now h token).entity))
        (rows ++ [Row.ofPending c.now h token])
  | used {operation : Operation} {h : StorageHash} {r : Row}
      (writes : Writes codec operation (.use h))
      (found : rows.find? (Store.isActiveHash h) = some r) (answers : c.selectError? = none) :
      ComesTo codec c rows operation (.ok (.entity (some (c.touch r).entity)))
        (updateWhere (Store.isActiveHash h) c.touch rows)
  | notUsed (key : String) :
      ComesTo codec c rows (.authenticate key) (.ok (.entity none)) rows
  | listed (t : Tenant) (state : State) (source : Source) (entities : List Entity) :
      ComesTo codec c rows (.list t state source) (.ok (.entities entities)) rows
  | found (l : Link) (t : Option Tenant) (e : Option Entity) :
      ComesTo codec c rows (.get l t) (.ok (.entity e)) rows
  | described {l : Link} {t : Option Tenant} {e : Entity} (description : String)
      (found : rows.any (Store.isActiveLink l t) = true) (link : e.link = l) :
      ComesTo codec c rows (.describe l description t) (.ok (.entity (some e)))
        (updateWhere (Store.isActiveLink l t) (Row.described description) rows)
  | notDescribed (l : Link) (description : String) (t : Option Tenant) :
      ComesTo codec c rows (.describe l description t) (.ok (.entity none)) rows
  | revoked {operation : Operation} {t : Tenant} {i : Identifier}
      (writes : Writes codec operation (.revoke t i))
      (found : rows.any (Store.isRevocable t i) = true) :
      ComesTo codec c rows operation (reported t (.time (some (.utc c.now))))
        (updateWhere (Store.isRevocable t i) (Row.ended c.now) rows)
  | notRevoked (t : Tenant) (link : Option Link) (key : Option String) :
      ComesTo codec c rows (.revoke t link key) (.ok (.time none)) rows
  | revokedTenant (t : Tenant) :
      ComesTo codec c rows (.revokeTenant t)
        (reported t (.count (rows.countP (Store.isActiveOf t))))
        (updateWhere (Store.isActiveOf t) (Row.ended c.now) rows)

/-- The reply is one to which the operation can come, and nothing is pending. -/
def Reaches (codec : Codec) (c : Conditions) (rows : List Row) (operation : Operation)
    (r : Reply Service Answer) : Prop :=
  ∃ rows' draws', r.state = settled rows' draws' ∧ ComesTo codec c rows operation r.answer rows'

section

variable (codec : Codec) (c : Conditions) (rows : List Row) (draws : Draws)

/-- A failure that leaves the table. -/
theorem reaches_failed {operation : Operation} {r : Reply Service Answer} {e : Failure}
    {draws' : Draws} (hanswer : r.answer = .error e) (hstate : r.state = settled rows draws')
    (he : e ≠ .unnamedTenant) : Reaches codec c rows operation r :=
  ⟨rows, draws', hstate, hanswer ▸ .failed he⟩

/-! ### Issuing -/

theorem reaches_issue (token : PendingToken) :
    Reaches codec c rows (.issue token) (perform codec ⟨c, .issue token⟩ (settled rows draws)) := by
  simp only [perform, issue_settled]
  cases codec.storageHash draws.drawSecret.1 with
  | error e => exact reaches_failed codec c rows rfl rfl (by simp)
  | ok h =>
    cases hready : c.insertError? with
    | some e => exact reaches_failed codec c rows rfl rfl (by simp)
    | none =>
      dsimp only
      split
      · exact reaches_failed codec c rows rfl rfl (by simp)
      · rename_i hfree
        exact ⟨_, _, rfl, .issued _ hready (Bool.eq_false_iff.2 hfree)⟩

/-! ### Keys -/

theorem reaches_authenticate (key : String) :
    Reaches codec c rows (.authenticate key)
      (perform codec ⟨c, .authenticate key⟩ (settled rows draws)) := by
  simp only [perform, authenticate]
  cases hcheck : (codec.check key).hash? with
  | error e => exact reaches_failed codec c rows rfl rfl (by simp)
  | ok h? =>
    cases h? with
    | none => exact ⟨rows, draws, rfl, .notUsed key⟩
    | some h =>
      simp only [useHash_settled]
      cases hselect : c.selectError? with
      | some e =>
        rw [updateWhere_touch_of_selectError? c rows hselect]
        exact reaches_failed codec c rows rfl rfl (by simp)
      | none =>
        cases hfind : rows.find? (Store.isActiveHash h) with
        | none =>
          rw [updateWhere_touch_of_find?_none c rows hfind]
          exact ⟨rows, draws, rfl, .notUsed key⟩
        | some r => exact ⟨_, _, rfl, .used (.authenticate hcheck) hfind hselect⟩

/-- A refusal is a failure. -/
theorem exists_answer_refuse (h : StorageHash) :
    ∃ e, (refuse c (settled rows draws) h).answer = .error e ∧ e ≠ .unnamedTenant := by
  rw [refuse_settled]
  cases c.selectError? with
  | some e => exact ⟨_, rfl, by simp⟩
  | none =>
    cases rows.find? fun r => r.hash == h with
    | none => exact ⟨_, rfl, by simp⟩
    | some r =>
      dsimp only
      split
      · exact ⟨_, rfl, by simp⟩
      · exact ⟨_, rfl, by simp⟩

theorem reaches_authenticateOrRefuse (key : String) :
    Reaches codec c rows (.authenticateOrRefuse key)
      (perform codec ⟨c, .authenticateOrRefuse key⟩ (settled rows draws)) := by
  cases hcheck : codec.check key with | mk hash? log =>
  cases hash? with
  | error e =>
    simp only [perform, authenticateOrRefuse, hcheck]
    exact reaches_failed codec c rows rfl rfl (by simp)
  | ok h? =>
    cases h? with
    | none =>
      simp only [perform, authenticateOrRefuse, hcheck]
      exact reaches_failed codec c rows rfl rfl (by simp)
    | some h =>
      simp only [perform, authenticateOrRefuse_settled codec c rows draws hcheck]
      cases hfind : rows.find? (Store.isActiveHash h) with
      | none =>
        obtain ⟨e, hanswer, he⟩ := exists_answer_refuse c rows draws h
        refine ⟨rows, draws, state_refuse c rows draws h, ?_⟩
        simp only [Reply.map, hanswer]
        exact .failed he
      | some r =>
        cases hselect : c.selectError? with
        | some e =>
          rw [updateWhere_touch_of_selectError? c rows hselect]
          exact reaches_failed codec c rows rfl rfl (by simp)
        | none =>
          have hwrites : Writes codec (.authenticateOrRefuse key) (.use h) :=
            .authenticateOrRefuse (by rw [hcheck])
          exact ⟨_, _, rfl, .used hwrites hfind hselect⟩

/-! ### Descriptions -/

theorem reaches_describe (l : Link) (description : String) (t : Option Tenant) :
    Reaches codec c rows (.describe l description t)
      (perform codec ⟨c, .describe l description t⟩ (settled rows draws)) := by
  simp only [perform, describe_settled]
  cases c.updateError? with
  | some e => exact reaches_failed codec c rows rfl rfl (by simp)
  | none =>
    dsimp only
    split
    · rename_i hany
      -- What was described is still found when it is read again.
      obtain ⟨r, hr, hactive⟩ := List.any_eq_true.1 hany
      have hlink : (r.link == l && ownedBy t r) = true := by
        simp only [Store.isActiveLink, Bool.and_eq_true] at hactive ⊢
        exact ⟨hactive.1.1, hactive.2⟩
      let rows' := updateWhere (Store.isActiveLink l t) (Row.described description) rows
      have hmem : r.described description ∈ rows' :=
        List.mem_map.2 ⟨r, hr, if_pos hactive⟩
      have hsome : (rows'.find? fun r => r.link == l && ownedBy t r).isSome = true := by
        rw [List.find?_isSome]
        refine ⟨_, hmem, ?_⟩
        cases t with
        | none => exact hlink
        | some t =>
          cases t with
          | account id => exact hlink
          | service id mode => exact hlink
      obtain ⟨r', hfind⟩ := Option.isSome_iff_exists.1 hsome
      refine ⟨rows', draws, rfl, ?_⟩
      simp only [Reply.map, rows', hfind, Option.map_some, Except.map]
      have hfound := List.find?_some hfind
      rw [Bool.and_eq_true] at hfound
      exact .described description hany (eq_of_beq hfound.1)
    · exact ⟨rows, draws, rfl, .notDescribed l description t⟩

/-! ### Revocations -/

/-- What is answered is the answer, if the tenant can be written to the log. -/
theorem answer_reportRevoked {α : Type} (s : Service) (t : Tenant) (event : String → Event)
    (answer : α) (log : List Event) :
    (reportRevoked s t event answer log).answer
      = if t.IsNamed then .ok answer else .error .unnamedTenant := by
  unfold reportRevoked
  cases hname : t.describe? with
  | some name =>
    have hnamed : t.IsNamed := by simp [Tenant.IsNamed, hname]
    rw [if_pos hnamed]
  | none =>
    have hunnamed : ¬ t.IsNamed := by simp [Tenant.IsNamed, hname]
    rw [if_neg hunnamed]

/-- The report on a revocation decides the answer and nothing else. -/
theorem reportRevoked_eq {α : Type} (s : Service) (t : Tenant) (event : String → Event)
    (answer : α) (log : List Event) (f : α → Answer) :
    ((reportRevoked s t event answer log).map f).answer = reported t (f answer)
      ∧ ((reportRevoked s t event answer log).map f).state = s := by
  constructor
  · simp only [Reply.map, answer_reportRevoked, reported]
    split <;> rfl
  · rw [Reply.state_map, state_reportRevoked]

theorem reaches_revokeNamed {operation : Operation} {t : Tenant} {i : Identifier}
    (hw : Writes codec operation (.revoke t i))
    (hnot : ComesTo codec c rows operation (.ok (.time none)) rows) :
    Reaches codec c rows operation ((revokeNamed c (settled rows draws) t i).map .time) := by
  rw [revokeNamed_settled]
  cases c.updateError? with
  | some e => exact reaches_failed codec c rows rfl rfl (by simp)
  | none =>
    dsimp only
    split
    · rename_i hany
      obtain ⟨hanswer, hstate⟩ := reportRevoked_eq
        (settled (updateWhere (Store.isRevocable t i) (Row.ended c.now) rows) draws) t
        (.revokedOne i.column) (some (.utc c.now)) [] .time
      refine ⟨_, draws, hstate, ?_⟩
      rw [hanswer]
      exact .revoked hw hany
    · exact ⟨rows, draws, rfl, hnot⟩

theorem reaches_revoke (t : Tenant) (link : Option Link) (key : Option String) :
    Reaches codec c rows (.revoke t link key)
      (perform codec ⟨c, .revoke t link key⟩ (settled rows draws)) := by
  have hnot : ∀ link key, ComesTo codec c rows (.revoke t link key) (.ok (.time none)) rows :=
    .notRevoked t
  cases link with
  | some l => exact reaches_revokeNamed codec c rows draws (.revokeLink t l key) (hnot _ _)
  | none =>
    cases key with
    | none => exact reaches_failed codec c rows rfl rfl (by simp)
    | some key =>
      simp only [perform, revoke]
      cases hcheck : (codec.check key).hash? with
      | error e => exact reaches_failed codec c rows rfl rfl (by simp)
      | ok h? =>
        cases h? with
        | none => exact ⟨rows, draws, rfl, hnot _ _⟩
        | some h => exact reaches_revokeNamed codec c rows draws (.revokeKey t hcheck) (hnot _ _)

theorem reaches_revokeTenant (t : Tenant) :
    Reaches codec c rows (.revokeTenant t)
      (perform codec ⟨c, .revokeTenant t⟩ (settled rows draws)) := by
  simp only [perform, revokeTenant_settled]
  cases c.updateError? with
  | some e => exact reaches_failed codec c rows rfl rfl (by simp)
  | none =>
    dsimp only
    obtain ⟨hanswer, hstate⟩ := reportRevoked_eq
      (settled (updateWhere (Store.isActiveOf t) (Row.ended c.now) rows) draws) t
      (.revokedAll (rows.countP (Store.isActiveOf t))) (rows.countP (Store.isActiveOf t)) [] .count
    refine ⟨_, draws, hstate, ?_⟩
    rw [hanswer]
    exact .revokedTenant t

/-! ### All operations -/

/-- **One step**: there is no other way for an operation to end. -/
theorem reaches_perform (operation : Operation) :
    Reaches codec c rows operation (perform codec ⟨c, operation⟩ (settled rows draws)) := by
  cases operation with
  | issue token => exact reaches_issue codec c rows draws token
  | authenticate key => exact reaches_authenticate codec c rows draws key
  | authenticateOrRefuse key => exact reaches_authenticateOrRefuse codec c rows draws key
  | list t state source =>
    simp only [perform, list_settled]
    cases c.selectError? with
    | some e => exact reaches_failed codec c rows rfl rfl (by simp)
    | none => exact ⟨rows, draws, rfl, .listed t state source _⟩
  | get l t =>
    simp only [perform, get_settled]
    cases c.selectError? with
    | some e => exact reaches_failed codec c rows rfl rfl (by simp)
    | none => exact ⟨rows, draws, rfl, .found l t _⟩
  | describe l description t => exact reaches_describe codec c rows draws l description t
  | revoke t link key => exact reaches_revoke codec c rows draws t link key
  | revokeTenant t => exact reaches_revokeTenant codec c rows draws t

end

/-! ## From the answer to the table -/

/-- The tenant on whose behalf an operation revokes, if it does. -/
def Operation.revoker? : Operation → Option Tenant
  | revoke t _ _ | revokeTenant t => some t
  | _ => none

theorem Writes.revoker? {codec : Codec} {operation : Operation} {t : Tenant} {i : Identifier}
    (h : Writes codec operation (.revoke t i)) : operation.revoker? = some t := by
  cases h with
  | revokeLink l key => rfl
  | revokeKey check => rfl

/-- The answer says that nothing was changed: the operation failed, or there
was nothing to change, or it is one that only looks. -/
inductive TellsNoChange : Operation → Except Failure Answer → Prop
  | failed (operation : Operation) (e : Failure) : TellsNoChange operation (.error e)
  | noEntity (operation : Operation) : TellsNoChange operation (.ok (.entity none))
  | noTime (operation : Operation) : TellsNoChange operation (.ok (.time none))
  | noCount (operation : Operation) : TellsNoChange operation (.ok (.count 0))
  | list (t : Tenant) (state : State) (source : Source) (answer : Answer) :
      TellsNoChange (.list t state source) (.ok answer)
  | get (l : Link) (t : Option Tenant) (answer : Answer) :
      TellsNoChange (.get l t) (.ok answer)

section

variable {codec : Codec} {c : Conditions} {rows rows' : List Row} {operation : Operation}
  {answer : Except Failure Answer}

/-- Only a tenant without a text can keep a revocation from being reported. -/
theorem ComesTo.not_isNamed (h : ComesTo codec c rows operation answer rows')
    (hanswer : answer = .error .unnamedTenant) :
    ∃ t, operation.revoker? = some t ∧ ¬ t.IsNamed := by
  have hunnamed : ∀ (t : Tenant) (a : Answer),
      reported t a = .error .unnamedTenant → ¬ t.IsNamed := by
    intro t a ha hnamed
    rw [reported, if_pos hnamed] at ha
    cases ha
  cases h with
  | failed he => exact absurd (Except.error.inj hanswer) he
  | revoked writes found => exact ⟨_, writes.revoker?, hunnamed _ _ hanswer⟩
  | revokedTenant t => exact ⟨t, rfl, hunnamed _ _ hanswer⟩
  | issued | used | notUsed | listed | found | described | notDescribed | notRevoked =>
    cases hanswer

/-- Where the answer says so and the log could be written, nothing was changed. -/
theorem ComesTo.eq_of_tellsNoChange (h : ComesTo codec c rows operation answer rows')
    (hquiet : TellsNoChange operation answer) (hanswer : answer ≠ .error .unnamedTenant) :
    rows' = rows := by
  cases h with
  | failed | notUsed | listed | found | notDescribed | notRevoked => rfl
  | issued | described => cases hquiet
  | used writes found answers =>
    cases hquiet with
    | list | get => cases writes
  | @revoked _ t i writes found =>
    by_cases hnamed : t.IsNamed
    · rw [reported, if_pos hnamed] at hquiet
      cases hquiet with
      | list | get => cases writes
    · rw [reported, if_neg hnamed] at hanswer
      exact absurd rfl hanswer
  | revokedTenant t =>
    by_cases hnamed : t.IsNamed
    · rw [reported, if_pos hnamed] at hquiet
      generalize hcount : rows.countP (Store.isActiveOf t) = n at hquiet
      cases hquiet with
      | noCount =>
        -- None was counted, so there was none to be revoked.
        refine updateWhere_eq_self ?_
        rw [List.any_eq_false]
        exact List.countP_eq_zero.1 hcount
    · rw [reported, if_neg hnamed] at hanswer
      exact absurd rfl hanswer

end

/-- **Steps are atomic**: after any step of a run nothing is pending, and if
its answer says that nothing was changed then nothing was. There is one failure
that comes after the change, and it needs a revocation on behalf of a tenant
that has no text. -/
theorem step_is_atomic (codec : Codec) (draws : Draws) (steps : List Step) (step : Step) :
    let s := run codec (settled [] draws) steps
    let r := perform codec step s
    r.state.session.rows = r.state.session.committed
      ∧ (TellsNoChange step.operation r.answer → r.answer ≠ .error .unnamedTenant →
        r.state.session = s.session)
      ∧ (r.answer = .error .unnamedTenant →
        ∃ t, step.operation.revoker? = some t ∧ ¬ t.IsNamed) := by
  intro s r
  obtain ⟨rows, draws', hrun, -⟩ := run_keyed codec draws keyed_nil steps
  have hs : s = settled rows draws' := hrun
  obtain ⟨rows', draws'', hstate, hcomes⟩ :=
    reaches_perform codec step.conditions rows draws' step.operation
  have hr : r.state = settled rows' draws'' := by
    rw [← hstate, ← hs]
  have hcomes' : ComesTo codec step.conditions rows step.operation r.answer rows' := by
    rw [← hs] at hcomes
    exact hcomes
  refine ⟨?_, ?_, ?_⟩
  · rw [hr]
    rfl
  · intro hquiet hanswer
    rw [hr, hs, hcomes'.eq_of_tellsNoChange hquiet hanswer]
    rfl
  · intro hanswer
    exact hcomes'.not_isNamed hanswer

/-! ## Samples -/

/-- The first token of a table can be issued if there is a codec that can hash. -/
theorem exists_first_issue {codec : Codec} (husable : codec.IsUsable) {draws : Draws}
    (hdraws : draws.IsBounded) (now : Instant) (token : PendingToken) :
    ∃ h, perform codec ⟨⟨now, none, true⟩, .issue token⟩ (settled [] draws)
      = ⟨.ok (.issued (codec.keyOf draws.drawSecret.1) (Row.ofPending now h token).entity),
          [.issued token.link token.metadata.scope token.metadata.paymentType
            token.metadata.source],
          settled [Row.ofPending now h token] draws.drawSecret.2⟩ := by
  have hhash := Codec.storageHash_of_isUsable husable (isSecret_drawSecret hdraws)
  generalize StorageHash.mk _ = h at hhash
  refine ⟨h, ?_⟩
  simp only [perform, issue_settled, hhash]
  rfl

/-- A token of account `a` that also names a service, but no mode of it. -/
def modelessToken : PendingToken :=
  ⟨⟨"d", "me", some "a", some "x", none, .card, .api⟩, ⟨"l"⟩, by decide⟩

/-- A revocation that does not say which token is meant. -/
theorem nameless_revocation_changes_nothing :
    let issue : Step := ⟨⟨5, none, true⟩, .issue modelessToken⟩
    let s := run Codec.sample (settled [] Draws.sample) [issue]
    let r := perform Codec.sample ⟨⟨6, none, true⟩, .revoke (.account "a") none none⟩ s
    r.answer = .error .noIdentifier ∧ r.state.session = s.session
      ∧ r.state.session.rows = r.state.session.committed := by
  intro issue s r
  have hanswer : r.answer = .error .noIdentifier := rfl
  have hatomic := step_is_atomic Codec.sample Draws.sample [issue]
    ⟨⟨6, none, true⟩, .revoke (.account "a") none none⟩
  have hquiet : TellsNoChange (.revoke (.account "a") none none) r.answer :=
    hanswer ▸ .failed _ _
  have hne : r.answer ≠ .error .unnamedTenant := by
    simp [hanswer]
  exact ⟨hanswer, hatomic.2.1 hquiet hne, hatomic.1⟩

/-- The tokens of a service without a mode are revoked although this fails. -/
theorem failed_revocation_changes_table :
    let issue : Step := ⟨⟨5, none, true⟩, .issue modelessToken⟩
    let s := run Codec.sample (settled [] Draws.sample) [issue]
    let r := perform Codec.sample ⟨⟨6, none, true⟩, .revokeTenant (.service (some "x") none)⟩ s
    r.answer = .error .unnamedTenant ∧ r.state.session.committed ≠ s.session.committed := by
  intro issue s r
  obtain ⟨h, hissue⟩ := exists_first_issue Codec.isUsable_sample Draws.isBounded_sample 5
    modelessToken
  have hs : s = settled [Row.ofPending 5 h modelessToken] Draws.sample.drawSecret.2 :=
    congrArg Reply.state hissue
  have hstate : r.state.session.committed
      = [(Row.ofPending 5 h modelessToken).ended 6] := by
    simp only [r, hs]
    rfl
  refine ⟨rfl, ?_⟩
  rw [hstate, hs]
  intro heq
  have hrow := List.head_eq_of_cons_eq heq
  exact absurd (congrArg Row.revoked hrow) (Option.some_ne_none 6)

end BearerTokens.Service
