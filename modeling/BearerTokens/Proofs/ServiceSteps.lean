/-
BearerTokens.Proofs.ServiceSteps — what one step does to the service.

Between two operations of the service nothing is pending. `settled` makes such
a state out of a table, and each operation has one equation that says what it
comes to there, in terms of the table alone: what was committed and what was
rolled back on the way is gone from the right-hand sides.

`Writes` says by which statement an operation may change the table and
`next_settled` that a step does this or nothing. Invariants of runs need no
more; answers and reports are read off the equations.
-/
import BearerTokens.Service.Run
import BearerTokens.Proofs.KeyRoundTrip
import BearerTokens.Proofs.TableChanges

namespace BearerTokens

/-! ## Conditional updates -/

/-- An update that concerns no row changes nothing. -/
theorem updateWhere_eq_self {p : Row → Bool} {f : Row → Row} {rows : List Row}
    (h : rows.any p = false) : updateWhere p f rows = rows := by
  have hp : ∀ r ∈ rows, p r = false := by simpa using h
  rw [updateWhere]
  refine (List.map_congr_left fun r hr => ?_).trans (List.map_id rows)
  simp [hp r hr]

theorem updateWhere_id (p : Row → Bool) (rows : List Row) : updateWhere p id rows = rows := by
  simp [updateWhere]

/-- The first row after an update is the changed first row, if the change does
not take it out of the condition. -/
theorem find?_updateWhere {p : Row → Bool} {f : Row → Row} (hf : ∀ r, p r = true → p (f r) = true)
    (rows : List Row) : (updateWhere p f rows).find? p = (rows.find? p).map f := by
  induction rows with
  | nil => rfl
  | cons r rest ih =>
    cases hp : p r with
    | true => simp [updateWhere, hp, hf r hp]
    | false => simpa [updateWhere, hp] using ih

theorem Reply.map_map {σ α β γ : Type} (r : Reply σ α) (f : α → β) (g : β → γ) :
    (r.map f).map g = r.map (g ∘ f) := by
  simp only [map]
  cases r.answer <;> rfl

/-- An answer in another form is an answer of that form. -/
theorem Reply.answer_map_ne {σ α β : Type} {r : Reply σ α} {f : α → β} {b : β}
    (h : ∀ a, f a ≠ b) : (r.map f).answer ≠ .ok b := by
  rw [map]
  cases r.answer with
  | error e => exact nofun
  | ok a => exact fun he => h a (Except.ok.inj he)

/-! ## Sessions with nothing pending -/

namespace Session

@[simp] theorem rows_opened (rows : List Row) : (opened rows).rows = rows := rfl

@[simp] theorem committed_opened (rows : List Row) : (opened rows).committed = rows := rfl

@[simp] theorem rollback_opened (rows : List Row) : (opened rows).rollback = opened rows := rfl

@[simp] theorem commit_withRows_opened (rows rows' : List Row) :
    ((opened rows).withRows rows').commit = opened rows' := rfl

end Session

/-! ## Conditions -/

namespace Conditions

/-- The database answers look-ups. -/
def IsUp (c : Conditions) : Prop :=
  c.fault ≠ some .connection ∧ c.tableReady = true

theorem selectError?_of_isUp {c : Conditions} (h : c.IsUp) : c.selectError? = none := by
  obtain ⟨hfault, hready⟩ := h
  unfold selectError?
  split
  · contradiction
  · simp [hready]

/-- A row after a use that is recorded if updates are not refused. -/
def touch (c : Conditions) (r : Row) : Row :=
  match c.updateError? with
  | none => r.used c.now
  | some _ => r

theorem touch_of_recorded {c : Conditions} (h : c.updateError? = none) :
    c.touch = Row.used c.now := by
  funext r
  simp only [touch, h]

theorem touch_of_refused {c : Conditions} {e : DatabaseError} (h : c.updateError? = some e) :
    c.touch = id := by
  funext r
  simp only [touch, h, id]

/-- The report on the use of a hash that could not be recorded. -/
def touchReport (c : Conditions) (h : StorageHash) : List Event :=
  match c.updateError? with
  | none => []
  | some e => [.useNotRecorded ((Statement.recordUse c.now h).report e)]

/-- What does not refuse an update does not refuse a look-up. -/
theorem selectError?_of_updateError? {c : Conditions} (h : c.updateError? = none) :
    c.selectError? = none := by
  unfold updateError? at h
  unfold selectError?
  cases hfault : c.fault with
  | none => simpa [hfault] using h
  | some fault => cases fault <;> simp [hfault] at h

end Conditions

namespace Service

/-! ## Operations -/

/-- A service on a table with nothing pending. -/
def settled (rows : List Row) (draws : Draws) : Service :=
  ⟨Session.opened rows, draws⟩

@[simp] theorem session_settled (rows : List Row) (draws : Draws) :
    (settled rows draws).session = Session.opened rows := rfl

@[simp] theorem draws_settled (rows : List Row) (draws : Draws) :
    (settled rows draws).draws = draws := rfl

section

variable (codec : Codec) (c : Conditions) (rows : List Row) (draws : Draws)

/-- A new token is stored if its hash and its link are free, and otherwise
nothing happens but the draw. -/
theorem issue_settled (token : PendingToken) :
    issue codec c (settled rows draws) token =
      match codec.storageHash draws.drawSecret.1 with
      | .error e => ⟨.error (.hashing e), [], settled rows draws.drawSecret.2⟩
      | .ok h =>
        match c.insertError? with
        | some e => ⟨.error (.database e), [], settled rows draws.drawSecret.2⟩
        | none =>
          if rows.any (Store.collides h token.link) then
            ⟨.error (.token (.storage s!"Could not store token for {token.metadata.scope}")),
              [.insertRefused token.metadata.scope], settled rows draws.drawSecret.2⟩
          else
            ⟨.ok (codec.keyOf draws.drawSecret.1, (Row.ofPending c.now h token).entity),
              [.issued token.link token.metadata.scope token.metadata.paymentType
                token.metadata.source],
              settled (rows ++ [Row.ofPending c.now h token]) draws.drawSecret.2⟩ := by
  rw [issue, draws_settled, Codec.issue_eq]
  cases codec.storageHash draws.drawSecret.1 with
  | error e => rfl
  | ok h =>
    simp only [Except.map, Store.insert, session_settled, Session.rows_opened]
    cases c.insertError? with
    | some e => rfl
    | none =>
      by_cases hany : rows.any (Store.collides h token.link) = true
      · simp only [hany, if_true]
        rfl
      · simp only [hany, Bool.false_eq_true, if_false]
        rfl

/-- The active row of a hash is found whether or not its use can be recorded. -/
theorem useHash_settled (h : StorageHash) :
    useHash c (settled rows draws) h =
      ⟨match c.selectError? with
        | some e => .error (.database e)
        | none => .ok ((rows.find? (Store.isActiveHash h)).map fun r => (c.touch r).entity),
        c.touchReport h, settled (updateWhere (Store.isActiveHash h) c.touch rows) draws⟩ := by
  have hfind := find?_updateWhere (p := Store.isActiveHash h) (f := Row.used c.now)
    (fun r hr => hr) rows
  rw [useHash, Store.recordUse]
  cases hu : c.updateError? with
  | none =>
    simp only [session_settled, Session.rows_opened, Store.firstEntity?, hfind, Option.map_map,
      Conditions.touch_of_recorded hu, Conditions.selectError?_of_updateError? hu,
      Conditions.touchReport, hu]
    cases hr : rows.find? (Store.isActiveHash h) with
    | some r => rfl
    | none =>
      have hany : rows.any (Store.isActiveHash h) = false := by simpa using hr
      simp only [updateWhere_eq_self hany]
      rfl
  | some e =>
    simp only [session_settled, Session.rollback_opened, Store.select, Session.rows_opened,
      Conditions.touch_of_refused hu, updateWhere_id, Conditions.touchReport, hu]
    cases c.selectError? with
    | some e' => rfl
    | none =>
      cases hr : rows.find? (Store.isActiveHash h) with
      | some r => simp only [Store.firstEntity?, hr, Option.map_some]; rfl
      | none => simp only [Store.firstEntity?, hr, Option.map_none]; rfl

/-- A use that finds nothing changes nothing. -/
theorem updateWhere_touch_of_find?_none {h : StorageHash}
    (hfind : rows.find? (Store.isActiveHash h) = none) :
    updateWhere (Store.isActiveHash h) c.touch rows = rows := by
  refine updateWhere_eq_self ?_
  simpa using hfind

/-- Nor does a use that is refused. -/
theorem updateWhere_touch_of_selectError? {e : DatabaseError} (he : c.selectError? = some e)
    (p : Row → Bool) : updateWhere p c.touch rows = rows := by
  cases hupdate : c.updateError? with
  | none =>
    rw [Conditions.selectError?_of_updateError? hupdate] at he
    cases he
  | some e' => rw [Conditions.touch_of_refused hupdate, updateWhere_id]

/-- The row of a hash that is not active is a revoked one. -/
theorem refuse_settled (h : StorageHash) :
    refuse c (settled rows draws) h =
      match c.selectError? with
      | some e => ⟨.error (.database e), [], settled rows draws⟩
      | none =>
        match rows.find? fun r => r.hash == h with
        | none => ⟨.error (.token .unknownKey), [], settled rows draws⟩
        | some r =>
          if r.revoked.isSome then
            ⟨.error (.token (.revoked r.link)), [.revokedKeyUsed r.link], settled rows draws⟩
          else ⟨.error (.token .unknownKey), [], settled rows draws⟩ := by
  rw [refuse, Store.byHash, Store.select, session_settled, Session.rows_opened]
  cases c.selectError? with
  | some e => rfl
  | none =>
    cases hr : rows.find? (fun r => r.hash == h) with
    | none => simp only [Store.firstEntity?, hr, Option.map_none]; rfl
    | some r =>
      simp only [Store.firstEntity?, hr, Option.map_some, Entity.isRevoked, Row.entity,
        Option.isSome_map]
      rfl

/-- A checked key leads to the active row of its hash, or to a refusal. -/
theorem authenticateOrRefuse_settled {key : String} {h : StorageHash} {log : List Event}
    (hcheck : codec.check key = ⟨.ok (some h), log⟩) :
    authenticateOrRefuse codec c (settled rows draws) key =
      match rows.find? (Store.isActiveHash h) with
      | some r =>
        ⟨match c.selectError? with
          | some e => .error (.database e)
          | none => .ok (c.touch r).entity,
          log ++ c.touchReport h, settled (updateWhere (Store.isActiveHash h) c.touch rows) draws⟩
      | none =>
        let refusal := refuse c (settled rows draws) h
        { refusal with log := log ++ c.touchReport h ++ refusal.log } := by
  simp only [authenticateOrRefuse, hcheck, useHash_settled]
  cases hr : rows.find? (Store.isActiveHash h) with
  | some r => cases hs : c.selectError? <;> rfl
  | none =>
    rw [updateWhere_touch_of_find?_none c rows hr]
    cases hs : c.selectError? with
    | none => rfl
    | some e => simp only [refuse_settled, hs, List.append_nil]

/-- A listing is a look-up. -/
theorem list_settled (t : Tenant) (state : State) (source : Source) :
    list c (settled rows draws) t state source =
      match c.selectError? with
      | some e => ⟨.error (.database e), [], settled rows draws⟩
      | none =>
        ⟨.ok (((rows.filter (Store.isListed t state source)).mergeSort Row.listedBefore).map
          Row.entity), [], settled rows draws⟩ := by
  rw [list, Store.listing, Store.select, session_settled]
  cases c.selectError? with
  | some e => rfl
  | none => rfl

/-- So is the search for a link. -/
theorem get_settled (l : Link) (t : Option Tenant) :
    get c (settled rows draws) l t =
      match c.selectError? with
      | some e => ⟨.error (.database e), [], settled rows draws⟩
      | none =>
        ⟨.ok ((rows.find? fun r => r.link == l && ownedBy t r).map Row.entity), [],
          settled rows draws⟩ := by
  rw [get, Store.byLink, Store.select, session_settled]
  cases c.selectError? with
  | some e => rfl
  | none => rfl

/-- A description is changed if there is an active row, which is then read again. -/
theorem describe_settled (l : Link) (description : String) (t : Option Tenant) :
    describe c (settled rows draws) l description t =
      match c.updateError? with
      | some e => ⟨.error (.database e), [], settled rows draws⟩
      | none =>
        if rows.any (Store.isActiveLink l t) then
          let rows' := updateWhere (Store.isActiveLink l t) (Row.described description) rows
          ⟨.ok ((rows'.find? fun r => r.link == l && ownedBy t r).map Row.entity),
            [.descriptionUpdated l], settled rows' draws⟩
        else ⟨.ok none, [], settled rows draws⟩ := by
  rw [describe, Store.describe, Store.update, session_settled, Session.rows_opened]
  cases hu : c.updateError? with
  | some e => rfl
  | none =>
    cases hany : rows.any (Store.isActiveLink l t) with
    | true =>
      simp only [Store.byLink, Store.select, Conditions.selectError?_of_updateError? hu,
        Session.commit_withRows_opened, Session.rows_opened]
      rfl
    | false =>
      simp only [updateWhere_eq_self hany]
      rfl

/-- What is revoked is committed before it is reported. -/
theorem revokeNamed_settled (t : Tenant) (i : Identifier) :
    revokeNamed c (settled rows draws) t i =
      match c.updateError? with
      | some e => ⟨.error (.database e), [], settled rows draws⟩
      | none =>
        if rows.any (Store.isRevocable t i) then
          reportRevoked
            (settled (updateWhere (Store.isRevocable t i) (Row.ended c.now) rows) draws) t
            (.revokedOne i.column) (some (.utc c.now)) []
        else ⟨.ok none, [], settled rows draws⟩ := by
  rw [revokeNamed, Store.revoke, Store.update, session_settled, Session.rows_opened]
  cases c.updateError? with
  | some e => rfl
  | none =>
    cases hany : rows.any (Store.isRevocable t i) with
    | true => rfl
    | false =>
      simp only [updateWhere_eq_self hany]
      rfl

theorem revokeTenant_settled (t : Tenant) :
    revokeTenant c (settled rows draws) t =
      match c.updateError? with
      | some e => ⟨.error (.database e), [], settled rows draws⟩
      | none =>
        reportRevoked (settled (updateWhere (Store.isActiveOf t) (Row.ended c.now) rows) draws) t
          (.revokedAll (rows.countP (Store.isActiveOf t))) (rows.countP (Store.isActiveOf t))
          [] := by
  rw [revokeTenant, Store.revokeTenant, Store.update, session_settled, Session.rows_opened]
  cases c.updateError? with
  | some e => rfl
  | none => rfl

end

/-! ## Steps -/

/-- The statements by which an operation may change the table. -/
inductive Writes (codec : Codec) : Operation → Write → Prop
  | issue (token : PendingToken) (h : StorageHash) : Writes codec (.issue token) (.insert h token)
  | authenticate {key : String} {h : StorageHash} (check : (codec.check key).hash? = .ok (some h)) :
      Writes codec (.authenticate key) (.use h)
  | authenticateOrRefuse {key : String} {h : StorageHash}
      (check : (codec.check key).hash? = .ok (some h)) :
      Writes codec (.authenticateOrRefuse key) (.use h)
  | describe (l : Link) (description : String) (t : Option Tenant) :
      Writes codec (.describe l description t) (.describe l description t)
  | revokeLink (t : Tenant) (l : Link) (key : Option String) :
      Writes codec (.revoke t (some l) key) (.revoke t (.link l))
  | revokeKey (t : Tenant) {key : String} {h : StorageHash}
      (check : (codec.check key).hash? = .ok (some h)) :
      Writes codec (.revoke t none (some key)) (.revoke t (.hash h))
  | revokeTenant (t : Tenant) : Writes codec (.revokeTenant t) (.revokeTenant t)

theorem Writes.eq_issue {codec : Codec} {operation : Operation} {h : StorageHash}
    {token : PendingToken} (hw : Writes codec operation (.insert h token)) :
    operation = .issue token := by
  cases hw
  rfl

/-- What an operation can make of a table with nothing pending. -/
inductive Moves (codec : Codec) (now : Instant) (operation : Operation) (rows : List Row)
    (draws : Draws) : Service → Prop
  | stay {draws' : Draws} (drawn : draws' = draws ∨ draws' = draws.drawSecret.2) :
      Moves codec now operation rows draws (settled rows draws')
  | write {w : Write} {draws' : Draws} (drawn : draws' = draws ∨ draws' = draws.drawSecret.2)
      (writes : Writes codec operation w) (fits : w.Fits rows) :
      Moves codec now operation rows draws (settled (w.apply now rows) draws')

section

variable (codec : Codec) (c : Conditions) (rows : List Row) (draws : Draws)

theorem moves_issue (token : PendingToken) :
    Moves codec c.now (.issue token) rows draws
      (issue codec c (settled rows draws) token).state := by
  rw [issue_settled]
  cases codec.storageHash draws.drawSecret.1 with
  | error e => exact .stay (Or.inr rfl)
  | ok h =>
    cases c.insertError? with
    | some e => exact .stay (Or.inr rfl)
    | none =>
      dsimp only
      split
      · exact .stay (Or.inr rfl)
      · rename_i hfree
        exact .write (w := .insert h token) (Or.inr rfl) (.issue token h)
          (Bool.eq_false_iff.2 hfree)

theorem moves_useHash {operation : Operation} {h : StorageHash}
    (hw : Writes codec operation (.use h)) :
    Moves codec c.now operation rows draws (useHash c (settled rows draws) h).state := by
  rw [useHash_settled]
  cases hu : c.updateError? with
  | none =>
    rw [Conditions.touch_of_recorded hu]
    exact .write (w := .use h) (Or.inl rfl) hw trivial
  | some e =>
    rw [Conditions.touch_of_refused hu, updateWhere_id]
    exact .stay (Or.inl rfl)

theorem state_refuse (h : StorageHash) :
    (refuse c (settled rows draws) h).state = settled rows draws := by
  rw [refuse_settled]
  split
  · rfl
  · split
    · rfl
    · split <;> rfl

theorem moves_authenticate (key : String) :
    Moves codec c.now (.authenticate key) rows draws
      (authenticate codec c (settled rows draws) key).state := by
  rw [authenticate]
  cases hcheck : (codec.check key).hash? with
  | error e => exact .stay (Or.inl rfl)
  | ok h? =>
    cases h? with
    | none => exact .stay (Or.inl rfl)
    | some h => exact moves_useHash codec c rows draws (.authenticate hcheck)

theorem moves_authenticateOrRefuse (key : String) :
    Moves codec c.now (.authenticateOrRefuse key) rows draws
      (authenticateOrRefuse codec c (settled rows draws) key).state := by
  cases hcheck : codec.check key with | mk hash? log =>
  match hash? with
  | .error e =>
    simp only [authenticateOrRefuse, hcheck]
    exact .stay (Or.inl rfl)
  | .ok none =>
    simp only [authenticateOrRefuse, hcheck]
    exact .stay (Or.inl rfl)
  | .ok (some h) =>
    have hw : Writes codec (.authenticateOrRefuse key) (.use h) :=
      .authenticateOrRefuse (by rw [hcheck])
    have huse := moves_useHash codec c rows draws hw
    rw [useHash_settled] at huse
    rw [authenticateOrRefuse_settled codec c rows draws hcheck]
    cases rows.find? (Store.isActiveHash h) with
    | some r => exact huse
    | none =>
      simp only [state_refuse]
      exact .stay (Or.inl rfl)

theorem state_reportRevoked {α : Type} (s : Service) (t : Tenant) (event : String → Event)
    (answer : α) (log : List Event) : (reportRevoked s t event answer log).state = s := by
  unfold reportRevoked
  split <;> rfl

theorem moves_describe (l : Link) (description : String) (t : Option Tenant) :
    Moves codec c.now (.describe l description t) rows draws
      (describe c (settled rows draws) l description t).state := by
  rw [describe_settled]
  cases c.updateError? with
  | some e => exact .stay (Or.inl rfl)
  | none =>
    dsimp only
    split
    · exact .write (w := .describe l description t) (Or.inl rfl) (.describe l description t) trivial
    · exact .stay (Or.inl rfl)

theorem moves_revokeNamed {operation : Operation} {t : Tenant} {i : Identifier}
    (hw : Writes codec operation (.revoke t i)) :
    Moves codec c.now operation rows draws (revokeNamed c (settled rows draws) t i).state := by
  rw [revokeNamed_settled]
  cases c.updateError? with
  | some e => exact .stay (Or.inl rfl)
  | none =>
    dsimp only
    split
    · rw [state_reportRevoked]
      exact .write (w := .revoke t i) (Or.inl rfl) hw trivial
    · exact .stay (Or.inl rfl)

theorem moves_revoke (t : Tenant) (link : Option Link) (key : Option String) :
    Moves codec c.now (.revoke t link key) rows draws
      (revoke codec c (settled rows draws) t link key).state := by
  cases link with
  | some l => exact moves_revokeNamed codec c rows draws (.revokeLink t l key)
  | none =>
    cases key with
    | none => exact .stay (Or.inl rfl)
    | some key =>
      simp only [revoke]
      cases hcheck : (codec.check key).hash? with
      | error e => exact .stay (Or.inl rfl)
      | ok h? =>
        cases h? with
        | none => exact .stay (Or.inl rfl)
        | some h => exact moves_revokeNamed codec c rows draws (.revokeKey t hcheck)

theorem moves_revokeTenant (t : Tenant) :
    Moves codec c.now (.revokeTenant t) rows draws
      (revokeTenant c (settled rows draws) t).state := by
  rw [revokeTenant_settled]
  cases c.updateError? with
  | some e => exact .stay (Or.inl rfl)
  | none =>
    simp only [state_reportRevoked]
    exact .write (w := .revokeTenant t) (Or.inl rfl) (.revokeTenant t) trivial

/-- **One step** of the service: nothing is pending afterwards, and the table
is as before or was changed by a statement of the operation. -/
theorem moves_next (step : Step) :
    Moves codec step.conditions.now step.operation rows draws
      (next codec (settled rows draws) step) := by
  obtain ⟨c, operation⟩ := step
  cases operation with
  | issue token => exact moves_issue codec c rows draws token
  | authenticate key => exact moves_authenticate codec c rows draws key
  | authenticateOrRefuse key => exact moves_authenticateOrRefuse codec c rows draws key
  | list t state source =>
    simp only [next, perform, Reply.state_map, list_settled]
    split <;> exact .stay (Or.inl rfl)
  | get l t =>
    simp only [next, perform, Reply.state_map, get_settled]
    split <;> exact .stay (Or.inl rfl)
  | describe l description t => exact moves_describe codec c rows draws l description t
  | revoke t link key => exact moves_revoke codec c rows draws t link key
  | revokeTenant t => exact moves_revokeTenant codec c rows draws t

end

/-- A step that hands out a key has stored one new row, under the hash that the
key leads to. -/
theorem perform_issued {codec : Codec} {rows : List Row} {draws : Draws} (hdraws : draws.IsBounded)
    {step : Step} {key : String} {e : Entity}
    (hissued : (perform codec step (settled rows draws)).answer = .ok (.issued key e)) :
    ∃ h token, codec.check key = ⟨.ok (some h), []⟩
      ∧ rows.any (Store.collides h token.link) = false
      ∧ e = (Row.ofPending step.conditions.now h token).entity
      ∧ next codec (settled rows draws) step
        = settled (rows ++ [Row.ofPending step.conditions.now h token]) draws.drawSecret.2 := by
  have hcheck := codec.check_keyOf (isSecret_drawSecret hdraws)
  obtain ⟨c, operation⟩ := step
  cases operation with
  | issue token =>
    simp only [next, perform, issue_settled, Reply.map] at hissued ⊢
    cases hhash : codec.storageHash draws.drawSecret.1 with
    | error err => simp [hhash, Except.map] at hissued
    | ok h =>
      cases hinsert : c.insertError? with
      | some err => simp [hhash, hinsert, Except.map] at hissued
      | none =>
        by_cases hany : rows.any (Store.collides h token.link) = true
        · simp [hhash, hinsert, hany, Except.map] at hissued
        · simp only [hhash, hinsert, hany, Bool.false_eq_true, if_false, Except.map,
            Except.ok.injEq, Answer.issued.injEq] at hissued hcheck ⊢
          exact ⟨h, token, hissued.1 ▸ hcheck, Bool.eq_false_iff.2 hany, hissued.2.symm, rfl⟩
  | authenticate | authenticateOrRefuse | list | get | describe | revoke | revokeTenant =>
    exact absurd hissued (Reply.answer_map_ne fun _ => nofun)

/-! ## Runs -/

theorem run_append (codec : Codec) (s : Service) (before after : List Step) :
    run codec s (before ++ after) = run codec (run codec s before) after :=
  List.foldl_append

/-- After a step nothing is pending, and names are distinct. -/
theorem next_keyed (codec : Codec) {rows : List Row} (draws : Draws) (hkeyed : Keyed rows)
    (step : Step) :
    ∃ rows' draws', next codec (settled rows draws) step = settled rows' draws' ∧ Keyed rows' := by
  have hmoves := moves_next codec rows draws step
  generalize next codec (settled rows draws) step = s' at hmoves ⊢
  cases hmoves with
  | stay drawn => exact ⟨rows, _, rfl, hkeyed⟩
  | write drawn writes fits => exact ⟨_, _, rfl, hkeyed.apply _ fits⟩

/-- After a run likewise, whatever its draws were. -/
theorem run_keyed (codec : Codec) {rows : List Row} (draws : Draws) (hkeyed : Keyed rows)
    (steps : List Step) :
    ∃ rows' draws', run codec (settled rows draws) steps = settled rows' draws' ∧ Keyed rows' := by
  induction steps generalizing rows draws with
  | nil => exact ⟨rows, draws, rfl, hkeyed⟩
  | cons step rest ih =>
    obtain ⟨rows₁, draws₁, hnext, hkeyed₁⟩ := next_keyed codec draws hkeyed step
    obtain ⟨rows₂, draws₂, hrun, hkeyed₂⟩ := ih draws₁ hkeyed₁
    refine ⟨rows₂, draws₂, ?_, hkeyed₂⟩
    rw [← hrun, ← hnext]
    rfl

/-- A step keeps names distinct and draws bounded, and loses no row. -/
theorem next_settled (codec : Codec) {rows : List Row} {draws : Draws} (hkeyed : Keyed rows)
    (hdraws : draws.IsBounded) (step : Step) :
    ∃ rows' draws', next codec (settled rows draws) step = settled rows' draws'
      ∧ Keyed rows' ∧ draws'.IsBounded ∧ Extends rows rows' := by
  have hbounded : ∀ draws', draws' = draws ∨ draws' = draws.drawSecret.2 → draws'.IsBounded := by
    rintro draws' (rfl | rfl)
    · exact hdraws
    · exact hdraws.drawSecret
  have hmoves := moves_next codec rows draws step
  generalize next codec (settled rows draws) step = s' at hmoves ⊢
  cases hmoves with
  | stay drawn => exact ⟨rows, _, rfl, hkeyed, hbounded _ drawn, .refl rows⟩
  | write drawn writes fits =>
    exact ⟨_, _, rfl, hkeyed.apply _ fits, hbounded _ drawn, extends_apply _ rows _⟩

/-- So does a run. -/
theorem run_settled (codec : Codec) {rows : List Row} {draws : Draws} (hkeyed : Keyed rows)
    (hdraws : draws.IsBounded) (steps : List Step) :
    ∃ rows' draws', run codec (settled rows draws) steps = settled rows' draws'
      ∧ Keyed rows' ∧ draws'.IsBounded ∧ Extends rows rows' := by
  induction steps generalizing rows draws with
  | nil => exact ⟨rows, draws, rfl, hkeyed, hdraws, .refl rows⟩
  | cons step rest ih =>
    obtain ⟨rows₁, draws₁, hnext, hkeyed₁, hdraws₁, hext₁⟩ := next_settled codec hkeyed hdraws step
    obtain ⟨rows₂, draws₂, hrun, hkeyed₂, hdraws₂, hext₂⟩ := ih hkeyed₁ hdraws₁
    refine ⟨rows₂, draws₂, ?_, hkeyed₂, hdraws₂, hext₁.trans hext₂⟩
    rw [← hrun, ← hnext]
    rfl

end Service
end BearerTokens
