/-
BearerTokens.Proofs.History — the table is what has been answered.

A `Moment` is one step of a run together with the table that it found and the
answer that it gave, and the `history` of a run is the list of its moments. A
row can be written down from the history alone: `Told` says which moment each of
its columns comes from. `recorded_history` proves this of every run, by induction
on the last step, and beside it that the history does not mention links that are
not in the table; without this, a new row would start with the past of another one.

The step is `Moment.Passes.leads`: what a moment says about a link is what happens
to the row of the link. It is by cases on `ComesTo`, one for each way in which an
operation can end.

What is counted is rows that a step has `ended`, which is seen from the tables,
against what it `reported`, which is seen from the answer. The two agree except
where a revocation could not be reported.
-/
import Mathlib.Data.List.Forall2
import Mathlib.Data.List.Induction
import BearerTokens.Proofs.StepAnswers
import BearerTokens.Proofs.KeyLifecycle

namespace BearerTokens

/-! ## Rows of one token -/

/-- What is said of a token is its description and what is fixed. -/
theorem Row.SameToken.metadata_eq {a b : Row} (h : a.SameToken b) :
    b.metadata = { a.metadata with description := b.metadata.description } := by
  dsimp only
  rw [← h.creator, ← h.accountId, ← h.serviceId, ← h.mode, ← h.paymentType, ← h.source]

/-! ## Uses -/

namespace Conditions

/-- A use changes the time of the last use only. -/
theorem touch_metadata (c : Conditions) (r : Row) : (c.touch r).metadata = r.metadata := by
  unfold touch
  cases c.updateError? <;> rfl

theorem touch_revoked (c : Conditions) (r : Row) : (c.touch r).revoked = r.revoked := by
  unfold touch
  cases c.updateError? <;> rfl

/-- What does not refuse a look-up refuses an update only if this is what is
disturbed. -/
theorem updateError?_isSome {c : Conditions} (h : c.selectError? = none) :
    c.updateError?.isSome = decide (c.fault = some .touch) := by
  unfold selectError? at h
  unfold updateError?
  cases hfault : c.fault with
  | none => simp_all
  | some fault =>
    cases fault with
    | touch => rfl
    | connection => simp [hfault] at h

theorem touch_lastUsed {c : Conditions} (h : c.selectError? = none) (r : Row) :
    (c.touch r).lastUsed = if c.fault = some .touch then r.lastUsed else some c.now := by
  have hrefused := updateError?_isSome h
  unfold touch
  cases hupdate : c.updateError? with
  | none =>
    rw [hupdate] at hrefused
    rw [if_neg (of_decide_eq_false hrefused.symm)]
    rfl
  | some e =>
    rw [hupdate] at hrefused
    rw [if_pos (of_decide_eq_true hrefused.symm)]

end Conditions

namespace Service

/-! ## Histories -/

/-- One step of a run: the service that it found, and what it came to. -/
structure Moment where
  before : Service
  step : Step
  reply : Reply Service Answer

/-- The moments of a run. -/
def history (codec : Codec) (s : Service) : List Step → List Moment
  | [] => []
  | step :: rest =>
    let r := perform codec step s
    ⟨s, step, r⟩ :: history codec r.state rest

theorem history_append (codec : Codec) (s : Service) (earlier later : List Step) :
    history codec s (earlier ++ later)
      = history codec s earlier ++ history codec (run codec s earlier) later := by
  induction earlier generalizing s with
  | nil => rfl
  | cons step rest ih =>
    rw [List.cons_append, history, history, List.cons_append, ih]
    rfl

/-- The key that an operation looks up, if it looks one up. -/
def Operation.key? : Operation → Option String
  | authenticate key | authenticateOrRefuse key => some key
  | _ => none

namespace Moment

/-- The time of the step. -/
def now (m : Moment) : Instant :=
  m.step.conditions.now

/-- The token that was issued and the time when it was. -/
def issued? (m : Moment) : Option (PendingToken × Instant) :=
  match m.step.operation, m.reply.answer with
  | .issue token, .ok (.issued _ _) => some (token, m.now)
  | _, _ => none

/-- The description that the token of the link was given. -/
def describedAs? (m : Moment) (l : Link) : Option String :=
  match m.step.operation, m.reply.answer with
  | .describe _ description _, .ok (.entity (some e)) =>
    if e.link = l then some description else none
  | _, _ => none

/-- The time of the step, if it found the token of the link by a key and could
write that down. -/
def usedAt? (m : Moment) (l : Link) : Option Instant :=
  match m.step.operation.key?, m.reply.answer with
  | some _, .ok (.entity (some e)) =>
    if e.link = l ∧ m.step.conditions.fault ≠ some .touch then some m.now else none
  | _, _ => none

/-- The time of the step, if the token of the link is active before it and
revoked after it. -/
def endedAt? (m : Moment) (l : Link) : Option Instant :=
  if (m.before.session.committed.any fun r => r.link == l && r.isActive)
      && m.reply.state.session.committed.any fun r => r.link == l && !r.isActive then
    some m.now
  else none

/-- How many tokens the step has revoked. -/
def ended (m : Moment) : Nat :=
  m.before.session.committed.countP fun r => (m.endedAt? r.link).isSome

/-- How many tokens the step says that it has revoked. -/
def reported (m : Moment) : Nat :=
  match m.step.operation, m.reply.answer with
  | .revoke .., .ok (.time (some _)) => 1
  | .revokeTenant _, .ok (.count n) => n
  | _, _ => 0

end Moment

/-! ## Rows from histories -/

/-- The row is that of a token issued at a time, after this past. -/
structure Told (past : List Moment) (token : PendingToken × Instant) (r : Row) : Prop where
  link : r.link = token.1.link
  metadata : r.metadata = { token.1.metadata with
    description := (past.filterMap (·.describedAs? token.1.link)).getLast?.getD
      token.1.metadata.description }
  issued : r.issued = token.2
  lastUsed : r.lastUsed = (past.filterMap (·.usedAt? token.1.link)).getLast?
  revoked : r.revoked.toList = past.filterMap (·.endedAt? token.1.link)

/-- Nothing of this past is about the link. -/
structure Silent (past : List Moment) (l : Link) : Prop where
  describedAs : past.filterMap (·.describedAs? l) = []
  usedAt : past.filterMap (·.usedAt? l) = []
  endedAt : past.filterMap (·.endedAt? l) = []

/-- The second row is what the moment makes of the first one. -/
structure Moment.Turns (m : Moment) (r r' : Row) : Prop where
  link : r'.link = r.link
  metadata : r'.metadata = { r.metadata with
    description := (m.describedAs? r.link).getD r.metadata.description }
  issued : r'.issued = r.issued
  lastUsed : r'.lastUsed = (m.usedAt? r.link).or r.lastUsed
  revoked : r'.revoked = (m.endedAt? r.link).or r.revoked
  once : m.endedAt? r.link ≠ none → r.revoked = none

/-- The last one of a list that has grown by at most one. -/
theorem getLast?_filterMap_concat {α β : Type} (f : α → Option β) (as : List α) (a : α) :
    ((as ++ [a]).filterMap f).getLast? = (f a).or (as.filterMap f).getLast? := by
  rw [List.filterMap_append]
  cases hf : f a with
  | none => simp [hf]
  | some b => simp [hf]

/-- A moment later, the row is what the moment makes of it. -/
theorem Told.concat {past : List Moment} {token : PendingToken × Instant} {r r' : Row}
    (h : Told past token r) {m : Moment} (hm : m.Turns r r') : Told (past ++ [m]) token r' where
  link := hm.link.trans h.link
  metadata := by
    rw [hm.metadata, h.metadata, getLast?_filterMap_concat, h.link]
    cases m.describedAs? token.1.link <;> rfl
  issued := hm.issued.trans h.issued
  lastUsed := by
    rw [hm.lastUsed, h.lastUsed, getLast?_filterMap_concat, h.link]
  revoked := by
    rw [List.filterMap_append, ← h.revoked, hm.revoked, h.link]
    cases hended : m.endedAt? token.1.link with
    | none => simp [hended]
    | some t =>
      have hnone : r.revoked = none := hm.once (by simp [h.link, hended])
      simp [hended, hnone]

/-- A row without a past is that of a new token. -/
theorem Told.of_silent {past : List Moment} {token : PendingToken}
    (h : Silent past token.link) (now : Instant) (hash : StorageHash) :
    Told past (token, now) (Row.ofPending now hash token) where
  link := rfl
  metadata := by
    simp only [h.describedAs]
    rfl
  issued := rfl
  lastUsed := by
    simp only [h.usedAt]
    rfl
  revoked := by
    simp only [h.endedAt]
    rfl

theorem Silent.concat {past : List Moment} {l : Link} (h : Silent past l) {m : Moment}
    (hdescribed : m.describedAs? l = none) (hused : m.usedAt? l = none)
    (hended : m.endedAt? l = none) : Silent (past ++ [m]) l where
  describedAs := by simp [List.filterMap_append, h.describedAs, hdescribed]
  usedAt := by simp [List.filterMap_append, h.usedAt, hused]
  endedAt := by simp [List.filterMap_append, h.endedAt, hended]

/-! ## One moment -/

/-- A moment with nothing pending: the step comes to this answer on one table
and leaves the other one. -/
structure Moment.Passes (codec : Codec) (m : Moment) (rows rows' : List Row) : Prop where
  before : m.before.session.committed = rows
  after : m.reply.state.session.committed = rows'
  comesTo : ComesTo codec m.step.conditions rows m.step.operation m.reply.answer rows'

section

variable {codec : Codec} {m : Moment} {rows rows' : List Row}

/-- Where names are distinct, a link is ended if its row is. -/
theorem Moment.Passes.endedAt?_eq (h : m.Passes codec rows rows') (hkeyed : Keyed rows)
    (hkeyed' : Keyed rows') {r r' : Row} (hr : r ∈ rows) (hr' : r' ∈ rows')
    (hlink : r'.link = r.link) :
    m.endedAt? r.link = if r.isActive && !r'.isActive then some m.now else none := by
  have hafter := hkeyed'.any_link hr' fun x => !x.isActive
  rw [hlink] at hafter
  rw [endedAt?, h.before, h.after, hkeyed.any_link hr Row.isActive, hafter]

/-- A link that is not in the table is not ended. -/
theorem Moment.Passes.endedAt?_of_not_mem (h : m.Passes codec rows rows') {l : Link}
    (hl : l ∉ rows.map Row.link) : m.endedAt? l = none := by
  have hany : (rows.any fun r => r.link == l && r.isActive) = false := by
    rw [List.any_eq_false]
    intro r hr
    rw [Bool.and_eq_true]
    rintro ⟨hlink, -⟩
    exact hl (List.mem_map.2 ⟨r, hr, eq_of_beq hlink⟩)
  rw [endedAt?, h.before, hany]
  rfl

/-! ### What a moment is silent about -/

theorem Moment.describedAs?_of_answer (h : ∀ e, m.reply.answer ≠ .ok (.entity (some e)))
    (l : Link) : m.describedAs? l = none := by
  unfold describedAs?
  split
  · rename_i e _ hanswer
    exact absurd hanswer (h e)
  · rfl

theorem Moment.usedAt?_of_answer (h : ∀ e, m.reply.answer ≠ .ok (.entity (some e)))
    (l : Link) : m.usedAt? l = none := by
  unfold usedAt?
  split
  · rename_i e _ hanswer
    exact absurd hanswer (h e)
  · rfl

theorem Moment.describedAs?_of_operation (h : ∀ l d t, m.step.operation ≠ .describe l d t)
    (l : Link) : m.describedAs? l = none := by
  unfold describedAs?
  split
  · rename_i hoperation _
    exact absurd hoperation (h _ _ _)
  · rfl

theorem Moment.usedAt?_of_key? (h : m.step.operation.key? = none) (l : Link) :
    m.usedAt? l = none := by
  unfold usedAt?
  rw [h]

/-! ### Rows -/

/-- What a moment does to a row, column by column. -/
theorem Moment.Passes.turns (h : m.Passes codec rows rows') (hkeyed : Keyed rows)
    (hkeyed' : Keyed rows') {r r' : Row} (hr : r ∈ rows) (hr' : r' ∈ rows')
    (hsame : r.SameToken r')
    (hdescribed : r'.metadata.description = (m.describedAs? r.link).getD r.metadata.description)
    (hused : r'.lastUsed = (m.usedAt? r.link).or r.lastUsed)
    (hrevoked : r'.revoked = r.revoked ∨ r.revoked = none ∧ r'.revoked = some m.now) :
    m.Turns r r' where
  link := hsame.link
  metadata := by
    rw [← hdescribed, hsame.metadata_eq]
  issued := hsame.issued
  lastUsed := hused
  revoked := by
    rw [h.endedAt?_eq hkeyed hkeyed' hr hr' hsame.link]
    rcases hrevoked with hkept | ⟨hbefore, hafter⟩
    · rw [Row.isActive, Row.isActive, hkept, Bool.and_not_self]
      rfl
    · rw [Row.isActive, Row.isActive, hbefore, hafter]
      rfl
  once hended := by
    rw [h.endedAt?_eq hkeyed hkeyed' hr hr' hsame.link] at hended
    by_contra hnone
    rw [Row.isActive, Option.isNone_eq_false_iff.2 (Option.isSome_iff_ne_none.2 hnone)] at hended
    exact hended rfl

/-! ### Tables -/

/-- The row is that of a token which has just been issued, under a new link. -/
def IsNew (rows : List Row) (token : PendingToken × Instant) (r : Row) : Prop :=
  token.1.link ∉ rows.map Row.link ∧ ∃ h, r = Row.ofPending token.2 h token.1

/-- The moment turns the rows of the first table, each in its place, and adds
one row if it has issued a token. -/
def Moment.Leads (m : Moment) (rows rows' : List Row) : Prop :=
  ∃ turned fresh, rows' = turned ++ fresh ∧ List.Forall₂ m.Turns rows turned
    ∧ List.Forall₂ (IsNew rows) m.issued?.toList fresh

theorem forall₂_updateWhere {R : Row → Row → Prop} {p : Row → Bool} {f : Row → Row}
    (h : ∀ r ∈ rows, R r (if p r then f r else r)) : List.Forall₂ R rows (updateWhere p f rows) := by
  rw [updateWhere, List.forall₂_map_right_iff, List.forall₂_same]
  exact h

theorem Moment.Leads.of_forall₂ (hissued : m.issued? = none)
    (h : List.Forall₂ m.Turns rows rows') : m.Leads rows rows' := by
  refine ⟨rows', [], (List.append_nil rows').symm, h, ?_⟩
  rw [hissued]
  exact .nil

/-- A moment that leaves the table does not turn any row. -/
theorem Moment.Passes.leads_self (h : m.Passes codec rows rows) (hkeyed : Keyed rows)
    (hissued : m.issued? = none) (hdescribed : ∀ l, m.describedAs? l = none)
    (hused : ∀ l, m.usedAt? l = none) : m.Leads rows rows := by
  refine .of_forall₂ hissued (List.forall₂_same.2 fun r hr => ?_)
  refine h.turns hkeyed hkeyed hr hr (.refl r) ?_ ?_ (Or.inl rfl)
  · rw [hdescribed]
    rfl
  · rw [hused]
    rfl

/-- A moment that revokes does nothing else. -/
theorem Moment.Passes.leads_ended {p : Row → Bool}
    (h : m.Passes codec rows (updateWhere p (Row.ended m.now) rows)) (hkeyed : Keyed rows)
    (hp : ∀ {r}, p r = true → r.isActive = true) (hissued : m.issued? = none)
    (hdescribed : ∀ l, m.describedAs? l = none) (hused : ∀ l, m.usedAt? l = none) :
    m.Leads rows (updateWhere p (Row.ended m.now) rows) := by
  have hkeyed' := hkeyed.updateWhere (Row.sameToken_ended m.now) p
  refine .of_forall₂ hissued (forall₂_updateWhere fun r hr => ?_)
  have hr' : (if p r then r.ended m.now else r) ∈ updateWhere p (Row.ended m.now) rows :=
    List.mem_map.2 ⟨r, hr, rfl⟩
  cases hpr : p r with
  | false =>
    rw [hpr] at hr'
    refine h.turns hkeyed hkeyed' hr hr' (.refl r) ?_ ?_ (Or.inl rfl)
    · rw [hdescribed]
      rfl
    · rw [hused]
      rfl
  | true =>
    rw [hpr] at hr'
    have hactive : r.revoked = none := Option.isNone_iff_eq_none.1 (hp hpr)
    refine h.turns hkeyed hkeyed' hr hr' (r.sameToken_ended m.now) ?_ ?_ (Or.inr ⟨hactive, rfl⟩)
    · rw [hdescribed]
      rfl
    · rw [hused]
      rfl

/-- A moment that finds a token by its key turns the row of the token. -/
theorem Moment.Passes.leads_used {key : String} {h : StorageHash} {found : Row}
    (hpasses : m.Passes codec rows
      (updateWhere (Store.isActiveHash h) m.step.conditions.touch rows))
    (hkeyed : Keyed rows) (hkey : m.step.operation.key? = some key)
    (hfind : rows.find? (Store.isActiveHash h) = some found)
    (hselect : m.step.conditions.selectError? = none)
    (hanswer : m.reply.answer = .ok (.entity (some (m.step.conditions.touch found).entity)))
    (hissued : m.issued? = none) (hdescribed : ∀ l, m.describedAs? l = none) :
    m.Leads rows (updateWhere (Store.isActiveHash h) m.step.conditions.touch rows) := by
  have hkeyed' := hkeyed.updateWhere (Row.sameToken_touch m.step.conditions) (Store.isActiveHash h)
  have hmem : found ∈ rows := List.mem_of_find?_eq_some hfind
  have hactive : Store.isActiveHash h found = true := List.find?_some hfind
  -- The rows that are touched are the row that was found.
  have hunique : ∀ r ∈ rows, Store.isActiveHash h r = true → r = found := by
    intro r hr hp
    exact hkeyed.eq_of_names hr hmem (Store.names_of_isActiveHash hp)
      (Store.names_of_isActiveHash hactive)
  have hused : ∀ l, m.usedAt? l
      = if found.link = l ∧ m.step.conditions.fault ≠ some .touch then some m.now else none := by
    intro l
    rw [usedAt?, hkey, hanswer]
    simp only [Row.entity, (found.sameToken_touch m.step.conditions).link]
  refine .of_forall₂ hissued (forall₂_updateWhere fun r hr => ?_)
  have hr' : (if Store.isActiveHash h r then m.step.conditions.touch r else r)
      ∈ updateWhere (Store.isActiveHash h) m.step.conditions.touch rows :=
    List.mem_map.2 ⟨r, hr, rfl⟩
  cases hp : Store.isActiveHash h r with
  | false =>
    rw [hp] at hr'
    have hne : found.link ≠ r.link := by
      intro hlink
      rw [hkeyed.eq_of_link hmem hr hlink, hp] at hactive
      exact absurd hactive (by decide)
    refine hpasses.turns hkeyed hkeyed' hr hr' (.refl r) ?_ ?_ (Or.inl rfl)
    · rw [hdescribed]
      rfl
    · have hnone : m.usedAt? r.link = none := by
        rw [hused]
        exact if_neg fun hboth => hne hboth.1
      rw [hnone]
      rfl
  | true =>
    rw [hp] at hr'
    rw [if_pos rfl] at hr' ⊢
    obtain rfl := hunique r hr hp
    refine hpasses.turns hkeyed hkeyed' hr hr' (r.sameToken_touch _) ?_ ?_ (Or.inl ?_)
    · rw [hdescribed, Conditions.touch_metadata]
      rfl
    · rw [hused, Conditions.touch_lastUsed hselect]
      by_cases hfault : m.step.conditions.fault = some .touch
      · simp [hfault]
      · simp [hfault, now]
    · exact Conditions.touch_revoked _ _

/-- A moment that describes a token anew turns the row of the token. -/
theorem Moment.Passes.leads_described {l : Link} {description : String} {t : Option Tenant}
    {e : Entity}
    (h : m.Passes codec rows
      (updateWhere (Store.isActiveLink l t) (Row.described description) rows))
    (hkeyed : Keyed rows) (hoperation : m.step.operation = .describe l description t)
    (hfound : rows.any (Store.isActiveLink l t) = true) (hlink : e.link = l)
    (hanswer : m.reply.answer = .ok (.entity (some e))) :
    m.Leads rows (updateWhere (Store.isActiveLink l t) (Row.described description) rows) := by
  have hkeyed' := hkeyed.updateWhere (Row.sameToken_described description) (Store.isActiveLink l t)
  obtain ⟨found, hmem, hactive⟩ := List.any_eq_true.1 hfound
  have hlinkOf : ∀ r, Store.isActiveLink l t r = true → r.link = l := by
    intro r hp
    exact eq_of_beq (Store.names_of_isActiveLink hp)
  have hdescribed : ∀ l', m.describedAs? l' = if l = l' then some description else none := by
    intro l'
    rw [describedAs?, hoperation, hanswer]
    simp only [hlink]
  have hused : ∀ l', m.usedAt? l' = none := usedAt?_of_key? (by rw [hoperation]; rfl)
  have hissued : m.issued? = none := by
    rw [issued?, hoperation]
  refine .of_forall₂ hissued (forall₂_updateWhere fun r hr => ?_)
  have hr' : (if Store.isActiveLink l t r then r.described description else r)
      ∈ updateWhere (Store.isActiveLink l t) (Row.described description) rows :=
    List.mem_map.2 ⟨r, hr, rfl⟩
  cases hp : Store.isActiveLink l t r with
  | false =>
    rw [hp] at hr'
    have hne : l ≠ r.link := by
      intro hlink'
      rw [hkeyed.eq_of_link hmem hr ((hlinkOf found hactive).trans hlink'), hp] at hactive
      exact absurd hactive (by decide)
    refine h.turns hkeyed hkeyed' hr hr' (.refl r) ?_ ?_ (Or.inl rfl)
    · have hnone : m.describedAs? r.link = none := by
        rw [hdescribed]
        exact if_neg hne
      rw [hnone]
      rfl
    · rw [hused]
      rfl
  | true =>
    rw [hp] at hr'
    refine h.turns hkeyed hkeyed' hr hr' (r.sameToken_described description) ?_ ?_ (Or.inl rfl)
    · have hsome : m.describedAs? r.link = some description := by
        rw [hdescribed]
        exact if_pos (hlinkOf r hp).symm
      rw [hsome]
      rfl
    · rw [hused]
      rfl

/-- A moment that issues a token leaves the other rows. -/
theorem Moment.Passes.leads_issued {token : PendingToken} {hash : StorageHash}
    (h : m.Passes codec rows (rows ++ [Row.ofPending m.now hash token])) (hkeyed : Keyed rows)
    (hfree : rows.any (Store.collides hash token.link) = false)
    (hissued : m.issued? = some (token, m.now)) (hdescribed : ∀ l, m.describedAs? l = none)
    (hused : ∀ l, m.usedAt? l = none) :
    m.Leads rows (rows ++ [Row.ofPending m.now hash token]) := by
  have hkeyed' : Keyed (rows ++ [Row.ofPending m.now hash token]) := hkeyed.append hfree
  have hnew : token.link ∉ rows.map Row.link := by
    intro hmem
    obtain ⟨r, hr, hlink⟩ := List.mem_map.1 hmem
    have hcollides : Store.collides hash token.link r = true := by
      simp [Store.collides, hlink]
    rw [List.any_eq_false] at hfree
    exact hfree r hr hcollides
  refine ⟨rows, [Row.ofPending m.now hash token], rfl, ?_, ?_⟩
  · refine List.forall₂_same.2 fun r hr => ?_
    refine h.turns hkeyed hkeyed' hr (List.mem_append_left _ hr) (.refl r) ?_ ?_ (Or.inl rfl)
    · rw [hdescribed]
      rfl
    · rw [hused]
      rfl
  · rw [hissued]
    exact .cons ⟨hnew, hash, rfl⟩ .nil

/-! ### All moments -/

theorem Moment.issued?_of_answer (h : ∀ k e, m.reply.answer ≠ .ok (.issued k e)) :
    m.issued? = none := by
  unfold issued?
  split
  · rename_i hanswer
    exact absurd hanswer (h _ _)
  · rfl

/-- An answer that shows no token says nothing of any. -/
theorem Moment.Passes.leads_quiet (h : m.Passes codec rows rows) (hkeyed : Keyed rows)
    (hissued : ∀ k e, m.reply.answer ≠ .ok (.issued k e))
    (hentity : ∀ e, m.reply.answer ≠ .ok (.entity (some e))) : m.Leads rows rows :=
  h.leads_self hkeyed (m.issued?_of_answer hissued) (m.describedAs?_of_answer hentity)
    (m.usedAt?_of_answer hentity)

/-- What uses a hash has looked up a key. -/
theorem Writes.key? {operation : Operation} {h : StorageHash}
    (hw : Writes codec operation (.use h)) : ∃ key, operation.key? = some key := by
  cases hw with
  | authenticate check => exact ⟨_, rfl⟩
  | authenticateOrRefuse check => exact ⟨_, rfl⟩

/-- **One moment**: it turns every row, and what it has issued comes last. -/
theorem Moment.Passes.leads (h : m.Passes codec rows rows') (hkeyed : Keyed rows) :
    m.Leads rows rows' := by
  have hcomes := h.comesTo
  generalize hoperation : m.step.operation = operation at hcomes
  generalize hanswer : m.reply.answer = answer at hcomes
  cases hcomes with
  | failed | notUsed | listed | notDescribed | notRevoked =>
    exact h.leads_quiet hkeyed (by simp [hanswer]) (by simp [hanswer])
  | @issued token hash key ready free =>
    have hissued : m.issued? = some (token, m.now) := by
      rw [issued?, hoperation, hanswer]
    exact h.leads_issued hkeyed free hissued (m.describedAs?_of_answer (by simp [hanswer]))
      (m.usedAt?_of_answer (by simp [hanswer]))
  | used writes found answers =>
    obtain ⟨key, hkey⟩ := writes.key?
    have hnot : ∀ l d t, m.step.operation ≠ .describe l d t := by
      rintro l d t hdescribe
      rw [← hoperation, hdescribe] at hkey
      cases hkey
    exact h.leads_used hkeyed (hoperation ▸ hkey) found answers hanswer
      (m.issued?_of_answer (by simp [hanswer])) (m.describedAs?_of_operation hnot)
  | found l t e =>
    refine h.leads_self hkeyed (m.issued?_of_answer (by simp [hanswer])) ?_ ?_
    · exact m.describedAs?_of_operation (by simp [hoperation])
    · exact m.usedAt?_of_key? (by rw [hoperation]; rfl)
  | described description found link =>
    exact h.leads_described hkeyed hoperation found link hanswer
  | revoked writes found =>
    exact h.leads_ended hkeyed Store.isActive_of_isRevocable
      (m.issued?_of_answer fun k e => hanswer ▸ reported_ne (by simp))
      (m.describedAs?_of_answer fun e => hanswer ▸ reported_ne (by simp))
      (m.usedAt?_of_answer fun e => hanswer ▸ reported_ne (by simp))
  | revokedTenant t =>
    exact h.leads_ended hkeyed Store.isActive_of_isActiveOf
      (m.issued?_of_answer fun k e => hanswer ▸ reported_ne (by simp))
      (m.describedAs?_of_answer fun e => hanswer ▸ reported_ne (by simp))
      (m.usedAt?_of_answer fun e => hanswer ▸ reported_ne (by simp))

/-- A token that a key or a description was for is in the table. -/
theorem Moment.Passes.link_mem (h : m.Passes codec rows rows') {e : Entity}
    (hanswer : m.reply.answer = .ok (.entity (some e)))
    (hoperation : ∀ l t, m.step.operation ≠ .get l t) : e.link ∈ rows.map Row.link := by
  have hcomes := h.comesTo
  rw [hanswer] at hcomes
  generalize m.step.operation = operation at hcomes hoperation
  generalize hok : (Except.ok (Answer.entity (some e)) : Except Failure Answer) = answer at hcomes
  cases hcomes with
  | @used _ _ r writes found answers =>
    cases hok
    exact List.mem_map.2 ⟨r, List.mem_of_find?_eq_some found,
      (r.sameToken_touch m.step.conditions).link.symm⟩
  | found l t e => exact absurd rfl (hoperation l t)
  | @described l t e description found link =>
    cases hok
    obtain ⟨r, hr, hp⟩ := List.any_eq_true.1 found
    have hlink : r.link = l := eq_of_beq (Store.names_of_isActiveLink hp)
    exact List.mem_map.2 ⟨r, hr, hlink.trans link.symm⟩
  | revoked | revokedTenant =>
    rw [Service.reported] at hok
    split at hok <;> cases hok
  | failed | issued | notUsed | listed | notDescribed | notRevoked => cases hok

/-- A moment is silent about a link that is not in the table. -/
theorem Moment.Passes.silent (h : m.Passes codec rows rows') {l : Link}
    (hl : l ∉ rows.map Row.link) :
    m.describedAs? l = none ∧ m.usedAt? l = none ∧ m.endedAt? l = none := by
  refine ⟨?_, ?_, h.endedAt?_of_not_mem hl⟩
  · unfold describedAs?
    split
    · rename_i e hoperation hanswer
      have hmem := h.link_mem hanswer (by simp [hoperation])
      have hne : e.link ≠ l := fun hlink => hl (hlink ▸ hmem)
      exact if_neg hne
    · rfl
  · unfold usedAt?
    split
    · rename_i e hkey hanswer
      have hmem : e.link ∈ rows.map Row.link := by
        refine h.link_mem hanswer fun l t hget => ?_
        rw [hget] at hkey
        cases hkey
      have hne : e.link ≠ l := fun hlink => hl (hlink ▸ hmem)
      exact if_neg fun hboth => hne hboth.1
    · rfl

/-! ## Counting -/

/-- How many rows are revoked. -/
def revokedCount (rows : List Row) : Nat :=
  rows.countP fun r => r.revoked.isSome

theorem revokedCount_cons (r : Row) (rows : List Row) :
    revokedCount (r :: rows) = revokedCount rows + if r.revoked.isSome then 1 else 0 :=
  List.countP_cons

theorem revokedCount_append (rows more : List Row) :
    revokedCount (rows ++ more) = revokedCount rows + revokedCount more :=
  List.countP_append

/-- What moments turn is revoked before or ended by them. -/
theorem revokedCount_of_turns (h : List.Forall₂ m.Turns rows rows') :
    revokedCount rows' = revokedCount rows + rows.countP fun r => (m.endedAt? r.link).isSome := by
  induction h with
  | nil => rfl
  | @cons r r' rows rows' hr _ ih =>
    rw [revokedCount_cons, revokedCount_cons, List.countP_cons, ih, hr.revoked]
    cases hended : m.endedAt? r.link with
    | none =>
      rw [Option.none_or]
      simp only [Option.isSome_none, Bool.false_eq_true, if_false]
      omega
    | some t =>
      have hactive : r.revoked = none := hr.once (by simp [hended])
      simp only [hactive, Option.some_or, Option.isSome_some, Option.isSome_none,
        Bool.false_eq_true, if_true, if_false]
      omega

/-- A new row is not revoked. -/
theorem revokedCount_of_isNew {tokens : List (PendingToken × Instant)}
    (h : List.Forall₂ (IsNew rows) tokens rows') : revokedCount rows' = 0 := by
  induction h with
  | nil => rfl
  | cons hnew _ ih =>
    obtain ⟨-, hash, rfl⟩ := hnew
    exact ih

/-- The rows that are revoked after a moment are those that were, and those
that it has ended. -/
theorem Moment.Passes.revokedCount_eq (h : m.Passes codec rows rows') (hkeyed : Keyed rows) :
    revokedCount rows' = revokedCount rows + m.ended := by
  obtain ⟨turned, fresh, rfl, hturned, hfresh⟩ := h.leads hkeyed
  rw [revokedCount_append, revokedCount_of_turns hturned, revokedCount_of_isNew hfresh,
    ended, h.before, Nat.add_zero]

/-- A change that is not about revocation. -/
theorem revokedCount_updateWhere {f : Row → Row} (hf : ∀ r, (f r).revoked = r.revoked)
    (p : Row → Bool) (rows : List Row) : revokedCount (updateWhere p f rows) = revokedCount rows := by
  have hmap : ∀ rows : List Row,
      revokedCount rows = (rows.map Row.revoked).countP Option.isSome := by
    intro rows
    rw [List.countP_map]
    rfl
  rw [hmap, hmap, map_updateWhere hf]

/-- A revocation of rows that are active. -/
theorem revokedCount_ended {p : Row → Bool} (hp : ∀ {r}, p r = true → r.isActive = true)
    (now : Instant) (rows : List Row) :
    revokedCount (updateWhere p (Row.ended now) rows) = revokedCount rows + rows.countP p := by
  induction rows with
  | nil => rfl
  | cons r rest ih =>
    rw [updateWhere] at ih
    rw [updateWhere, List.map_cons, revokedCount_cons, revokedCount_cons, List.countP_cons, ih]
    cases hpr : p r with
    | false =>
      simp only [Bool.false_eq_true, if_false]
      omega
    | true =>
      have hactive : r.revoked = none := Option.isNone_iff_eq_none.1 (hp hpr)
      simp only [hactive, Row.ended, Option.isSome_some, Option.isSome_none, Bool.false_eq_true,
        if_true, if_false]
      omega

/-- **A report is true**: what a step says that it has revoked is what it has
revoked, unless it could not say it. -/
theorem Moment.Passes.reported_eq (h : m.Passes codec rows rows') (hkeyed : Keyed rows)
    (hnamed : ∀ t, m.step.operation.revoker? = some t → t.IsNamed) : m.reported = m.ended := by
  have hcount := h.revokedCount_eq hkeyed
  have hcomes := h.comesTo
  unfold Moment.reported
  generalize m.step.operation = operation at hcomes hnamed
  generalize m.reply.answer = answer at hcomes
  cases hcomes with
  | failed =>
    have hended : m.ended = 0 := by omega
    cases operation <;> exact hended.symm
  | notUsed | listed | found | notDescribed | notRevoked =>
    have hended : m.ended = 0 := by omega
    exact hended.symm
  | @issued token hash key ready free =>
    have hnew : revokedCount [Row.ofPending m.step.conditions.now hash token] = 0 := rfl
    rw [revokedCount_append, hnew] at hcount
    have hended : m.ended = 0 := by omega
    exact hended.symm
  | used writes found answers =>
    rw [revokedCount_updateWhere m.step.conditions.touch_revoked] at hcount
    have hended : m.ended = 0 := by omega
    cases writes <;> exact hended.symm
  | described description found link =>
    have hkept : ∀ r : Row, (r.described description).revoked = r.revoked := fun r => rfl
    rw [revokedCount_updateWhere hkept] at hcount
    have hended : m.ended = 0 := by omega
    exact hended.symm
  | @revoked _ t i writes found =>
    rw [revokedCount_ended Store.isActive_of_isRevocable,
      hkeyed.countP_of_names (fun _ => Store.names_of_isRevocable) found] at hcount
    have hended : m.ended = 1 := by omega
    rw [Service.reported, if_pos (hnamed t writes.revoker?)]
    cases writes <;> exact hended.symm
  | revokedTenant t =>
    rw [revokedCount_ended (p := Store.isActiveOf t) Store.isActive_of_isActiveOf] at hcount
    have hended : m.ended = rows.countP (Store.isActiveOf t) := by omega
    rw [Service.reported, if_pos (hnamed t rfl)]
    exact hended.symm

end

/-! ## Whole runs -/

/-- The table is what this past has made of the empty one. -/
structure Recorded (past : List Moment) (rows : List Row) : Prop where
  told : List.Forall₂ (Told past) (past.filterMap Moment.issued?) rows
  silent : ∀ l, l ∉ rows.map Row.link → Silent past l
  ended : (past.map Moment.ended).sum = revokedCount rows

theorem recorded_nil : Recorded [] [] :=
  ⟨.nil, fun _ _ => ⟨rfl, rfl, rfl⟩, rfl⟩

section

variable {codec : Codec} {past : List Moment} {m : Moment} {rows rows' : List Row}

/-- A past is carried over from the rows to what the next moment makes of them. -/
theorem told_concat {tokens : List (PendingToken × Instant)}
    (h : List.Forall₂ (Told past) tokens rows) (hturned : List.Forall₂ m.Turns rows rows') :
    List.Forall₂ (Told (past ++ [m])) tokens rows' := by
  induction h generalizing rows' with
  | nil =>
    cases hturned
    exact .nil
  | cons htold _ ih =>
    cases hturned with
    | cons hturn hrest => exact .cons (htold.concat hturn) (ih hrest)

/-- What is turned keeps its links. -/
theorem links_of_turns (h : List.Forall₂ m.Turns rows rows') :
    rows'.map Row.link = rows.map Row.link := by
  induction h with
  | nil => rfl
  | cons hturn _ ih => rw [List.map_cons, List.map_cons, hturn.link, ih]

/-- **Step**: what was recorded before the last moment is recorded after it. -/
theorem Recorded.concat (h : Recorded past rows) (hkeyed : Keyed rows)
    (hpasses : m.Passes codec rows rows') : Recorded (past ++ [m]) rows' := by
  have hcount := hpasses.revokedCount_eq hkeyed
  obtain ⟨turned, fresh, rfl, hturned, hfresh⟩ := hpasses.leads hkeyed
  have hsilent : ∀ l, l ∉ rows.map Row.link → Silent (past ++ [m]) l := by
    intro l hl
    obtain ⟨hdescribed, hused, hended⟩ := hpasses.silent hl
    exact (h.silent l hl).concat hdescribed hused hended
  refine ⟨?_, ?_, ?_⟩
  · rw [List.filterMap_append]
    refine List.rel_append (told_concat h.told hturned) ?_
    have hnew : List.Forall₂ (Told (past ++ [m])) m.issued?.toList fresh := by
      refine hfresh.imp ?_
      rintro ⟨token, now⟩ r ⟨hlink, hash, rfl⟩
      exact .of_silent (hsilent token.link hlink) now hash
    cases hissued : m.issued? with
    | none => simpa [hissued] using hnew
    | some token => simpa [hissued] using hnew
  · intro l hl
    rw [List.map_append, links_of_turns hturned, List.mem_append, not_or] at hl
    exact hsilent l hl.1
  · rw [List.map_append, List.sum_append, h.ended, hcount]
    simp

end

/-- One step of a run is a moment. -/
theorem passes_perform (codec : Codec) (rows : List Row) (draws : Draws) (step : Step) :
    ∃ rows' draws', next codec (settled rows draws) step = settled rows' draws'
      ∧ Moment.Passes codec ⟨settled rows draws, step, perform codec step (settled rows draws)⟩
        rows rows' := by
  obtain ⟨rows', draws', hstate, hcomes⟩ :=
    reaches_perform codec step.conditions rows draws step.operation
  have hafter : (perform codec step (settled rows draws)).state.session.committed = rows' :=
    congrArg (fun s => s.session.committed) hstate
  exact ⟨rows', draws', hstate, rfl, hafter, hcomes⟩

/-- **Run**: what every table can be read off. -/
theorem recorded_history (codec : Codec) (draws : Draws) (steps : List Step) :
    ∃ rows draws', run codec (settled [] draws) steps = settled rows draws' ∧ Keyed rows
      ∧ Recorded (history codec (settled [] draws) steps) rows := by
  induction steps using List.reverseRecOn with
  | nil => exact ⟨[], draws, rfl, keyed_nil, recorded_nil⟩
  | append_singleton steps step ih =>
    obtain ⟨rows, draws₁, hrun, hkeyed, hrecorded⟩ := ih
    obtain ⟨rows', draws₂, hnext, hpasses⟩ := passes_perform codec rows draws₁ step
    obtain ⟨rows'', draws₃, hnext', hkeyed'⟩ := next_keyed codec draws₁ hkeyed step
    have hlast : run codec (settled [] draws) (steps ++ [step]) = settled rows' draws₂ := by
      rw [run_append, hrun]
      exact hnext
    have hrows : rows'' = rows' := by
      rw [hnext'] at hnext
      exact congrArg (fun s => s.session.committed) hnext
    refine ⟨rows', draws₂, hlast, hrows ▸ hkeyed', ?_⟩
    rw [history_append, hrun]
    exact hrecorded.concat hkeyed hpasses

/-- Every moment of a run reports what it has ended, if it can. -/
theorem reported_eq_of_mem {codec : Codec} {rows : List Row} {draws : Draws}
    (hkeyed : Keyed rows) {steps : List Step} {m : Moment}
    (hm : m ∈ history codec (settled rows draws) steps) :
    m.step ∈ steps
      ∧ ((∀ t, m.step.operation.revoker? = some t → t.IsNamed) → m.reported = m.ended) := by
  induction steps generalizing rows draws with
  | nil => cases hm
  | cons step rest ih =>
    obtain ⟨rows₁, draws₁, hnext, hpasses⟩ := passes_perform codec rows draws step
    obtain ⟨rows₂, draws₂, hnext', hkeyed₂⟩ := next_keyed codec draws hkeyed step
    rw [history, List.mem_cons] at hm
    rcases hm with rfl | hm
    · exact ⟨List.mem_cons_self, fun hnamed => hpasses.reported_eq hkeyed hnamed⟩
    · have hrest : m ∈ history codec (settled rows₂ draws₂) rest := hnext' ▸ hm
      obtain ⟨hstep, hreported⟩ := ih hkeyed₂ hrest
      exact ⟨List.mem_cons_of_mem step hstep, hreported⟩

/-- **The table is the history of the answers**: it has one row for each token
that was issued, in that order, and each column of the row is what the answers
have said of the token, the time of revocation being that of the one step that
has ended it. Each step that can report its revocations reports as many as it
has made, and if all can then their reports add up to the rows that are revoked. -/
theorem table_is_history (codec : Codec) (draws : Draws) (steps : List Step) :
    let past := history codec (settled [] draws) steps
    let rows := (run codec (settled [] draws) steps).session.committed
    List.Forall₂ (Told past) (past.filterMap Moment.issued?) rows
      ∧ (past.map Moment.ended).sum = revokedCount rows
      ∧ (∀ m ∈ past, (∀ t, m.step.operation.revoker? = some t → t.IsNamed) →
        m.reported = m.ended)
      ∧ ((∀ step ∈ steps, ∀ t, step.operation.revoker? = some t → t.IsNamed) →
        (past.map Moment.reported).sum = revokedCount rows) := by
  intro past rows
  obtain ⟨rows', draws', hrun, -, hrecorded⟩ := recorded_history codec draws steps
  have hrows : rows = rows' := congrArg (fun s => s.session.committed) hrun
  rw [hrows]
  refine ⟨hrecorded.told, hrecorded.ended, ?_, ?_⟩
  · intro m hm
    exact (reported_eq_of_mem keyed_nil hm).2
  · intro hnamed
    have hreported : past.map Moment.reported = past.map Moment.ended := by
      refine List.map_congr_left fun m hm => ?_
      obtain ⟨hstep, heq⟩ := reported_eq_of_mem keyed_nil hm
      exact heq (hnamed m.step hstep)
    rw [hreported]
    exact hrecorded.ended

/-! ## Samples -/

/-- A token is issued and revoked by its link. -/
theorem issued_and_revoked_once :
    let steps : List Step := [⟨⟨5, none, true⟩, .issue modelessToken⟩,
      ⟨⟨6, none, true⟩, .revoke (.account "a") (some ⟨"l"⟩) none⟩]
    let past := history Codec.sample (settled [] Draws.sample) steps
    let rows := (run Codec.sample (settled [] Draws.sample) steps).session.committed
    (∀ step ∈ steps, ∀ t, step.operation.revoker? = some t → t.IsNamed)
      ∧ (past.map Moment.reported).sum = revokedCount rows := by
  intro steps past rows
  have hnamed : ∀ step ∈ steps, ∀ t, step.operation.revoker? = some t → t.IsNamed := by
    intro step hstep t ht
    simp only [steps, List.mem_cons, List.not_mem_nil, or_false] at hstep
    rcases hstep with rfl | rfl
    · cases ht
    · cases ht
      decide
  exact ⟨hnamed, (table_is_history Codec.sample Draws.sample steps).2.2.2 hnamed⟩

/-- The token of a service without a mode is revoked, and no step reports it. -/
theorem revoked_but_not_reported :
    let steps : List Step := [⟨⟨5, none, true⟩, .issue modelessToken⟩,
      ⟨⟨6, none, true⟩, .revokeTenant (.service (some "x") none)⟩]
    let past := history Codec.sample (settled [] Draws.sample) steps
    let rows := (run Codec.sample (settled [] Draws.sample) steps).session.committed
    (past.map Moment.reported).sum = 0 ∧ revokedCount rows = 1 := by
  intro steps past rows
  obtain ⟨h, hissue⟩ := exists_first_issue Codec.isUsable_sample Draws.isBounded_sample 5
    modelessToken
  have hfirst : next Codec.sample (settled [] Draws.sample) ⟨⟨5, none, true⟩, .issue modelessToken⟩
      = settled [Row.ofPending 5 h modelessToken] Draws.sample.drawSecret.2 :=
    congrArg Reply.state hissue
  have hrows : rows = [(Row.ofPending 5 h modelessToken).ended 6] := by
    simp only [rows, steps, run, List.foldl_cons, List.foldl_nil, hfirst]
    rfl
  refine ⟨?_, ?_⟩
  · simp only [past, steps, history, hissue]
    rfl
  · rw [hrows]
    rfl

end Service
end BearerTokens
