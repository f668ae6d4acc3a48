/-
BearerTokens.Proofs.SecretIndifference — a run shows nothing of its secrets.

Two runs of one script may differ in everything that is secret: in their codecs
and in what they draw. Their tables then differ in the column of the hashes, in
which hardly two entries are the same, and in no other. This is the invariant
(`Alike`), and it is enough because a hash is only ever looked up to find a row
that its link would have found as well: the rows that a condition on hashes
picks in one table are those that the other condition picks in the other table
(`Picks`).

That two secrets have one hash cannot be excluded, and a run in which it happens
shows it: the second token is refused. So the hashes of each run have to be
distinct.
-/
import BearerTokens.Proofs.PairedReplies
import BearerTokens.Proofs.Scripts

namespace BearerTokens

/-! ## Tables without their hashes -/

/-- The row with an empty hash. -/
def Row.withoutHash (r : Row) : Row := { r with hash := ⟨""⟩ }

/-- The table in every column but that of the hashes. -/
def shown (rows : List Row) : List Row :=
  rows.map Row.withoutHash

/-- The tables are equal in every column but that of the hashes. -/
def Alike (rows₁ rows₂ : List Row) : Prop :=
  shown rows₁ = shown rows₂

/-- One condition picks the same rows of one table as the other condition of the
other table, which can be said without the hashes. -/
structure Picks (p₁ p₂ : Row → Bool) (rows₁ rows₂ : List Row) : Prop where
  alike : Alike rows₁ rows₂
  exists_shown : ∃ q : Row → Bool,
    (∀ r ∈ rows₁, q r.withoutHash = p₁ r) ∧ ∀ r ∈ rows₂, q r.withoutHash = p₂ r

section

variable {p q : Row → Bool} {rows : List Row}

theorem filter_shown (h : ∀ r ∈ rows, q r.withoutHash = p r) :
    (shown rows).filter q = shown (rows.filter p) := by
  rw [shown, List.filter_map, shown]
  exact congrArg (List.map Row.withoutHash) (List.filter_congr h)

theorem find?_shown (h : ∀ r ∈ rows, q r.withoutHash = p r) :
    (shown rows).find? q = (rows.find? p).map Row.withoutHash := by
  rw [← List.head?_filter, filter_shown h, shown, List.head?_map, List.head?_filter]

theorem countP_shown (h : ∀ r ∈ rows, q r.withoutHash = p r) :
    (shown rows).countP q = rows.countP p := by
  rw [List.countP_eq_length_filter, filter_shown h, shown, List.length_map,
    List.countP_eq_length_filter]

theorem updateWhere_shown (h : ∀ r ∈ rows, q r.withoutHash = p r) {f : Row → Row}
    (hf : ∀ r, (f r).withoutHash = f r.withoutHash) :
    updateWhere q f (shown rows) = shown (updateWhere p f rows) := by
  rw [updateWhere, shown, List.map_map, shown, updateWhere, List.map_map]
  refine List.map_congr_left fun r hr => ?_
  simp only [Function.comp_apply, h r hr]
  split
  · exact (hf r).symm
  · rfl

end

namespace Picks

variable {p₁ p₂ : Row → Bool} {rows₁ rows₂ : List Row}

/-- A condition that does not look at the hash. -/
theorem of_blind (h : Alike rows₁ rows₂) {p : Row → Bool} (hp : ∀ r, p r.withoutHash = p r) :
    Picks p p rows₁ rows₂ :=
  ⟨h, p, fun r _ => hp r, fun r _ => hp r⟩

theorem countP_eq (h : Picks p₁ p₂ rows₁ rows₂) : rows₁.countP p₁ = rows₂.countP p₂ := by
  obtain ⟨halike, q, hq₁, hq₂⟩ := h
  rw [← countP_shown hq₁, halike, countP_shown hq₂]

theorem any_eq (h : Picks p₁ p₂ rows₁ rows₂) : rows₁.any p₁ = rows₂.any p₂ := by
  rw [Bool.eq_iff_iff, List.any_eq_true, List.any_eq_true, ← List.countP_pos_iff,
    ← List.countP_pos_iff, h.countP_eq]

/-- What is read off the first row, the hash apart. -/
theorem map_find?_eq (h : Picks p₁ p₂ rows₁ rows₂) {β : Type} {g : Row → β}
    (hg : ∀ r, g r.withoutHash = g r) : (rows₁.find? p₁).map g = (rows₂.find? p₂).map g := by
  obtain ⟨halike, q, hq₁, hq₂⟩ := h
  have hcomp : g ∘ Row.withoutHash = g := funext hg
  rw [← hcomp, ← Option.map_map, ← Option.map_map, ← find?_shown hq₁, halike, find?_shown hq₂]

/-- A change that does not look at the hash. -/
theorem alike_updateWhere (h : Picks p₁ p₂ rows₁ rows₂) {f : Row → Row}
    (hf : ∀ r, (f r).withoutHash = f r.withoutHash) :
    Alike (updateWhere p₁ f rows₁) (updateWhere p₂ f rows₂) := by
  obtain ⟨halike, q, hq₁, hq₂⟩ := h
  rw [Alike, ← updateWhere_shown hq₁ hf, halike, updateWhere_shown hq₂ hf]

/-- What is listed, the hash apart; the order does not depend on it either. -/
theorem listed_eq (h : Picks p₁ p₂ rows₁ rows₂) :
    ((rows₁.filter p₁).mergeSort Row.listedBefore).map Row.entity
      = ((rows₂.filter p₂).mergeSort Row.listedBefore).map Row.entity := by
  have hentity : Row.entity ∘ Row.withoutHash = Row.entity := rfl
  have hsort (rows : List Row) : ((shown rows).mergeSort Row.listedBefore).map Row.entity
      = (rows.mergeSort Row.listedBefore).map Row.entity := by
    have hmap : (rows.mergeSort Row.listedBefore).map Row.withoutHash
        = (shown rows).mergeSort Row.listedBefore := List.map_mergeSort fun _ _ _ _ => rfl
    rw [← hmap, List.map_map, hentity]
  obtain ⟨halike, q, hq₁, hq₂⟩ := h
  rw [← hsort (rows₁.filter p₁), ← hsort (rows₂.filter p₂), ← filter_shown hq₁, halike,
    filter_shown hq₂]

end Picks

namespace Service

/-! ## Hashes that stand for a link -/

section

variable {rows₁ rows₂ : List Row} {h₁ h₂ : StorageHash} {l : Link} (halike : Alike rows₁ rows₂)
  (hhash₁ : ∀ r ∈ rows₁, (r.link == l) = (r.hash == h₁))
  (hhash₂ : ∀ r ∈ rows₂, (r.link == l) = (r.hash == h₂))

include halike hhash₁ hhash₂

theorem picks_hash : Picks (fun r => r.hash == h₁) (fun r => r.hash == h₂) rows₁ rows₂ :=
  ⟨halike, fun r => r.link == l, hhash₁, hhash₂⟩

theorem picks_isActiveHash :
    Picks (Store.isActiveHash h₁) (Store.isActiveHash h₂) rows₁ rows₂ :=
  ⟨halike, fun r => r.link == l && r.isActive,
    fun r hr => congrArg (· && r.isActive) (hhash₁ r hr),
    fun r hr => congrArg (· && r.isActive) (hhash₂ r hr)⟩

theorem picks_isRevocable (t : Tenant) :
    Picks (Store.isRevocable t (.hash h₁)) (Store.isRevocable t (.hash h₂)) rows₁ rows₂ :=
  ⟨halike, Store.isRevocable t (.link l),
    fun r hr => congrArg (t.owns r && · && r.isActive) (hhash₁ r hr),
    fun r hr => congrArg (t.owns r && · && r.isActive) (hhash₂ r hr)⟩

omit hhash₁ hhash₂ in
/-- A hash that is new leaves it to the link whether a token collides. -/
theorem picks_collides (hnew₁ : ∀ r ∈ rows₁, r.hash ≠ h₁) (hnew₂ : ∀ r ∈ rows₂, r.hash ≠ h₂) :
    Picks (Store.collides h₁ l) (Store.collides h₂ l) rows₁ rows₂ :=
  ⟨halike, fun r => r.link == l, fun r hr => by simp [Store.collides, Row.withoutHash, hnew₁ r hr],
    fun r hr => by simp [Store.collides, Row.withoutHash, hnew₂ r hr]⟩

end

/-! ## Keys of two runs -/

/-- The keys are refused alike, or they lead to rows of one link. -/
inductive Matching (codec₁ codec₂ : Codec) (rows₁ rows₂ : List Row) (key₁ key₂ : String) : Prop
  | refused {e : Event} (check₁ : codec₁.check key₁ = ⟨.ok none, [e]⟩)
      (check₂ : codec₂.check key₂ = ⟨.ok none, [e]⟩)
  | leading {h₁ h₂ : StorageHash} {l : Link} (check₁ : codec₁.check key₁ = ⟨.ok (some h₁), []⟩)
      (check₂ : codec₂.check key₂ = ⟨.ok (some h₂), []⟩)
      (hash₁ : ∀ r ∈ rows₁, (r.link == l) = (r.hash == h₁))
      (hash₂ : ∀ r ∈ rows₂, (r.link == l) = (r.hash == h₂))

/-- A name means keys that match. -/
theorem matching_text {codec₁ codec₂ : Codec} {rows₁ rows₂ : List Row} {draws₁ draws₂ : Draws}
    {keys₁ keys₂ : List String} {links : List Link} (known₁ : Known codec₁ rows₁ draws₁ keys₁ links)
    (known₂ : Known codec₂ rows₂ draws₂ keys₂ links) (key : KeyName) :
    Matching codec₁ codec₂ rows₁ rows₂ (key.text keys₁) (key.text keys₂) := by
  cases key with
  | fixed text malformed =>
    obtain ⟨e, hcheck⟩ := Codec.check_of_isMalformed malformed
    exact .refused (hcheck codec₁) (hcheck codec₂)
  | issued n =>
    cases hlink : links[n]? with
    | none =>
      rw [known₁.text_issued hlink, known₂.text_issued hlink]
      obtain ⟨e, hcheck⟩ := Codec.check_of_isMalformed Codec.isMalformed_empty
      exact .refused (hcheck codec₁) (hcheck codec₂)
    | some l =>
      obtain ⟨h₁, hcheck₁, hhash₁⟩ := (known₁.leadsTo_issued hlink).exists_hash known₁.keyed
      obtain ⟨h₂, hcheck₂, hhash₂⟩ := (known₂.leadsTo_issued hlink).exists_hash known₂.keyed
      exact .leading hcheck₁ hcheck₂ hhash₁ hhash₂

/-! ## One step of two runs -/

/-- The report on a use that could not be recorded quotes the hash only if there
is no table. -/
theorem touchReport_eq {c : Conditions} (hready : c.tableReady = true) (h₁ h₂ : StorageHash) :
    c.touchReport h₁ = c.touchReport h₂ := by
  obtain ⟨now, fault, ready⟩ := c
  cases hready
  cases fault with
  | none => rfl
  | some fault => cases fault <;> rfl

theorem withoutHash_touch (c : Conditions) (r : Row) :
    (c.touch r).withoutHash = c.touch r.withoutHash := by
  unfold Conditions.touch
  split <;> rfl

theorem entity_touch_withoutHash (c : Conditions) (r : Row) :
    (c.touch r.withoutHash).entity = (c.touch r).entity := by
  rw [← withoutHash_touch]
  rfl

section

variable {codec₁ codec₂ : Codec} {rows₁ rows₂ : List Row} {draws₁ draws₂ : Draws}
  {key₁ key₂ : String} (halike : Alike rows₁ rows₂) {c : Conditions}

include halike

theorem agree_authenticate_matching (hready : c.tableReady = true)
    (hkeys : Matching codec₁ codec₂ rows₁ rows₂ key₁ key₂) :
    Agree Alike draws₁ draws₂ (authenticate codec₁ c (settled rows₁ draws₁) key₁)
      (authenticate codec₂ c (settled rows₂ draws₂) key₂) := by
  cases hkeys with
  | refused check₁ check₂ =>
    simp only [authenticate, check₁, check₂]
    exact agree_settled halike _ _
  | leading check₁ check₂ hash₁ hash₂ =>
    have hactive := picks_isActiveHash halike hash₁ hash₂
    exact agree_authenticate c check₁ check₂ (agree_useHash c (touchReport_eq hready _ _)
      (hactive.map_find?_eq (entity_touch_withoutHash c))
      (hactive.alike_updateWhere (withoutHash_touch c)))

theorem agree_authenticateOrRefuse_matching (hready : c.tableReady = true)
    (hkeys : Matching codec₁ codec₂ rows₁ rows₂ key₁ key₂) :
    Agree Alike draws₁ draws₂ (authenticateOrRefuse codec₁ c (settled rows₁ draws₁) key₁)
      (authenticateOrRefuse codec₂ c (settled rows₂ draws₂) key₂) := by
  cases hkeys with
  | refused check₁ check₂ =>
    simp only [authenticateOrRefuse, check₁, check₂]
    exact agree_settled halike _ _
  | leading check₁ check₂ hash₁ hash₂ =>
    have hactive := picks_isActiveHash halike hash₁ hash₂
    exact agree_authenticateOrRefuse halike c check₁ check₂ (touchReport_eq hready _ _)
      (hactive.map_find?_eq (entity_touch_withoutHash c))
      ((picks_hash halike hash₁ hash₂).map_find?_eq fun _ => rfl)
      (hactive.alike_updateWhere (withoutHash_touch c))

theorem agree_revokeNamed_picks (t : Tenant) {i₁ i₂ : Identifier} (hcolumn : i₁.column = i₂.column)
    (h : Picks (Store.isRevocable t i₁) (Store.isRevocable t i₂) rows₁ rows₂) :
    Agree Alike draws₁ draws₂ (revokeNamed c (settled rows₁ draws₁) t i₁)
      (revokeNamed c (settled rows₂ draws₂) t i₂) :=
  agree_revokeNamed halike c t hcolumn h.any_eq (h.alike_updateWhere fun _ => rfl)

theorem agree_revoke_matching (t : Tenant) (link : Option Link) {key₁? key₂? : Option String}
    (hkeys : Option.Rel (Matching codec₁ codec₂ rows₁ rows₂) key₁? key₂?) :
    Agree Alike draws₁ draws₂ (revoke codec₁ c (settled rows₁ draws₁) t link key₁?)
      (revoke codec₂ c (settled rows₂ draws₂) t link key₂?) := by
  cases link with
  | some l => exact agree_revokeNamed_picks halike t rfl (.of_blind halike fun _ => rfl)
  | none =>
    cases hkeys with
    | none => exact agree_settled halike _ _
    | some hkeys =>
      cases hkeys with
      | refused check₁ check₂ =>
        simp only [revoke, check₁, check₂]
        exact agree_settled halike _ _
      | leading check₁ check₂ hash₁ hash₂ =>
        simp only [revoke, check₁, check₂]
        have hpicks := picks_isRevocable halike hash₁ hash₂ t
        refine (agree_revokeNamed_picks halike t ?_ hpicks).logged []
        rfl

/-- Whether a token collides is left to its link, if its hash is new in both
tables. -/
theorem agree_issue_alike (hready : c.tableReady = true) (token : PendingToken)
    {h₁ h₂ : StorageHash} (hhash₁ : codec₁.storageHash draws₁.drawSecret.1 = .ok h₁)
    (hhash₂ : codec₂.storageHash draws₂.drawSecret.1 = .ok h₂)
    (hnew₁ : ∀ r ∈ rows₁, r.hash ≠ h₁) (hnew₂ : ∀ r ∈ rows₂, r.hash ≠ h₂) :
    Agree Alike draws₁.drawSecret.2 draws₂.drawSecret.2
      ((issue codec₁ c (settled rows₁ draws₁) token).map Prod.snd)
      ((issue codec₂ c (settled rows₂ draws₂) token).map Prod.snd) := by
  have hinsert : c.insertError? = none := Conditions.insertError?_eq_none_iff.2 hready
  have hany := (picks_collides (l := token.link) halike hnew₁ hnew₂).any_eq
  have hrows : Alike (rows₁ ++ [Row.ofPending c.now h₁ token])
      (rows₂ ++ [Row.ofPending c.now h₂ token]) := by
    rw [Alike, shown, shown, List.map_append, List.map_append, ← shown, halike]
    rfl
  simp only [issue_settled, hhash₁, hhash₂, hinsert, hany]
  cases rows₂.any (Store.collides h₂ token.link) with
  | true =>
    simp only [if_true, Reply.map, Except.map]
    exact agree_settled halike _ _
  | false =>
    simp only [Bool.false_eq_true, if_false, Reply.map, Except.map]
    exact agree_settled hrows _ _

end

/-! ## What a run shows -/

/-- The answer without the key that is handed out with it. -/
def Answer.withoutKey : Answer → Answer
  | issued _ e => issued "" e
  | a => a

/-- Of what issuing comes to, only the key is taken away. -/
theorem map_withoutKey_issue (codec : Codec) (c : Conditions) (s : Service) (token : PendingToken) :
    (perform codec ⟨c, .issue token⟩ s).map Answer.withoutKey
      = ((issue codec c s token).map Prod.snd).map (Answer.issued "") := by
  rw [Reply.map_map, perform, Reply.map_map]
  rfl

/-- What a step shows: its answer without a key, its reports, and the table as
it is and as it was committed last, without the hashes. -/
structure Published where
  answer : Except Failure Answer
  log : List Event
  rows : List Row
  committed : List Row

/-- What is shown of a reply. -/
def published (r : Reply Service Answer) : Published :=
  ⟨r.answer.map Answer.withoutKey, r.log, shown r.state.session.rows,
    shown r.state.session.committed⟩

theorem published_eq_of_agree {draws₁ draws₂ : Draws} {r₁ r₂ : Reply Service Answer}
    (h : Agree Alike draws₁ draws₂ (r₁.map Answer.withoutKey) (r₂.map Answer.withoutKey)) :
    published r₁ = published r₂ := by
  obtain ⟨rows₁, rows₂, hstate₁, hstate₂, halike⟩ := h.state
  rw [Reply.state_map] at hstate₁ hstate₂
  have hanswer : r₁.answer.map Answer.withoutKey = r₂.answer.map Answer.withoutKey := h.answer
  have hlog : r₁.log = r₂.log := h.log
  simp only [published, hanswer, hlog, hstate₁, hstate₂, session_settled, Session.rows_opened,
    Session.committed_opened, Published.mk.injEq, true_and, and_self]
  exact halike

/-- Replies that agree before they are put into the form of an answer. -/
theorem published_map {α : Type} {draws₁ draws₂ : Draws} {r₁ r₂ : Reply Service α}
    (h : Agree Alike draws₁ draws₂ r₁ r₂) (f : α → Answer) :
    published (r₁.map f) = published (r₂.map f) :=
  published_eq_of_agree ((h.map f).map Answer.withoutKey)

/-- The links of the issued tokens are published. -/
theorem linksAfter_withoutKey (links : List Link) (answer : Except Failure Answer) :
    linksAfter links (answer.map Answer.withoutKey) = linksAfter links answer := by
  cases answer with
  | error e => rfl
  | ok a => cases a <;> rfl

section

variable {codec₁ codec₂ : Codec} {rows₁ rows₂ : List Row} {draws₁ draws₂ : Draws}
  {keys₁ keys₂ : List String} {links : List Link}

/-- **One step** of two runs that have shown the same. -/
theorem published_perform (usable₁ : codec₁.IsUsable) (usable₂ : codec₂.IsUsable)
    (known₁ : Known codec₁ rows₁ draws₁ keys₁ links)
    (known₂ : Known codec₂ rows₂ draws₂ keys₂ links) {cue : Cue} {rest : List Cue}
    (fresh₁ : Fresh codec₁ rows₁ draws₁ keys₁ (cue :: rest))
    (fresh₂ : Fresh codec₂ rows₂ draws₂ keys₂ (cue :: rest)) (halike : Alike rows₁ rows₂) :
    published (perform codec₁ (cue.step keys₁) (settled rows₁ draws₁))
      = published (perform codec₂ (cue.step keys₂) (settled rows₂ draws₂)) := by
  have hkeys := matching_text known₁ known₂
  obtain ⟨now, fault, plan⟩ := cue
  cases plan with
  | issue token =>
    have hhash₁ := Codec.storageHash_of_isUsable usable₁ (isSecret_drawSecret known₁.bounded)
    have hhash₂ := Codec.storageHash_of_isUsable usable₂ (isSecret_drawSecret known₂.bounded)
    have hnew₁ (r : Row) (hr : r ∈ rows₁) := fresh₁.hash_ne (by rw [hash?_issue, hhash₁]; rfl) hr
    have hnew₂ (r : Row) (hr : r ∈ rows₂) := fresh₂.hash_ne (by rw [hash?_issue, hhash₂]; rfl) hr
    have hready : Conditions.tableReady ⟨now, fault, true⟩ = true := rfl
    have hissue := (agree_issue_alike halike hready token hhash₁ hhash₂ hnew₁ hnew₂).map
      (Answer.issued "")
    rw [← map_withoutKey_issue, ← map_withoutKey_issue] at hissue
    exact published_eq_of_agree hissue
  | authenticate key =>
    exact published_map (agree_authenticate_matching halike rfl (hkeys key)) _
  | authenticateOrRefuse key =>
    exact published_map (agree_authenticateOrRefuse_matching halike rfl (hkeys key)) _
  | list t state source =>
    have hlisted := Picks.of_blind (p := Store.isListed t state source) halike fun _ => rfl
    exact published_map (agree_list halike _ t state source hlisted.listed_eq) _
  | get l t =>
    have hlink := Picks.of_blind (p := fun r => r.link == l && ownedBy t r) halike fun _ => rfl
    have hfound := hlink.map_find?_eq (g := Row.entity) fun _ => rfl
    exact published_map (agree_get halike _ l t hfound) _
  | describe l description t =>
    have hactive := Picks.of_blind (p := Store.isActiveLink l t) halike fun _ => rfl
    have halike' := hactive.alike_updateWhere (f := Row.described description) fun _ => rfl
    have hlink := Picks.of_blind (p := fun r => r.link == l && ownedBy t r) halike' fun _ => rfl
    have hfound := hlink.map_find?_eq (g := Row.entity) fun _ => rfl
    exact published_map (agree_describe halike _ l description t hactive.any_eq halike' hfound) _
  | revoke t link key =>
    have hkey : Option.Rel (Matching codec₁ codec₂ rows₁ rows₂) (key.map (KeyName.text keys₁))
        (key.map (KeyName.text keys₂)) := by
      cases key with
      | none => exact .none
      | some key => exact .some (hkeys key)
    exact published_map (agree_revoke_matching halike t link hkey) _
  | revokeTenant t =>
    have hactive := Picks.of_blind (p := Store.isActiveOf t) halike fun _ => rfl
    have halike' := hactive.alike_updateWhere (f := Row.ended now) fun _ => rfl
    exact published_map (agree_revokeTenant halike _ t hactive.countP_eq halike') _

/-- The rest of two runs that have shown the same. -/
theorem published_follow (usable₁ : codec₁.IsUsable) (usable₂ : codec₂.IsUsable)
    (known₁ : Known codec₁ rows₁ draws₁ keys₁ links)
    (known₂ : Known codec₂ rows₂ draws₂ keys₂ links) {script : List Cue}
    (fresh₁ : Fresh codec₁ rows₁ draws₁ keys₁ script)
    (fresh₂ : Fresh codec₂ rows₂ draws₂ keys₂ script) (halike : Alike rows₁ rows₂) :
    (follow codec₁ (settled rows₁ draws₁) keys₁ script).map published
      = (follow codec₂ (settled rows₂ draws₂) keys₂ script).map published := by
  induction script generalizing rows₁ rows₂ draws₁ draws₂ keys₁ keys₂ links with
  | nil => rfl
  | cons cue rest ih =>
    have hstep := published_perform usable₁ usable₂ known₁ known₂ fresh₁ fresh₂ halike
    obtain ⟨rows₁', draws₁', hstate₁, known₁'⟩ := known₁.next (cue.step keys₁)
    obtain ⟨rows₂', draws₂', hstate₂, known₂'⟩ := known₂.next (cue.step keys₂)
    have fresh₁' := fresh₁.next hstate₁
    have fresh₂' := fresh₂.next hstate₂
    have halike' : Alike rows₁' rows₂' := by
      have hrows := congrArg Published.rows hstep
      simp only [published, hstate₁, hstate₂] at hrows
      exact hrows
    have hlinks := congrArg (linksAfter links) (congrArg Published.answer hstep)
    simp only [published, linksAfter_withoutKey] at hlinks
    rw [← hlinks] at known₂'
    simp only [follow, List.map_cons, hstep, hstate₁, hstate₂, List.cons.injEq, true_and]
    exact ih known₁' known₂' fresh₁' fresh₂' halike'

end

/-- **Secrets influence nothing but keys**: two runs of one script from an empty
table show the same in every step, whatever their codecs and their draws are,
as long as secrets can be hashed and no two hashes of a run are the same. -/
theorem secrets_influence_keys_only {codec₁ codec₂ : Codec} (usable₁ : codec₁.IsUsable)
    (usable₂ : codec₂.IsUsable) {draws₁ draws₂ : Draws} (bounded₁ : draws₁.IsBounded)
    (bounded₂ : draws₂.IsBounded) (script : List Cue)
    (distinct₁ : (hashes codec₁ (settled [] draws₁) [] script).Nodup)
    (distinct₂ : (hashes codec₂ (settled [] draws₂) [] script).Nodup) :
    (follow codec₁ (settled [] draws₁) [] script).map published
      = (follow codec₂ (settled [] draws₂) [] script).map published := by
  have fresh₁ : Fresh codec₁ [] draws₁ [] script :=
    ⟨distinct₁, fun _ hr => absurd hr List.not_mem_nil⟩
  have fresh₂ : Fresh codec₂ [] draws₂ [] script :=
    ⟨distinct₂, fun _ hr => absurd hr List.not_mem_nil⟩
  exact published_follow usable₁ usable₂ (known_nil codec₁ bounded₁) (known_nil codec₂ bounded₂)
    fresh₁ fresh₂ rfl

/-- A key that is used, revoked and used again, and a text that is no key. -/
theorem sample_script_shows_no_key :
    let script : List Cue :=
      [⟨1, none, .issue sampleToken⟩, ⟨2, some .touch, .authenticateOrRefuse (.issued 0)⟩,
        ⟨3, none, .authenticate (.fixed "no key" (Or.inl (by decide)))⟩,
        ⟨4, none, .revoke (.account "a") none (some (.issued 0))⟩,
        ⟨5, none, .authenticateOrRefuse (.issued 0)⟩]
    Codec.sample.IsUsable ∧ Codec.otherSample.IsUsable
      ∧ Draws.sample.IsBounded ∧ Draws.otherSample.IsBounded
      ∧ (hashes Codec.sample (settled [] Draws.sample) [] script).Nodup
      ∧ (hashes Codec.otherSample (settled [] Draws.otherSample) [] script).Nodup
      ∧ (follow Codec.sample (settled [] Draws.sample) [] script).map published
        = (follow Codec.otherSample (settled [] Draws.otherSample) [] script).map published := by
  intro script
  -- One token is issued, so that there is one hash at most.
  have hdistinct (codec : Codec) (draws : Draws) :
      (hashes codec (settled [] draws) [] script).Nodup := by
    simp only [script, hashes, Plan.hash?, Option.toList_none, List.append_nil]
    cases Option.map IssuedKey.hash (codec.issue (settled [] draws).draws).1.toOption with
    | none => exact List.nodup_nil
    | some h => exact List.nodup_singleton h
  have hshown := secrets_influence_keys_only Codec.isUsable_sample Codec.isUsable_otherSample
    Draws.isBounded_sample Draws.isBounded_otherSample script (hdistinct _ _) (hdistinct _ _)
  exact ⟨Codec.isUsable_sample, Codec.isUsable_otherSample, Draws.isBounded_sample,
    Draws.isBounded_otherSample, hdistinct _ _, hdistinct _ _, hshown⟩

end Service
end BearerTokens
