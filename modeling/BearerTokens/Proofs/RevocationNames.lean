/-
BearerTokens.Proofs.RevocationNames — to revoke by key is to revoke by link.

A revocation looks for a row by one of its two names. Where names are distinct
it does not matter by which (`revokeNamed_of_names`): both lead to the same row,
and from there on only the row and the tenant count. A key that was handed out
leads to the hash of its row for as long as there is a table, so that revoking by
the key is revoking by the hash.

Whether anything is revoked and what is answered are two things. A tenant
without a text is not given the time, because its name cannot be written to the
log; its token is revoked all the same, under either name.
-/
import BearerTokens.Proofs.Authentication
import BearerTokens.Proofs.KeyLifecycle
import BearerTokens.Proofs.StepAnswers

namespace BearerTokens.Service

/-! ## A revocation of one row -/

/-- The reply to a revocation of a row on behalf of a tenant, at some time. If
the row is an active one of the tenant it is revoked, no other row is changed,
and the time is answered where the tenant has a text. Otherwise the answer is
nothing and the service is as before. -/
structure Revokes (s : Service) (t : Tenant) (r : Row) (now : Instant)
    (reply : Reply Service (Option Timestamp)) : Prop where
  ended : t.owns r = true → r.revoked = none →
    reply.state = s.withSession (.opened (s.session.rows.map fun x =>
      if x = r then { r with revoked := some now } else x))
  answered : t.owns r = true → r.revoked = none → t.IsNamed →
    reply.answer = .ok (some (.utc now))
  unnamed : t.owns r = true → r.revoked = none → ¬ t.IsNamed →
    reply.answer = .error .unnamedTenant
  refused : ¬ (t.owns r = true ∧ r.revoked = none) → reply.answer = .ok none ∧ reply.state = s

@[simp] theorem updateError?_undisturbed (now : Instant) :
    (undisturbed now).updateError? = none := rfl

section

variable {rows : List Row} {draws : Draws} {r : Row} {t : Tenant} {now : Instant}

/-- Of rows with distinct names, a name means one row to a revocation. -/
theorem revokeNamed_of_names (hkeyed : Keyed rows) (hr : r ∈ rows) {i : Identifier}
    (hi : i.names r = true) :
    revokeNamed (undisturbed now) (settled rows draws) t i =
      if t.owns r = true ∧ r.revoked = none then
        reportRevoked (settled (rows.map fun x => if x = r then r.ended now else x) draws) t
          (.revokedOne i.column) (some (.utc now)) []
      else ⟨.ok none, [], settled rows draws⟩ := by
  have hrevocable : Store.isRevocable t i r = true ↔ t.owns r = true ∧ r.revoked = none := by
    simp [Store.isRevocable, hi, Row.isActive]
  rw [revokeNamed_settled, updateError?_undisturbed]
  by_cases hp : Store.isRevocable t i r = true
  · have hany : rows.any (Store.isRevocable t i) = true := List.any_eq_true.2 ⟨r, hr, hp⟩
    have htable := hkeyed.updateWhere_eq_map (fun _ => Store.names_of_isRevocable) hr hp
      (Row.ended now)
    rw [if_pos (hrevocable.1 hp), ← htable]
    simp only [hany, if_true]
    rfl
  · have hany : rows.any (Store.isRevocable t i) = false := by
      rw [List.any_eq_false]
      intro x hx hpx
      rw [hkeyed.eq_of_names hx hr (Store.names_of_isRevocable hpx) hi] at hpx
      exact hp hpx
    rw [if_neg (mt hrevocable.2 hp)]
    simp [hany]

/-- Such a revocation is one of the row. -/
theorem revokes_of_names (hkeyed : Keyed rows) (hr : r ∈ rows) {i : Identifier}
    (hi : i.names r = true) :
    Revokes (settled rows draws) t r now
      (revokeNamed (undisturbed now) (settled rows draws) t i) := by
  rw [revokeNamed_of_names hkeyed hr hi]
  by_cases hboth : t.owns r = true ∧ r.revoked = none
  · rw [if_pos hboth]
    refine ⟨fun _ _ => ?_, fun _ _ hnamed => ?_, fun _ _ hunnamed => ?_, fun hnot => ?_⟩
    · rw [state_reportRevoked]
      rfl
    · rw [answer_reportRevoked, if_pos hnamed]
    · rw [answer_reportRevoked, if_neg hunnamed]
    · exact absurd hboth hnot
  · rw [if_neg hboth]
    exact ⟨fun howns hactive => absurd ⟨howns, hactive⟩ hboth,
      fun howns hactive => absurd ⟨howns, hactive⟩ hboth,
      fun howns hactive => absurd ⟨howns, hactive⟩ hboth, fun _ => ⟨rfl, rfl⟩⟩

/-- Both names of a row lead to the same answer and the same table. Only the
reports tell which name was given. -/
theorem revokeNamed_alike (draws : Draws) (t : Tenant) (now : Instant) (hkeyed : Keyed rows)
    (hr : r ∈ rows) {i j : Identifier} (hi : i.names r = true) (hj : j.names r = true) :
    let byFirst := revokeNamed (undisturbed now) (settled rows draws) t i
    let bySecond := revokeNamed (undisturbed now) (settled rows draws) t j
    byFirst.answer = bySecond.answer ∧ byFirst.state = bySecond.state := by
  intro byFirst bySecond
  simp only [byFirst, bySecond, revokeNamed_of_names hkeyed hr hi,
    revokeNamed_of_names hkeyed hr hj]
  split
  · simp only [answer_reportRevoked, state_reportRevoked, and_self]
  · exact ⟨rfl, rfl⟩

/-- A revoked row is not revoked again, whoever asks for it. -/
theorem revokeNamed_of_revoked (hkeyed : Keyed rows) (hr : r ∈ rows) {i : Identifier}
    (hi : i.names r = true) (hrevoked : r.revoked ≠ none) :
    revokeNamed (undisturbed now) (settled rows draws) t i = ⟨.ok none, [], settled rows draws⟩ := by
  rw [revokeNamed_of_names hkeyed hr hi, if_neg fun hboth => hrevoked hboth.2]

end

/-! ## Keys -/

section

variable {codec : Codec} {draws : Draws} {key : String}

/-- To revoke by a key is to revoke by the hash that it leads to. -/
theorem revoke_of_check {h : StorageHash} (hcheck : codec.check key = ⟨.ok (some h), []⟩)
    (c : Conditions) (s : Service) (t : Tenant) :
    revoke codec c s t none (some key) = revokeNamed c s t (.hash h) := by
  simp only [revoke, hcheck, List.nil_append]

/-- A key that was handed out leads to a row of every later table. -/
theorem exists_row_of_issued_key (hdraws : draws.IsBounded) {before : List Step} {step : Step}
    {e : Entity} (hissued : (perform codec step (run codec (settled [] draws) before)).answer
      = .ok (.issued key e)) (after : List Step) :
    ∃ rows draws' r, run codec (settled [] draws) (before ++ step :: after) = settled rows draws'
      ∧ Keyed rows ∧ draws'.IsBounded ∧ r ∈ rows ∧ r.link = e.link
      ∧ codec.check key = ⟨.ok (some r.hash), []⟩ := by
  obtain ⟨rows₀, draws₀, r₀, hrun, hkeyed₀, hdraws₀, hr₀, -, rfl, hcheck⟩ :=
    exists_row_of_issued hdraws hissued
  obtain ⟨rows, draws', hrun', hkeyed, hdraws', hext⟩ := run_settled codec hkeyed₀ hdraws₀ after
  obtain ⟨r, hr, hevolves⟩ := hext.exists_mem hr₀
  refine ⟨rows, draws', r, ?_, hkeyed, hdraws', hr, hevolves.sameToken.link, ?_⟩
  · rw [← hrun', ← hrun, ← run_append, List.append_assoc, List.singleton_append]
  · rw [hevolves.sameToken.hash, hcheck]

/-- Once a row was revoked, no later revocation finds it, under either name. -/
theorem revoke_after_ended {rows : List Row} {r : Row} {now : Instant} (hkeyed : Keyed rows)
    (hdraws : draws.IsBounded) (hr : r ∈ rows) (hcheck : codec.check key = ⟨.ok (some r.hash), []⟩)
    (later : List Step) (now' : Instant) (t : Tenant) :
    let s := run codec
      (settled (rows.map fun x => if x = r then r.ended now else x) draws) later
    revoke codec (undisturbed now') s t (some r.link) none = ⟨.ok none, [], s⟩
      ∧ revoke codec (undisturbed now') s t none (some key) = ⟨.ok none, [], s⟩ := by
  intro s
  have hmem : r.ended now ∈ rows.map fun x => if x = r then r.ended now else x :=
    List.mem_map.2 ⟨r, hr, if_pos rfl⟩
  have hkeyed₁ : Keyed (rows.map fun x => if x = r then r.ended now else x) := by
    have hupdate := hkeyed.updateWhere (Row.sameToken_ended now) fun x => x == r
    have htable := hkeyed.updateWhere_eq_map (p := fun x => x == r) (i := .link r.link)
      (fun x hx => beq_iff_eq.2 (congrArg Row.link (eq_of_beq hx))) hr (beq_self_eq_true r)
      (Row.ended now)
    rwa [htable] at hupdate
  obtain ⟨rows', draws', hrun, hkeyed', -, hext⟩ := run_settled codec hkeyed₁ hdraws later
  obtain ⟨r', hr', hevolves⟩ := hext.exists_mem hmem
  have hrevoked : (r.ended now).revoked ≠ none := Option.some_ne_none now
  rw [hevolves.eq_of_revoked hrevoked] at hr'
  have hs : s = settled rows' draws' := hrun
  rw [hs]
  constructor
  · exact revokeNamed_of_revoked hkeyed' hr' (i := .link r.link) (beq_self_eq_true _) hrevoked
  · rw [revoke_of_check hcheck]
    exact revokeNamed_of_revoked hkeyed' hr' (i := .hash r.hash) (beq_self_eq_true _) hrevoked

end

/-- **One revocation under two names**: at any later time, and for any tenant, a
key that was handed out and the link of its token lead to the same answer and the
same table, which are those of a revocation of the row. If both are given only the
link counts. Once the row has been revoked in this way, neither name leads to
another revocation, on behalf of whomever and however much later. -/
theorem key_and_link_revoke_alike (codec : Codec) (draws : Draws) (hdraws : draws.IsBounded)
    (before after : List Step) (step : Step) (key : String) (e : Entity)
    (hissued : (perform codec step (run codec (settled [] draws) before)).answer
      = .ok (.issued key e)) :
    let s := run codec (settled [] draws) (before ++ step :: after)
    ∃ r ∈ s.session.rows, r.link = e.link ∧ (codec.check key).hash? = .ok (some r.hash)
      ∧ (∀ (now : Instant) (t : Tenant),
        let byLink := revoke codec (undisturbed now) s t (some e.link) none
        let byKey := revoke codec (undisturbed now) s t none (some key)
        byKey.answer = byLink.answer ∧ byKey.state = byLink.state ∧ Revokes s t r now byLink
          ∧ (byLink.answer ≠ .ok none → ∀ (later : List Step) (now' : Instant) (t' : Tenant),
            let s' := run codec byLink.state later
            revoke codec (undisturbed now') s' t' (some e.link) none = ⟨.ok none, [], s'⟩
              ∧ revoke codec (undisturbed now') s' t' none (some key) = ⟨.ok none, [], s'⟩))
      ∧ ∀ (c : Conditions) (t : Tenant) (l : Link) (other : String),
        revoke codec c s t (some l) (some other) = revoke codec c s t (some l) none := by
  intro s
  obtain ⟨rows, draws', r, hrun, hkeyed, hdraws', hr, hlink, hcheck⟩ :=
    exists_row_of_issued_key hdraws hissued after
  have hs : s = settled rows draws' := hrun
  rw [hs, ← hlink]
  refine ⟨r, hr, rfl, by rw [hcheck], fun now t => ?_, fun c t l other => rfl⟩
  intro byLink byKey
  have hnames : (Identifier.link r.link).names r = true := beq_self_eq_true _
  have hnames' : (Identifier.hash r.hash).names r = true := beq_self_eq_true _
  have hrevokes : Revokes (settled rows draws') t r now byLink :=
    revokes_of_names hkeyed hr hnames
  have hbyKey : byKey = revokeNamed (undisturbed now) (settled rows draws') t (.hash r.hash) :=
    revoke_of_check hcheck _ _ _
  have halike := revokeNamed_alike draws' t now hkeyed hr hnames' hnames
  rw [hbyKey]
  refine ⟨halike.1, halike.2, hrevokes, fun hfound later now' t' => ?_⟩
  -- Something was answered, so the row was an active one of the tenant.
  have hboth : t.owns r = true ∧ r.revoked = none := by
    by_contra hnot
    exact hfound (hrevokes.refused hnot).1
  rw [hrevokes.ended hboth.1 hboth.2]
  exact revoke_after_ended hkeyed hdraws' hr hcheck later now' t'

/-- A token that is revoked by its key on behalf of its account. To revoke it by
its link would have come to the same; now it is too late for that, and a service
could not have done it. -/
theorem revoked_by_key_not_by_link_again :
    let issue : Step := ⟨⟨5, none, true⟩, .issue sampleToken⟩
    let key := Codec.sample.keyOf Draws.sample.drawSecret.1
    let s := run Codec.sample (settled [] Draws.sample) [issue]
    let byKey := revoke Codec.sample (undisturbed 6) s (.account "a") none (some key)
    (∃ e, (perform Codec.sample issue (settled [] Draws.sample)).answer = .ok (.issued key e))
      ∧ byKey.answer = .ok (some (.utc 6))
      ∧ (revoke Codec.sample (undisturbed 6) s (.service (some "x") (some .live)) none
          (some key)).answer = .ok none
      ∧ (revoke Codec.sample (undisturbed 7) byKey.state (.account "a") (some ⟨"l"⟩) none).answer
        = .ok none := by
  intro issue key s byKey
  obtain ⟨h, hissue⟩ := exists_first_issue Codec.isUsable_sample Draws.isBounded_sample 5
    sampleToken
  have hissued : (perform Codec.sample issue (settled [] Draws.sample)).answer
      = .ok (.issued key (Row.ofPending 5 h sampleToken).entity) := congrArg Reply.answer hissue
  have hs : s = settled [Row.ofPending 5 h sampleToken] Draws.sample.drawSecret.2 :=
    congrArg Reply.state hissue
  obtain ⟨r, hr, -, -, halike, -⟩ := key_and_link_revoke_alike Codec.sample Draws.sample
    Draws.isBounded_sample [] [] issue key _ hissued
  -- The sides of the equations are put into one form, so that no reply is computed.
  have hrun : run Codec.sample (settled [] Draws.sample) ([] ++ [issue]) = s := rfl
  have hbyKey : revoke Codec.sample (undisturbed 6) s (.account "a") none (some key) = byKey := rfl
  rw [hrun] at hr halike
  have hrow : r = Row.ofPending 5 h sampleToken := by
    rw [hs] at hr
    exact List.mem_singleton.1 hr
  subst hrow
  obtain ⟨hanswer, hstate, hrevokes, hover⟩ := halike 6 (.account "a")
  obtain ⟨hanswer', -, hrevokes', -⟩ := halike 6 (.service (some "x") (some .live))
  rw [hbyKey] at hanswer hstate
  have htime := hrevokes.answered rfl rfl rfl
  refine ⟨⟨_, hissued⟩, hanswer.trans htime, ?_, ?_⟩
  · exact hanswer'.trans (hrevokes'.refused fun hboth => Bool.false_ne_true hboth.1).1
  · have hfound := hover (by rw [htime]; simp) [] 7 (.account "a")
    rw [hstate]
    simp only [run, List.foldl_nil] at hfound
    exact congrArg Reply.answer hfound.1

/-- A service without a mode owns this active token and asks for it by its link.
The token is revoked, but the time is not answered. -/
theorem revocation_without_an_answer :
    let issue : Step := ⟨⟨5, none, true⟩, .issue modelessToken⟩
    let t : Tenant := .service (some "x") none
    let s := run Codec.sample (settled [] Draws.sample) [issue]
    let reply := revoke Codec.sample (undisturbed 6) s t (some ⟨"l"⟩) none
    (∃ r ∈ s.session.rows, r.link = ⟨"l"⟩ ∧ t.owns r = true ∧ r.revoked = none)
      ∧ reply.answer ≠ .ok (some (.utc 6)) ∧ reply.answer = .error .unnamedTenant := by
  intro issue t s reply
  obtain ⟨h, hissue⟩ := exists_first_issue Codec.isUsable_sample Draws.isBounded_sample 5
    modelessToken
  have hs : s = settled [Row.ofPending 5 h modelessToken] Draws.sample.drawSecret.2 :=
    congrArg Reply.state hissue
  have hanswer : reply.answer = .error .unnamedTenant := by
    simp only [reply, hs]
    rfl
  refine ⟨⟨Row.ofPending 5 h modelessToken, ?_, rfl, rfl, rfl⟩, ?_, hanswer⟩
  · rw [hs]
    exact List.mem_singleton_self _
  · rw [hanswer]
    simp

end BearerTokens.Service
