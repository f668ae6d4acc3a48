/-
BearerTokens.Proofs.KeyLifecycle — what a key that was handed out leads to.

A key is tied to one row for good: its check gives the hash of that row and
hashes are distinct (`check_eq_hash_iff`). So the life of the key is the life
of the row. `endedIn_iff` compares the two ways to say that it is over: that a
step of the run has revoked the row, and that the row is a revoked one. The
first is a statement about the run and the second about the table, and only the
second can be seen by whoever presents the key.

Revocation is told by the state and not by the answer, since an operation can
revoke a row and then fail to report it.
-/
import BearerTokens.Proofs.KeyStanding

namespace BearerTokens

/-! ## What is shown of one token -/

/-- The second entity says of its token what the first one says, the description
and the times of use and revocation apart. -/
structure Entity.SameToken (a b : Entity) : Prop where
  link : b.link = a.link
  accountId : b.metadata.accountId = a.metadata.accountId
  serviceId : b.metadata.serviceId = a.metadata.serviceId
  mode : b.metadata.mode = a.metadata.mode
  paymentType : b.metadata.paymentType = a.metadata.paymentType
  source : b.metadata.source = a.metadata.source
  creator : b.metadata.creator = a.metadata.creator
  issued : b.issued = a.issued

theorem Row.SameToken.entity {a b : Row} (h : a.SameToken b) : a.entity.SameToken b.entity where
  link := h.link
  accountId := h.accountId
  serviceId := h.serviceId
  mode := h.mode
  paymentType := h.paymentType
  source := h.source
  creator := h.creator
  issued := by simp only [Row.entity, h.issued]

theorem Row.sameToken_touch (c : Conditions) (r : Row) : r.SameToken (c.touch r) := by
  unfold Conditions.touch
  split
  · exact r.sameToken_used c.now
  · exact .refl r

namespace Service

/-! ## The row of a key -/

section

variable {codec : Codec} {rows : List Row} {draws : Draws} {key : String} {r : Row}

/-- The key leads to one row and to no other. -/
theorem check_eq_hash_iff (hkeyed : Keyed rows) (hr : r ∈ rows)
    (hcheck : codec.check key = ⟨.ok (some r.hash), []⟩) {x : Row} (hx : x ∈ rows) :
    (codec.check key).hash? = .ok (some x.hash) ↔ x = r := by
  rw [hcheck, Except.ok.injEq, Option.some.injEq]
  exact ⟨fun he => hkeyed.eq_of_hash hx hr he.symm, fun he => by rw [he]⟩

theorem answer_of_active (hkeyed : Keyed rows) (hr : r ∈ rows)
    (hcheck : codec.check key = ⟨.ok (some r.hash), []⟩) (hact : r.isActive = true)
    {c : Conditions} (hup : c.IsUp) :
    (authenticateOrRefuse codec c (settled rows draws) key).answer = .ok (c.touch r).entity := by
  have hselect := Conditions.selectError?_of_isUp hup
  rw [(replies_of_active hkeyed hselect draws hcheck hr hact).2]

theorem answer_of_revoked (hkeyed : Keyed rows) (hr : r ∈ rows)
    (hcheck : codec.check key = ⟨.ok (some r.hash), []⟩) (hact : r.isActive = false)
    {c : Conditions} (hup : c.IsUp) :
    (authenticate codec c (settled rows draws) key).answer = .ok none
      ∧ (authenticateOrRefuse codec c (settled rows draws) key).answer
        = .error (.token (.revoked r.link)) := by
  have hselect := Conditions.selectError?_of_isUp hup
  have hreplies := replies_of_revoked hkeyed hselect draws hcheck hr hact
  rw [hreplies.1, hreplies.2]
  exact ⟨rfl, rfl⟩

/-- A key that leads to no row is refused as unknown, whether or not it is one. -/
theorem answer_of_unknown (hcodec : codec.IsUsable)
    (hnone : ∀ r ∈ rows, (codec.check key).hash? ≠ .ok (some r.hash)) {c : Conditions}
    (hup : c.IsUp) :
    (authenticateOrRefuse codec c (settled rows draws) key).answer
      = .error (.token .unknownKey) := by
  rcases Codec.check_cases hcodec key with ⟨h, hcheck⟩ | ⟨hcheck, -⟩
  · have hne : ∀ r ∈ rows, r.hash ≠ h := by
      rintro r hr rfl
      exact hnone r hr (by rw [hcheck])
    have hselect := Conditions.selectError?_of_isUp hup
    rw [(replies_of_unknown hselect draws hcheck hne).2]
  · rw [(replies_of_noKey (settled rows draws) hcheck).2]

theorem answer_refuse_ne_ok (c : Conditions) (rows : List Row) (draws : Draws) (h : StorageHash)
    (e : Entity) : (refuse c (settled rows draws) h).answer ≠ .ok e := by
  rw [refuse_settled]
  split
  · exact nofun
  · split
    · exact nofun
    · split <;> exact nofun

/-- Under any conditions, no other token is shown to who presents the key. -/
theorem link_of_answer (hkeyed : Keyed rows) (hr : r ∈ rows)
    (hcheck : codec.check key = ⟨.ok (some r.hash), []⟩) {c : Conditions} {e : Entity}
    (hanswer : (authenticate codec c (settled rows draws) key).answer = .ok (some e)
      ∨ (authenticateOrRefuse codec c (settled rows draws) key).answer = .ok e) :
    e.link = r.link := by
  have hfind := hkeyed.find?_isActiveHash hr
  have hlink : (c.touch r).entity.link = r.link := (r.sameToken_touch c).link
  cases hact : r.isActive with
  | true =>
    rw [hact, if_pos rfl] at hfind
    rw [authenticate, hcheck, authenticateOrRefuse_settled codec c rows draws hcheck, hfind]
      at hanswer
    simp only [useHash_settled, hfind, Option.map_some] at hanswer
    cases hselect : c.selectError? with
    | some err => simp [hselect] at hanswer
    | none =>
      simp only [hselect, Except.ok.injEq, Option.some.injEq, or_self] at hanswer
      rw [← hanswer, hlink]
  | false =>
    rw [hact, if_neg (by decide)] at hfind
    rw [authenticate, hcheck, authenticateOrRefuse_settled codec c rows draws hcheck, hfind]
      at hanswer
    simp only [useHash_settled, hfind, Option.map_none] at hanswer
    rcases hanswer with hanswer | hanswer
    · cases hselect : c.selectError? <;> simp [hselect] at hanswer
    · exact absurd hanswer (answer_refuse_ne_ok c rows draws r.hash e)

end

/-! ## The end of a key -/

/-- Is it an operation that revokes? -/
def Operation.IsRevocation : Operation → Prop
  | revoke .. | revokeTenant _ => True
  | _ => False

theorem Writes.isRevocation {codec : Codec} {operation : Operation} {w : Write}
    (h : Writes codec operation w) (hw : w.IsRevocation) : operation.IsRevocation := by
  cases h with
  | issue | authenticate | authenticateOrRefuse | describe => exact hw
  | revokeLink | revokeKey | revokeTenant => trivial

/-- The step revokes the token of the link: it is active before and revoked
after. -/
def Ends (codec : Codec) (s : Service) (step : Step) (l : Link) : Prop :=
  step.operation.IsRevocation
    ∧ (∃ r ∈ s.session.committed, r.link = l ∧ r.revoked = none)
    ∧ ∃ r ∈ (next codec s step).session.committed, r.link = l ∧ r.revoked ≠ none

/-- Some step of the run revokes the token of the link. -/
def EndedIn (codec : Codec) (s : Service) (steps : List Step) (l : Link) : Prop :=
  ∃ before step after, steps = before ++ step :: after ∧ Ends codec (run codec s before) step l

theorem endedIn_cons (codec : Codec) (s : Service) (step : Step) (rest : List Step) (l : Link) :
    EndedIn codec s (step :: rest) l
      ↔ Ends codec s step l ∨ EndedIn codec (next codec s step) rest l := by
  constructor
  · rintro ⟨before, last, after, hsteps, hends⟩
    cases before with
    | nil =>
      rw [List.nil_append, List.cons.injEq] at hsteps
      exact Or.inl (hsteps.1 ▸ hends)
    | cons first before =>
      rw [List.cons_append, List.cons.injEq] at hsteps
      obtain ⟨rfl, hrest⟩ := hsteps
      exact Or.inr ⟨before, last, after, hrest, hends⟩
  · rintro (hends | ⟨before, last, after, hrest, hends⟩)
    · exact ⟨[], step, rest, rfl, hends⟩
    · exact ⟨step :: before, last, after, by rw [hrest]; rfl, hends⟩

/-- A step that leaves a row revoked which was active is a revocation. -/
theorem ends_of_revoked {codec : Codec} {rows rows' : List Row} {draws draws' : Draws}
    {step : Step} (hkeyed : Keyed rows)
    (hnext : next codec (settled rows draws) step = settled rows' draws')
    {r r' : Row} (hr : r ∈ rows) (hr' : r' ∈ rows') (hlink : r'.link = r.link)
    (hact : r.revoked = none) (hrev : r'.revoked ≠ none) :
    Ends codec (settled rows draws) step r.link := by
  refine ⟨?_, ⟨r, hr, rfl, hact⟩, ⟨r', by rw [hnext]; exact hr', hlink, hrev⟩⟩
  -- A revoked row that was there before would be the active one.
  have hnew : r' ∉ rows := by
    intro hmem
    rw [hkeyed.eq_of_link hmem hr hlink] at hrev
    exact hrev hact
  have hmoves := moves_next codec rows draws step
  rw [hnext] at hmoves
  cases hmoves with
  | stay => exact absurd hr' hnew
  | write drawn writes fits =>
    refine writes.isRevocation (Classical.byContradiction fun hw => ?_)
    exact hnew (Write.mem_of_mem_apply hw hr' hrev)

/-- The run has ended a token that was active exactly if its row is a revoked
one afterwards. -/
theorem endedIn_iff {codec : Codec} {rows rows' : List Row} {draws draws' : Draws}
    {steps : List Step} (hkeyed : Keyed rows) (hdraws : draws.IsBounded)
    (hrun : run codec (settled rows draws) steps = settled rows' draws') {r r' : Row}
    (hr : r ∈ rows) (hr' : r' ∈ rows') (hlink : r'.link = r.link) (hact : r.revoked = none) :
    EndedIn codec (settled rows draws) steps r.link ↔ r'.revoked ≠ none := by
  induction steps generalizing rows draws r with
  | nil =>
    have hrows : rows = rows' := congrArg (fun s => s.session.rows) hrun
    have heq : r' = r := hkeyed.eq_of_link (hrows ▸ hr') hr hlink
    refine iff_of_false ?_ (by rw [heq]; exact fun h => h hact)
    rintro ⟨before, step, after, hsteps, -⟩
    simp at hsteps
  | cons step rest ih =>
    obtain ⟨rows₁, draws₁, hnext, hkeyed₁, hdraws₁, hext₁⟩ := next_settled codec hkeyed hdraws step
    obtain ⟨r₁, hr₁, hevolves⟩ := hext₁.exists_mem hr
    have hlink₁ : r₁.link = r.link := hevolves.sameToken.link
    have hrest : run codec (settled rows₁ draws₁) rest = settled rows' draws' := by
      rw [← hnext, ← hrun]
      rfl
    by_cases hrev : r₁.revoked = none
    · -- Not ended yet: only the rest of the run counts.
      have hnot : ¬ Ends codec (settled rows draws) step r.link := by
        rintro ⟨-, -, x, hx, hxlink, hxrev⟩
        rw [hnext] at hx
        exact hxrev (hkeyed₁.eq_of_link hx hr₁ (hxlink.trans hlink₁.symm) ▸ hrev)
      rw [endedIn_cons, or_iff_right hnot, hnext, ← hlink₁]
      exact ih hkeyed₁ hdraws₁ hrest hr₁ (hlink.trans hlink₁.symm) hrev
    · -- Ended by this step: the row is final.
      obtain ⟨rows₂, draws₂, hrun₂, hkeyed₂, -, hext₂⟩ := run_settled codec hkeyed₁ hdraws₁ rest
      obtain ⟨r₂, hr₂, hevolves₂⟩ := hext₂.exists_mem hr₁
      have hrows : rows₂ = rows' :=
        congrArg (fun s => s.session.rows) (hrun₂.symm.trans hrest)
      have hfinal : r' = r₁ := by
        rw [← hevolves₂.eq_of_revoked hrev]
        refine hkeyed₂.eq_of_link (hrows ▸ hr') hr₂ ?_
        rw [hlink, ← hlink₁, hevolves₂.sameToken.link]
      refine iff_of_true ?_ (hfinal ▸ hrev)
      exact (endedIn_cons ..).2 (Or.inl (ends_of_revoked hkeyed hnext hr hr₁ hlink₁ hact hrev))

/-! ## The life of a key -/

/-- A key that was handed out is tied to the new row: in the state after the
step, and in the state after any further steps. -/
theorem exists_row_of_issued {codec : Codec} {draws : Draws} (hdraws : draws.IsBounded)
    {before : List Step} {step : Step} {key : String} {e : Entity}
    (hissued : (perform codec step (run codec (settled [] draws) before)).answer
      = .ok (.issued key e)) :
    ∃ rows draws' r, run codec (settled [] draws) (before ++ [step]) = settled rows draws'
      ∧ Keyed rows ∧ draws'.IsBounded ∧ r ∈ rows ∧ r.revoked = none ∧ e = r.entity
      ∧ codec.check key = ⟨.ok (some r.hash), []⟩ := by
  obtain ⟨rows₀, draws₀, hrun, hkeyed₀, hdraws₀, -⟩ := run_settled codec keyed_nil hdraws before
  rw [hrun] at hissued
  obtain ⟨h, token, hcheck, hfree, rfl, hnext⟩ := perform_issued hdraws₀ hissued
  let row := Row.ofPending step.conditions.now h token
  have hrow : row ∈ rows₀ ++ [row] := List.mem_append_right rows₀ (List.mem_singleton_self row)
  refine ⟨rows₀ ++ [row], draws₀.drawSecret.2, row, ?_, hkeyed₀.append hfree, hdraws₀.drawSecret,
    hrow, rfl, rfl, hcheck⟩
  rw [run_append, hrun, ← hnext]
  rfl

/-- **The life of a key**: a key that was handed out leads to its token until
some step of the run revokes the token, and from then on it is refused as that
of a revoked token. At no time is there another row that it leads to. -/
theorem issued_key_lifecycle (codec : Codec) (draws : Draws) (hdraws : draws.IsBounded)
    (before after : List Step) (step : Step) (key : String) (e : Entity)
    (hissued : (perform codec step (run codec (settled [] draws) before)).answer
      = .ok (.issued key e)) :
    let issued := run codec (settled [] draws) (before ++ [step])
    let later := run codec (settled [] draws) (before ++ step :: after)
    (¬ EndedIn codec issued after e.link → ∀ c : Conditions, c.IsUp →
        ∃ e', (authenticateOrRefuse codec c later key).answer = .ok e' ∧ e.SameToken e')
      ∧ (EndedIn codec issued after e.link → ∀ c : Conditions, c.IsUp →
        (authenticate codec c later key).answer = .ok none
          ∧ (authenticateOrRefuse codec c later key).answer = .error (.token (.revoked e.link)))
      ∧ (∀ x ∈ later.session.rows,
        (codec.check key).hash? = .ok (some x.hash) ↔ x.link = e.link)
      ∧ ∀ (c : Conditions) (e' : Entity),
        (authenticate codec c later key).answer = .ok (some e')
            ∨ (authenticateOrRefuse codec c later key).answer = .ok e' →
          e'.link = e.link := by
  intro issued later
  obtain ⟨rows, draws', r, hrun, hkeyed, hdraws', hr, hact, rfl, hcheck⟩ :=
    exists_row_of_issued hdraws hissued
  obtain ⟨rows', draws'', hrun', hkeyed', -, hext⟩ := run_settled codec hkeyed hdraws' after
  obtain ⟨r', hr', hevolves⟩ := hext.exists_mem hr
  have hissued' : issued = settled rows draws' := hrun
  have hlater : later = settled rows' draws'' := by
    rw [← hrun', ← hrun, ← run_append, List.append_assoc, List.singleton_append]
  have hlink : r'.link = r.link := hevolves.sameToken.link
  have hended : EndedIn codec issued after r.link ↔ r'.revoked ≠ none :=
    hissued' ▸ endedIn_iff hkeyed hdraws' hrun' hr hr' hlink hact
  rw [← hevolves.sameToken.hash] at hcheck
  rw [hlater]
  refine ⟨fun hnot c hup => ?_, fun hdone c hup => ?_, fun x hx => ?_, fun c e' hanswer => ?_⟩
  · have hactive : r'.isActive = true :=
      Option.isNone_iff_eq_none.2 (Classical.byContradiction fun h => hnot (hended.2 h))
    exact ⟨_, answer_of_active hkeyed' hr' hcheck hactive hup,
      (hevolves.sameToken.trans (r'.sameToken_touch c)).entity⟩
  · have hactive : r'.isActive = false := by
      simpa [Row.isActive] using Option.ne_none_iff_isSome.1 (hended.1 hdone)
    rw [show r.entity.link = r'.link from hlink.symm]
    exact answer_of_revoked hkeyed' hr' hcheck hactive hup
  · rw [check_eq_hash_iff hkeyed' hr' hcheck hx]
    refine ⟨fun he => he ▸ hlink, fun he => ?_⟩
    exact hkeyed'.eq_of_link hx hr' (he.trans hlink.symm)
  · exact (link_of_answer hkeyed' hr' hcheck hanswer).trans hlink

/-- A key whose token goes with all the tokens of its account, presented while
its use cannot be recorded. -/
theorem sample_key_is_refused :
    let issue : Step := ⟨⟨5, none, true⟩, .issue sampleToken⟩
    let stop : Step := ⟨⟨6, none, true⟩, .revokeTenant (.account "a")⟩
    let key := Codec.sample.keyOf Draws.sample.drawSecret.1
    let e : Entity := ⟨⟨"l"⟩, sampleMetadata, some (.utc 5), none, none⟩
    let start := settled [] Draws.sample
    (perform Codec.sample issue (run Codec.sample start [])).answer = .ok (.issued key e)
      ∧ EndedIn Codec.sample (run Codec.sample start [issue]) [stop] ⟨"l"⟩
      ∧ (authenticateOrRefuse Codec.sample ⟨8, some .touch, true⟩
          (run Codec.sample start [issue, stop]) key).answer
        = .error (.token (.revoked ⟨"l"⟩)) := by
  intro issue stop key e start
  have hbounded := Draws.isBounded_sample
  have hhash := Codec.storageHash_of_isUsable Codec.isUsable_sample (isSecret_drawSecret hbounded)
  generalize (StorageHash.mk _) = h at hhash
  have hperform : perform Codec.sample issue start
      = ⟨.ok (.issued key e), [.issued ⟨"l"⟩ sampleMetadata.scope .card .api],
        settled [Row.ofPending 5 h sampleToken] Draws.sample.drawSecret.2⟩ := by
    simp only [perform, issue, start, issue_settled, hhash]
    rfl
  have hended : EndedIn Codec.sample (run Codec.sample start [issue]) [stop] ⟨"l"⟩ := by
    have hrun : run Codec.sample start [issue]
        = settled [Row.ofPending 5 h sampleToken] Draws.sample.drawSecret.2 :=
      congrArg Reply.state hperform
    rw [hrun]
    exact ⟨[], stop, [], rfl, trivial, ⟨_, List.mem_singleton_self _, rfl, rfl⟩,
      ⟨_, List.mem_singleton_self _, rfl, Option.some_ne_none _⟩⟩
  have hissued : (perform Codec.sample issue (run Codec.sample start [])).answer
      = .ok (.issued key e) := congrArg Reply.answer hperform
  have hlife :=
    issued_key_lifecycle Codec.sample Draws.sample hbounded [] [stop] issue key e hissued
  exact ⟨hissued, hended, (hlife.2.1 hended ⟨8, some .touch, true⟩ ⟨by decide, rfl⟩).2⟩

end Service
end BearerTokens
