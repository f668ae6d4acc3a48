/-
BearerTokens.Proofs.Insertion — a new row is stored as it was told, or not at all.

The store looks at what the session sees, committed or not, for a row with the
hash or the link of the new one. If there is one, the session goes back to the
committed table and other work that was not committed is lost with the new row.
If there is none, the row is put behind the others and is the only one of its
names. From then on every look-up shows it as the insertion has shown it, until
the table is changed again: `Shows` says this of one table, and a run of steps
that change nothing leaves the rows as they are (`rows_run_of_isQuiet`).
-/
import BearerTokens.Proofs.Listings

namespace BearerTokens.Store

/-! ## Steps that change nothing -/

/-- The step makes no change to what the session sees. A commit makes none, but
going back to the committed table does. -/
def Step.IsQuiet (step : Step) : Prop :=
  match step.operation with
  | .byHash _ | .byLink .. | .listing .. | .commit => True
  | .ping => step.conditions.fault ≠ some .connection
  | _ => False

theorem rows_next_of_isQuiet {step : Step} (h : step.IsQuiet) (s : Session) :
    (next s step).rows = s.rows := by
  obtain ⟨c, operation⟩ := step
  cases operation with
  | byHash | byLink | listing =>
    simp only [next, perform, byHash, byLink, listing, Reply.state_map, state_select]
  | commit => rfl
  | ping =>
    have hfault : c.fault ≠ some .connection := h
    simp only [next, perform, Reply.state_map, ping]
  | insert | recordUse | describe | revoke | revokeTenant | rollback => cases h

/-- A run of such steps makes no change, either. -/
theorem rows_run_of_isQuiet {steps : List Step} (h : ∀ step ∈ steps, step.IsQuiet) (s : Session) :
    (run s steps).rows = s.rows := by
  induction steps generalizing s with
  | nil => rfl
  | cons step rest ih =>
    rw [List.forall_mem_cons] at h
    exact (ih h.2 (next s step)).trans (rows_next_of_isQuiet h.1 s)

/-! ## What is shown of a row -/

/-- Whoever looks for the active token of the row finds this: by its hash, by its
link and in the listing of any tenant that owns it. -/
structure Shows (s : Session) (row : Row) (e : Entity) : Prop where
  byHash : ∀ c : Conditions, c.selectError? = none →
    Store.byHash c s row.hash = ⟨.ok (some e), [], s⟩
  byLink : ∀ (c : Conditions) (t : Option Tenant), c.selectError? = none → ownedBy t row = true →
    Store.byLink c s row.link t = ⟨.ok (some e), [], s⟩
  listed : ∀ (c : Conditions) (t : Tenant), c.selectError? = none → t.owns row = true →
    ∃ entities, listing c s t .active e.metadata.source = ⟨.ok entities, [], s⟩
      ∧ entities.filter (·.link == e.link) = [e]

section

variable {s : Session} {rows : List Row} {row : Row}

/-- Of rows with distinct links, one has the link of the row. -/
theorem filter_link (honce : (rows.map Row.link).Nodup) (hrow : row ∈ rows) :
    rows.filter (·.link == row.link) = [row] := by
  have hsame : rows.filter (·.link == row.link) = rows.filter (· == row) := by
    refine List.filter_congr fun x hx => ?_
    rw [Bool.eq_iff_iff, beq_iff_eq, beq_iff_eq]
    exact ⟨List.inj_on_of_nodup_map honce hx hrow, congrArg Row.link⟩
  rw [hsame, List.filter_beq, List.count_eq_one_of_mem honce.of_map hrow, List.replicate_one]

/-- An active row of a table with distinct names is shown as it is. -/
theorem shows_of_mem (hkeyed : Keyed s.rows) (hrow : row ∈ s.rows) (hactive : row.revoked = none) :
    Shows s row row.entity where
  byHash c hc := by
    simp only [Store.byHash, select, hc, firstEntity?, hkeyed.find?_hash hrow, Option.map_some]
  byLink c t hc howned := byLink_of_ownedBy hkeyed hrow hc howned
  listed c t hc howns := by
    have hlists := lists_mergeSort hkeyed t .active row.metadata.source
    have hmem := (hlists.mem_iff row).2 ⟨hrow, howns, iff_of_true hactive rfl, rfl⟩
    refine ⟨_, listing_eq hc s t .active row.metadata.source, ?_⟩
    rw [List.filter_map]
    exact congrArg (List.map Row.entity) (filter_link hlists.once hmem)

end

/-! ## Insertion -/

/-- The hash or the link is that of some row. -/
def IsTaken (rows : List Row) (h : StorageHash) (l : Link) : Prop :=
  ∃ r ∈ rows, r.hash = h ∨ r.link = l

instance (rows : List Row) (h : StorageHash) (l : Link) : Decidable (IsTaken rows h l) :=
  inferInstanceAs (Decidable (∃ r ∈ rows, _))

/-- The new row was put behind the others, and nothing else was changed. -/
structure Inserted (s : Session) (now : Instant) (h : StorageHash) (token : PendingToken)
    (row : Row) (s' : Session) : Prop where
  row_eq : row = ⟨h, token.link, token.metadata, now, none, none⟩
  rows : s'.rows = s.rows ++ [row]
  committed : s'.committed = s.committed

section

variable {s : Session} {c : Conditions} {h : StorageHash} {token : PendingToken}

theorem isTaken_iff {rows : List Row} {l : Link} :
    IsTaken rows h l ↔ rows.any (collides h l) = true := by
  simp [IsTaken, collides]

theorem not_isTaken_iff {rows : List Row} {l : Link} :
    ¬ IsTaken rows h l ↔ rows.any (collides h l) = false := by
  rw [isTaken_iff, Bool.not_eq_true]

/-- Where a name is taken, the new row is refused and other work is undone. -/
theorem insert_of_isTaken (hc : c.tableReady = true) (htaken : IsTaken s.rows h token.link) :
    insert c s h token
      = ⟨.error (.token (.storage s!"Could not store token for {token.metadata.scope}")),
          [.insertRefused token.metadata.scope], s.rollback⟩ := by
  have hinsert : c.insertError? = none := Conditions.insertError?_eq_none_iff.2 hc
  simp only [insert, hinsert, isTaken_iff.1 htaken, if_true]

theorem insert_of_not_isTaken (hc : c.tableReady = true) (hfree : ¬ IsTaken s.rows h token.link) :
    insert c s h token = ⟨.ok (Row.ofPending c.now h token).entity, [],
      s.withRows (s.rows ++ [Row.ofPending c.now h token])⟩ := by
  have hinsert : c.insertError? = none := Conditions.insertError?_eq_none_iff.2 hc
  simp only [insert, hinsert, not_isTaken_iff.1 hfree]
  rfl

/-- A new row is shown as long as the table is not changed, and no other row has
one of its names. -/
theorem shows_ofPending (hkeyed : Keyed s.rows) (hfree : ¬ IsTaken s.rows h token.link)
    (now : Instant) {later : Session}
    (hrows : later.rows = s.rows ++ [Row.ofPending now h token]) :
    Shows later (Row.ofPending now h token) (Row.ofPending now h token).entity
      ∧ ∀ r ∈ later.rows, r.hash = h ∨ r.link = token.link → r = Row.ofPending now h token := by
  have hkeyed' : Keyed later.rows := by
    rw [hrows]
    exact hkeyed.append (not_isTaken_iff.1 hfree)
  have hmem : Row.ofPending now h token ∈ later.rows := by
    rw [hrows]
    exact List.mem_append_right _ (List.mem_singleton_self _)
  refine ⟨shows_of_mem hkeyed' hmem rfl, fun r hr hname => ?_⟩
  rcases hname with hhash | hlink
  · exact hkeyed'.eq_of_hash hr hmem hhash
  · exact hkeyed'.eq_of_link hr hmem hlink

end

/-- **All or nothing**: on whatever a session has made of an empty table, an
insertion is refused exactly if the hash or the link of the new token is that of a
row which the session sees. Then the session goes back to the committed table.
Otherwise one row is put behind the others, with what the token says, the time as
that of issue and no other time; it is the only row of its names, and what the
insertion answers is what every look-up shows of it until the next change. -/
theorem insertion_is_all_or_nothing (steps : List Step) (c : Conditions)
    (hc : c.tableReady = true) (h : StorageHash) (token : PendingToken) :
    let s := run Session.empty steps
    let reply := insert c s h token
    ((∃ message, reply.answer = .error (.token (.storage message)))
        ↔ IsTaken s.rows h token.link)
      ∧ (IsTaken s.rows h token.link →
        reply.state.rows = s.committed ∧ reply.state.committed = s.committed)
      ∧ (¬ IsTaken s.rows h token.link → ∃ row e, reply.answer = .ok e
        ∧ Inserted s c.now h token row reply.state
        ∧ e = ⟨token.link, token.metadata, some (.utc c.now), none, none⟩
        ∧ e.tenant.owns row = true
        ∧ ∀ later : List Step, (∀ step ∈ later, step.IsQuiet) →
          let s' := run reply.state later
          Shows s' row e ∧ ∀ r ∈ s'.rows, r.hash = h ∨ r.link = token.link → r = row) := by
  intro s reply
  have hkeyed : Keyed s.rows := (sound_run ⟨sound_nil, sound_nil⟩ steps).rows.keyed
  by_cases htaken : IsTaken s.rows h token.link
  · have hreply : reply = _ := insert_of_isTaken hc htaken
    rw [hreply]
    refine ⟨iff_of_true ⟨_, rfl⟩ htaken, fun _ => ⟨rfl, rfl⟩, fun hfree => absurd htaken hfree⟩
  · have hreply : reply = _ := insert_of_not_isTaken hc htaken
    rw [hreply]
    refine ⟨iff_of_false ?_ htaken, fun h => absurd h htaken, fun _ => ?_⟩
    · rintro ⟨message, hanswer⟩
      cases hanswer
    · refine ⟨Row.ofPending c.now h token, _, rfl, ⟨rfl, rfl, rfl⟩, rfl, owns_tenant _,
        fun later hquiet => ?_⟩
      exact shows_ofPending hkeyed htaken c.now (rows_run_of_isQuiet hquiet _)

/-- The link of a token that was not committed is taken. After the refusal it is
free, since the other token is undone; a second attempt succeeds, and a commit
makes no difference to what is shown. -/
theorem stored_at_the_second_attempt :
    let token : PendingToken :=
      ⟨⟨"d", "me", some "b", none, none, .card, .demo⟩, ⟨"k"⟩, by decide⟩
    let steps : List Step := [⟨⟨5, none, true⟩, .insert ⟨"g"⟩ sampleToken⟩,
      ⟨⟨5, none, true⟩, .commit⟩, ⟨⟨6, none, true⟩, .insert ⟨"h"⟩ token⟩]
    let c : Conditions := ⟨7, none, true⟩
    let s := run Session.empty steps
    let s' := run Session.empty (steps ++ [⟨c, .insert ⟨"i"⟩ token⟩])
    let e : Entity := ⟨⟨"k"⟩, token.metadata, some (.utc 7), none, none⟩
    let later := run (insert c s' ⟨"i"⟩ token).state [⟨c, .commit⟩]
    c.tableReady = true ∧ IsTaken s.rows ⟨"i"⟩ token.link
      ∧ (∃ message, (insert c s ⟨"i"⟩ token).answer = .error (.token (.storage message)))
      ∧ (insert c s ⟨"i"⟩ token).state.rows = s.committed ∧ s.rows ≠ s.committed
      ∧ (insert c s' ⟨"i"⟩ token).answer = .ok e
      ∧ ∃ entities, listing c later (.account "b") .active .demo = ⟨.ok entities, [], later⟩
        ∧ entities.filter (·.link == ⟨"k"⟩) = [e] := by
  intro token steps c s s' e later
  have htaken : IsTaken s.rows ⟨"i"⟩ token.link := by decide
  have hfree : ¬ IsTaken s'.rows ⟨"i"⟩ token.link := by decide
  obtain ⟨hrefused, hundone, -⟩ := insertion_is_all_or_nothing steps c rfl ⟨"i"⟩ token
  obtain ⟨-, -, hstored⟩ := insertion_is_all_or_nothing (steps ++ [⟨c, .insert ⟨"i"⟩ token⟩]) c rfl
    ⟨"i"⟩ token
  obtain ⟨row, e', hanswer, hinserted, rfl, -, hshows⟩ := hstored hfree
  have hquiet : ∀ step ∈ [(⟨c, .commit⟩ : Step)], step.IsQuiet := by
    rintro step hstep
    rw [List.mem_singleton.1 hstep]
    trivial
  have howns : (Tenant.account "b").owns row = true := by
    rw [hinserted.row_eq]
    rfl
  exact ⟨rfl, htaken, hrefused.2 htaken, (hundone htaken).1, by decide, hanswer,
    (hshows _ hquiet).1.listed c (.account "b") rfl howns⟩

end BearerTokens.Store
