/-
BearerTokens.Proofs.Descriptions — to change a description is to change one cell.

A change of a description is an update, a commit and a look-up. The update picks
the active rows of a link, the look-up the rows of the link in any state. Where
names are distinct both pick one row, and it is the same (`describe_of_describable`,
`get_of_describable`): the description takes no part in either condition, so a
row that was described is found as it was before.

What was described stays so until something else happens to the row. For as long
as it stands, the same change is an update of a cell to what it already says.
-/
import BearerTokens.Proofs.Authentication
import BearerTokens.Proofs.RevocationNames
import BearerTokens.Proofs.StepAnswers
import BearerTokens.Proofs.TenantIsolation

namespace BearerTokens

/-! ## One cell of the table -/

/-- The table with another description in one of its rows. -/
def redescribe (description : String) (r : Row) (rows : List Row) : List Row :=
  rows.map fun x => if x = r then r.described description else x

theorem mem_redescribe {rows : List Row} {r : Row} (hr : r ∈ rows) (description : String) :
    r.described description ∈ redescribe description r rows :=
  List.mem_map.2 ⟨r, hr, if_pos rfl⟩

/-- A description is not changed by what it already says. -/
theorem redescribe_of_eq {description : String} {r : Row} (h : r.described description = r)
    (rows : List Row) : redescribe description r rows = rows := by
  rw [redescribe]
  refine (List.map_congr_left fun x _ => ?_).trans (List.map_id rows)
  split
  · rename_i hx
    rw [h, hx, id]
  · rfl

theorem described_described (description : String) (r : Row) :
    (r.described description).described description = r.described description := rfl

/-- An active row of the link, of the tenant if one is given. -/
structure Describable (l : Link) (t : Option Tenant) (r : Row) : Prop where
  link : r.link = l
  active : r.revoked = none
  owned : ∀ tenant, t = some tenant → tenant.owns r = true

section

variable {rows : List Row} {l : Link} {t : Option Tenant} {r : Row}

theorem ownedBy_iff : ownedBy t r = true ↔ ∀ tenant, t = some tenant → tenant.owns r = true := by
  cases t <;> simp [ownedBy]

/-- The rows that an update picks. -/
theorem isActiveLink_iff : Store.isActiveLink l t r = true ↔ Describable l t r := by
  simp only [Store.isActiveLink, Bool.and_eq_true, beq_iff_eq, ownedBy_iff, Row.isActive,
    Option.isNone_iff_eq_none]
  constructor
  · rintro ⟨⟨hlink, hactive⟩, howned⟩
    exact ⟨hlink, hactive, howned⟩
  · intro h
    exact ⟨⟨h.link, h.active⟩, h.owned⟩

/-- A row can be described again. -/
theorem Describable.described (h : Describable l t r) (description : String) :
    Describable l t (r.described description) := by
  refine ⟨h.link, h.active, fun tenant ht => ?_⟩
  rw [tenant.keeps_described description r]
  exact h.owned tenant ht

/-- An update under the condition of a description changes one cell. -/
theorem Keyed.updateWhere_described (hkeyed : Keyed rows) (hr : r ∈ rows)
    (h : Describable l t r) (description : String) :
    BearerTokens.updateWhere (Store.isActiveLink l t) (Row.described description) rows
      = redescribe description r rows :=
  hkeyed.updateWhere_eq_map (fun _ => Store.names_of_isActiveLink) hr (isActiveLink_iff.2 h) _

theorem Keyed.redescribe (hkeyed : Keyed rows) (hr : r ∈ rows) (h : Describable l t r)
    (description : String) : Keyed (redescribe description r rows) := by
  rw [← hkeyed.updateWhere_described hr h]
  exact hkeyed.updateWhere (Row.sameToken_described description) _

/-- A look-up by the link finds the row that can be described. -/
theorem Keyed.find?_describable (hkeyed : Keyed rows) (hr : r ∈ rows) (h : Describable l t r) :
    rows.find? (fun x => x.link == l && ownedBy t x) = some r := by
  refine hkeyed.find?_of_names (i := .link l) (fun x hx => ?_) hr ?_
  · rw [Bool.and_eq_true] at hx
    exact hx.1
  · rw [Bool.and_eq_true]
    exact ⟨beq_iff_eq.2 h.link, ownedBy_iff.2 h.owned⟩

end

namespace Service

/-! ## Changing a description -/

section

variable {rows : List Row} {l : Link} {t : Option Tenant} {r : Row} (draws : Draws) (now : Instant)

/-- A row that can be described is found by its link. -/
theorem get_of_describable (hkeyed : Keyed rows) (hr : r ∈ rows) (h : Describable l t r) :
    get (undisturbed now) (settled rows draws) l t
      = ⟨.ok (some r.entity), [], settled rows draws⟩ := by
  have hselect : (undisturbed now).selectError? = none := rfl
  simp only [get_settled, hselect, hkeyed.find?_describable hr h, Option.map_some]

/-- A row that can be described is described, and read again. -/
theorem describe_of_describable (hkeyed : Keyed rows) (hr : r ∈ rows) (h : Describable l t r)
    (description : String) :
    describe (undisturbed now) (settled rows draws) l description t
      = ⟨.ok (some (r.described description).entity), [.descriptionUpdated l],
          settled (redescribe description r rows) draws⟩ := by
  have hany : rows.any (Store.isActiveLink l t) = true :=
    List.any_eq_true.2 ⟨r, hr, isActiveLink_iff.2 h⟩
  have hagain := (hkeyed.redescribe hr h description).find?_describable
    (mem_redescribe hr description) (h.described description)
  rw [describe_settled, updateError?_undisturbed]
  simp only [hany, if_true, hkeyed.updateWhere_described hr h, hagain, Option.map_some]

/-- Without such a row nothing happens. -/
theorem describe_of_none (hnone : ∀ r ∈ rows, ¬ Describable l t r) (description : String) :
    describe (undisturbed now) (settled rows draws) l description t
      = ⟨.ok none, [], settled rows draws⟩ := by
  have hany : rows.any (Store.isActiveLink l t) = false := by
    rw [List.any_eq_false]
    exact fun r hr hp => hnone r hr (isActiveLink_iff.1 hp)
  rw [describe_settled, updateError?_undisturbed]
  simp [hany]

end

/-- The reply to a change of the description of a row. One cell of the table is
another one afterwards. Until something else happens to the row, however long
that takes, a look-up in the same scope shows the same token, and the same change
shows it too and leaves the service as it is. -/
structure Describes (codec : Codec) (s : Service) (l : Link) (description : String)
    (t : Option Tenant) (r : Row) (reply : Reply Service (Option Entity)) : Prop where
  answer : reply.answer = .ok (some
    { r.entity with metadata := { r.entity.metadata with description := description } })
  log : reply.log = [.descriptionUpdated l]
  state : reply.state = s.withSession (.opened (redescribe description r s.session.committed))
  stands : r.described description ∈ reply.state.session.committed
  found : ∀ (later : List Step) (now : Instant),
    let s' := run codec reply.state later
    r.described description ∈ s'.session.committed →
      get (undisturbed now) s' l t = ⟨reply.answer, [], s'⟩
  again : ∀ (later : List Step) (now : Instant),
    let s' := run codec reply.state later
    r.described description ∈ s'.session.committed →
      describe (undisturbed now) s' l description t = ⟨reply.answer, reply.log, s'⟩

theorem describes_of_describable (codec : Codec) {rows : List Row} {l : Link} {t : Option Tenant}
    {r : Row} (draws : Draws) (now : Instant) (hkeyed : Keyed rows) (hr : r ∈ rows)
    (h : Describable l t r) (description : String) :
    Describes codec (settled rows draws) l description t r
      (describe (undisturbed now) (settled rows draws) l description t) := by
  rw [describe_of_describable draws now hkeyed hr h]
  have hlater : ∀ later, ∃ rows' draws',
      run codec (settled (redescribe description r rows) draws) later = settled rows' draws'
        ∧ Keyed rows' :=
    run_keyed codec draws (hkeyed.redescribe hr h description)
  refine ⟨rfl, rfl, rfl, mem_redescribe hr description, fun later now' => ?_, fun later now' => ?_⟩
  · obtain ⟨rows', draws', hrun, hkeyed'⟩ := hlater later
    simp only [hrun]
    intro hmem
    exact get_of_describable draws' now' hkeyed' hmem (h.described description)
  · obtain ⟨rows', draws', hrun, hkeyed'⟩ := hlater later
    simp only [hrun]
    intro hmem
    rw [describe_of_describable draws' now' hkeyed' hmem (h.described description),
      redescribe_of_eq (described_described description r), described_described]

/-- **A description is one cell**: on every table that the service can have made
there is a row to be described or there is none. If there is one, its token is
shown with the new description and everything else as it was; otherwise nothing is
shown and nothing is changed. -/
theorem description_changes_one_cell (codec : Codec) (draws : Draws) (steps : List Step)
    (now : Instant) (l : Link) (description : String) (t : Option Tenant) :
    let s := run codec (settled [] draws) steps
    let reply := describe (undisturbed now) s l description t
    ((∃ e, reply.answer = .ok (some e)) ↔ ∃ r ∈ s.session.committed, Describable l t r)
      ∧ (∀ r ∈ s.session.committed, Describable l t r → Describes codec s l description t r reply)
      ∧ ((∀ r ∈ s.session.committed, ¬ Describable l t r) → reply = ⟨.ok none, [], s⟩) := by
  intro s reply
  obtain ⟨rows, draws', hrun, hkeyed⟩ := run_keyed codec draws keyed_nil steps
  have hs : s = settled rows draws' := hrun
  have hdescribes : ∀ r ∈ rows, Describable l t r → Describes codec s l description t r reply := by
    intro r hr h
    simp only [reply, hs]
    exact describes_of_describable codec draws' now hkeyed hr h description
  have hnone : (∀ r ∈ rows, ¬ Describable l t r) → reply = ⟨.ok none, [], s⟩ := by
    intro h
    simp only [reply, hs]
    exact describe_of_none draws' now h description
  have hrows : s.session.committed = rows := by
    rw [hs]
    rfl
  rw [hrows]
  refine ⟨⟨?_, ?_⟩, hdescribes, hnone⟩
  · rintro ⟨e, he⟩
    by_contra hnot
    rw [hnone fun r hr h => hnot ⟨r, hr, h⟩] at he
    cases he
  · rintro ⟨r, hr, h⟩
    exact ⟨_, (hdescribes r hr h).answer⟩

/-- A token whose description is changed on behalf of its account, and not on
behalf of another one. -/
theorem account_describes_its_token :
    let issue : Step := ⟨⟨5, none, true⟩, .issue sampleToken⟩
    let s := run Codec.sample (settled [] Draws.sample) [issue]
    let reply := describe (undisturbed 6) s ⟨"l"⟩ "new" (some (.account "a"))
    (∃ e, reply.answer = .ok (some e) ∧ e.metadata.description = "new")
      ∧ get (undisturbed 7) reply.state ⟨"l"⟩ (some (.account "a"))
        = ⟨reply.answer, [], reply.state⟩
      ∧ describe (undisturbed 6) s ⟨"l"⟩ "new" (some (.account "b")) = ⟨.ok none, [], s⟩ := by
  intro issue s reply
  obtain ⟨h, hissue⟩ := exists_first_issue Codec.isUsable_sample Draws.isBounded_sample 5
    sampleToken
  have hs : s = settled [Row.ofPending 5 h sampleToken] Draws.sample.drawSecret.2 :=
    congrArg Reply.state hissue
  have hrows : s.session.committed = [Row.ofPending 5 h sampleToken] := by
    rw [hs]
    rfl
  have howner : Describable ⟨"l"⟩ (some (.account "a")) (Row.ofPending 5 h sampleToken) :=
    ⟨rfl, rfl, by rintro _ ⟨⟩; rfl⟩
  have hother : ¬ Describable ⟨"l"⟩ (some (.account "b")) (Row.ofPending 5 h sampleToken) :=
    fun hd => Bool.false_ne_true (hd.owned _ rfl)
  obtain ⟨-, hdescribes, -⟩ := description_changes_one_cell Codec.sample Draws.sample [issue] 6
    ⟨"l"⟩ "new" (some (.account "a"))
  obtain ⟨-, -, hnone⟩ := description_changes_one_cell Codec.sample Draws.sample [issue] 6
    ⟨"l"⟩ "new" (some (.account "b"))
  have hreply := hdescribes (Row.ofPending 5 h sampleToken)
    (hrows ▸ List.mem_singleton_self _) howner
  refine ⟨⟨_, hreply.answer, rfl⟩, hreply.found [] 7 hreply.stands, hnone fun r hr => ?_⟩
  have hr' : r ∈ [Row.ofPending 5 h sampleToken] := hrows ▸ hr
  rw [List.mem_singleton.1 hr']
  exact hother

end Service
end BearerTokens
