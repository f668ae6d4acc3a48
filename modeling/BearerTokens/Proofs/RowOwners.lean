/-
BearerTokens.Proofs.RowOwners — whose rows these are, and who reaches them.

The table is `Sound` if names are distinct and every row names its owner. Every
statement keeps that: an update changes no name and no scope, and a new row
has free names and, by its type, a scope. So both tables of every session are
sound, whatever was refused, committed or undone on the way.

From there on no run is needed. A sound table answers a look-up by name with
one row at most, and the tenant that a row names for itself, an account before
a service, is one under which the store finds, lists and revokes the row. The
choice of the tenant looks for texts that are not empty, and the conditions of
the store compare the columns; that the two agree on every row is `owns_tenant`.
-/
import BearerTokens.Proofs.StoreSteps

namespace BearerTokens

/-! ## Complete scopes -/

/-- A tenant with an account, or with a service and its mode. -/
def Tenant.IsComplete : Tenant → Prop
  | account id => id ≠ ""
  | service id mode => hasText id = true ∧ mode ≠ none

/-- Where there is a scope, the tenant that is read off it is complete. -/
theorem Metadata.isComplete_tenant {m : Metadata} (h : m.HasScope) : m.tenant.IsComplete := by
  unfold tenant
  split
  · rename_i id hid
    split
    · -- An empty account is none, so the scope must be that of the service.
      rename_i hempty
      rcases h with haccount | hservice
      · simp [hasText, hid, hempty] at haccount
      · exact hservice
    · rename_i hne
      show id ≠ ""
      rintro rfl
      exact hne rfl
  · rename_i hnone
    rcases h with haccount | hservice
    · simp [hasText, hnone] at haccount
    · exact hservice

/-- A row is one of the tenant's that it names. -/
theorem owns_tenant (r : Row) : r.metadata.tenant.owns r = true := by
  unfold Metadata.tenant
  split
  · rename_i id hid
    split <;> simp [Tenant.owns, hid]
  · simp [Tenant.owns]

/-- A later state of a row has the scope of the row. -/
theorem Row.SameToken.hasScope {a b : Row} (h : a.SameToken b) (ha : a.metadata.HasScope) :
    b.metadata.HasScope := by
  unfold Metadata.HasScope
  rw [h.accountId, h.serviceId, h.mode]
  exact ha

/-! ## Sound tables -/

/-- Names are distinct, and every row names its owner. -/
structure Sound (rows : List Row) : Prop where
  keyed : Keyed rows
  hasScope : ∀ r ∈ rows, r.metadata.HasScope

theorem sound_nil : Sound [] :=
  ⟨keyed_nil, by simp⟩

/-- Every statement keeps the table sound. -/
theorem Sound.apply {rows : List Row} (h : Sound rows) (now : Instant) {w : Write}
    (hw : w.Fits rows) : Sound (w.apply now rows) := by
  refine ⟨h.keyed.apply now hw, fun r hr => ?_⟩
  cases Write.origin_of_mem_apply hr with
  | issued hash token => exact token.hasScope
  | kept hold => exact h.hasScope _ hold
  | used hold => exact (Row.sameToken_used now _).hasScope (h.hasScope _ hold)
  | described description hold =>
    exact (Row.sameToken_described description _).hasScope (h.hasScope _ hold)
  | ended hold => exact (Row.sameToken_ended now _).hasScope (h.hasScope _ hold)

namespace Store

/-- One step keeps both tables sound. -/
theorem sound_next {s : Session} (h : Both Sound s) (step : Step) : Both Sound (next s step) :=
  (moves_next s step).both h fun _ => h.rows.apply step.conditions.now

/-- So does a run. -/
theorem sound_run {s : Session} (h : Both Sound s) (steps : List Step) :
    Both Sound (run s steps) :=
  run_induction (P := Both Sound) (fun _ step hs => sound_next hs step) h steps

/-! ## Statements about one row -/

/-- The conditions under which the store expects one row match one at most:
those of the look-ups by hash and by link, of the use and of the revocation. -/
structure MatchesOne (rows : List Row) : Prop where
  byHash : ∀ h, rows.countP (fun r => r.hash == h) ≤ 1
  byLink : ∀ l t, rows.countP (fun r => r.link == l && ownedBy t r) ≤ 1
  use : ∀ h, rows.countP (isActiveHash h) ≤ 1
  revoke : ∀ t i, rows.countP (isRevocable t i) ≤ 1

/-- What a row says about its owner is true, and the owner reaches the row with
every operation of the store that the database does not refuse. -/
structure Owned (s : Session) (r : Row) : Prop where
  complete : r.entity.tenant.IsComplete
  named : r.entity.tenant.IsNamed
  owns : r.entity.tenant.owns r = true
  found : ∀ c : Conditions, c.selectError? = none →
    byLink c s r.link (some r.entity.tenant) = ⟨.ok (some r.entity), [], s⟩
  listed : ∀ (c : Conditions) (state : State), c.selectError? = none → state.holds r = true →
    ∃ entities, listing c s r.entity.tenant state r.metadata.source = ⟨.ok entities, [], s⟩
      ∧ r.entity ∈ entities
  revoked : ∀ (c : Conditions) (i : Identifier), c.updateError? = none → r.isActive = true →
    i.names r = true →
      revoke c s r.entity.tenant i = ⟨.ok (some (.utc c.now)), [],
        s.withRows (s.rows.map fun x => if x = r then r.ended c.now else x)⟩

end Store

open Store

/-- Every condition that includes a name matches one row at most. -/
theorem Keyed.matchesOne {rows : List Row} (h : Keyed rows) : MatchesOne rows where
  byHash hash := h.countP_le_one (i := .hash hash) fun _ hr => hr
  byLink l t := by
    refine h.countP_le_one (i := .link l) fun r hr => ?_
    simp only [Bool.and_eq_true] at hr
    exact hr.1
  use hash := h.countP_le_one fun _ => names_of_isActiveHash
  revoke t i := h.countP_le_one fun _ => names_of_isRevocable

/-! ## Rows and their owners -/

section Owners

variable {s : Session} {r : Row}

/-- A row is found by its link, by whoever owns it and where no tenant is given. -/
theorem byLink_of_ownedBy (hkeyed : Keyed s.rows) (hr : r ∈ s.rows) {c : Conditions}
    (hc : c.selectError? = none) {t : Option Tenant} (howned : ownedBy t r = true) :
    byLink c s r.link t = ⟨.ok (some r.entity), [], s⟩ := by
  have hfind : s.rows.find? (fun x => x.link == r.link && ownedBy t x) = some r := by
    refine hkeyed.find?_of_names (i := .link r.link) (fun x hx => ?_) hr ?_
    · simp only [Bool.and_eq_true] at hx
      exact hx.1
    · simp [howned]
  simp [byLink, select, hc, firstEntity?, hfind]

theorem byLink_tenant (hs : Sound s.rows) (hr : r ∈ s.rows) {c : Conditions}
    (hc : c.selectError? = none) :
    byLink c s r.link (some r.entity.tenant) = ⟨.ok (some r.entity), [], s⟩ :=
  byLink_of_ownedBy hs.keyed hr hc (owns_tenant r)

theorem mem_listing_tenant (hr : r ∈ s.rows) {c : Conditions} {state : State}
    (hc : c.selectError? = none) (hstate : state.holds r = true) :
    ∃ entities, listing c s r.entity.tenant state r.metadata.source = ⟨.ok entities, [], s⟩
      ∧ r.entity ∈ entities := by
  have howns : r.entity.tenant.owns r = true := owns_tenant r
  have hlisted : isListed r.entity.tenant state r.metadata.source r = true := by
    simp [isListed, howns, hstate]
  refine ⟨_, by simp only [listing, select, hc]; rfl, ?_⟩
  exact List.mem_map_of_mem (List.mem_mergeSort.2 (List.mem_filter.2 ⟨hr, hlisted⟩))

theorem revoke_tenant (hs : Sound s.rows) (hr : r ∈ s.rows) {c : Conditions} {i : Identifier}
    (hc : c.updateError? = none) (hactive : r.isActive = true) (hi : i.names r = true) :
    revoke c s r.entity.tenant i = ⟨.ok (some (.utc c.now)), [],
      s.withRows (s.rows.map fun x => if x = r then r.ended c.now else x)⟩ := by
  have howns : r.entity.tenant.owns r = true := owns_tenant r
  have hp : isRevocable r.entity.tenant i r = true := by
    simp [isRevocable, howns, hi, hactive]
  have hany : s.rows.any (isRevocable r.entity.tenant i) = true :=
    List.any_eq_true.2 ⟨r, hr, hp⟩
  have hupdate : updateWhere (isRevocable r.entity.tenant i) (Row.ended c.now) s.rows
      = s.rows.map fun x => if x = r then r.ended c.now else x :=
    hs.keyed.updateWhere_eq_map (fun _ => names_of_isRevocable) hr hp (Row.ended c.now)
  simp [revoke, update, hc, hany, hupdate]

/-- In a sound table every row has its owner. -/
theorem Sound.owned (hs : Sound s.rows) (hr : r ∈ s.rows) : Owned s r where
  complete := Metadata.isComplete_tenant (hs.hasScope r hr)
  named := Metadata.isNamed_tenant (hs.hasScope r hr)
  owns := owns_tenant r
  found _ hc := byLink_tenant hs hr hc
  listed _ _ hc hstate := mem_listing_tenant hr hc hstate
  revoked _ _ hc hactive hi := revoke_tenant hs hr hc hactive hi

end Owners

namespace Store

/-- **Every row has one name and one owner**: whatever steps were taken on an
empty table, both what the session sees and what another session would see of
the committed table is sound, no statement about one row matches two, and the
tenant of every row reaches it. -/
theorem reachable_rows_have_owners (steps : List Step) :
    let s := run Session.empty steps
    let other := Session.opened s.committed
    (Sound s.rows ∧ MatchesOne s.rows ∧ ∀ r ∈ s.rows, Owned s r)
      ∧ Sound s.committed ∧ MatchesOne s.committed ∧ ∀ r ∈ s.committed, Owned other r := by
  intro s other
  have hboth : Both Sound s := sound_run ⟨sound_nil, sound_nil⟩ steps
  have hother : Sound other.rows := hboth.committed
  refine ⟨⟨hboth.rows, hboth.rows.keyed.matchesOne, fun r hr => hboth.rows.owned hr⟩, ?_⟩
  exact ⟨hboth.committed, hother.keyed.matchesOne, fun r hr => hother.owned hr⟩

/-- A committed row and one that is not; the second one names an empty account,
which is none, and so belongs to its service. -/
example :
    let metadata : Metadata := ⟨"d", "me", some "", some "x", some .live, .card, .api⟩
    let s := run Session.empty
      [⟨⟨5, none, true⟩, .insert ⟨"h"⟩ sampleToken⟩, ⟨⟨5, none, true⟩, .commit⟩,
        ⟨⟨6, none, true⟩, .insert ⟨"g"⟩ ⟨metadata, ⟨"k"⟩, by decide⟩⟩]
    s.committed.map (fun r => r.entity.tenant) = [.account "a"]
      ∧ s.rows.map (fun r => r.entity.tenant)
        = [.account "a", .service (some "x") (some .live)] := by
  decide

end Store
end BearerTokens
