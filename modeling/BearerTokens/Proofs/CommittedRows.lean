/-
BearerTokens.Proofs.CommittedRows — what was committed stays.

The session's view is always a later state of the committed table
(`Session.IsAhead`). That is why a commit loses nothing and a rollback takes
nothing away that was ever committed. From the step to the run, the committed
table of an earlier point extends to both tables of every later point.

Only the order of the tables in time is used here. Which operation wrote what,
and which faults there were, is settled in `moves_next`.
-/
import BearerTokens.Proofs.StoreSteps

namespace BearerTokens

/-- The session's view is a later state of the committed table. -/
def Session.IsAhead (s : Session) : Prop :=
  Extends s.committed s.rows

theorem Session.isAhead_opened (rows : List Row) : (Session.opened rows).IsAhead :=
  .refl rows

namespace Store

/-! ## One step -/

theorem Moves.isAhead {now : Instant} {s s' : Session} {w? : Option Write}
    (h : Moves now s w? s') (hs : s.IsAhead) : s'.IsAhead := by
  cases h with
  | stay => exact hs
  | commit => exact .refl s.rows
  | rollback => exact .refl s.committed
  | write => exact Extends.trans hs (extends_apply now s.rows _)

theorem Moves.extends_committed {now : Instant} {s s' : Session} {w? : Option Write}
    (h : Moves now s w? s') (hs : s.IsAhead) : Extends s.committed s'.committed := by
  cases h with
  | commit => exact hs
  | stay | rollback | write => exact .refl s.committed

/-! ## Runs -/

theorem isAhead_run {s : Session} (h : s.IsAhead) (steps : List Step) : (run s steps).IsAhead :=
  run_induction (fun s step hs => (moves_next s step).isAhead hs) h steps

/-- The committed table of a later point extends the one of an earlier point. -/
theorem extends_committed_run {s : Session} (h : s.IsAhead) (steps : List Step) :
    Extends s.committed (run s steps).committed := by
  induction steps generalizing s with
  | nil => exact .refl s.committed
  | cons step rest ih =>
    have hmoves := moves_next s step
    exact (hmoves.extends_committed h).trans (ih (hmoves.isAhead h))

/-- So does the session's view of a later point. -/
theorem extends_rows_run {s : Session} (h : s.IsAhead) (steps : List Step) :
    Extends s.committed (run s steps).rows :=
  (extends_committed_run h steps).trans (isAhead_run h steps)

/-- **Rows are never lost, and revocation is final**: a row that is committed
at some point of a run is in its place in both tables of every later point, and
a row that is committed as revoked is there unchanged. -/
theorem committed_row_persists (rows : List Row) (before after : List Step) (i : Nat) (r : Row)
    (h : (run (Session.opened rows) before).committed[i]? = some r) :
    let later := run (Session.opened rows) (before ++ after)
    (∃ r', later.committed[i]? = some r' ∧ r.SameToken r')
      ∧ (∃ r', later.rows[i]? = some r' ∧ r.SameToken r')
      ∧ (r.revoked ≠ none → later.committed[i]? = some r ∧ later.rows[i]? = some r) := by
  intro later
  have hlater : later = run (run (Session.opened rows) before) after := run_append _ before after
  have hahead := isAhead_run (Session.isAhead_opened rows) before
  obtain ⟨r₁, hr₁, he₁⟩ := extends_committed_run hahead after i r h
  obtain ⟨r₂, hr₂, he₂⟩ := extends_rows_run hahead after i r h
  rw [← hlater] at hr₁ hr₂
  refine ⟨⟨r₁, hr₁, he₁.sameToken⟩, ⟨r₂, hr₂, he₂.sameToken⟩, fun hrev => ?_⟩
  rw [hr₁, hr₂, he₁.eq_of_revoked hrev, he₂.eq_of_revoked hrev]
  exact ⟨rfl, rfl⟩

/-- A token that was revoked and committed survives a second revocation that is
rolled back, a use, and another description. -/
theorem revoked_row_survives_rollback :
    let before : List Step :=
      [⟨⟨5, none, true⟩, .insert ⟨"h"⟩ sampleToken⟩,
        ⟨⟨7, none, true⟩, .revoke (.account "a") (.link ⟨"l"⟩)⟩, ⟨⟨7, none, true⟩, .commit⟩]
    let after : List Step :=
      [⟨⟨8, none, true⟩, .revokeTenant (.account "a")⟩, ⟨⟨9, some .touch, true⟩, .recordUse ⟨"h"⟩⟩,
        ⟨⟨9, none, true⟩, .describe ⟨"l"⟩ "other" none⟩]
    let row : Row := ⟨⟨"h"⟩, ⟨"l"⟩, sampleMetadata, 5, none, some 7⟩
    let later := run (Session.opened []) (before ++ after)
    (run (Session.opened []) before).committed[0]? = some row
      ∧ later.committed[0]? = some row ∧ later.rows[0]? = some row := by
  intro before after row later
  have h : (run (Session.opened []) before).committed[0]? = some row := by decide
  exact ⟨h, (committed_row_persists [] before after 0 row h).2.2 (by decide)⟩

end Store
end BearerTokens
