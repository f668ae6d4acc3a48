/-
BearerTokens.Proofs.StoreSteps — what one step does to a session.

A step leaves the session as it is, commits it, rolls it back, or changes the
session's view by the one statement that belongs to its operation. `Moves` has
a constructor for each of these and `moves_next` says that there is no other
way, under any conditions. Invariants of runs are shown by cases on `Moves`,
without a look at the operations.
-/
import BearerTokens.Store.Run
import BearerTokens.Proofs.TableChanges

namespace BearerTokens.Store

/-! ## Steps -/

/-- The statement by which an operation changes the table. -/
def Operation.write? : Operation → Option Write
  | insert h token => some (.insert h token)
  | recordUse h => some (.use h)
  | describe l description t => some (.describe l description t)
  | revoke t i => some (.revoke t i)
  | revokeTenant t => some (.revokeTenant t)
  | _ => none

/-- What a step with this statement can make of a session. -/
inductive Moves (now : Instant) (s : Session) : Option Write → Session → Prop
  | stay (w? : Option Write) : Moves now s w? s
  | commit (w? : Option Write) : Moves now s w? s.commit
  | rollback (w? : Option Write) : Moves now s w? s.rollback
  | write {w : Write} (fits : w.Fits s.rows) :
      Moves now s (some w) (s.withRows (w.apply now s.rows))

theorem state_select {α : Type} (c : Conditions) (s : Session) (query : List Row → α) :
    (select c s query).state = s := by
  unfold select
  split <;> rfl

/-- An update that is not refused is its statement. -/
theorem moves_update {α : Type} {c : Conditions} {s : Session} {p : Row → Bool} {f : Row → Row}
    {query : List Row → α} {w : Write} (fits : w.Fits s.rows)
    (happly : w.apply c.now s.rows = updateWhere p f s.rows) :
    Moves c.now s (some w) (update c s p f query).state := by
  unfold update
  split
  · exact .stay _
  · rw [← happly]
    exact .write fits

theorem moves_recordUse (c : Conditions) (s : Session) (h : StorageHash) :
    Moves c.now s (some (.use h)) (recordUse c s h).state := by
  unfold recordUse
  split
  · simp only [state_select]
    exact .rollback _
  · exact .write (w := .use h) trivial

theorem moves_insert (c : Conditions) (s : Session) (h : StorageHash) (token : PendingToken) :
    Moves c.now s (some (.insert h token)) (insert c s h token).state := by
  unfold insert
  split
  · exact .rollback _
  · split
    · exact .rollback _
    · rename_i hfree
      exact .write (w := .insert h token) (Bool.eq_false_iff.2 hfree)

theorem moves_describe (c : Conditions) (s : Session) (l : Link) (description : String)
    (t : Option Tenant) :
    Moves c.now s (some (.describe l description t)) (describe c s l description t).state :=
  moves_update (w := .describe l description t) trivial rfl

theorem moves_revoke (c : Conditions) (s : Session) (t : Tenant) (i : Identifier) :
    Moves c.now s (some (.revoke t i)) (revoke c s t i).state :=
  moves_update (w := .revoke t i) trivial rfl

theorem moves_revokeTenant (c : Conditions) (s : Session) (t : Tenant) :
    Moves c.now s (some (.revokeTenant t)) (revokeTenant c s t).state :=
  moves_update (w := .revokeTenant t) trivial rfl

theorem moves_ping (c : Conditions) (s : Session) : Moves c.now s none (ping c s).state := by
  unfold ping
  split
  · exact .rollback _
  · exact .stay _

/-- **One step**: there is nothing else that an operation does. -/
theorem moves_next (s : Session) (step : Step) :
    Moves step.conditions.now s step.operation.write? (next s step) := by
  obtain ⟨c, operation⟩ := step
  cases operation with
  | insert h token => exact moves_insert c s h token
  | recordUse h => exact moves_recordUse c s h
  | byHash | byLink | listing =>
    simp only [next, perform, byHash, byLink, listing, Reply.state_map, state_select]
    exact .stay _
  | describe l description t => exact moves_describe c s l description t
  | revoke t i => exact moves_revoke c s t i
  | revokeTenant t => exact moves_revokeTenant c s t
  | commit => exact .commit _
  | rollback => exact .rollback _
  | ping => exact moves_ping c s

/-! ## Both tables -/

/-- Something holds of the committed table and of the session's view of it. -/
structure Both (P : List Row → Prop) (s : Session) : Prop where
  rows : P s.rows
  committed : P s.committed

/-- A step keeps what holds of both tables, if every statement keeps it. -/
theorem Moves.both {P : List Row → Prop} {now : Instant} {s s' : Session} {w? : Option Write}
    (h : Moves now s w? s') (hs : Both P s)
    (hwrite : ∀ w : Write, w.Fits s.rows → P (w.apply now s.rows)) : Both P s' := by
  cases h with
  | stay => exact hs
  | commit => exact ⟨hs.rows, hs.rows⟩
  | rollback => exact ⟨hs.committed, hs.committed⟩
  | write fits => exact ⟨hwrite _ fits, hs.committed⟩

/-! ## Runs -/

theorem run_append (s : Session) (before after : List Step) :
    run s (before ++ after) = run (run s before) after :=
  List.foldl_append

/-- What every step keeps, a run keeps. -/
theorem run_induction {P : Session → Prop} (hnext : ∀ s step, P s → P (next s step))
    {s : Session} (h : P s) (steps : List Step) : P (run s steps) := by
  induction steps generalizing s with
  | nil => exact h
  | cons step rest ih => exact ih (hnext s step h)

end BearerTokens.Store
