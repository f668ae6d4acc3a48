/-
BearerTokens.Proofs.TimestampOrder — no token is used after its revocation.

The times of a row are written by three statements that know nothing of each
other, and a rollback takes back one without the other. Two facts keep them in
order. Uses and revocations look at active rows only, so that there is no time
of revocation yet which they could come after. And if the clock does not go
back, no time in either table lies after now (`OnTime`), so that what is
written now comes last.

`OnTime` is the invariant of a step. The order alone is not: a rollback brings
back a row of which it would not be known that its times are past.
-/
import BearerTokens.Proofs.StoreSteps

namespace BearerTokens

/-! ## The times of a row -/

/-- A token is issued before it is used and revoked, and used before it is
revoked. -/
structure Row.InOrder (r : Row) : Prop where
  issued_used : ∀ used, r.lastUsed = some used → r.issued ≤ used
  issued_revoked : ∀ revoked, r.revoked = some revoked → r.issued ≤ revoked
  used_revoked : ∀ used revoked, r.lastUsed = some used → r.revoked = some revoked →
    used ≤ revoked

/-- The times of the row are in order, and none lies after now. A time of
revocation is not mentioned: it is never compared with a later one. -/
structure Row.OnTime (now : Instant) (r : Row) : Prop where
  inOrder : r.InOrder
  issued : r.issued ≤ now
  used : ∀ used, r.lastUsed = some used → used ≤ now

/-- The times of every row of the table are. -/
def OnTime (now : Instant) (rows : List Row) : Prop :=
  ∀ r ∈ rows, r.OnTime now

namespace Row

section

variable {now later : Instant} {r : Row}

theorem OnTime.mono (h : r.OnTime now) (hle : now ≤ later) : r.OnTime later where
  inOrder := h.inOrder
  issued := Int.le_trans h.issued hle
  used u hu := Int.le_trans (h.used u hu) hle

/-! ### What a statement makes of a row -/

theorem onTime_ofPending (now : Instant) (hash : StorageHash) (token : PendingToken) :
    (Row.ofPending now hash token).OnTime now where
  inOrder := ⟨by simp [ofPending], by simp [ofPending], by simp [ofPending]⟩
  issued := Int.le_refl now
  used := by simp [ofPending]

/-- Using an active token keeps the order: it is not revoked yet. -/
theorem OnTime.used_now (h : r.OnTime now) (hactive : r.isActive = true) :
    (r.used now).OnTime now := by
  have hnone : r.revoked = none := Option.isNone_iff_eq_none.1 hactive
  -- Only the last time of use has changed, and there is no revocation to compare it with.
  refine ⟨⟨fun u hu => ?_, fun v hv => ?_, fun u v hu hv => ?_⟩, h.issued, fun u hu => ?_⟩
  · obtain rfl : now = u := Option.some.inj hu
    exact h.issued
  · exact h.inOrder.issued_revoked v hv
  · simp [Row.used, hnone] at hv
  · obtain rfl : now = u := Option.some.inj hu
    exact Int.le_refl now

theorem OnTime.described (h : r.OnTime now) (description : String) :
    (r.described description).OnTime now :=
  ⟨⟨h.inOrder.issued_used, h.inOrder.issued_revoked, h.inOrder.used_revoked⟩, h.issued, h.used⟩

/-- Revoking a token keeps the order: whatever it was used for is past. -/
theorem OnTime.ended_now (h : r.OnTime now) : (r.ended now).OnTime now := by
  refine ⟨⟨h.inOrder.issued_used, fun v hv => ?_, fun u v hu hv => ?_⟩, h.issued, h.used⟩
  · obtain rfl : now = v := Option.some.inj hv
    exact h.issued
  · obtain rfl : now = v := Option.some.inj hv
    exact h.used u hu

end

end Row

/-! ## Tables -/

theorem onTime_nil (now : Instant) : OnTime now [] := by
  simp [OnTime]

theorem OnTime.mono {now later : Instant} {rows : List Row} (h : OnTime now rows)
    (hle : now ≤ later) : OnTime later rows :=
  fun r hr => (h r hr).mono hle

/-- A statement that is carried out now leaves no time after now. -/
theorem OnTime.apply {now : Instant} {rows : List Row} (h : OnTime now rows) (w : Write) :
    OnTime now (w.apply now rows) := by
  intro r hr
  cases Write.origin_of_mem_apply hr with
  | issued hash token => exact Row.onTime_ofPending now hash token
  | kept hold => exact h r hold
  | used hold hactive => exact (h _ hold).used_now hactive
  | described description hold => exact (h _ hold).described description
  | ended hold => exact (h _ hold).ended_now

namespace Store

/-! ## One step -/

/-- A step that comes no earlier than all times so far keeps them in order. -/
theorem onTime_next {now : Instant} {s : Session} {step : Step} (h : Both (OnTime now) s)
    (hle : now ≤ step.conditions.now) : Both (OnTime step.conditions.now) (next s step) := by
  have hlater : Both (OnTime step.conditions.now) s := ⟨h.rows.mono hle, h.committed.mono hle⟩
  exact (moves_next s step).both hlater fun w _ => hlater.rows.apply w

/-! ## Runs -/

/-- The clock never goes back. -/
def ClockRuns (steps : List Step) : Prop :=
  steps.Pairwise fun a b => a.conditions.now ≤ b.conditions.now

instance (steps : List Step) : Decidable (ClockRuns steps) :=
  inferInstanceAs (Decidable (List.Pairwise _ _))

/-- The times in both tables of the session are in order. -/
def TimesInOrder (s : Session) : Prop :=
  Both (fun rows => ∀ r ∈ rows, r.InOrder) s

theorem timesInOrder_of_onTime {now : Instant} {s : Session} (h : Both (OnTime now) s) :
    TimesInOrder s :=
  ⟨fun r hr => (h.rows r hr).inOrder, fun r hr => (h.committed r hr).inOrder⟩

/-- Run lemma: steps that come no earlier than all times so far keep them in
order. The induction is on the steps; the invariant moves on with the clock. -/
theorem timesInOrder_run {now : Instant} {s : Session} (h : Both (OnTime now) s)
    {steps : List Step} (hclock : ClockRuns steps)
    (hstart : ∀ step ∈ steps, now ≤ step.conditions.now) : TimesInOrder (run s steps) := by
  induction steps generalizing now s with
  | nil => exact timesInOrder_of_onTime h
  | cons step rest ih =>
    obtain ⟨hfirst, hrest⟩ := List.pairwise_cons.1 hclock
    have hnext : Both (OnTime step.conditions.now) (next s step) :=
      onTime_next h (hstart step List.mem_cons_self)
    exact ih hnext hrest hfirst

/-- An empty table has no times that a clock could fall behind. -/
theorem timesInOrder_run_empty {steps : List Step} (hclock : ClockRuns steps) :
    TimesInOrder (run Session.empty steps) := by
  cases steps with
  | nil => exact timesInOrder_of_onTime ⟨onTime_nil 0, onTime_nil 0⟩
  | cons step rest =>
    obtain ⟨hfirst, -⟩ := List.pairwise_cons.1 hclock
    have hnil : Both (OnTime step.conditions.now) Session.empty := ⟨onTime_nil _, onTime_nil _⟩
    refine timesInOrder_run hnil hclock ?_
    rw [List.forall_mem_cons]
    exact ⟨Int.le_refl _, hfirst⟩

/-- **No token is used after its revocation**: if the clock never goes back,
then after any number of the steps, whatever they are and however they fail,
the times of every row in both tables are in order. -/
theorem no_use_after_revocation (steps : List Step) (hclock : ClockRuns steps) (n : Nat) :
    TimesInOrder (run Session.empty (steps.take n)) :=
  timesInOrder_run_empty (hclock.sublist (List.take_sublist n steps))

/-- A token whose revocation at 7 is undone may be used at 8. When it is
revoked at 9 and used at 9 again, the last use stays at 8. -/
theorem used_after_undone_revocation :
    let steps : List Step :=
      [⟨⟨5, none, true⟩, .insert ⟨"h"⟩ sampleToken⟩, ⟨⟨6, none, true⟩, .recordUse ⟨"h"⟩⟩,
        ⟨⟨6, none, true⟩, .commit⟩, ⟨⟨7, none, true⟩, .revoke (.account "a") (.link ⟨"l"⟩)⟩,
        ⟨⟨7, some .touch, true⟩, .recordUse ⟨"h"⟩⟩, ⟨⟨8, none, true⟩, .recordUse ⟨"h"⟩⟩,
        ⟨⟨9, none, true⟩, .revokeTenant (.account "a")⟩, ⟨⟨9, none, true⟩, .recordUse ⟨"h"⟩⟩]
    let s := run Session.empty (steps.take 8)
    ClockRuns steps
      ∧ s.committed = [⟨⟨"h"⟩, ⟨"l"⟩, sampleMetadata, 5, some 6, none⟩]
      ∧ s.rows = [⟨⟨"h"⟩, ⟨"l"⟩, sampleMetadata, 5, some 8, some 9⟩]
      ∧ TimesInOrder s := by
  intro steps s
  have hclock : ClockRuns steps := by decide
  exact ⟨hclock, by decide, by decide, no_use_after_revocation steps hclock 8⟩

/-- Without the clock the order is lost: a use at 9 comes before a revocation
at 7. -/
example :
    let s := run Session.empty
      [⟨⟨5, none, true⟩, .insert ⟨"h"⟩ sampleToken⟩, ⟨⟨9, none, true⟩, .recordUse ⟨"h"⟩⟩,
        ⟨⟨7, none, true⟩, .revoke (.account "a") (.link ⟨"l"⟩)⟩]
    s.rows.map (fun r => (r.lastUsed, r.revoked)) = [(some 9, some 7)] := by
  decide

end Store
end BearerTokens
