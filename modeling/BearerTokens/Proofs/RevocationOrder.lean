/-
BearerTokens.Proofs.RevocationOrder — revocations of one time can be made in any order.

A revocation, of one token or of all tokens of a tenant, is an update of the
active rows that it covers (`perform_step`). After the update they are not active
any more, and so a list of revocations is one update of the rows that some call
of the list covers (`run_revocations`). In that condition the order of the list
is lost.

The answers do depend on the order. A row that several calls cover is counted by
the first of them and by no other, so that the answers have the same sum in every
order.
-/
import Mathlib.Algebra.GroupWithZero.Nat
import Mathlib.Logic.ExistsUnique
import BearerTokens.Proofs.RowOwners

namespace BearerTokens.Store

/-! ## Calls -/

/-- A revocation of one token or of all of a tenant's. -/
inductive Revocation
  | one (tenant : Tenant) (identifier : Identifier)
  | all (tenant : Tenant)
deriving DecidableEq

namespace Revocation

/-- The operation of the store. -/
def operation : Revocation → Operation
  | one t i => .revoke t i
  | all t => .revokeTenant t

/-- The call at some time, while the database answers. -/
def step (now : Instant) (call : Revocation) : Step :=
  ⟨⟨now, none, true⟩, call.operation⟩

/-- Is the row one of those that the call is about? -/
def covers (call : Revocation) (r : Row) : Bool :=
  match call with
  | one t i => t.owns r && i.names r
  | all t => t.owns r

/-- Is it an active one of them? -/
def hits (call : Revocation) (r : Row) : Bool :=
  call.covers r && r.isActive

/-- What the call answers if it revokes this many rows. -/
def answer (now : Instant) (n : Nat) : Revocation → Answer
  | one .. => .time (if n = 0 then none else some (.utc now))
  | all _ => .count n

end Revocation

/-- Is the row an active one that some call is about? -/
def anyHits (calls : List Revocation) (r : Row) : Bool :=
  calls.any (·.covers r) && r.isActive

/-- The answers to a list of steps. -/
def answers (s : Session) : List Step → List (Except Failure Answer)
  | [] => []
  | step :: rest => (perform step s).answer :: answers (next s step) rest

/-- How many revocations an answer tells of: one if it is a time, and as many as
it says if it is a number. -/
def Answer.told : Except Failure Answer → Nat
  | .ok (.time (some _)) => 1
  | .ok (.count n) => n
  | _ => 0

/-- The row is revoked by the call in this place: it is an active row of the
table when the call is made, and a revoked one afterwards. -/
def WonBy (now : Instant) (s : Session) (order : List Revocation) (k : Nat) (r : Row) : Prop :=
  r.revoked = none
    ∧ r ∈ (run s ((order.take k).map (Revocation.step now))).rows
    ∧ r.ended now ∈ (run s ((order.take (k + 1)).map (Revocation.step now))).rows

instance (now : Instant) (s : Session) (order : List Revocation) (k : Nat) (r : Row) :
    Decidable (WonBy now s order k r) :=
  inferInstanceAs (Decidable (_ ∧ _))

/-! ## One call -/

section

variable {now : Instant} {calls : List Revocation} {rows : List Row}

/-- A call is one update, of the active rows that it covers. -/
theorem perform_step (now : Instant) (call : Revocation) (s : Session) :
    perform (call.step now) s = ⟨.ok (call.answer now (s.rows.countP call.hits)), [],
      s.withRows (updateWhere call.hits (Row.ended now) s.rows)⟩ := by
  cases call with
  | all t => rfl
  | one t i =>
    have htime : (if s.rows.any (isRevocable t i) then some (Timestamp.utc now) else none)
        = if s.rows.countP (isRevocable t i) = 0 then none else some (.utc now) := by
      by_cases hany : s.rows.any (isRevocable t i) = true
      · have hpos : s.rows.countP (isRevocable t i) ≠ 0 :=
          Nat.ne_of_gt (List.countP_pos_iff.2 (List.any_eq_true.1 hany))
        rw [if_pos hany, if_neg hpos]
      · have hzero : s.rows.countP (isRevocable t i) = 0 :=
          List.countP_eq_zero.2 (List.any_eq_false.1 (Bool.eq_false_iff.2 hany))
        rw [if_neg hany, if_pos hzero]
    exact congrArg (fun time => (⟨.ok (.time time), [],
      s.withRows (updateWhere (isRevocable t i) (Row.ended now) s.rows)⟩ : Reply Session Answer))
      htime

theorem next_step (now : Instant) (call : Revocation) (s : Session) :
    next s (call.step now) = s.withRows (updateWhere call.hits (Row.ended now) s.rows) := by
  rw [next, perform_step]

/-- Of rows with distinct names a call tells how many it revokes. -/
theorem told_answer (hkeyed : Keyed rows) (now : Instant) (call : Revocation) :
    Answer.told (.ok (call.answer now (rows.countP call.hits))) = rows.countP call.hits := by
  cases call with
  | all t => rfl
  | one t i =>
    have hle : rows.countP (Revocation.one t i).hits ≤ 1 :=
      hkeyed.countP_le_one fun _ => names_of_isRevocable
    simp only [Revocation.answer]
    split
    · rename_i hzero
      exact hzero.symm
    · simp only [Answer.told]
      omega

/-! ## Lists of calls -/

theorem anyHits_cons (call : Revocation) (r : Row) :
    anyHits (call :: calls) r = (call.hits r || anyHits calls r) := by
  simp only [anyHits, Revocation.hits, List.any_cons, Bool.and_or_distrib_right]

/-- A revoked row is not hit again. -/
theorem anyHits_ended (calls : List Revocation) (now : Instant) (r : Row) :
    anyHits calls (r.ended now) = false :=
  Bool.and_false _

theorem isActive_of_anyHits {r : Row} (h : anyHits calls r = true) : r.revoked = none := by
  simp only [anyHits, Bool.and_eq_true] at h
  exact Option.isNone_iff_eq_none.1 h.2

/-- Only which calls there are counts, not their order. -/
theorem anyHits_of_perm {order : List Revocation} (hperm : order.Perm calls) :
    anyHits order = anyHits calls := by
  funext r
  rw [anyHits, anyHits, hperm.any_eq]

/-- Two revocations, one after the other, are one. -/
theorem updateWhere_anyHits (now : Instant) (call : Revocation) (calls : List Revocation)
    (rows : List Row) :
    updateWhere (anyHits calls) (Row.ended now) (updateWhere call.hits (Row.ended now) rows)
      = updateWhere (anyHits (call :: calls)) (Row.ended now) rows := by
  simp only [updateWhere, List.map_map]
  refine List.map_congr_left fun r _ => ?_
  simp only [Function.comp_apply, anyHits_cons]
  cases hhit : call.hits r with
  | true => simp [anyHits_ended]
  | false => simp

/-- **A list of revocations** is one update, of the active rows that some call
covers. -/
theorem run_revocations (now : Instant) (calls : List Revocation) (s : Session) :
    run s (calls.map (Revocation.step now))
      = s.withRows (updateWhere (anyHits calls) (Row.ended now) s.rows) := by
  induction calls generalizing s with
  | nil =>
    have hsame : updateWhere (anyHits []) (Row.ended now) s.rows = s.rows := List.map_id s.rows
    rw [hsame]
    rfl
  | cons call rest ih =>
    have hrun : run s ((call :: rest).map (Revocation.step now))
        = run (next s (call.step now)) (rest.map (Revocation.step now)) := rfl
    rw [hrun, ih, next_step, Session.rows_withRows, updateWhere_anyHits]
    rfl

/-- A condition on active rows, after a revocation, holds of the rows that were
left active by it. -/
theorem countP_updateWhere_ended {p : Row → Bool} (hp : ∀ r : Row, p (r.ended now) = false)
    (hit : Row → Bool) (rows : List Row) :
    (updateWhere hit (Row.ended now) rows).countP p = rows.countP fun r => p r && !hit r := by
  rw [updateWhere, List.countP_map]
  refine List.countP_congr fun r _ => ?_
  cases hhit : hit r <;> simp [hhit, hp]

/-- The rows that some call hits are those that the first one hits and those
that it leaves to the others. -/
theorem countP_anyHits_cons (call : Revocation) (calls : List Revocation) (rows : List Row) :
    rows.countP (anyHits (call :: calls))
      = rows.countP call.hits + rows.countP fun r => anyHits calls r && !call.hits r := by
  rw [List.countP_eq_countP_filter_add rows _ call.hits, List.countP_filter, List.countP_filter]
  congr 1
  all_goals
    refine List.countP_congr fun r _ => ?_
    rw [anyHits_cons]
    cases call.hits r <;> simp

/-! ## What the answers tell -/

/-- Together the answers tell of every row once. -/
theorem sum_told_answers (now : Instant) (calls : List Revocation) (s : Session)
    (hkeyed : Keyed s.rows) :
    ((answers s (calls.map (Revocation.step now))).map Answer.told).sum
      = s.rows.countP (anyHits calls) := by
  induction calls generalizing s with
  | nil =>
    have hnone : s.rows.countP (anyHits []) = 0 :=
      List.countP_eq_zero.2 fun _ _ => Bool.false_ne_true
    rw [hnone]
    rfl
  | cons call rest ih =>
    have hkeyed' : Keyed (next s (call.step now)).rows := by
      rw [next_step]
      exact hkeyed.updateWhere (Row.sameToken_ended now) call.hits
    have hrest : (next s (call.step now)).rows.countP (anyHits rest)
        = s.rows.countP fun r => anyHits rest r && !call.hits r := by
      rw [next_step, Session.rows_withRows, countP_updateWhere_ended (anyHits_ended rest now)]
    calc ((answers s ((call :: rest).map (Revocation.step now))).map Answer.told).sum
        = Answer.told (perform (call.step now) s).answer
          + ((answers (next s (call.step now)) (rest.map (Revocation.step now))).map
              Answer.told).sum := List.sum_cons
      _ = s.rows.countP call.hits + (next s (call.step now)).rows.countP (anyHits rest) := by
          rw [ih _ hkeyed', perform_step, told_answer hkeyed]
      _ = s.rows.countP (anyHits (call :: rest)) := by
          rw [hrest, countP_anyHits_cons]

/-! ## Who revokes a row -/

/-- After an update, the row of a link is the old one or the changed one. -/
theorem mem_updateWhere_iff (hkeyed : Keyed rows) {r x : Row} (hr : r ∈ rows)
    (hlink : x.link = r.link) (hit : Row → Bool) :
    x ∈ updateWhere hit (Row.ended now) rows ↔ x = if hit r then r.ended now else r := by
  constructor
  · intro hmem
    obtain ⟨r₀, hr₀, rfl⟩ := List.mem_map.1 hmem
    have hsame : r₀ = r := by
      refine hkeyed.eq_of_link hr₀ hr (hlink.symm ▸ ?_)
      split <;> rfl
    rw [hsame]
  · rintro rfl
    exact List.mem_map.2 ⟨r, hr, rfl⟩

variable {s : Session} {order : List Revocation} {k : Nat} {r : Row}

/-- A row is revoked in the first place that hits it. -/
theorem wonBy_iff (hkeyed : Keyed s.rows) (hr : r ∈ s.rows) :
    WonBy now s order k r
      ↔ anyHits (order.take k) r = false ∧ anyHits (order.take (k + 1)) r = true := by
  have hbefore : r ∈ (run s ((order.take k).map (Revocation.step now))).rows
      ↔ r = if anyHits (order.take k) r then r.ended now else r := by
    rw [run_revocations]
    exact mem_updateWhere_iff hkeyed hr rfl _
  have hafter : r.ended now ∈ (run s ((order.take (k + 1)).map (Revocation.step now))).rows
      ↔ r.ended now = if anyHits (order.take (k + 1)) r then r.ended now else r := by
    have hlink : (r.ended now).link = r.link := rfl
    rw [run_revocations]
    exact mem_updateWhere_iff hkeyed hr hlink _
  have hchanged (hactive : r.revoked = none) : r ≠ r.ended now := by
    intro heq
    have hrevoked : r.revoked = some now := congrArg Row.revoked heq
    rw [hactive] at hrevoked
    cases hrevoked
  rw [WonBy, hbefore, hafter]
  constructor
  · rintro ⟨hactive, hkept, hended⟩
    constructor
    · by_contra hhit
      rw [Bool.not_eq_false] at hhit
      rw [if_pos hhit] at hkept
      exact hchanged hactive hkept
    · by_contra hhit
      rw [if_neg hhit] at hended
      exact hchanged hactive hended.symm
  · rintro ⟨hmissed, hhit⟩
    rw [hmissed, hhit]
    exact ⟨isActive_of_anyHits hhit, rfl, rfl⟩

/-- The call in a place revokes the rows it hits that none before it has hit. -/
theorem wonBy_iff_hits (hkeyed : Keyed s.rows) (hr : r ∈ s.rows) {call : Revocation}
    (hcall : order[k]? = some call) :
    WonBy now s order k r ↔ call.hits r = true ∧ anyHits (order.take k) r = false := by
  have htake : anyHits (order.take (k + 1)) r = (anyHits (order.take k) r || call.hits r) := by
    rw [List.take_add_one, hcall]
    simp only [anyHits, Revocation.hits, List.any_append, Option.toList_some, List.any_cons,
      List.any_nil, Bool.or_false, Bool.and_or_distrib_right]
  rw [wonBy_iff hkeyed hr, htake]
  cases anyHits (order.take k) r <;> simp

/-- The answer in a place. -/
theorem getElem?_answers (steps : List Step) (s : Session) (k : Nat) :
    (answers s steps)[k]?
      = steps[k]?.map fun step => (perform step (run s (steps.take k))).answer := by
  induction steps generalizing s k with
  | nil => rfl
  | cons step rest ih =>
    cases k with
    | zero => rfl
    | succ k => exact ih (next s step) k

/-- A call is answered according to the number of the rows that it revokes. -/
theorem answer_counts_wins (hkeyed : Keyed s.rows) {call : Revocation}
    (hcall : order[k]? = some call) :
    (answers s (order.map (Revocation.step now)))[k]?
      = some (.ok (call.answer now (s.rows.countP fun r => WonBy now s order k r))) := by
  have hended : ∀ r : Row, call.hits (r.ended now) = false := fun r => Bool.and_false _
  have hcount : (run s ((order.take k).map (Revocation.step now))).rows.countP call.hits
      = s.rows.countP fun r => WonBy now s order k r := by
    rw [run_revocations, Session.rows_withRows, countP_updateWhere_ended hended]
    refine List.countP_congr fun r hr => ?_
    rw [decide_eq_true_iff, wonBy_iff_hits hkeyed hr hcall, Bool.and_eq_true,
      Bool.not_eq_true']
  rw [getElem?_answers, List.getElem?_map, hcall, Option.map_some, Option.map_some, ← List.map_take,
    perform_step, hcount]

/-- There is one first member with a property. -/
theorem exists_unique_first {α : Type} {p : α → Bool} {l : List α} (h : l.any p = true) :
    ∃! k, (l.take k).any p = false ∧ (l.take (k + 1)).any p = true := by
  induction l with
  | nil => cases h
  | cons x rest ih =>
    cases hx : p x with
    | true =>
      refine ⟨0, by simp [hx], fun k hk => ?_⟩
      cases k with
      | zero => rfl
      | succ k => simp [hx] at hk
    | false =>
      rw [List.any_cons, hx, Bool.false_or] at h
      obtain ⟨k, hk, hunique⟩ := ih h
      refine ⟨k + 1, by simpa [hx] using hk, fun j hj => ?_⟩
      cases j with
      | zero => simp [hx] at hj
      | succ j =>
        rw [hunique j]
        simpa [hx] using hj

/-- A row that some call hits is revoked by one of the calls only. -/
theorem exists_unique_wonBy (hkeyed : Keyed s.rows) (hr : r ∈ s.rows)
    (hhit : anyHits order r = true) : ∃! k, WonBy now s order k r := by
  have hactive : r.isActive = true := Option.isNone_iff_eq_none.2 (isActive_of_anyHits hhit)
  simp only [wonBy_iff hkeyed hr, anyHits, hactive, Bool.and_true] at hhit ⊢
  exact exists_unique_first hhit

/-- A row that no call hits is revoked by none. -/
theorem not_wonBy (hkeyed : Keyed s.rows) (hr : r ∈ s.rows) (hmissed : anyHits order r = false)
    (k : Nat) : ¬ WonBy now s order k r := by
  rw [wonBy_iff hkeyed hr]
  rintro ⟨-, hhit⟩
  simp only [anyHits, Bool.and_eq_true, List.any_eq_true] at hhit
  obtain ⟨⟨call, hcall, hcovers⟩, hactive⟩ := hhit
  have hany : anyHits order r = true := by
    simp only [anyHits, Bool.and_eq_true, List.any_eq_true]
    exact ⟨⟨call, List.mem_of_mem_take hcall, hcovers⟩, hactive⟩
  rw [hmissed] at hany
  cases hany

end

/-- **Revocations commute**: on every table that a session can have made, a list
of revocations at one time, in any order, revokes the active rows that some call
of it is about and changes nothing else. Every such row is revoked by one of the
calls, and each call answers how many rows it has revoked. So the answers have the
same sum in every order, which is the number of the rows. -/
theorem revocations_commute (steps : List Step) (now : Instant) (calls order : List Revocation)
    (hperm : order.Perm calls) :
    let s := run Session.empty steps
    let later := run s (order.map (Revocation.step now))
    let replies := answers s (order.map (Revocation.step now))
    later.rows = (s.rows.map fun r =>
        if anyHits calls r then { r with revoked := some now } else r)
      ∧ later.committed = s.committed
      ∧ (replies.map Answer.told).sum = s.rows.countP (anyHits calls)
      ∧ (∀ (k : Nat) (call : Revocation), order[k]? = some call → replies[k]?
          = some (.ok (call.answer now (s.rows.countP fun r => WonBy now s order k r))))
      ∧ ∀ r ∈ s.rows, (anyHits calls r = true → ∃! k, WonBy now s order k r)
        ∧ (anyHits calls r = false → ∀ k, ¬ WonBy now s order k r) := by
  intro s later replies
  have hkeyed : Keyed s.rows := (sound_run ⟨sound_nil, sound_nil⟩ steps).rows.keyed
  have hlater : later = s.withRows (updateWhere (anyHits order) (Row.ended now) s.rows) :=
    run_revocations now order s
  rw [← anyHits_of_perm hperm, hlater]
  refine ⟨rfl, rfl, sum_told_answers now order s hkeyed, fun k call hcall => ?_,
    fun r hr => ⟨?_, ?_⟩⟩
  · exact answer_counts_wins hkeyed hcall
  · exact exists_unique_wonBy hkeyed hr
  · exact not_wonBy hkeyed hr

/-- A token of an account and a service, and one of the account only, revoked on
behalf of both. Which call has the answer is a matter of the order; the table and
the sum of the answers are not. -/
theorem overlapping_revocations :
    let both : PendingToken :=
      ⟨⟨"d", "me", some "a", some "x", some .live, .card, .api⟩, ⟨"k"⟩, by decide⟩
    let s := run Session.empty [⟨⟨5, none, true⟩, .insert ⟨"g"⟩ both⟩,
      ⟨⟨5, none, true⟩, .insert ⟨"h"⟩ sampleToken⟩]
    let byHash := Revocation.one (.service (some "x") (some .live)) (.hash ⟨"g"⟩)
    let byLink := Revocation.one (.account "a") (.link ⟨"k"⟩)
    let byTenant := Revocation.all (.account "a")
    let first := [byTenant, byHash, byLink].map (Revocation.step 6)
    let second := [byHash, byLink, byTenant].map (Revocation.step 6)
    let ended := [(Row.ofPending 5 ⟨"g"⟩ both).ended 6, (Row.ofPending 5 ⟨"h"⟩ sampleToken).ended 6]
    [byHash, byLink, byTenant].Perm [byTenant, byHash, byLink]
      ∧ (run s first).rows = ended ∧ (run s second).rows = ended
      ∧ ((answers s first).map Answer.told).sum = 2 ∧ (answers s first).map Answer.told = [2, 0, 0]
      ∧ ((answers s second).map Answer.told).sum = 2
      ∧ (answers s second).map Answer.told = [1, 0, 1] := by
  intro both s byHash byLink byTenant first second ended
  let steps : List Step := [⟨⟨5, none, true⟩, .insert ⟨"g"⟩ both⟩,
    ⟨⟨5, none, true⟩, .insert ⟨"h"⟩ sampleToken⟩]
  have hperm : [byHash, byLink, byTenant].Perm [byTenant, byHash, byLink] := by decide
  obtain ⟨hrows, -, hsum, -⟩ := revocations_commute steps 6 [byTenant, byHash, byLink] _ (.refl _)
  obtain ⟨hrows', -, hsum', -⟩ := revocations_commute steps 6 [byTenant, byHash, byLink] _ hperm
  exact ⟨hperm, hrows, hrows', hsum, rfl, hsum', rfl⟩

end BearerTokens.Store
