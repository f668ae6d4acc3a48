/-
BearerTokens.Proofs.PairedReplies — the same operation on two tables.

An operation looks at the table through a few conditions. If they find the same
on two tables, then the replies are the same, and the tables afterwards are
related as the tables before if the updates keep the relation. `Agree` says
this of two replies; there is one lemma for each operation and none of them
says what the relation is.

Issuing is not among them: what a new row is stored under is drawn.
-/
import BearerTokens.Proofs.ServiceSteps

namespace BearerTokens.Service

/-- Two replies with the same answer and reports, and related tables with
nothing pending. -/
structure Agree {α : Type} (related : List Row → List Row → Prop) (draws₁ draws₂ : Draws)
    (r₁ r₂ : Reply Service α) : Prop where
  answer : r₁.answer = r₂.answer
  log : r₁.log = r₂.log
  state : ∃ rows₁ rows₂, r₁.state = settled rows₁ draws₁ ∧ r₂.state = settled rows₂ draws₂
    ∧ related rows₁ rows₂

section

variable {related : List Row → List Row → Prop} {draws₁ draws₂ : Draws} {rows₁ rows₂ : List Row}

theorem agree_settled {α : Type} (h : related rows₁ rows₂) (answer : Except Failure α)
    (log : List Event) :
    Agree related draws₁ draws₂ ⟨answer, log, settled rows₁ draws₁⟩
      ⟨answer, log, settled rows₂ draws₂⟩ :=
  ⟨rfl, rfl, rows₁, rows₂, rfl, rfl, h⟩

theorem Agree.map {α β : Type} {r₁ r₂ : Reply Service α} (h : Agree related draws₁ draws₂ r₁ r₂)
    (f : α → β) : Agree related draws₁ draws₂ (r₁.map f) (r₂.map f) := by
  refine ⟨?_, h.log, h.state⟩
  rw [Reply.map, Reply.map, h.answer]

/-- The same was reported before. -/
theorem Agree.logged {α : Type} {r₁ r₂ : Reply Service α} (h : Agree related draws₁ draws₂ r₁ r₂)
    (log : List Event) :
    Agree related draws₁ draws₂ { r₁ with log := log ++ r₁.log } { r₂ with log := log ++ r₂.log } :=
  ⟨h.answer, congrArg (log ++ ·) h.log, h.state⟩

variable (h : related rows₁ rows₂) (c : Conditions)

/-! ## Look-ups -/

include h

theorem agree_list (t : Tenant) (state : State) (source : Source)
    (hlisted : ((rows₁.filter (Store.isListed t state source)).mergeSort Row.listedBefore).map
        Row.entity
      = ((rows₂.filter (Store.isListed t state source)).mergeSort Row.listedBefore).map
        Row.entity) :
    Agree related draws₁ draws₂ (list c (settled rows₁ draws₁) t state source)
      (list c (settled rows₂ draws₂) t state source) := by
  rw [list_settled, list_settled, hlisted]
  cases c.selectError? <;> exact agree_settled h _ _

theorem agree_get (l : Link) (t : Option Tenant)
    (hfound : (rows₁.find? fun r => r.link == l && ownedBy t r).map Row.entity
      = (rows₂.find? fun r => r.link == l && ownedBy t r).map Row.entity) :
    Agree related draws₁ draws₂ (get c (settled rows₁ draws₁) l t)
      (get c (settled rows₂ draws₂) l t) := by
  rw [get_settled, get_settled, hfound]
  cases c.selectError? <;> exact agree_settled h _ _

/-! ## Keys -/

omit h in
theorem agree_useHash {h₁ h₂ : StorageHash} (hreport : c.touchReport h₁ = c.touchReport h₂)
    (hfound : (rows₁.find? (Store.isActiveHash h₁)).map (fun r => (c.touch r).entity)
      = (rows₂.find? (Store.isActiveHash h₂)).map fun r => (c.touch r).entity)
    (hrows : related (updateWhere (Store.isActiveHash h₁) c.touch rows₁)
      (updateWhere (Store.isActiveHash h₂) c.touch rows₂)) :
    Agree related draws₁ draws₂ (useHash c (settled rows₁ draws₁) h₁)
      (useHash c (settled rows₂ draws₂) h₂) := by
  rw [useHash_settled, useHash_settled, hfound, hreport]
  exact agree_settled hrows _ _

omit h in
theorem agree_authenticate {codec₁ codec₂ : Codec} {key₁ key₂ : String} {h₁ h₂ : StorageHash}
    {log : List Event} (hcheck₁ : codec₁.check key₁ = ⟨.ok (some h₁), log⟩)
    (hcheck₂ : codec₂.check key₂ = ⟨.ok (some h₂), log⟩)
    (huse : Agree related draws₁ draws₂ (useHash c (settled rows₁ draws₁) h₁)
      (useHash c (settled rows₂ draws₂) h₂)) :
    Agree related draws₁ draws₂ (authenticate codec₁ c (settled rows₁ draws₁) key₁)
      (authenticate codec₂ c (settled rows₂ draws₂) key₂) := by
  simp only [authenticate, hcheck₁, hcheck₂]
  exact huse.logged log

/-- A refusal goes by what is shown of the row, whether it is revoked included. -/
theorem agree_refuse {h₁ h₂ : StorageHash}
    (hfound : (rows₁.find? fun r => r.hash == h₁).map Row.entity
      = (rows₂.find? fun r => r.hash == h₂).map Row.entity) :
    Agree related draws₁ draws₂ (refuse c (settled rows₁ draws₁) h₁)
      (refuse c (settled rows₂ draws₂) h₂) := by
  rw [refuse_settled, refuse_settled]
  cases c.selectError? with
  | some e => exact agree_settled h _ _
  | none =>
    generalize rows₁.find? (fun r => r.hash == h₁) = found₁ at hfound
    generalize rows₂.find? (fun r => r.hash == h₂) = found₂ at hfound
    cases found₁ with
    | none =>
      rw [Option.map_none, eq_comm, Option.map_eq_none_iff] at hfound
      subst hfound
      exact agree_settled h _ _
    | some r₁ =>
      rw [Option.map_some, eq_comm, Option.map_eq_some_iff] at hfound
      obtain ⟨r₂, rfl, hentity⟩ := hfound
      have hlink : r₂.link = r₁.link := congrArg Entity.link hentity
      have hrevoked : r₂.revoked.isSome = r₁.revoked.isSome := by
        simpa [Row.entity] using congrArg (fun e => e.revoked.isSome) hentity
      dsimp only
      rw [hlink, hrevoked]
      split <;> exact agree_settled h _ _

theorem agree_authenticateOrRefuse {codec₁ codec₂ : Codec} {key₁ key₂ : String}
    {h₁ h₂ : StorageHash} {log : List Event} (hcheck₁ : codec₁.check key₁ = ⟨.ok (some h₁), log⟩)
    (hcheck₂ : codec₂.check key₂ = ⟨.ok (some h₂), log⟩)
    (hreport : c.touchReport h₁ = c.touchReport h₂)
    (hactive : (rows₁.find? (Store.isActiveHash h₁)).map (fun r => (c.touch r).entity)
      = (rows₂.find? (Store.isActiveHash h₂)).map fun r => (c.touch r).entity)
    (hfound : (rows₁.find? fun r => r.hash == h₁).map Row.entity
      = (rows₂.find? fun r => r.hash == h₂).map Row.entity)
    (hrows : related (updateWhere (Store.isActiveHash h₁) c.touch rows₁)
      (updateWhere (Store.isActiveHash h₂) c.touch rows₂)) :
    Agree related draws₁ draws₂ (authenticateOrRefuse codec₁ c (settled rows₁ draws₁) key₁)
      (authenticateOrRefuse codec₂ c (settled rows₂ draws₂) key₂) := by
  rw [authenticateOrRefuse_settled codec₁ c rows₁ draws₁ hcheck₁,
    authenticateOrRefuse_settled codec₂ c rows₂ draws₂ hcheck₂, hreport]
  generalize rows₁.find? (Store.isActiveHash h₁) = active₁ at hactive
  generalize rows₂.find? (Store.isActiveHash h₂) = active₂ at hactive
  cases active₁ with
  | none =>
    rw [Option.map_none, eq_comm, Option.map_eq_none_iff] at hactive
    subst hactive
    exact (agree_refuse h c hfound).logged _
  | some r₁ =>
    rw [Option.map_some, eq_comm, Option.map_eq_some_iff] at hactive
    obtain ⟨r₂, rfl, hentity⟩ := hactive
    dsimp only
    rw [hentity]
    exact agree_settled hrows _ _

/-! ## Changes -/

theorem agree_describe (l : Link) (description : String) (t : Option Tenant)
    (hany : rows₁.any (Store.isActiveLink l t) = rows₂.any (Store.isActiveLink l t))
    (hrows : related (updateWhere (Store.isActiveLink l t) (Row.described description) rows₁)
      (updateWhere (Store.isActiveLink l t) (Row.described description) rows₂))
    (hfound : ((updateWhere (Store.isActiveLink l t) (Row.described description) rows₁).find?
        fun r => r.link == l && ownedBy t r).map Row.entity
      = ((updateWhere (Store.isActiveLink l t) (Row.described description) rows₂).find?
        fun r => r.link == l && ownedBy t r).map Row.entity) :
    Agree related draws₁ draws₂ (describe c (settled rows₁ draws₁) l description t)
      (describe c (settled rows₂ draws₂) l description t) := by
  rw [describe_settled, describe_settled, hany]
  cases c.updateError? with
  | some e => exact agree_settled h _ _
  | none =>
    cases rows₂.any (Store.isActiveLink l t) with
    | true =>
      simp only [if_true, hfound]
      exact agree_settled hrows _ _
    | false => exact agree_settled h _ _

omit h in
theorem agree_reportRevoked {α : Type} (h : related rows₁ rows₂) (t : Tenant)
    (event : String → Event) (answer : α) (log : List Event) :
    Agree related draws₁ draws₂ (reportRevoked (settled rows₁ draws₁) t event answer log)
      (reportRevoked (settled rows₂ draws₂) t event answer log) := by
  unfold reportRevoked
  split <;> exact agree_settled h _ _

/-- The names may differ, but not in which column they are looked up. -/
theorem agree_revokeNamed (t : Tenant) {i₁ i₂ : Identifier} (hcolumn : i₁.column = i₂.column)
    (hany : rows₁.any (Store.isRevocable t i₁) = rows₂.any (Store.isRevocable t i₂))
    (hrows : related (updateWhere (Store.isRevocable t i₁) (Row.ended c.now) rows₁)
      (updateWhere (Store.isRevocable t i₂) (Row.ended c.now) rows₂)) :
    Agree related draws₁ draws₂ (revokeNamed c (settled rows₁ draws₁) t i₁)
      (revokeNamed c (settled rows₂ draws₂) t i₂) := by
  rw [revokeNamed_settled, revokeNamed_settled, hany, hcolumn]
  cases c.updateError? with
  | some e => exact agree_settled h _ _
  | none =>
    cases rows₂.any (Store.isRevocable t i₂) with
    | true => exact agree_reportRevoked hrows t _ _ _
    | false => exact agree_settled h _ _

theorem agree_revokeTenant (t : Tenant)
    (hcount : rows₁.countP (Store.isActiveOf t) = rows₂.countP (Store.isActiveOf t))
    (hrows : related (updateWhere (Store.isActiveOf t) (Row.ended c.now) rows₁)
      (updateWhere (Store.isActiveOf t) (Row.ended c.now) rows₂)) :
    Agree related draws₁ draws₂ (revokeTenant c (settled rows₁ draws₁) t)
      (revokeTenant c (settled rows₂ draws₂) t) := by
  rw [revokeTenant_settled, revokeTenant_settled, hcount]
  cases c.updateError? with
  | some e => exact agree_settled h _ _
  | none => exact agree_reportRevoked hrows t _ _ _

end

end BearerTokens.Service
