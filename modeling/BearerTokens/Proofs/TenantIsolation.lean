/-
BearerTokens.Proofs.TenantIsolation — a tenant deals with its own rows only.

What an operation on behalf of a tenant looks for, it looks for among the
tenant's rows: each condition that it puts to the table `Covers` no others. So
the operation can be carried out on a table from which all other rows are
removed, with the same reply (`agree_perform_ownRows`). Two tables that agree on
the tenant's rows are the same table to it, which is the law of two runs.

The other half is `Untouched`: to all others nothing has happened. Neither half
needs distinct names, and none of it depends on the conditions.
-/
import BearerTokens.Proofs.PairedReplies

namespace BearerTokens

/-! ## A tenant's rows -/

namespace Tenant

/-- The rows of the tenant, in their order. -/
def ownRows (t : Tenant) (rows : List Row) : List Row :=
  rows.filter t.owns

/-- The condition holds of rows of the tenant only. -/
def Covers (t : Tenant) (p : Row → Bool) : Prop :=
  ∀ r, p r = true → t.owns r = true

/-- The second table is the first one to everyone but the tenant: a row of
someone else is in a place exactly if it was there. -/
structure Untouched (t : Tenant) (old new : List Row) : Prop where
  length_eq : new.length = old.length
  getElem?_iff : ∀ (i : Nat) (r : Row), t.owns r = false → (new[i]? = some r ↔ old[i]? = some r)

theorem Untouched.refl (t : Tenant) (rows : List Row) : t.Untouched rows rows :=
  ⟨rfl, fun _ _ _ => Iff.rfl⟩

/-- The third table is the tenant's part of the second one, which is the first
one to everyone else. -/
structure Isolates (t : Tenant) (old new own : List Row) : Prop where
  own_eq : own = t.ownRows new
  untouched : t.Untouched old new

theorem isolates_ownRows (t : Tenant) (rows : List Row) : t.Isolates rows rows (t.ownRows rows) :=
  ⟨rfl, .refl t rows⟩

/-- A change of a row that leaves it with its owners. -/
def Keeps (t : Tenant) (f : Row → Row) : Prop :=
  ∀ r, t.owns (f r) = t.owns r

theorem keeps_described (t : Tenant) (description : String) :
    t.Keeps (Row.described description) := by
  intro r
  cases t <;> rfl

theorem keeps_ended (t : Tenant) (now : Instant) : t.Keeps (Row.ended now) := by
  intro r
  cases t <;> rfl

/-! ### Conditions of the statements -/

theorem covers_isListed (t : Tenant) (state : State) (source : Source) :
    t.Covers (Store.isListed t state source) := by
  intro r hp
  simp only [Store.isListed, Bool.and_eq_true] at hp
  exact hp.1.1

theorem covers_link (t : Tenant) (l : Link) :
    t.Covers fun r => r.link == l && ownedBy (some t) r := by
  intro r hp
  rw [Bool.and_eq_true] at hp
  exact hp.2

theorem covers_isActiveLink (t : Tenant) (l : Link) : t.Covers (Store.isActiveLink l (some t)) := by
  intro r hp
  simp only [Store.isActiveLink, Bool.and_eq_true] at hp
  exact hp.2

theorem covers_isRevocable (t : Tenant) (i : Identifier) : t.Covers (Store.isRevocable t i) := by
  intro r hp
  simp only [Store.isRevocable, Bool.and_eq_true] at hp
  exact hp.1.1

theorem covers_isActiveOf (t : Tenant) : t.Covers (Store.isActiveOf t) := by
  intro r hp
  simp only [Store.isActiveOf, Bool.and_eq_true] at hp
  exact hp.1

/-! ### Queries and updates among the tenant's rows -/

section

variable {t : Tenant} {p : Row → Bool}

theorem Covers.owns_and (h : t.Covers p) : (fun r => t.owns r && p r) = p := by
  funext r
  cases hp : p r with
  | true => rw [h r hp, Bool.and_self]
  | false => rw [Bool.and_false]

theorem Covers.find?_ownRows (h : t.Covers p) (rows : List Row) :
    (t.ownRows rows).find? p = rows.find? p := by
  simp only [ownRows, List.find?_filter, Bool.decide_and, Bool.decide_eq_true, h.owns_and]

theorem Covers.any_ownRows (h : t.Covers p) (rows : List Row) :
    (t.ownRows rows).any p = rows.any p := by
  rw [ownRows, List.any_filter, h.owns_and]

theorem Covers.filter_ownRows (h : t.Covers p) (rows : List Row) :
    (t.ownRows rows).filter p = rows.filter p := by
  rw [ownRows, List.filter_filter]
  simp only [Bool.and_comm (p _), h.owns_and]

theorem Covers.countP_ownRows (h : t.Covers p) (rows : List Row) :
    (t.ownRows rows).countP p = rows.countP p := by
  rw [List.countP_eq_length_filter, List.countP_eq_length_filter, h.filter_ownRows]

/-- To update and to look away from the others can be exchanged. -/
theorem Keeps.ownRows_updateWhere {f : Row → Row} (hf : t.Keeps f) (p : Row → Bool)
    (rows : List Row) : t.ownRows (updateWhere p f rows) = updateWhere p f (t.ownRows rows) := by
  have howns : (t.owns ∘ fun r => if p r then f r else r) = t.owns := by
    funext r
    rw [Function.comp_apply]
    split
    · exact hf r
    · rfl
  rw [ownRows, updateWhere, List.filter_map, howns]
  rfl

/-- An update that is meant for the tenant's rows leaves the others. -/
theorem Covers.untouched (h : t.Covers p) {f : Row → Row} (hf : t.Keeps f) (rows : List Row) :
    t.Untouched rows (updateWhere p f rows) where
  length_eq := List.length_map _
  getElem?_iff i r hr := by
    rw [updateWhere, List.getElem?_map]
    cases hold : rows[i]? with
    | none => simp
    | some old =>
      simp only [Option.map_some, Option.some.injEq]
      cases hp : p old with
      | true =>
        -- The row is the tenant's before and after, and therefore not `r`.
        have hne : ∀ x, t.owns x = true → x ≠ r := by
          rintro x hx rfl
          exact absurd (hx.symm.trans hr) (by decide)
        simp [hne old (h old hp), hne (f old) ((hf old).trans (h old hp))]
      | false => simp

/-- The same update on both sides. -/
theorem Covers.isolates_updateWhere (h : t.Covers p) {f : Row → Row} (hf : t.Keeps f)
    (rows : List Row) : t.Isolates rows (updateWhere p f rows) (updateWhere p f (t.ownRows rows)) :=
  ⟨(hf.ownRows_updateWhere p rows).symm, h.untouched hf rows⟩

end

end Tenant

/-! ## Operations on behalf of a tenant -/

namespace Service

/-- Is it an operation on behalf of the tenant? -/
def Operation.IsScopedTo (t : Tenant) : Operation → Prop
  | list t' _ _ | get _ (some t') | describe _ _ (some t') | revoke t' _ _ | revokeTenant t' =>
    t' = t
  | _ => False

section

variable (codec : Codec) (c : Conditions) (t : Tenant) (rows : List Row) (draws draws' : Draws)

theorem agree_revoke_ownRows (link : Option Link) (key : Option String) :
    Agree (t.Isolates rows) draws draws' (revoke codec c (settled rows draws) t link key)
      (revoke codec c (settled (t.ownRows rows) draws') t link key) := by
  have hstay := t.isolates_ownRows rows
  have hnamed (i : Identifier) :
      Agree (t.Isolates rows) draws draws' (revokeNamed c (settled rows draws) t i)
        (revokeNamed c (settled (t.ownRows rows) draws') t i) := by
    have hcovers := t.covers_isRevocable i
    refine agree_revokeNamed hstay c t rfl ?_ ?_
    · rw [hcovers.any_ownRows]
    · exact hcovers.isolates_updateWhere (t.keeps_ended c.now) rows
  cases link with
  | some l => exact hnamed (.link l)
  | none =>
    cases key with
    | none => exact agree_settled hstay _ _
    | some key =>
      -- The check of a key does not look at the table.
      simp only [revoke]
      cases (codec.check key).hash? with
      | error e => exact agree_settled hstay _ _
      | ok h? =>
        cases h? with
        | none => exact agree_settled hstay _ _
        | some h => exact (hnamed (.hash h)).logged _

/-- **One step** on behalf of a tenant is a step on the tenant's rows. -/
theorem agree_perform_ownRows {operation : Operation} (hscoped : operation.IsScopedTo t) :
    Agree (t.Isolates rows) draws draws' (perform codec ⟨c, operation⟩ (settled rows draws))
      (perform codec ⟨c, operation⟩ (settled (t.ownRows rows) draws')) := by
  have hstay := t.isolates_ownRows rows
  cases operation with
  | issue | authenticate | authenticateOrRefuse => exact hscoped.elim
  | list t' state source =>
    cases hscoped
    refine (agree_list hstay c t state source ?_).map _
    rw [(t.covers_isListed state source).filter_ownRows]
  | get l t? =>
    cases t? with
    | none => exact hscoped.elim
    | some t' =>
      cases hscoped
      refine (agree_get hstay c l (some t) ?_).map _
      rw [(t.covers_link l).find?_ownRows]
  | describe l description t? =>
    cases t? with
    | none => exact hscoped.elim
    | some t' =>
      cases hscoped
      have hcovers := t.covers_isActiveLink l
      have hkeeps := t.keeps_described description
      refine (agree_describe hstay c l description (some t) ?_ ?_ ?_).map _
      · rw [hcovers.any_ownRows]
      · exact hcovers.isolates_updateWhere hkeeps rows
      · rw [← hkeeps.ownRows_updateWhere, (t.covers_link l).find?_ownRows]
  | revoke t' link key =>
    cases hscoped
    exact (agree_revoke_ownRows codec c t rows draws draws' link key).map _
  | revokeTenant t' =>
    cases hscoped
    have hcovers := t.covers_isActiveOf
    refine (agree_revokeTenant hstay c t ?_ ?_).map _
    · rw [hcovers.countP_ownRows]
    · exact hcovers.isolates_updateWhere (t.keeps_ended c.now) rows

end

/-! ## Two runs -/

/-- **Tenant isolation**: if two tables agree on the rows of a tenant, then so
do the replies to any operation on behalf of the tenant and the tenant's rows
afterwards, and in both tables every other row stays as it is where it is. -/
theorem tenant_isolation (codec : Codec) (c : Conditions) {t : Tenant} {operation : Operation}
    (hscoped : operation.IsScopedTo t) {rows₁ rows₂ : List Row}
    (hrows : t.ownRows rows₁ = t.ownRows rows₂) (draws₁ draws₂ : Draws) :
    let r₁ := perform codec ⟨c, operation⟩ (settled rows₁ draws₁)
    let r₂ := perform codec ⟨c, operation⟩ (settled rows₂ draws₂)
    r₁.answer = r₂.answer ∧ r₁.log = r₂.log
      ∧ ∃ rows₁' rows₂', r₁.state = settled rows₁' draws₁ ∧ r₂.state = settled rows₂' draws₂
        ∧ t.ownRows rows₁' = t.ownRows rows₂'
        ∧ t.Untouched rows₁ rows₁' ∧ t.Untouched rows₂ rows₂' := by
  intro r₁ r₂
  -- Both replies agree with the one on the tenant's rows alone.
  have h₁ := agree_perform_ownRows codec c t rows₁ draws₁ draws₁ hscoped
  have h₂ := agree_perform_ownRows codec c t rows₂ draws₂ draws₁ hscoped
  rw [hrows] at h₁
  obtain ⟨rows₁', own₁, hstate₁, hown₁, hisolates₁⟩ := h₁.state
  obtain ⟨rows₂', own₂, hstate₂, hown₂, hisolates₂⟩ := h₂.state
  have hown : own₁ = own₂ :=
    congrArg (fun s : Service => s.session.rows) (hown₁.symm.trans hown₂)
  refine ⟨h₁.answer.trans h₂.answer.symm, h₁.log.trans h₂.log.symm, rows₁', rows₂', hstate₁,
    hstate₂, ?_, hisolates₁.untouched, hisolates₂.untouched⟩
  rw [← hisolates₁.own_eq, ← hisolates₂.own_eq, hown]

/-- A service without a mode, which has one token in the name of an account as
well. In one table the same service has another token in a mode, in the other
table the account has a token of its own. -/
theorem revoked_without_mode :
    let t : Tenant := .service (some "x") none
    let row (hash link : String) (account service : Option String) (mode : Option Mode) : Row :=
      ⟨⟨hash⟩, ⟨link⟩, ⟨"d", "me", account, service, mode, .card, .api⟩, 1, none, none⟩
    let own := row "h" "l" (some "a") (some "x") none
    let inMode := row "i" "m" none (some "x") (some .live)
    let ofAccount := row "j" "n" (some "a") none none
    let operation := Operation.revokeTenant t
    let r (rows : List Row) := perform Codec.sample ⟨⟨5, none, true⟩, operation⟩
      (settled rows Draws.sample)
    operation.IsScopedTo t ∧ t.ownRows [inMode, own] = t.ownRows [own, ofAccount]
      ∧ (r [inMode, own]).state.session = Session.opened [inMode, own.ended 5]
      ∧ (r [own, ofAccount]).state.session = Session.opened [own.ended 5, ofAccount]
      ∧ (r [inMode, own]).answer = (r [own, ofAccount]).answer
      ∧ (r [inMode, own]).log = (r [own, ofAccount]).log := by
  intro t row own inMode ofAccount operation r
  have hscoped : operation.IsScopedTo t := rfl
  have hrows : t.ownRows [inMode, own] = t.ownRows [own, ofAccount] := rfl
  have hsame :=
    tenant_isolation Codec.sample ⟨5, none, true⟩ hscoped hrows Draws.sample Draws.sample
  exact ⟨hscoped, hrows, by rfl, by rfl, hsame.1, hsame.2.1⟩

end Service
end BearerTokens
