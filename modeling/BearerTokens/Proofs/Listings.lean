/-
BearerTokens.Proofs.Listings — a listing has the rows that it should have, once each and in one order.

What a listing should be is said without sorting. `Lists` asks of a list of rows
that it has the tenant's rows in one state from one source and no others, that
no link is in it twice, and that each row precedes all that come later. There is
at most one such list (`Lists.unique`), so that it cannot depend on the order in
which the table holds its rows.

Distinct links are used twice. They put rows of one instant into a strict order,
and they keep a row from being listed twice. On a table that has a link twice,
the order would be that of the table.
-/
import BearerTokens.Proofs.RowOwners
import Mathlib.Data.List.ProdSigma

namespace BearerTokens

/-! ## The order of a listing -/

/-- The numbers of the characters of a link. -/
def Link.codePoints (l : Link) : List Nat :=
  l.value.toList.map Char.toNat

theorem Link.codePoints_lt {a b : Link} (h : a.value < b.value) : a.codePoints < b.codePoints :=
  List.map_lt (fun _ _ hchar => hchar) (String.lt_iff.1 h)

namespace Row

/-- The first row is newer, or both are of one instant and its link comes first
by code points. -/
def Precedes (a b : Row) : Prop :=
  b.issued < a.issued ∨ a.issued = b.issued ∧ a.link.codePoints < b.link.codePoints

theorem Precedes.asymm {a b : Row} (h : a.Precedes b) : ¬ b.Precedes a := by
  rintro (hlater | ⟨hsame, hlink⟩)
  · rcases h with hlater' | ⟨hsame', -⟩
    · exact Int.lt_asymm hlater hlater'
    · exact Int.ne_of_lt hlater hsame'
  · rcases h with hlater' | ⟨-, hlink'⟩
    · exact Int.ne_of_lt hlater' hsame
    · exact List.lt_asymm hlink' hlink

/-! ### The comparison -/

theorem listedBefore_iff {a b : Row} : a.listedBefore b = true
    ↔ b.issued < a.issued ∨ a.issued = b.issued ∧ a.link.value ≤ b.link.value := by
  simp [listedBefore]

theorem listedBefore_trans (a b c : Row) (hab : a.listedBefore b = true)
    (hbc : b.listedBefore c = true) : a.listedBefore c = true := by
  rw [listedBefore_iff] at hab hbc ⊢
  rcases hab with hab | ⟨hab, hlink⟩
  · rcases hbc with hbc | ⟨hbc, -⟩
    · exact Or.inl (Int.lt_trans hbc hab)
    · exact Or.inl (hbc ▸ hab)
  · rcases hbc with hbc | ⟨hbc, hlink'⟩
    · exact Or.inl (hab ▸ hbc)
    · exact Or.inr ⟨hab.trans hbc, String.le_trans hlink hlink'⟩

theorem listedBefore_total (a b : Row) : (a.listedBefore b || b.listedBefore a) = true := by
  rw [Bool.or_eq_true, listedBefore_iff, listedBefore_iff]
  rcases Int.lt_trichotomy a.issued b.issued with hlt | heq | hgt
  · exact Or.inr (Or.inl hlt)
  · rcases String.le_total a.link.value b.link.value with hle | hle
    · exact Or.inl (Or.inr ⟨heq, hle⟩)
    · exact Or.inr (Or.inr ⟨heq.symm, hle⟩)
  · exact Or.inl (Or.inl hgt)

/-- Of rows with different links the comparison is strict. -/
theorem precedes_of_listedBefore {a b : Row} (h : a.listedBefore b = true)
    (hne : a.link ≠ b.link) : a.Precedes b := by
  rcases listedBefore_iff.1 h with hlater | ⟨hsame, hle⟩
  · exact Or.inl hlater
  · refine Or.inr ⟨hsame, Link.codePoints_lt ?_⟩
    rw [← String.not_le]
    intro hge
    exact hne (congrArg Link.mk (String.le_antisymm hle hge))

end Row

/-! ## What a listing should be -/

/-- The list has the tenant's rows in this state from this source, each once,
and in the order of a listing. -/
structure Lists (rows : List Row) (t : Tenant) (state : State) (source : Source)
    (listed : List Row) : Prop where
  mem_iff : ∀ r, r ∈ listed ↔ r ∈ rows ∧ t.owns r = true ∧ (r.revoked = none ↔ state = .active)
    ∧ r.metadata.source = source
  once : (listed.map Row.link).Nodup
  ordered : listed.Pairwise Row.Precedes

section

variable {rows rows' listed listed' : List Row} {t : Tenant} {state state' : State}
  {source source' : Source}

theorem Lists.nodup (h : Lists rows t state source listed) : listed.Nodup :=
  h.once.of_map

/-- Two tables with the same rows have the same listing. -/
theorem Lists.unique (h : Lists rows t state source listed)
    (h' : Lists rows' t state source listed') (hrows : ∀ r, r ∈ rows ↔ r ∈ rows') :
    listed = listed' := by
  have hperm : listed.Perm listed' := by
    rw [List.perm_ext_iff_of_nodup h.nodup h'.nodup]
    intro r
    rw [h.mem_iff, h'.mem_iff, hrows]
  exact hperm.eq_of_pairwise (fun a b _ _ hab hba => absurd hba hab.asymm) h.ordered h'.ordered

/-- A row is in one listing only, since it says in which. -/
theorem Lists.disjoint (h : Lists rows t state source listed)
    (h' : Lists rows t state' source' listed') (hne : (state, source) ≠ (state', source')) :
    listed.Disjoint listed' := by
  intro r hr hr'
  obtain ⟨-, -, hstate, hsource⟩ := (h.mem_iff r).1 hr
  obtain ⟨-, -, hstate', hsource'⟩ := (h'.mem_iff r).1 hr'
  have heq : state = .active ↔ state' = .active := hstate.symm.trans hstate'
  refine hne (Prod.ext ?_ (hsource.symm.trans hsource'))
  cases state <;> cases state' <;> simp_all

/-- The listings in all states from all sources, one after the other. -/
def allListings (listed : State → Source → List Row) : List Row :=
  ((Tag.members : List State).product (Tag.members : List Source)).flatMap fun p => listed p.1 p.2

theorem mem_members_state (state : State) : state ∈ (Tag.members : List State) := by
  cases state <;> decide

theorem mem_members_source (source : Source) : source ∈ (Tag.members : List Source) := by
  cases source <;> decide

/-- Together, the listings have each row of the tenant once. -/
theorem perm_allListings {listed : State → Source → List Row} (hkeyed : Keyed rows)
    (h : ∀ state source, Lists rows t state source (listed state source)) :
    (allListings listed).Perm (rows.filter t.owns) := by
  have hnodup : (allListings listed).Nodup := by
    rw [allListings, List.nodup_flatMap]
    refine ⟨fun p _ => (h p.1 p.2).nodup, ?_⟩
    have hpairs : ((Tag.members : List State).product (Tag.members : List Source)).Nodup := by
      decide
    exact hpairs.imp fun hne => (h _ _).disjoint (h _ _) hne
  rw [List.perm_ext_iff_of_nodup hnodup (hkeyed.links.of_map.filter _)]
  intro r
  rw [allListings, List.mem_flatMap, List.mem_filter]
  constructor
  · rintro ⟨p, -, hr⟩
    obtain ⟨hmem, howns, -, -⟩ := ((h p.1 p.2).mem_iff r).1 hr
    exact ⟨hmem, howns⟩
  · rintro ⟨hmem, howns⟩
    let state : State := if r.revoked = none then .active else .revoked
    refine ⟨(state, r.metadata.source), ?_, ((h _ _).mem_iff r).2 ⟨hmem, howns, ?_, rfl⟩⟩
    · exact List.pair_mem_product.2 ⟨mem_members_state _, mem_members_source _⟩
    · by_cases hrevoked : r.revoked = none <;> simp [state, hrevoked]

end

/-! ## What a listing is -/

namespace Store

theorem isListed_iff {t : Tenant} {state : State} {source : Source} {r : Row} :
    isListed t state source r = true ↔ t.owns r = true ∧ (r.revoked = none ↔ state = .active)
      ∧ r.metadata.source = source := by
  have hstate : state.holds r = true ↔ (r.revoked = none ↔ state = .active) := by
    cases state with
    | active => simp [State.holds, Row.isActive]
    | revoked => simp [State.holds, Row.isActive, ← Option.isSome_iff_ne_none]
  simp only [isListed, Bool.and_eq_true, beq_iff_eq, hstate, and_assoc]

/-- The rows in question, once they are sorted, are what a listing should be. -/
theorem lists_of_perm {rows listed : List Row} {t : Tenant} {state : State} {source : Source}
    (hkeyed : Keyed rows) (hperm : listed.Perm (rows.filter (isListed t state source)))
    (hsorted : listed.Pairwise fun a b => a.listedBefore b = true) :
    Lists rows t state source listed := by
  have honce : (listed.map Row.link).Nodup := by
    rw [(hperm.map Row.link).nodup_iff]
    exact hkeyed.links.sublist (List.filter_sublist.map Row.link)
  refine ⟨fun r => ?_, honce, ?_⟩
  · rw [hperm.mem_iff, List.mem_filter, isListed_iff]
  · exact (hsorted.and (List.pairwise_map.1 honce)).imp fun h =>
      Row.precedes_of_listedBefore h.1 h.2

theorem lists_mergeSort {rows : List Row} (hkeyed : Keyed rows) (t : Tenant) (state : State)
    (source : Source) :
    Lists rows t state source
      ((rows.filter (isListed t state source)).mergeSort Row.listedBefore) :=
  lists_of_perm hkeyed (List.mergeSort_perm _ _)
    (List.pairwise_mergeSort Row.listedBefore_trans Row.listedBefore_total _)

theorem listing_eq {c : Conditions} (hc : c.selectError? = none) (s : Session) (t : Tenant)
    (state : State) (source : Source) :
    listing c s t state source
      = ⟨.ok (((s.rows.filter (isListed t state source)).mergeSort Row.listedBefore).map
          Row.entity), [], s⟩ := by
  simp only [listing, select, hc]

/-- **Listings are exact**: on every table that a session can have made, a
listing answers with the tenant's rows in the state from the source that is
asked for, each of them once, the newest first and those of one instant by their
links. It answers alike on any table that has the same rows in another order.
And the listings in all states from all sources have, together, each row of the
tenant once. -/
theorem listing_is_exact (steps : List Step) (c : Conditions) (hc : c.selectError? = none)
    (t : Tenant) :
    let s := run Session.empty steps
    ∃ listed : State → Source → List Row,
      (∀ state source, Lists s.rows t state source (listed state source)
        ∧ listing c s t state source = ⟨.ok ((listed state source).map Row.entity), [], s⟩
        ∧ ∀ other : Session, other.rows.Perm s.rows →
          listing c other t state source
            = ⟨.ok ((listed state source).map Row.entity), [], other⟩)
      ∧ (allListings listed).Perm (s.rows.filter t.owns)
      ∧ ((allListings listed).map Row.link).Nodup := by
  intro s
  have hkeyed : Keyed s.rows := (sound_run ⟨sound_nil, sound_nil⟩ steps).rows.keyed
  let listed (state : State) (source : Source) : List Row :=
    (s.rows.filter (isListed t state source)).mergeSort Row.listedBefore
  have hlists : ∀ state source, Lists s.rows t state source (listed state source) :=
    lists_mergeSort hkeyed t
  have htogether : (allListings listed).Perm (s.rows.filter t.owns) :=
    perm_allListings hkeyed hlists
  refine ⟨listed, fun state source => ⟨hlists state source, listing_eq hc s t state source, ?_⟩,
    htogether, ?_⟩
  · intro other hperm
    -- The other table has distinct names, too, and so the same listing.
    have hkeyed' : Keyed other.rows :=
      ⟨((hperm.map Row.hash).nodup_iff).2 hkeyed.hashes,
        ((hperm.map Row.link).nodup_iff).2 hkeyed.links⟩
    have hsame := (lists_mergeSort hkeyed' t state source).unique (hlists state source)
      fun r => hperm.mem_iff
    rw [listing_eq hc, hsame]
  · rw [(htogether.map Row.link).nodup_iff]
    exact hkeyed.links.sublist (List.filter_sublist.map Row.link)

/-- Two tokens of one instant, the first of them with the greater link, a newer
one, and one that is revoked. Neither the order in which they were stored nor a
refusal of updates matters. -/
theorem newest_first_then_by_link :
    let token (link : String) (service : Option String) : PendingToken :=
      ⟨⟨"d", "me", some "a", service, none, .card, .api⟩, ⟨link⟩, Or.inl rfl⟩
    let steps : List Step :=
      [⟨⟨5, none, true⟩, .insert ⟨"h"⟩ (token "m" none)⟩,
        ⟨⟨5, none, true⟩, .insert ⟨"i"⟩ (token "l" (some "x"))⟩,
        ⟨⟨6, none, true⟩, .insert ⟨"j"⟩ (token "n" none)⟩,
        ⟨⟨7, none, true⟩, .insert ⟨"k"⟩ (token "o" none)⟩,
        ⟨⟨8, none, true⟩, .revoke (.account "a") (.link ⟨"o"⟩)⟩]
    let s := run Session.empty steps
    let turned := Session.opened s.rows.reverse
    let c : Conditions := ⟨9, some .touch, true⟩
    let entities : List Entity :=
      [(Row.ofPending 6 ⟨"j"⟩ (token "n" none)).entity,
        (Row.ofPending 5 ⟨"i"⟩ (token "l" (some "x"))).entity,
        (Row.ofPending 5 ⟨"h"⟩ (token "m" none)).entity]
    c.selectError? = none
      ∧ listing c s (.account "a") .active .api = ⟨.ok entities, [], s⟩
      ∧ listing c turned (.account "a") .active .api = ⟨.ok entities, [], turned⟩ := by
  intro token steps s turned c entities
  obtain ⟨listed, hlisted, -⟩ := listing_is_exact steps c rfl (.account "a")
  obtain ⟨hlists, hanswer, hother⟩ := hlisted .active .api
  have hkeyed : Keyed s.rows := (sound_run ⟨sound_nil, sound_nil⟩ steps).rows.keyed
  have hnewest : Lists s.rows (.account "a") .active .api
      [Row.ofPending 6 ⟨"j"⟩ (token "n" none), Row.ofPending 5 ⟨"i"⟩ (token "l" (some "x")),
        Row.ofPending 5 ⟨"h"⟩ (token "m" none)] :=
    lists_of_perm hkeyed (by decide) (by decide)
  have hentities : (listed .active .api).map Row.entity = entities := by
    rw [hlists.unique hnewest fun _ => Iff.rfl]
    rfl
  rw [hentities] at hanswer hother
  exact ⟨rfl, hanswer, hother turned (List.reverse_perm s.rows)⟩

end Store
end BearerTokens
