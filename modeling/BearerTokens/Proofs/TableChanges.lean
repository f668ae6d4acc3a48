/-
BearerTokens.Proofs.TableChanges — what a statement can do to the table.

There are five statements that change the table, the constructors of `Write`,
and `Write.apply` says what each of them makes of the rows. Everything about a
table in time is derived from two facts about this one function:

* `extends_apply`: a row keeps its place and what it said when it was issued,
  and a revoked row keeps everything;
* `Keyed.apply`: hashes stay distinct, and so do links.

A row is followed through time by its place in the table. Rows are never
deleted, so the place stands for the identity of the row.
-/
import BearerTokens.Store.Basic
import Mathlib.Data.List.Nodup

namespace BearerTokens

/-! ## Rows in time -/

/-- The second row says of its token what the first one says, the description
and the times of use and revocation apart. -/
structure Row.SameToken (a b : Row) : Prop where
  hash : b.hash = a.hash
  link : b.link = a.link
  accountId : b.metadata.accountId = a.metadata.accountId
  serviceId : b.metadata.serviceId = a.metadata.serviceId
  mode : b.metadata.mode = a.metadata.mode
  paymentType : b.metadata.paymentType = a.metadata.paymentType
  source : b.metadata.source = a.metadata.source
  creator : b.metadata.creator = a.metadata.creator
  issued : b.issued = a.issued

/-- The second row can be the first one at a later time. -/
structure Row.Evolves (a b : Row) : Prop where
  sameToken : a.SameToken b
  eq_of_revoked : a.revoked ≠ none → b = a

namespace Row

theorem SameToken.refl (a : Row) : a.SameToken a :=
  ⟨rfl, rfl, rfl, rfl, rfl, rfl, rfl, rfl, rfl⟩

theorem SameToken.trans {a b c : Row} (h₁ : a.SameToken b) (h₂ : b.SameToken c) :
    a.SameToken c where
  hash := h₂.hash.trans h₁.hash
  link := h₂.link.trans h₁.link
  accountId := h₂.accountId.trans h₁.accountId
  serviceId := h₂.serviceId.trans h₁.serviceId
  mode := h₂.mode.trans h₁.mode
  paymentType := h₂.paymentType.trans h₁.paymentType
  source := h₂.source.trans h₁.source
  creator := h₂.creator.trans h₁.creator
  issued := h₂.issued.trans h₁.issued

theorem Evolves.refl (a : Row) : a.Evolves a :=
  ⟨.refl a, fun _ => rfl⟩

theorem Evolves.trans {a b c : Row} (h₁ : a.Evolves b) (h₂ : b.Evolves c) : a.Evolves c := by
  refine ⟨h₁.sameToken.trans h₂.sameToken, fun ha => ?_⟩
  have hb : b = a := h₁.eq_of_revoked ha
  rw [h₂.eq_of_revoked (hb ▸ ha), hb]

/-- An active row may become any row of the same token. -/
theorem SameToken.evolves {a b : Row} (h : a.SameToken b) (ha : a.isActive = true) :
    a.Evolves b :=
  ⟨h, fun hr => absurd (Option.isNone_iff_eq_none.1 ha) hr⟩

theorem sameToken_used (now : Instant) (r : Row) : r.SameToken (r.used now) :=
  ⟨rfl, rfl, rfl, rfl, rfl, rfl, rfl, rfl, rfl⟩

theorem sameToken_described (description : String) (r : Row) :
    r.SameToken (r.described description) :=
  ⟨rfl, rfl, rfl, rfl, rfl, rfl, rfl, rfl, rfl⟩

theorem sameToken_ended (now : Instant) (r : Row) : r.SameToken (r.ended now) :=
  ⟨rfl, rfl, rfl, rfl, rfl, rfl, rfl, rfl, rfl⟩

end Row

/-! ## Tables in time -/

/-- The second table can be the first one at a later time: every row is still
in its place. -/
def Extends (old new : List Row) : Prop :=
  ∀ (i : Nat) (r : Row), old[i]? = some r → ∃ r', new[i]? = some r' ∧ r.Evolves r'

theorem Extends.refl (rows : List Row) : Extends rows rows :=
  fun _ r h => ⟨r, h, .refl r⟩

theorem Extends.trans {rows₁ rows₂ rows₃ : List Row} (h₁ : Extends rows₁ rows₂)
    (h₂ : Extends rows₂ rows₃) : Extends rows₁ rows₃ := by
  intro i r h
  obtain ⟨r', h', he'⟩ := h₁ i r h
  obtain ⟨r'', h'', he''⟩ := h₂ i r' h'
  exact ⟨r'', h'', he'.trans he''⟩

/-- A row of the table is a row of every later one. -/
theorem Extends.exists_mem {old new : List Row} (h : Extends old new) {r : Row} (hr : r ∈ old) :
    ∃ r' ∈ new, r.Evolves r' := by
  obtain ⟨i, hi⟩ := List.getElem?_of_mem hr
  obtain ⟨r', hr', he⟩ := h i r hi
  exact ⟨r', List.mem_of_getElem? hr', he⟩

theorem extends_append (rows more : List Row) : Extends rows (rows ++ more) := by
  intro i r h
  have hi : i < rows.length := (List.getElem?_eq_some_iff.1 h).1
  exact ⟨r, by rw [List.getElem?_append_left hi, h], .refl r⟩

theorem extends_updateWhere {p : Row → Bool} {f : Row → Row}
    (h : ∀ r, p r = true → r.Evolves (f r)) (rows : List Row) :
    Extends rows (updateWhere p f rows) := by
  intro i r hr
  refine ⟨if p r then f r else r, by simp [updateWhere, hr], ?_⟩
  split
  · exact h r ‹_›
  · exact .refl r

/-! ## Distinct names -/

/-- No two rows have the same hash, and no two have the same link. -/
structure Keyed (rows : List Row) : Prop where
  hashes : (rows.map Row.hash).Nodup
  links : (rows.map Row.link).Nodup

theorem keyed_nil : Keyed [] :=
  ⟨List.nodup_nil, List.nodup_nil⟩

theorem Keyed.eq_of_hash {rows : List Row} (h : Keyed rows) {a b : Row} (ha : a ∈ rows)
    (hb : b ∈ rows) (he : a.hash = b.hash) : a = b :=
  List.inj_on_of_nodup_map h.hashes ha hb he

theorem Keyed.eq_of_link {rows : List Row} (h : Keyed rows) {a b : Row} (ha : a ∈ rows)
    (hb : b ∈ rows) (he : a.link = b.link) : a = b :=
  List.inj_on_of_nodup_map h.links ha hb he

theorem map_updateWhere {α : Type} {g : Row → α} {f : Row → Row} (h : ∀ r, g (f r) = g r)
    (p : Row → Bool) (rows : List Row) : (updateWhere p f rows).map g = rows.map g := by
  rw [updateWhere, List.map_map]
  refine List.map_congr_left fun r _ => ?_
  simp only [Function.comp_apply]
  split
  · exact h r
  · rfl

theorem Keyed.updateWhere {rows : List Row} (h : Keyed rows) {f : Row → Row}
    (hf : ∀ r : Row, r.SameToken (f r)) (p : Row → Bool) : Keyed (updateWhere p f rows) where
  hashes := by
    rw [map_updateWhere fun r => (hf r).hash]
    exact h.hashes
  links := by
    rw [map_updateWhere fun r => (hf r).link]
    exact h.links

/-- A row whose names are not taken may join the others. -/
theorem Keyed.append {rows : List Row} (h : Keyed rows) {row : Row}
    (hfree : rows.any (Store.collides row.hash row.link) = false) : Keyed (rows ++ [row]) := by
  have hne : ∀ r ∈ rows, r.hash ≠ row.hash ∧ r.link ≠ row.link := by
    simpa [Store.collides] using hfree
  constructor
  · rw [List.map_append, List.map_singleton, List.nodup_append]
    refine ⟨h.hashes, by simp, ?_⟩
    simp only [List.mem_map, List.mem_singleton]
    rintro _ ⟨r, hr, rfl⟩ _ rfl
    exact (hne r hr).1
  · rw [List.map_append, List.map_singleton, List.nodup_append]
    refine ⟨h.links, by simp, ?_⟩
    simp only [List.mem_map, List.mem_singleton]
    rintro _ ⟨r, hr, rfl⟩ _ rfl
    exact (hne r hr).2

/-! ### Conditions on rows with distinct names -/

/-- Of rows with distinct links, only the row itself can have a property in
the name of its link. -/
theorem Keyed.any_link {rows : List Row} (hkeyed : Keyed rows) {r : Row} (hr : r ∈ rows)
    (p : Row → Bool) : (rows.any fun x => x.link == r.link && p x) = p r := by
  cases hp : p r with
  | true =>
    rw [List.any_eq_true]
    exact ⟨r, hr, by simp [hp]⟩
  | false =>
    rw [List.any_eq_false]
    intro x hx
    rw [Bool.and_eq_true]
    rintro ⟨hlink, hpx⟩
    rw [hkeyed.eq_of_link hx hr (eq_of_beq hlink), hp] at hpx
    exact absurd hpx (by decide)

/-- A condition that one row satisfies and no other counts one row. -/
theorem Keyed.countP_eq_one {rows : List Row} (hkeyed : Keyed rows) {p : Row → Bool} {r : Row}
    (hr : r ∈ rows) (hp : p r = true) (hunique : ∀ x ∈ rows, p x = true → x = r) :
    rows.countP p = 1 := by
  have hnodup : rows.Nodup := hkeyed.links.of_map
  have hcount : rows.countP p = rows.countP (· == r) := by
    refine List.countP_congr fun x hx => ?_
    rw [beq_iff_eq]
    constructor
    · exact hunique x hx
    · rintro rfl
      exact hp
  rw [hcount]
  exact List.count_eq_one_of_mem hnodup hr

/-- A name is the name of one row. -/
theorem Keyed.eq_of_names {rows : List Row} (hkeyed : Keyed rows) {i : Identifier} {a b : Row}
    (ha : a ∈ rows) (hb : b ∈ rows) (hna : i.names a = true) (hnb : i.names b = true) : a = b := by
  cases i with
  | link l => exact hkeyed.eq_of_link ha hb ((eq_of_beq hna).trans (eq_of_beq hnb).symm)
  | hash h => exact hkeyed.eq_of_hash ha hb ((eq_of_beq hna).trans (eq_of_beq hnb).symm)

/-- A condition that includes a name is satisfied by at most one row. -/
theorem Keyed.countP_of_names {rows : List Row} (hkeyed : Keyed rows) {p : Row → Bool}
    {i : Identifier} (hnames : ∀ r, p r = true → i.names r = true) (hany : rows.any p = true) :
    rows.countP p = 1 := by
  obtain ⟨r, hr, hp⟩ := List.any_eq_true.1 hany
  refine hkeyed.countP_eq_one hr hp fun x hx hpx => ?_
  exact hkeyed.eq_of_names hx hr (hnames x hpx) (hnames r hp)

/-- It is satisfied by no more than one. -/
theorem Keyed.countP_le_one {rows : List Row} (hkeyed : Keyed rows) {p : Row → Bool}
    {i : Identifier} (hnames : ∀ r, p r = true → i.names r = true) : rows.countP p ≤ 1 := by
  cases hany : rows.any p with
  | true => exact Nat.le_of_eq (hkeyed.countP_of_names hnames hany)
  | false =>
    have hzero : rows.countP p = 0 := List.countP_eq_zero.2 (List.any_eq_false.1 hany)
    omega

/-- An update under such a condition changes the one row that satisfies it. -/
theorem Keyed.updateWhere_eq_map {rows : List Row} (hkeyed : Keyed rows) {p : Row → Bool}
    {i : Identifier} (hnames : ∀ r, p r = true → i.names r = true) {r : Row} (hr : r ∈ rows)
    (hp : p r = true) (f : Row → Row) :
    BearerTokens.updateWhere p f rows = rows.map fun x => if x = r then f r else x := by
  refine List.map_congr_left fun x hx => ?_
  by_cases hxr : x = r
  · simp [hxr, hp]
  · have hpx : p x = false := by
      by_contra hne
      rw [Bool.not_eq_false] at hne
      exact hxr (hkeyed.eq_of_names hx hr (hnames x hne) (hnames r hp))
    simp [hxr, hpx]

/-! ### Rows that are found -/

/-- If only one row satisfies a condition, it is the one that is found. -/
theorem find?_eq_some_of_unique {p : Row → Bool} {rows : List Row} {r : Row} (hr : r ∈ rows)
    (hp : p r = true) (h : ∀ x ∈ rows, p x = true → x = r) : rows.find? p = some r := by
  cases hfind : rows.find? p with
  | none => exact absurd hp (List.find?_eq_none.1 hfind r hr)
  | some x => rw [h x (List.mem_of_find?_eq_some hfind) (List.find?_some hfind)]

/-- A condition that includes a name finds the row that satisfies it. -/
theorem Keyed.find?_of_names {rows : List Row} (hkeyed : Keyed rows) {p : Row → Bool}
    {i : Identifier} (hnames : ∀ r, p r = true → i.names r = true) {r : Row} (hr : r ∈ rows)
    (hp : p r = true) : rows.find? p = some r :=
  find?_eq_some_of_unique hr hp fun x hx hpx =>
    hkeyed.eq_of_names hx hr (hnames x hpx) (hnames r hp)

/-! ### The conditions of the store -/

theorem Store.names_of_isRevocable {t : Tenant} {i : Identifier} {r : Row}
    (h : Store.isRevocable t i r = true) : i.names r = true := by
  simp only [Store.isRevocable, Bool.and_eq_true] at h
  exact h.1.2

theorem Store.names_of_isActiveLink {l : Link} {t : Option Tenant} {r : Row}
    (h : Store.isActiveLink l t r = true) : (Identifier.link l).names r = true := by
  simp only [Store.isActiveLink, Bool.and_eq_true] at h
  exact h.1.1

theorem Store.names_of_isActiveHash {h : StorageHash} {r : Row}
    (hr : Store.isActiveHash h r = true) : (Identifier.hash h).names r = true := by
  simp only [Store.isActiveHash, Bool.and_eq_true] at hr
  exact hr.1

theorem Keyed.find?_hash {rows : List Row} (hkeyed : Keyed rows) {r : Row} (hr : r ∈ rows) :
    rows.find? (fun x => x.hash == r.hash) = some r :=
  hkeyed.find?_of_names (i := .hash r.hash) (fun _ hx => hx) hr (beq_self_eq_true r.hash)

theorem Keyed.find?_isActiveHash {rows : List Row} (hkeyed : Keyed rows) {r : Row}
    (hr : r ∈ rows) :
    rows.find? (Store.isActiveHash r.hash) = if r.isActive then some r else none := by
  cases hact : r.isActive with
  | true =>
    exact hkeyed.find?_of_names (fun _ => Store.names_of_isActiveHash) hr
      (by simp [Store.isActiveHash, hact])
  | false =>
    refine List.find?_eq_none.2 fun x hx hp => ?_
    simp only [Store.isActiveHash, Bool.and_eq_true] at hp
    rw [hkeyed.eq_of_hash hx hr (eq_of_beq hp.1), hact] at hp
    exact absurd hp.2 (by decide)

/-! ## Statements that change the table -/

/-- A statement that changes the table. -/
inductive Write
  | insert (hash : StorageHash) (token : PendingToken)
  | use (hash : StorageHash)
  | describe (link : Link) (description : String) (tenant : Option Tenant)
  | revoke (tenant : Tenant) (identifier : Identifier)
  | revokeTenant (tenant : Tenant)

namespace Write

/-- The table after the statement. -/
def apply (now : Instant) (rows : List Row) : Write → List Row
  | insert h token => rows ++ [Row.ofPending now h token]
  | use h => updateWhere (Store.isActiveHash h) (Row.used now) rows
  | describe l description t =>
    updateWhere (Store.isActiveLink l t) (Row.described description) rows
  | revoke t i => updateWhere (Store.isRevocable t i) (Row.ended now) rows
  | revokeTenant t => updateWhere (Store.isActiveOf t) (Row.ended now) rows

/-- A new row needs names that are not taken; nothing else can be refused. -/
def Fits (rows : List Row) : Write → Prop
  | insert h token => rows.any (Store.collides h token.link) = false
  | _ => True

/-- Does the statement revoke anything? -/
def IsRevocation : Write → Prop
  | revoke .. | revokeTenant _ => True
  | _ => False

end Write

/-! ### The conditions look at active rows only -/

theorem Store.isActive_of_isActiveHash {h : StorageHash} {r : Row}
    (hp : Store.isActiveHash h r = true) : r.isActive = true := by
  simp only [Store.isActiveHash, Bool.and_eq_true] at hp
  exact hp.2

theorem Store.isActive_of_isActiveLink {l : Link} {t : Option Tenant} {r : Row}
    (hp : Store.isActiveLink l t r = true) : r.isActive = true := by
  simp only [Store.isActiveLink, Bool.and_eq_true] at hp
  exact hp.1.2

theorem Store.isActive_of_isRevocable {t : Tenant} {i : Identifier} {r : Row}
    (hp : Store.isRevocable t i r = true) : r.isActive = true := by
  simp only [Store.isRevocable, Bool.and_eq_true] at hp
  exact hp.2

theorem Store.isActive_of_isActiveOf {t : Tenant} {r : Row}
    (hp : Store.isActiveOf t r = true) : r.isActive = true := by
  simp only [Store.isActiveOf, Bool.and_eq_true] at hp
  exact hp.2

/-! ### What every statement keeps -/

/-- No statement moves a row, changes what it said when it was issued, or
touches a revoked row. -/
theorem extends_apply (now : Instant) (rows : List Row) (w : Write) :
    Extends rows (w.apply now rows) := by
  cases w with
  | insert h token => exact extends_append rows _
  | use h =>
    exact extends_updateWhere
      (fun r hp => (r.sameToken_used now).evolves (Store.isActive_of_isActiveHash hp)) rows
  | describe l description t =>
    exact extends_updateWhere
      (fun r hp => (r.sameToken_described description).evolves (Store.isActive_of_isActiveLink hp))
      rows
  | revoke t i =>
    exact extends_updateWhere
      (fun r hp => (r.sameToken_ended now).evolves (Store.isActive_of_isRevocable hp)) rows
  | revokeTenant t =>
    exact extends_updateWhere
      (fun r hp => (r.sameToken_ended now).evolves (Store.isActive_of_isActiveOf hp)) rows

/-- Names stay distinct. -/
theorem Keyed.apply {rows : List Row} (h : Keyed rows) (now : Instant) {w : Write}
    (hw : w.Fits rows) : Keyed (w.apply now rows) := by
  cases w with
  | insert hash token => exact h.append hw
  | use hash => exact h.updateWhere (Row.sameToken_used now) _
  | describe l description t => exact h.updateWhere (Row.sameToken_described description) _
  | revoke t i => exact h.updateWhere (Row.sameToken_ended now) _
  | revokeTenant t => exact h.updateWhere (Row.sameToken_ended now) _

/-- Only a new row brings a new hash. -/
theorem Write.map_hash_apply {w : Write} (hw : ∀ h token, w ≠ .insert h token) (now : Instant)
    (rows : List Row) : (w.apply now rows).map Row.hash = rows.map Row.hash := by
  cases w with
  | insert h token => exact absurd rfl (hw h token)
  | use h => exact map_updateWhere (fun r => (r.sameToken_used now).hash) _ rows
  | describe l description t =>
    exact map_updateWhere (fun r => (r.sameToken_described description).hash) _ rows
  | revoke t i => exact map_updateWhere (fun r => (r.sameToken_ended now).hash) _ rows
  | revokeTenant t => exact map_updateWhere (fun r => (r.sameToken_ended now).hash) _ rows

/-- After an update, a row is an old one or a changed one. -/
theorem mem_updateWhere_cases {p : Row → Bool} {f : Row → Row} {rows : List Row} {r : Row}
    (h : r ∈ updateWhere p f rows) : r ∈ rows ∨ ∃ r₀ ∈ rows, p r₀ = true ∧ r = f r₀ := by
  obtain ⟨r₀, hr₀, rfl⟩ := List.mem_map.1 h
  split
  · rename_i hp
    exact .inr ⟨r₀, hr₀, hp, rfl⟩
  · exact .inl hr₀

/-- An update that gives active rows leaves the revoked rows it found. -/
theorem mem_of_mem_updateWhere {p : Row → Bool} {f : Row → Row} {rows : List Row} {r : Row}
    (hf : ∀ r, p r = true → (f r).isActive = true) (h : r ∈ updateWhere p f rows)
    (hrev : r.revoked ≠ none) : r ∈ rows := by
  rcases mem_updateWhere_cases h with hold | ⟨r₀, -, hp, rfl⟩
  · exact hold
  · exact absurd (Option.isNone_iff_eq_none.1 (hf r₀ hp)) hrev

/-- Only a revocation revokes: after any other statement, the revoked rows are
rows from before. -/
theorem Write.mem_of_mem_apply {w : Write} (hw : ¬ w.IsRevocation) {now : Instant}
    {rows : List Row} {r : Row} (h : r ∈ w.apply now rows) (hrev : r.revoked ≠ none) :
    r ∈ rows := by
  cases w with
  | insert hash token =>
    rw [apply, List.mem_append, List.mem_singleton] at h
    rcases h with h | rfl
    · exact h
    · exact absurd rfl hrev
  | use hash =>
    refine mem_of_mem_updateWhere (fun r hp => ?_) h hrev
    exact Store.isActive_of_isActiveHash hp
  | describe l description t =>
    refine mem_of_mem_updateWhere (fun r hp => ?_) h hrev
    exact Store.isActive_of_isActiveLink hp
  | revoke t i => exact absurd trivial hw
  | revokeTenant t => exact absurd trivial hw

/-! ### Where the rows come from -/

/-- Where a row of the changed table comes from: it is new, it was there, or
it is what a statement has made of an active row. -/
inductive Write.Origin (now : Instant) (rows : List Row) : Row → Prop
  | issued (hash : StorageHash) (token : PendingToken) :
      Origin now rows (Row.ofPending now hash token)
  | kept {r : Row} (mem : r ∈ rows) : Origin now rows r
  | used {r : Row} (mem : r ∈ rows) (active : r.isActive = true) : Origin now rows (r.used now)
  | described {r : Row} (description : String) (mem : r ∈ rows) (active : r.isActive = true) :
      Origin now rows (r.described description)
  | ended {r : Row} (mem : r ∈ rows) (active : r.isActive = true) : Origin now rows (r.ended now)

/-- Every row of the changed table has one of these origins. -/
theorem Write.origin_of_mem_apply {w : Write} {now : Instant} {rows : List Row} {r : Row}
    (h : r ∈ w.apply now rows) : Origin now rows r := by
  cases w with
  | insert hash token =>
    simp only [apply, List.mem_append, List.mem_singleton] at h
    rcases h with hold | rfl
    · exact .kept hold
    · exact .issued hash token
  | use hash =>
    rcases mem_updateWhere_cases h with hold | ⟨r₀, hr₀, hp, rfl⟩
    · exact .kept hold
    · exact .used hr₀ (Store.isActive_of_isActiveHash hp)
  | describe l description t =>
    rcases mem_updateWhere_cases h with hold | ⟨r₀, hr₀, hp, rfl⟩
    · exact .kept hold
    · exact .described description hr₀ (Store.isActive_of_isActiveLink hp)
  | revoke t i =>
    rcases mem_updateWhere_cases h with hold | ⟨r₀, hr₀, hp, rfl⟩
    · exact .kept hold
    · exact .ended hr₀ (Store.isActive_of_isRevocable hp)
  | revokeTenant t =>
    rcases mem_updateWhere_cases h with hold | ⟨r₀, hr₀, hp, rfl⟩
    · exact .kept hold
    · exact .ended hr₀ (Store.isActive_of_isActiveOf hp)

/-! ## A sample -/

/-- What the owner of account `a` says about a token. -/
def sampleMetadata : Metadata :=
  ⟨"d", "me", some "a", none, none, .card, .api⟩

/-- A token of account `a`. -/
def sampleToken : PendingToken :=
  ⟨sampleMetadata, ⟨"l"⟩, by decide⟩

end BearerTokens
