/-
BearerTokens.Proofs.KeyStanding — what a key is to a table, and what is replied to it.

There are two ways to present a key. One answers nothing if it finds no active
token, the other looks once more and says why. Both begin alike: the codec
checks the key, the use of its hash is recorded or, if that is refused, looked
up without a record.

`Standing` lists what a key can be to a table, and `standing` says that there is
nothing else. Hashes being distinct, a hash is that of one active row, of one
revoked row or of none. For each standing one lemma gives the two replies in
full, for all conditions under which the table can be read;
`replies_of_selectError?` is about the others.
-/
import BearerTokens.Proofs.ServiceSteps

namespace BearerTokens.Service

/-- What a key is to a table. -/
inductive Standing (codec : Codec) (rows : List Row) (key : String) : Prop
  /-- The codec cannot hash. -/
  | notHashed {e : Codec.HashError} (check : (codec.check key).hash? = .error e)
  /-- The text is no key. -/
  | noKey (check : (codec.check key).hash? = .ok none)
  | active {r : Row} (check : codec.check key = ⟨.ok (some r.hash), []⟩) (mem : r ∈ rows)
      (active : r.isActive = true)
  | revoked {r : Row} (check : codec.check key = ⟨.ok (some r.hash), []⟩) (mem : r ∈ rows)
      (revoked : r.isActive = false)
  | unknown {h : StorageHash} (check : codec.check key = ⟨.ok (some h), []⟩)
      (unknown : ∀ r ∈ rows, r.hash ≠ h)

/-- Every text has one of these standings. -/
theorem standing (codec : Codec) (rows : List Row) (key : String) : Standing codec rows key := by
  cases hhash : (codec.check key).hash? with
  | error e => exact .notHashed hhash
  | ok h? =>
    cases h? with
    | none => exact .noKey hhash
    | some h =>
      have hcheck := Codec.check_eq_of_hash? hhash
      by_cases hrow : ∃ r ∈ rows, r.hash = h
      · obtain ⟨r, hr, rfl⟩ := hrow
        cases hactive : r.isActive with
        | true => exact .active hcheck hr hactive
        | false => exact .revoked hcheck hr hactive
      · exact .unknown hcheck fun r hr heq => hrow ⟨r, hr, heq⟩

section

variable {codec : Codec} {c : Conditions} {rows : List Row} {key : String}

/-! ## Keys that are not looked for -/

theorem replies_of_notHashed (s : Service) {e : Codec.HashError}
    (hcheck : (codec.check key).hash? = .error e) :
    authenticate codec c s key = ⟨.error (.hashing e), (codec.check key).log, s⟩
      ∧ authenticateOrRefuse codec c s key
        = ⟨.error (.hashing e), (codec.check key).log, s⟩ := by
  constructor
  · simp only [authenticate, hcheck]
  · simp only [authenticateOrRefuse, hcheck]

theorem replies_of_noKey (s : Service) (hcheck : (codec.check key).hash? = .ok none) :
    authenticate codec c s key = ⟨.ok none, (codec.check key).log, s⟩
      ∧ authenticateOrRefuse codec c s key
        = ⟨.error (.token .unknownKey), (codec.check key).log, s⟩ := by
  constructor
  · simp only [authenticate, hcheck]
  · simp only [authenticateOrRefuse, hcheck]

/-! ## Keys that lead to a hash -/

/-- If look-ups are refused, so is the use, which is reported first. -/
theorem replies_of_selectError? (draws : Draws) {h : StorageHash} {e : DatabaseError}
    (hcheck : codec.check key = ⟨.ok (some h), []⟩) (hselect : c.selectError? = some e) :
    authenticate codec c (settled rows draws) key
        = ⟨.error (.database e), c.touchReport h, settled rows draws⟩
      ∧ authenticateOrRefuse codec c (settled rows draws) key
        = ⟨.error (.database e), c.touchReport h, settled rows draws⟩ := by
  have htable := updateWhere_touch_of_selectError? c rows hselect (Store.isActiveHash h)
  constructor
  · simp only [authenticate, hcheck, useHash_settled, hselect, htable, List.nil_append]
  · rw [authenticateOrRefuse_settled codec c rows draws hcheck, htable]
    cases rows.find? (Store.isActiveHash h) with
    | some r => simp only [hselect, List.nil_append]
    | none => simp only [refuse_settled, hselect, List.nil_append, List.append_nil]

variable (hkeyed : Keyed rows) (hselect : c.selectError? = none)

include hkeyed hselect

/-- The token of an active row is shown, and its use is recorded in the row and
nowhere else. -/
theorem replies_of_active (draws : Draws) {r : Row}
    (hcheck : codec.check key = ⟨.ok (some r.hash), []⟩) (hr : r ∈ rows) (hactive : r.isActive = true) :
    let used := settled (rows.map fun x => if x = r then c.touch r else x) draws
    authenticate codec c (settled rows draws) key
        = ⟨.ok (some (c.touch r).entity), c.touchReport r.hash, used⟩
      ∧ authenticateOrRefuse codec c (settled rows draws) key
        = ⟨.ok (c.touch r).entity, c.touchReport r.hash, used⟩ := by
  intro used
  have hfind := hkeyed.find?_isActiveHash hr
  rw [if_pos hactive] at hfind
  have htable : updateWhere (Store.isActiveHash r.hash) c.touch rows
      = rows.map fun x => if x = r then c.touch r else x :=
    hkeyed.updateWhere_eq_map (fun _ => Store.names_of_isActiveHash) hr (List.find?_some hfind)
      c.touch
  constructor
  · simp only [authenticate, hcheck, useHash_settled, hselect, hfind, htable, Option.map_some,
      List.nil_append, used]
  · simp only [authenticateOrRefuse_settled codec c rows draws hcheck, hselect, hfind, htable,
      List.nil_append, used]

omit hkeyed in
/-- Where no active row has the hash, nothing is shown and nothing changes; the
second reply is the refusal. -/
theorem replies_of_find?_none (draws : Draws) {h : StorageHash}
    (hcheck : codec.check key = ⟨.ok (some h), []⟩)
    (hfind : rows.find? (Store.isActiveHash h) = none) :
    authenticate codec c (settled rows draws) key
        = ⟨.ok none, c.touchReport h, settled rows draws⟩
      ∧ authenticateOrRefuse codec c (settled rows draws) key
        = { refuse c (settled rows draws) h with
            log := c.touchReport h ++ (refuse c (settled rows draws) h).log } := by
  have htable := updateWhere_touch_of_find?_none c rows hfind
  constructor
  · simp only [authenticate, hcheck, useHash_settled, hselect, hfind, htable, Option.map_none,
      List.nil_append]
  · simp only [authenticateOrRefuse_settled codec c rows draws hcheck, hfind, List.nil_append]

/-- A revoked row is told from none by the second reply. -/
theorem replies_of_revoked (draws : Draws) {r : Row}
    (hcheck : codec.check key = ⟨.ok (some r.hash), []⟩) (hr : r ∈ rows) (hrevoked : r.isActive = false) :
    authenticate codec c (settled rows draws) key
        = ⟨.ok none, c.touchReport r.hash, settled rows draws⟩
      ∧ authenticateOrRefuse codec c (settled rows draws) key
        = ⟨.error (.token (.revoked r.link)), c.touchReport r.hash ++ [.revokedKeyUsed r.link],
          settled rows draws⟩ := by
  have hfind := hkeyed.find?_isActiveHash hr
  rw [hrevoked, if_neg (by decide)] at hfind
  have hsome : r.revoked.isSome = true := by simpa [Row.isActive] using hrevoked
  have hreplies := replies_of_find?_none hselect draws hcheck hfind
  refine ⟨hreplies.1, ?_⟩
  simp only [hreplies.2, refuse_settled, hselect, hkeyed.find?_hash hr, if_pos hsome]

omit hkeyed in
/-- A hash of no row is that of an unknown key. -/
theorem replies_of_unknown (draws : Draws) {h : StorageHash}
    (hcheck : codec.check key = ⟨.ok (some h), []⟩) (hnone : ∀ r ∈ rows, r.hash ≠ h) :
    authenticate codec c (settled rows draws) key
        = ⟨.ok none, c.touchReport h, settled rows draws⟩
      ∧ authenticateOrRefuse codec c (settled rows draws) key
        = ⟨.error (.token .unknownKey), c.touchReport h, settled rows draws⟩ := by
  have hfind : rows.find? (Store.isActiveHash h) = none :=
    List.find?_eq_none.2 fun r hr => by simp [Store.isActiveHash, hnone r hr]
  have hfind' : rows.find? (fun r => r.hash == h) = none :=
    List.find?_eq_none.2 fun r hr => by simp [hnone r hr]
  have hreplies := replies_of_find?_none hselect draws hcheck hfind
  refine ⟨hreplies.1, ?_⟩
  simp only [hreplies.2, refuse_settled, hselect, hfind', List.append_nil]

end

end BearerTokens.Service
