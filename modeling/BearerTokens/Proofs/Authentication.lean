/-
BearerTokens.Proofs.Authentication — two ways to present a key, with and without a disturbance.

Two comparisons are made, each on every table that the service can have made.

* Of the two ways with each other, under the same conditions
  (`authentication_paths_agree`): they leave the same table, show the same token
  and fail alike. Where one has nothing to say, the other says that the token was
  revoked or that there is none, and the table bears it out.
* Of each way with itself, when the use can be recorded and when it cannot
  (`unrecorded_use_changes_no_verdict`): the answer is the same up to the time of
  last use, and the disturbed one reports one event more.

Both are read off the replies in `KeyStanding`. The second look-up of the strict
way never finds an active token that the first one has missed, because both look
at one table and hashes are distinct; this is why it can only find revoked ones.
-/
import BearerTokens.Proofs.KeyStanding

namespace BearerTokens.Service

/-! ## Two ways to present a key -/

section

variable (codec : Codec) (rows : List Row) (key : String)

/-- The key leads to this row. -/
def LeadsToRow (r : Row) : Prop :=
  (codec.check key).hash? = .ok (some r.hash)

/-- The replies that the two ways can give to one key. Nothing is said about
what they report. -/
inductive Paired : Reply Service (Option Entity) → Reply Service Entity → Prop
  | shown {log log' : List Event} {s : Service} (e : Entity) :
      Paired ⟨.ok (some e), log, s⟩ ⟨.ok e, log', s⟩
  | failed {log log' : List Event} {s : Service} {f : Failure} (other : ∀ e, f ≠ .token e) :
      Paired ⟨.error f, log, s⟩ ⟨.error f, log', s⟩
  | unknown {log log' : List Event} {s : Service} (unknown : ∀ r ∈ rows, ¬ LeadsToRow codec key r) :
      Paired ⟨.ok none, log, s⟩ ⟨.error (.token .unknownKey), log', s⟩
  | revoked {log log' : List Event} {s : Service} {r : Row} (mem : r ∈ rows)
      (leads : LeadsToRow codec key r) (revoked : r.isActive = false) :
      Paired ⟨.ok none, log, s⟩ ⟨.error (.token (.revoked r.link)), log', s⟩

/-- The two ways agree on a key: `soft` answers nothing where `strict` refuses
the key, and both leave the same table. A key is refused as that of a revoked
token if it leads to a row, and then the row is a revoked one. -/
structure PathsAgree (soft : Reply Service (Option Entity)) (strict : Reply Service Entity) :
    Prop where
  state : strict.state = soft.state
  shown : ∀ e, soft.answer = .ok (some e) ↔ strict.answer = .ok e
  refused : soft.answer = .ok none ↔ strict.answer = .error (.token .unknownKey)
    ∨ ∃ l, strict.answer = .error (.token (.revoked l))
  refused_revoked : soft.answer = .ok none → ∀ l,
    strict.answer = .error (.token (.revoked l)) ↔ ∃ r ∈ rows, r.link = l ∧ LeadsToRow codec key r
  isRevoked : soft.answer = .ok none → ∀ r ∈ rows, LeadsToRow codec key r → r.revoked ≠ none
  failed : ∀ f, soft.answer = .error f ↔ strict.answer = .error f ∧ ∀ e, f ≠ .token e

end

section

variable {codec : Codec} {rows : List Row} {key : String}

/-- The key leads to one row at most. -/
theorem LeadsToRow.unique (hkeyed : Keyed rows) {a b : Row} (ha : a ∈ rows) (hb : b ∈ rows)
    (hka : LeadsToRow codec key a) (hkb : LeadsToRow codec key b) : a = b := by
  refine hkeyed.eq_of_hash ha hb ?_
  exact Option.some.inj (Except.ok.inj (hka.symm.trans hkb))

/-- Two replies of these kinds agree. -/
theorem Paired.pathsAgree (hkeyed : Keyed rows) {soft : Reply Service (Option Entity)}
    {strict : Reply Service Entity} (h : Paired codec rows key soft strict) :
    PathsAgree codec rows key soft strict := by
  cases h with
  | shown e => exact ⟨rfl, by simp, by simp, by simp, by simp, by simp⟩
  | failed hother =>
    refine ⟨rfl, by simp, by simp [hother], by simp, by simp, fun f => ?_⟩
    simp only [Except.error.injEq]
    exact ⟨fun hf => ⟨hf, hf ▸ hother⟩, fun hf => hf.1⟩
  | unknown hnone =>
    refine ⟨rfl, by simp, by simp, fun _ l => ?_, fun _ r hr hleads => absurd hleads (hnone r hr),
      fun f => ?_⟩
    · refine iff_of_false (fun hl => ?_) ?_
      · cases hl
      · rintro ⟨r, hr, -, hleads⟩
        exact hnone r hr hleads
    · exact iff_of_false (by simp) fun hf => hf.2 _ (Except.error.inj hf.1).symm
  | @revoked _ _ _ r hr hleads hrevoked =>
    have hnot : r.revoked ≠ none := by
      rintro hactive
      simp [Row.isActive, hactive] at hrevoked
    refine ⟨rfl, by simp, by simp, fun _ l => ?_, fun _ x hx hx' => ?_, fun f => ?_⟩
    · constructor
      · intro hl
        exact ⟨r, hr, by simpa using hl, hleads⟩
      · rintro ⟨x, hx, rfl, hx'⟩
        rw [hx'.unique hkeyed hx hr hleads]
    · rw [hx'.unique hkeyed hx hr hleads]
      exact hnot
    · exact iff_of_false (by simp) fun hf => hf.2 _ (Except.error.inj hf.1).symm

/-- A key that leads to a hash and is not looked up brings both ways to fail. -/
theorem paired_of_selectError? {c : Conditions} {h : StorageHash} {e : DatabaseError}
    (draws : Draws) (hcheck : codec.check key = ⟨.ok (some h), []⟩)
    (hselect : c.selectError? = some e) :
    Paired codec rows key (authenticate codec c (settled rows draws) key)
      (authenticateOrRefuse codec c (settled rows draws) key) := by
  obtain ⟨hsoft, hstrict⟩ := replies_of_selectError? draws hcheck hselect
  rw [hsoft, hstrict]
  exact .failed (by simp)

/-- On a table with distinct names the two ways give a pair of replies. -/
theorem paired_settled (codec : Codec) (c : Conditions) (hkeyed : Keyed rows) (draws : Draws)
    (key : String) :
    Paired codec rows key (authenticate codec c (settled rows draws) key)
      (authenticateOrRefuse codec c (settled rows draws) key) := by
  cases standing codec rows key with
  | notHashed hcheck =>
    obtain ⟨hsoft, hstrict⟩ := replies_of_notHashed (settled rows draws) hcheck
    rw [hsoft, hstrict]
    exact .failed (by simp)
  | noKey hcheck =>
    obtain ⟨hsoft, hstrict⟩ := replies_of_noKey (settled rows draws) hcheck
    rw [hsoft, hstrict]
    exact .unknown fun r _ hleads => by simp [LeadsToRow, hcheck] at hleads
  | active hcheck hr hactive =>
    cases hselect : c.selectError? with
    | some e => exact paired_of_selectError? draws hcheck hselect
    | none =>
      obtain ⟨hsoft, hstrict⟩ := replies_of_active hkeyed hselect draws hcheck hr hactive
      rw [hsoft, hstrict]
      exact .shown _
  | revoked hcheck hr hrevoked =>
    cases hselect : c.selectError? with
    | some e => exact paired_of_selectError? draws hcheck hselect
    | none =>
      obtain ⟨hsoft, hstrict⟩ := replies_of_revoked hkeyed hselect draws hcheck hr hrevoked
      rw [hsoft, hstrict]
      exact .revoked hr (by rw [LeadsToRow, hcheck]) hrevoked
  | unknown hcheck hnone =>
    cases hselect : c.selectError? with
    | some e => exact paired_of_selectError? draws hcheck hselect
    | none =>
      obtain ⟨hsoft, hstrict⟩ := replies_of_unknown hselect draws hcheck hnone
      rw [hsoft, hstrict]
      refine .unknown fun r hr hleads => hnone r hr ?_
      simpa [LeadsToRow, hcheck] using hleads.symm

end

/-- **Two ways, one verdict**: on every table that a service has made, under any
conditions and for any text, the two ways to present a key agree. -/
theorem authentication_paths_agree (maker codec : Codec) (draws : Draws) (steps : List Step)
    (c : Conditions) (key : String) :
    let s := run maker (settled [] draws) steps
    PathsAgree codec s.session.committed key (authenticate codec c s key)
      (authenticateOrRefuse codec c s key) := by
  intro s
  obtain ⟨rows, draws', hrun, hkeyed⟩ := run_keyed maker draws keyed_nil steps
  have hs : s = settled rows draws' := hrun
  rw [hs]
  exact (paired_settled codec c hkeyed draws' key).pathsAgree hkeyed

/-! ## A use that cannot be recorded -/

/-- An undisturbed database at this time. -/
def undisturbed (now : Instant) : Conditions :=
  ⟨now, none, true⟩

/-- A database that refuses updates at this time. -/
def updatesRefused (now : Instant) : Conditions :=
  ⟨now, some .touch, true⟩

/-- Two replies to one key, the first one with a record of the use and the
second one without. They differ in the time of last use, in the row that it is
written to and in one warning. `shown` is the form of an answer with a token. -/
structure DiffersInUse {α : Type} (codec : Codec) (key : String) (now : Instant) (s : Service)
    (shown : Entity → α) (recorded unrecorded : Reply Service α) : Prop where
  recorded_shown : ∀ e, recorded.answer = .ok (shown e) →
    ∃ r ∈ s.session.committed, LeadsToRow codec key r ∧ r.isActive = true
      ∧ e = { r.entity with lastUsed := some (.utc now) }
      ∧ unrecorded.answer = .ok (shown r.entity)
      ∧ recorded.state = s.withSession (.opened (s.session.committed.map fun x =>
          if x = r then { r with lastUsed := some now } else x))
  unrecorded_shown : (∃ e, unrecorded.answer = .ok (shown e)) → ∃ e, recorded.answer = .ok (shown e)
  answer : ∀ a, (∀ e, a ≠ .ok (shown e)) → (recorded.answer = a ↔ unrecorded.answer = a)
  recorded_state : (∀ e, recorded.answer ≠ .ok (shown e)) → recorded.state = s
  unrecorded_state : unrecorded.state = s
  warned : ∀ h, (codec.check key).hash? = .ok (some h) →
    ∃ w, w.level = .warning ∧ unrecorded.log = w :: recorded.log
  not_warned : (∀ h, (codec.check key).hash? ≠ .ok (some h)) → unrecorded.log = recorded.log

section

variable {codec : Codec} {key : String} {now : Instant} {α : Type} {shown : Entity → α}

/-- A key that leads to no hash is not looked for, so that no disturbance is noticed. -/
theorem differsInUse_of_not_hash {s : Service} {a : Except Failure α} {log : List Event}
    (hcheck : ∀ h, (codec.check key).hash? ≠ .ok (some h)) (ha : ∀ e, a ≠ .ok (shown e)) :
    DiffersInUse codec key now s shown ⟨a, log, s⟩ ⟨a, log, s⟩ where
  recorded_shown e he := absurd he (ha e)
  unrecorded_shown h := absurd h (not_exists.2 ha)
  answer _ _ := Iff.rfl
  recorded_state _ := rfl
  unrecorded_state := rfl
  warned h hh := absurd hh (hcheck h)
  not_warned _ := rfl

/-- A key that leads to no active row gets the same answer, after a warning. -/
theorem differsInUse_of_not_shown {s : Service} {a : Except Failure α} {log : List Event}
    {h : StorageHash} {w : Event} (hcheck : (codec.check key).hash? = .ok (some h))
    (hw : w.level = .warning) (ha : ∀ e, a ≠ .ok (shown e)) :
    DiffersInUse codec key now s shown ⟨a, log, s⟩ ⟨a, w :: log, s⟩ where
  recorded_shown e he := absurd he (ha e)
  unrecorded_shown h := absurd h (not_exists.2 ha)
  answer _ _ := Iff.rfl
  recorded_state _ := rfl
  unrecorded_state := rfl
  warned _ _ := ⟨w, hw, rfl⟩
  not_warned hnone := absurd hcheck (hnone h)

/-- The token of an active row is shown with the old time or with the new one. -/
theorem differsInUse_of_active {rows : List Row} {draws : Draws} {r : Row} {w : Event}
    (hshown : Function.Injective shown) (hcheck : LeadsToRow codec key r) (hr : r ∈ rows)
    (hactive : r.isActive = true) (hw : w.level = .warning) :
    DiffersInUse codec key now (settled rows draws) shown
      ⟨.ok (shown (r.used now).entity), [],
        settled (rows.map fun x => if x = r then r.used now else x) draws⟩
      ⟨.ok (shown r.entity), [w], settled rows draws⟩ where
  recorded_shown e he := by
    obtain rfl := hshown (Except.ok.inj he)
    exact ⟨r, hr, hcheck, hactive, rfl, rfl, rfl⟩
  unrecorded_shown _ := ⟨_, rfl⟩
  answer a ha := iff_of_false (fun h => ha _ h.symm) fun h => ha _ h.symm
  recorded_state hnone := absurd rfl (hnone _)
  unrecorded_state := rfl
  warned _ _ := ⟨w, hw, rfl⟩
  not_warned hnone := absurd hcheck (hnone _)

end

section

variable {now : Instant}

@[simp] theorem selectError?_undisturbed : (undisturbed now).selectError? = none := rfl

@[simp] theorem selectError?_updatesRefused : (updatesRefused now).selectError? = none := rfl

@[simp] theorem touch_undisturbed : (undisturbed now).touch = Row.used now := rfl

@[simp] theorem touch_updatesRefused : (updatesRefused now).touch = id := rfl

@[simp] theorem touchReport_undisturbed (h : StorageHash) :
    (undisturbed now).touchReport h = [] := rfl

@[simp] theorem touchReport_updatesRefused (h : StorageHash) :
    (updatesRefused now).touchReport h = [.useNotRecorded "database is locked"] := rfl

end

/-- On a table with distinct names both ways make no other difference between a
use that can be recorded and one that cannot. -/
theorem differsInUse_settled {rows : List Row} (codec : Codec) (hkeyed : Keyed rows)
    (draws : Draws) (now : Instant) (key : String) :
    let s := settled rows draws
    DiffersInUse codec key now s some (authenticate codec (undisturbed now) s key)
        (authenticate codec (updatesRefused now) s key)
      ∧ DiffersInUse codec key now s id (authenticateOrRefuse codec (undisturbed now) s key)
        (authenticateOrRefuse codec (updatesRefused now) s key) := by
  intro s
  have hwarning : (Event.useNotRecorded "database is locked").level = .warning := rfl
  cases standing codec rows key with
  | notHashed hcheck =>
    have hplain := replies_of_notHashed (c := undisturbed now) s hcheck
    have hlocked := replies_of_notHashed (c := updatesRefused now) s hcheck
    rw [hplain.1, hplain.2, hlocked.1, hlocked.2]
    exact ⟨differsInUse_of_not_hash (by simp [hcheck]) (by simp),
      differsInUse_of_not_hash (by simp [hcheck]) (by simp)⟩
  | noKey hcheck =>
    have hplain := replies_of_noKey (c := undisturbed now) s hcheck
    have hlocked := replies_of_noKey (c := updatesRefused now) s hcheck
    rw [hplain.1, hplain.2, hlocked.1, hlocked.2]
    exact ⟨differsInUse_of_not_hash (by simp [hcheck]) (by simp),
      differsInUse_of_not_hash (by simp [hcheck]) (by simp)⟩
  | @active r hcheck hr hactive =>
    have hplain := replies_of_active (c := undisturbed now)
      hkeyed selectError?_undisturbed draws hcheck hr hactive
    have hlocked := replies_of_active (c := updatesRefused now)
      hkeyed selectError?_updatesRefused draws hcheck hr hactive
    have hleads : LeadsToRow codec key r := by rw [LeadsToRow, hcheck]
    -- A use that is not recorded puts the row back as it is.
    have hsame : (rows.map fun x => if x = r then r else x) = rows := by
      refine (List.map_congr_left fun x _ => ?_).trans (List.map_id rows)
      split
      · rename_i hx
        exact hx.symm
      · rfl
    simp only [touch_undisturbed, touchReport_undisturbed] at hplain
    simp only [touch_updatesRefused, touchReport_updatesRefused, id, hsame] at hlocked
    rw [hplain.1, hplain.2, hlocked.1, hlocked.2]
    exact ⟨differsInUse_of_active (Option.some_injective _) hleads hr hactive hwarning,
      differsInUse_of_active Function.injective_id hleads hr hactive hwarning⟩
  | revoked hcheck hr hrevoked =>
    have hplain := replies_of_revoked (c := undisturbed now)
      hkeyed selectError?_undisturbed draws hcheck hr hrevoked
    have hlocked := replies_of_revoked (c := updatesRefused now)
      hkeyed selectError?_updatesRefused draws hcheck hr hrevoked
    rw [hplain.1, hplain.2, hlocked.1, hlocked.2]
    exact ⟨differsInUse_of_not_shown (by rw [hcheck]) hwarning (by simp),
      differsInUse_of_not_shown (by rw [hcheck]) hwarning (by simp)⟩
  | unknown hcheck hnone =>
    have hplain := replies_of_unknown (c := undisturbed now)
      selectError?_undisturbed draws hcheck hnone
    have hlocked := replies_of_unknown (c := updatesRefused now)
      selectError?_updatesRefused draws hcheck hnone
    rw [hplain.1, hplain.2, hlocked.1, hlocked.2]
    exact ⟨differsInUse_of_not_shown (by rw [hcheck]) hwarning (by simp),
      differsInUse_of_not_shown (by rw [hcheck]) hwarning (by simp)⟩

/-- **A failing record of use changes no verdict**: on every table that a service
has made and for any text, each of the two ways to present a key answers alike
whether or not updates are refused, apart from the time of last use. Where they
are refused the table stays as it is, and one warning more is given if the text
leads to a hash. -/
theorem unrecorded_use_changes_no_verdict (maker codec : Codec) (draws : Draws)
    (steps : List Step) (now : Instant) (key : String) :
    let s := run maker (settled [] draws) steps
    DiffersInUse codec key now s some (authenticate codec (undisturbed now) s key)
        (authenticate codec (updatesRefused now) s key)
      ∧ DiffersInUse codec key now s id (authenticateOrRefuse codec (undisturbed now) s key)
        (authenticateOrRefuse codec (updatesRefused now) s key) := by
  intro s
  obtain ⟨rows, draws', hrun, hkeyed⟩ := run_keyed maker draws keyed_nil steps
  have hs : s = settled rows draws' := hrun
  rw [hs]
  exact differsInUse_settled codec hkeyed draws' now key

end BearerTokens.Service
