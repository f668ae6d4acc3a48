/-
BearerTokens.Proofs.Scripts — runs in which keys are used that the run hands out.

A run is given as a list of steps, and a key that is presented in a step is
text. Text that is a good key under one codec is none under another. In a
script, a step says instead which key it means: the one that was handed out at
a certain point of the run, or a text that no codec takes for a key.

`follow` gives the replies of a script. Two facts about its states carry the
comparison of two runs: the keys that were handed out lead to rows
(`Known.next`), and the hashes that are still to come are not in the table
(`Fresh.next`).
-/
import BearerTokens.Proofs.ServiceSteps

namespace BearerTokens

namespace Service

/-! ## Scripts -/

/-- The key that is meant: the `n`-th one that the run has handed out, or a text
that no codec takes for a key. -/
inductive KeyName
  | issued (n : Nat)
  | fixed (text : String) (malformed : Codec.IsMalformed text)

/-- The key, after `keys` were handed out. A key that is still to come is given
as the empty text. -/
def KeyName.text (keys : List String) : KeyName → String
  | issued n => keys[n]?.getD ""
  | fixed text _ => text

/-- An operation with its arguments, keys being named. -/
inductive Plan
  | issue (token : PendingToken)
  | authenticate (key : KeyName)
  | authenticateOrRefuse (key : KeyName)
  | list (tenant : Tenant) (state : State) (source : Source)
  | get (link : Link) (tenant : Option Tenant)
  | describe (link : Link) (description : String) (tenant : Option Tenant)
  | revoke (tenant : Tenant) (link : Option Link) (key : Option KeyName)
  | revokeTenant (tenant : Tenant)

/-- The operation, after `keys` were handed out. -/
def Plan.operation (keys : List String) : Plan → Operation
  | issue token => .issue token
  | authenticate key => .authenticate (key.text keys)
  | authenticateOrRefuse key => .authenticateOrRefuse (key.text keys)
  | list t state source => .list t state source
  | get l t => .get l t
  | describe l description t => .describe l description t
  | revoke t link key => .revoke t link (key.map (KeyName.text keys))
  | revokeTenant t => .revokeTenant t

/-- A planned operation with the time and the disturbance that it finds. -/
structure Cue where
  now : Instant
  fault : Option Fault
  plan : Plan

/-- What the operation finds; the table is always there. -/
def Cue.conditions (cue : Cue) : Conditions := ⟨cue.now, cue.fault, true⟩

/-- The step, after `keys` were handed out. -/
def Cue.step (keys : List String) (cue : Cue) : Step :=
  ⟨cue.conditions, cue.plan.operation keys⟩

/-- The keys that were handed out when a further answer has come. -/
def keysAfter (keys : List String) : Except Failure Answer → List String
  | .ok (.issued key _) => keys ++ [key]
  | _ => keys

/-- The replies of a script, one after the other, from a state in which `keys`
were handed out. -/
def follow (codec : Codec) : Service → List String → List Cue → List (Reply Service Answer)
  | _, _, [] => []
  | s, keys, cue :: rest =>
    let r := perform codec (cue.step keys) s
    r :: follow codec r.state (keysAfter keys r.answer) rest

/-- The hash that is computed in a step, if it is one that issues a token. -/
def Plan.hash? (codec : Codec) (draws : Draws) : Plan → Option StorageHash
  | issue _ => (codec.issue draws).1.toOption.map IssuedKey.hash
  | _ => none

/-- The hashes that are computed in the steps of a script that issue a token,
whether or not a token is stored. -/
def hashes (codec : Codec) : Service → List String → List Cue → List StorageHash
  | _, _, [] => []
  | s, keys, cue :: rest =>
    let r := perform codec (cue.step keys) s
    (cue.plan.hash? codec s.draws).toList ++ hashes codec r.state (keysAfter keys r.answer) rest

/-! ## Keys that were handed out -/

/-- The key leads to the row of the link. -/
def LeadsTo (codec : Codec) (rows : List Row) (key : String) (l : Link) : Prop :=
  ∃ r ∈ rows, r.link = l ∧ codec.check key = ⟨.ok (some r.hash), []⟩

/-- It does so at any later time. -/
theorem LeadsTo.mono {codec : Codec} {rows rows' : List Row} {key : String} {l : Link}
    (h : LeadsTo codec rows key l) (hext : Extends rows rows') : LeadsTo codec rows' key l := by
  obtain ⟨r, hr, hlink, hcheck⟩ := h
  obtain ⟨r', hr', hevolves⟩ := hext.exists_mem hr
  have hsame := hevolves.sameToken
  exact ⟨r', hr', hsame.link.trans hlink, by rw [hsame.hash, hcheck]⟩

/-- The hash that the key leads to stands for the link. -/
theorem LeadsTo.exists_hash {codec : Codec} {rows : List Row} {key : String} {l : Link}
    (h : LeadsTo codec rows key l) (hkeyed : Keyed rows) :
    ∃ hash, codec.check key = ⟨.ok (some hash), []⟩
      ∧ ∀ r ∈ rows, (r.link == l) = (r.hash == hash) := by
  obtain ⟨r, hr, rfl, hcheck⟩ := h
  refine ⟨r.hash, hcheck, fun x hx => ?_⟩
  rw [Bool.eq_iff_iff, beq_iff_eq, beq_iff_eq]
  constructor
  · intro hlink
    rw [hkeyed.eq_of_link hx hr hlink]
  · intro hhash
    rw [hkeyed.eq_of_hash hx hr hhash]

/-- The links of the tokens that were issued when a further answer has come. -/
def linksAfter (links : List Link) : Except Failure Answer → List Link
  | .ok (.issued _ e) => links ++ [e.link]
  | _ => links

/-- What is known of the state of a run: names are distinct, draws are bounded,
and the keys that were handed out lead to the tokens of these links. -/
structure Known (codec : Codec) (rows : List Row) (draws : Draws) (keys : List String)
    (links : List Link) : Prop where
  keyed : Keyed rows
  bounded : draws.IsBounded
  leads : List.Forall₂ (LeadsTo codec rows) keys links

theorem known_nil (codec : Codec) {draws : Draws} (h : draws.IsBounded) :
    Known codec [] draws [] [] :=
  ⟨keyed_nil, h, .nil⟩

section

variable {codec : Codec} {rows : List Row} {draws : Draws} {keys : List String} {links : List Link}

theorem getElem?_of_forall₂ {α β : Type} {R : α → β → Prop} {xs : List α} {ys : List β}
    (h : List.Forall₂ R xs ys) (n : Nat) :
    xs[n]? = none ∧ ys[n]? = none ∨ ∃ x y, xs[n]? = some x ∧ ys[n]? = some y ∧ R x y := by
  induction h generalizing n with
  | nil => exact Or.inl ⟨rfl, rfl⟩
  | cons hxy _ ih =>
    cases n with
    | zero => exact Or.inr ⟨_, _, rfl, rfl, hxy⟩
    | succ n => exact ih n

/-- The name of a key that was handed out. -/
theorem Known.leadsTo_issued (h : Known codec rows draws keys links) {n : Nat} {l : Link}
    (hlink : links[n]? = some l) : LeadsTo codec rows ((KeyName.issued n).text keys) l := by
  rcases getElem?_of_forall₂ h.leads n with ⟨-, hnone⟩ | ⟨key, l', hkey, hlink', hleads⟩
  · rw [hlink] at hnone
    contradiction
  · rw [hlink, Option.some.injEq] at hlink'
    rw [KeyName.text, hkey, hlink']
    exact hleads

/-- The name of a key that is still to come. -/
theorem Known.text_issued (h : Known codec rows draws keys links) {n : Nat}
    (hlink : links[n]? = none) : (KeyName.issued n).text keys = "" := by
  rcases getElem?_of_forall₂ h.leads n with ⟨hkey, -⟩ | ⟨_, _, -, hlink', -⟩
  · rw [KeyName.text, hkey]
    rfl
  · rw [hlink] at hlink'
    contradiction

/-- A step keeps all of it, its own key included. -/
theorem Known.next (h : Known codec rows draws keys links) (step : Step) :
    let r := perform codec step (settled rows draws)
    ∃ rows' draws', r.state = settled rows' draws'
      ∧ Known codec rows' draws' (keysAfter keys r.answer) (linksAfter links r.answer) := by
  intro r
  obtain ⟨rows', draws', hnext, hkeyed, hbounded, hext⟩ :=
    next_settled codec h.keyed h.bounded step
  have hleads : List.Forall₂ (LeadsTo codec rows') keys links :=
    h.leads.imp fun _ _ hkey => hkey.mono hext
  have hstay : Known codec rows' draws' keys links := ⟨hkeyed, hbounded, hleads⟩
  refine ⟨rows', draws', hnext, ?_⟩
  unfold keysAfter linksAfter
  split
  · rename_i key e hissued
    obtain ⟨hash, token, hcheck, -, rfl, hnext'⟩ := perform_issued h.bounded hissued
    have hrows : rows' = rows ++ [Row.ofPending step.conditions.now hash token] :=
      congrArg (fun s => s.session.rows) (hnext.symm.trans hnext')
    have hkey : LeadsTo codec rows' key token.link :=
      ⟨Row.ofPending step.conditions.now hash token, by simp [hrows], rfl, hcheck⟩
    exact ⟨hkeyed, hbounded, List.rel_append hleads (.cons hkey .nil)⟩
  · exact hstay

/-! ## Hashes that are still to come -/

theorem hash?_issue (codec : Codec) (draws : Draws) (token : PendingToken) :
    (Plan.issue token).hash? codec draws = (codec.storageHash draws.drawSecret.1).toOption := by
  rw [Plan.hash?, Codec.issue_eq]
  cases codec.storageHash draws.drawSecret.1 <;> rfl

/-- A step brings no hash into the table but the one that it computes. -/
theorem map_hash_perform {cue : Cue} {rows' : List Row} {draws' : Draws}
    (hstate : (perform codec (cue.step keys) (settled rows draws)).state = settled rows' draws') :
    rows'.map Row.hash = rows.map Row.hash
      ∨ ∃ h, cue.plan.hash? codec draws = some h
        ∧ rows'.map Row.hash = rows.map Row.hash ++ [h] := by
  have hmoves := moves_next codec rows draws (cue.step keys)
  rw [next, hstate] at hmoves
  obtain ⟨now, fault, plan⟩ := cue
  cases plan with
  | issue token =>
    have hrows {rows₀ : List Row} {draws₀ : Draws}
        (he : settled rows₀ draws₀ = settled rows' draws') : rows₀ = rows' :=
      congrArg (fun s => s.session.rows) he
    simp only [Cue.step, Plan.operation, perform, Reply.state_map, issue_settled] at hstate
    cases hhash : codec.storageHash draws.drawSecret.1 with
    | error e =>
      rw [hhash] at hstate
      exact Or.inl (by rw [← hrows hstate])
    | ok h =>
      by_cases hany : rows.any (Store.collides h token.link) = true
      · simp only [hhash, Cue.conditions, Conditions.insertError?, if_true, hany] at hstate
        exact Or.inl (by rw [← hrows hstate])
      · simp only [hhash, Cue.conditions, Conditions.insertError?, if_true, hany,
          Bool.false_eq_true, if_false] at hstate
        refine Or.inr ⟨h, by rw [hash?_issue, hhash]; rfl, ?_⟩
        rw [← hrows hstate, List.map_append]
        rfl
  | authenticate | authenticateOrRefuse | list | get | describe | revoke | revokeTenant =>
    left
    cases hmoves with
    | stay => rfl
    | write drawn writes fits =>
      refine Write.map_hash_apply (fun h token he => ?_) _ rows
      have hissue := (he ▸ writes).eq_issue
      contradiction

/-- The hashes that are still to come are distinct and not in the table. -/
structure Fresh (codec : Codec) (rows : List Row) (draws : Draws) (keys : List String)
    (script : List Cue) : Prop where
  nodup : (hashes codec (settled rows draws) keys script).Nodup
  not_mem : ∀ r ∈ rows, r.hash ∉ hashes codec (settled rows draws) keys script

/-- A step keeps this for the rest of the script. -/
theorem Fresh.next {cue : Cue} {rest : List Cue} (h : Fresh codec rows draws keys (cue :: rest))
    {rows' : List Row} {draws' : Draws} :
    let r := perform codec (cue.step keys) (settled rows draws)
    r.state = settled rows' draws' → Fresh codec rows' draws' (keysAfter keys r.answer) rest := by
  intro r hstate
  obtain ⟨hnodup, hnot⟩ := h
  have hhashes : hashes codec (settled rows draws) keys (cue :: rest)
      = (cue.plan.hash? codec draws).toList
        ++ hashes codec (settled rows' draws') (keysAfter keys r.answer) rest := by
    rw [← hstate]
    rfl
  rw [hhashes] at hnodup hnot
  refine ⟨(List.nodup_append.1 hnodup).2.1, fun r' hr' hmem => ?_⟩
  have hmap : r'.hash ∈ rows'.map Row.hash := List.mem_map_of_mem hr'
  rcases map_hash_perform hstate with heq | ⟨new, hnew, heq⟩
  · obtain ⟨r₀, hr₀, hhash⟩ := List.mem_map.1 (heq ▸ hmap)
    exact hnot r₀ hr₀ (List.mem_append_right _ (hhash ▸ hmem))
  · rw [heq, List.mem_append, List.mem_singleton] at hmap
    rcases hmap with hmap | hmap
    · obtain ⟨r₀, hr₀, hhash⟩ := List.mem_map.1 hmap
      exact hnot r₀ hr₀ (List.mem_append_right _ (hhash ▸ hmem))
    · -- The new hash is not computed a second time.
      rw [hnew] at hnodup
      exact (List.nodup_cons.1 hnodup).1 (hmap ▸ hmem)

/-- In particular, the hash that a step computes is not in the table. -/
theorem Fresh.hash_ne {cue : Cue} {rest : List Cue} (h : Fresh codec rows draws keys (cue :: rest))
    {new : StorageHash} (hnew : cue.plan.hash? codec draws = some new) {r : Row} (hr : r ∈ rows) :
    r.hash ≠ new := by
  rintro rfl
  refine h.not_mem r hr (List.mem_append_left _ ?_)
  show r.hash ∈ (cue.plan.hash? codec draws).toList
  rw [hnew]
  exact List.mem_singleton_self r.hash

end

end Service
end BearerTokens
