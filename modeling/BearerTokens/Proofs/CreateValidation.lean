/-
BearerTokens.Proofs.CreateValidation — which requests for a token are accepted.

Seven members of an object are looked at. Five are read strictly: what each of
them admits is said here in terms of the value alone (`StrictField.admits`), and
`Reading` ties it to the function that reads the field. The two tags are read
leniently (`ReadsAs`): a text or a void value is always read, as a fallback if
need be, but a value of another kind cannot be read, and that is not an issue
with the request but a failure.

The ways in which a check can end are listed once, in `Outcome`. That the
accepted requests are the admitted ones (`create_validation_is_exact`), and what
tags can do to a request (`only_unreadable_tags_fail`), is read off it.
-/
import BearerTokens.Request.Create

namespace BearerTokens.Request

open Text (Wide)

/-! ## Lenient tags -/

/-- Can a tag be read from the value? -/
def isReadable : Json → Bool
  | .string _ => true
  | value => value.isVoid

/-- The tag that is read from a value, if one is given, and what is reported. -/
inductive ReadsAs {α : Type} [DefaultTag α] : Option Json → α → List Event → Prop
  | absent : ReadsAs none DefaultTag.fallback []
  | named {s : String} {a : α} (name : Tag.name a = Tag.normalise s) :
      ReadsAs (some (.text s)) a []
  | unknown {value : Json}
      (unnamed : ∀ (s : String) (a : α), value = .text s → Tag.name a ≠ Tag.normalise s) :
      ReadsAs (some value) DefaultTag.fallback [.unknownTag (Tag.kind α) value.display]

/-- The two ways in which reading a tag can end. -/
inductive TagReading {α : Type} [DefaultTag α] (value? : Option Json) :
    Except Tag.NotText (α × List Event) → Prop
  | read {a : α} {log : List Event} (readable : value?.all isReadable = true)
      (reads : ReadsAs value? a log) : TagReading value? (.ok (a, log))
  | notText {value : Json} (given : value? = some value) (unreadable : isReadable value = false) :
      TagReading value? (.error ⟨value.kindName⟩)

section

variable {α : Type} [DefaultTag α] (hnames : ∀ a : α, Tag.named? (Tag.name a) = some a)

include hnames

/-- A text reads as the member that it names, or else as the fallback. -/
theorem readsAs_ofText (s : String) :
    ReadsAs (some (.text s)) (Tag.ofText s : α × List Event).1 (Tag.ofText s : α × List Event).2 := by
  rw [Tag.ofText]
  cases hparse : (Tag.parse? s : Option α) with
  | some a => exact .named (Tag.name_of_named? hparse)
  | none =>
    refine .unknown fun s' a hs hname => ?_
    cases hs
    rw [(Tag.parse?_eq_some_iff hnames).2 hname.symm] at hparse
    cases hparse

/-- The readings of a tag, by the kinds of values: a text, another string, and
the rest, of which only void values are read. -/
theorem tagReading_readTag (value? : Option Json) :
    TagReading value? (readTag (value?.map .value) : Except Tag.NotText (α × List Event)) := by
  have hother : ∀ value : Json, isReadable value = value.isVoid → (∀ s, value ≠ .text s) →
      TagReading (α := α) (some value)
        (if value.isVoid then .ok (Tag.fallBack value) else .error ⟨value.kindName⟩) := by
    intro value hkind hne
    split
    · rename_i hvoid
      exact .read (by simp [hkind, hvoid]) (.unknown fun s _ hs => absurd hs (hne s))
    · rename_i hvoid
      exact .notText rfl (by simp [hkind, hvoid])
  cases value? with
  | none => exact .read rfl .absent
  | some value =>
    cases value with
    | string w =>
      cases w with
      | text s => exact .read rfl (readsAs_ofText hnames s)
      | broken points noText => exact .read rfl (.unknown nofun)
    | null | bool | int | real | list | object => exact hother _ rfl nofun

end

/-! ## Strict fields -/

/-- The fields that are read strictly. -/
inductive StrictField
  | accountId
  | serviceId
  | mode
  | description
  | creator
deriving DecidableEq, Repr

namespace StrictField

/-- The name of the member. -/
def name : StrictField → String
  | accountId => "account_id"
  | serviceId => "service_external_id"
  | mode => "service_mode"
  | description => "description"
  | creator => "created_by"

/-- All of them, in the order in which they are reported. -/
def inOrder : List StrictField :=
  [accountId, serviceId, mode, description, creator]

end StrictField

/-- Is the value a string of so many code points, and one that passes? -/
def isString (passes : Wide → Bool) (least most : Nat) : Json → Bool
  | .string w => passes w && least ≤ w.points.length && w.points.length ≤ most
  | _ => false

/-- Does the value name a mode? -/
def namesMode : Json → Bool
  | .text s => Tag.normalise s == "LIVE" || Tag.normalise s == "TEST"
  | _ => false

/-- Is nothing given, or null, or else a value that passes the test? -/
def isOptional (test : Json → Bool) : Option Json → Bool
  | none | some .null => true
  | some value => test value

/-- Is the field as it must be? Which strings are allowed at all is left open. -/
def StrictField.admits (passes : Wide → Bool) (fields : Json.Fields) (f : StrictField) : Bool :=
  let value? := fields.get? f.name
  match f with
  | accountId | serviceId => isOptional (isString passes 0 255) value?
  | mode => isOptional namesMode value?
  | description | creator => value?.any (isString passes 1 255)

/-- The fields that are not as they must be, in order. -/
def failing (passes : Wide → Bool) (fields : Json.Fields) : List StrictField :=
  StrictField.inOrder.filter fun f => !f.admits passes fields

/-- The text that is given, if one is. -/
def givenText? : Option Json → Option String
  | some (.text s) => some s
  | _ => none

/-- The reading of one field: a value, if the field is as it must be, and
otherwise an issue in its place. -/
inductive Reading {α : Type} (name : String) (P : α → Prop) : Bool → Except Issue α → Prop
  | value {a : α} (h : P a) : Reading name P true (.ok a)
  | issue {i : Issue} (place : i.place = [name]) : Reading name P false (.error i)

namespace Reading

variable {α : Type} {name : String} {P : α → Prop} {admitted : Bool} {e : Except Issue α}

theorem of_ok {a : α} (h : Reading name P admitted (.ok a)) : admitted = true ∧ P a := by
  cases h with
  | value h => exact ⟨rfl, h⟩

theorem exists_ok (h : Reading name P true e) : ∃ a, e = .ok a := by
  cases h with
  | value _ => exact ⟨_, rfl⟩

/-- A reading of something is one of what is made of it. -/
theorem map {β : Type} {Q : β → Prop} {f : α → β} (h : Reading name P admitted e)
    (hf : ∀ a, P a → Q (f a)) : Reading name Q admitted (e.map f) := by
  cases h with
  | value h => exact .value (hf _ h)
  | issue place => exact .issue place

/-- An issue is there if and only if the field is not as it must be. -/
theorem places (h : Reading name P admitted e) :
    (issueOf e).map Issue.place = if !admitted then [[name]] else [] := by
  cases h with
  | value _ => rfl
  | issue place => simp [issueOf, place]

end Reading

/-! ### Each field -/

/-- A string is a text that is not too long, or it is refused. -/
theorem reading_limitedText (name : String) (w : Wide) :
    Reading name (fun s => w = .text s) (isString Wide.isText 0 255 (.string w))
      (limitedText name (some nameLimit) w) := by
  cases w with
  | broken points noText => exact .issue rfl
  | text s =>
    have hadmits : isString Wide.isText 0 255 (.text s) = decide (s.length ≤ 255) := by
      simp [isString, Wide.isText, Wide.points, Text.points, String.length_toList]
    rw [hadmits, limitedText, nameLimit]
    split
    · rename_i hlong
      rw [decide_eq_false (by omega)]
      exact .issue rfl
    · rename_i hshort
      rw [decide_eq_true (by omega)]
      exact .value rfl

theorem reading_optionalText (name : String) (value? : Option Json) :
    Reading name (· = givenText? value?) (isOptional (isString Wide.isText 0 255) value?)
      (optionalText name (some nameLimit) value?) := by
  cases value? with
  | none => exact .value rfl
  | some value =>
    cases value with
    | null => exact .value rfl
    | bool | int | real | list | object => exact .issue rfl
    | string w =>
      refine (reading_limitedText name w).map fun s hw => ?_
      rw [hw]
      rfl

theorem reading_requiredText (name : String) (whole : Json) (value? : Option Json) :
    Reading name (fun s => value? = some (.text s)) (value?.any (isString Wide.isText 1 255))
      (requiredText name nameLimit whole value?) := by
  cases value? with
  | none => exact .issue rfl
  | some value =>
    cases value with
    | null | bool | int | real | list | object => exact .issue rfl
    | string w =>
      rw [requiredText, Option.any_some]
      split
      · rename_i hempty
        have hnone : w.points.length = 0 := by
          simpa [Wide.isEmpty] using hempty
        have hadmits : isString Wide.isText 1 255 (.string w) = false := by
          simp [isString, hnone]
        rw [hadmits]
        exact .issue rfl
      · rename_i hsome
        have hpos : 1 ≤ w.points.length := by
          rw [Nat.one_le_iff_ne_zero]
          simpa [Wide.isEmpty] using hsome
        have hadmits : isString Wide.isText 1 255 (.string w)
            = isString Wide.isText 0 255 (.string w) := by
          simp [isString, hpos]
        rw [hadmits]
        have hread := (reading_limitedText name w).map (f := id)
          (Q := fun s => some (Json.string w) = some (.text s)) fun s hw => by rw [hw]; rfl
        simpa using hread

theorem namesMode_text (s : String) :
    namesMode (.text s) = (Tag.parse? s : Option Mode).isSome := by
  rw [Tag.parse?, Tag.named?, List.isSome_find?, namesMode, BEq.comm (a := Tag.normalise s),
    BEq.comm (a := Tag.normalise s)]
  simp [Tag.members, Tag.name]

theorem reading_readMode (value? : Option Json) :
    Reading "service_mode" (fun mode => mode.map Tag.name = (givenText? value?).map Tag.normalise)
      (isOptional namesMode value?) (readMode (value?.map .value)) := by
  cases value? with
  | none => exact .value rfl
  | some value =>
    cases value with
    | null => exact .value rfl
    | bool | int | real | list | object => exact .issue rfl
    | string w =>
      cases w with
      | broken points noText => exact .issue rfl
      | text s =>
        have hmode := namesMode_text s
        simp only [Option.map_some, readMode, Mode.ofJson, Mode.ofText, isOptional, hmode]
        cases hparse : (Tag.parse? s : Option Mode) with
        | none => exact .issue rfl
        | some mode => exact .value (congrArg some (Tag.name_of_named? hparse))

/-! ### All fields -/

/-- What the strict fields of an object say. -/
structure Carries (fields : Json.Fields) (f : StrictFields) : Prop where
  accountId : f.accountId = givenText? (fields.get? "account_id")
  serviceId : f.serviceId = givenText? (fields.get? "service_external_id")
  mode : f.mode.map Tag.name
    = (givenText? (fields.get? "service_mode")).map Tag.normalise
  description : fields.get? "description" = some (.text f.description)
  creator : fields.get? "created_by" = some (.text f.creator)

/-- The two ways in which the reading of the strict fields can end. -/
inductive StrictReading (fields : Json.Fields) : Except (List Issue) StrictFields → Prop
  | read {f : StrictFields} (admitted : failing Wide.isText fields = []) (carries : Carries fields f) :
      StrictReading fields (.ok f)
  | issues {issues : List Issue} (some : failing Wide.isText fields ≠ [])
      (places : issues.map Issue.place = (failing Wide.isText fields).map fun f => [f.name]) :
      StrictReading fields (.error issues)

theorem StrictField.mem_inOrder (f : StrictField) : f ∈ inOrder := by
  cases f <;> decide

theorem failing_eq_nil_iff {passes : Wide → Bool} {fields : Json.Fields} :
    failing passes fields = [] ↔ ∀ f : StrictField, f.admits passes fields = true := by
  simp [failing, List.filter_eq_nil_iff, StrictField.mem_inOrder]

/-- The places of the issues, field by field. -/
theorem map_name_failing (passes : Wide → Bool) (fields : Json.Fields) :
    ((failing passes fields).map fun f => [f.name])
      = StrictField.inOrder.flatMap fun f =>
          if !f.admits passes fields then [[f.name]] else [] := by
  rw [failing]
  induction StrictField.inOrder with
  | nil => rfl
  | cons f rest ih =>
    rw [List.filter_cons, List.flatMap_cons, ← ih]
    split <;> rfl

/-- The strict fields are read, or there is an issue for each that fails. -/
theorem strictReading_strictFields (fields : Json.Fields) :
    StrictReading fields (Draft.ofFields fields).strictFields := by
  have haccount : Reading _ _ (StrictField.accountId.admits Wide.isText fields) _ :=
    reading_optionalText "account_id" (fields.get? "account_id")
  have hservice : Reading _ _ (StrictField.serviceId.admits Wide.isText fields) _ :=
    reading_optionalText "service_external_id" (fields.get? "service_external_id")
  have hmode : Reading _ _ (StrictField.mode.admits Wide.isText fields) _ :=
    reading_readMode (fields.get? "service_mode")
  have hdescription : Reading _ _ (StrictField.description.admits Wide.isText fields) _ :=
    reading_requiredText "description" (.object fields) (fields.get? "description")
  have hcreator : Reading _ _ (StrictField.creator.admits Wide.isText fields) _ :=
    reading_requiredText "created_by" (.object fields) (fields.get? "created_by")
  rw [Draft.strictFields]
  dsimp only [Draft.ofFields]
  split
  · rename_i ha hs hm hd hc
    rw [ha] at haccount
    rw [hs] at hservice
    rw [hm] at hmode
    rw [hd] at hdescription
    rw [hc] at hcreator
    refine .read (failing_eq_nil_iff.2 fun f => ?_) ⟨haccount.of_ok.2, hservice.of_ok.2,
      hmode.of_ok.2, hdescription.of_ok.2, hcreator.of_ok.2⟩
    cases f with
    | accountId => exact haccount.of_ok.1
    | serviceId => exact hservice.of_ok.1
    | mode => exact hmode.of_ok.1
    | description => exact hdescription.of_ok.1
    | creator => exact hcreator.of_ok.1
  · rename_i hnot
    refine .issues (fun hnil => ?_) ?_
    · -- Were every field as it must be, all five would have been read.
      have hall := failing_eq_nil_iff.1 hnil
      rw [hall .accountId] at haccount
      rw [hall .serviceId] at hservice
      rw [hall .mode] at hmode
      rw [hall .description] at hdescription
      rw [hall .creator] at hcreator
      obtain ⟨_, ha⟩ := haccount.exists_ok
      obtain ⟨_, hs⟩ := hservice.exists_ok
      obtain ⟨_, hm⟩ := hmode.exists_ok
      obtain ⟨_, hd⟩ := hdescription.exists_ok
      obtain ⟨_, hc⟩ := hcreator.exists_ok
      exact hnot _ _ _ _ _ ha hs hm hd hc
    · rw [map_name_failing]
      simp only [List.map_append, haccount.places, hservice.places, hmode.places,
        hdescription.places, hcreator.places, StrictField.inOrder, List.flatMap_cons,
        List.flatMap_nil, List.append_nil, List.append_assoc]
      rfl

/-! ## Whom the token is for -/

/-- Is a string given that is not empty? -/
def givesText : Option Json → Bool
  | some (.string w) => !w.isEmpty
  | _ => false

/-- Is anything given that is not null? -/
def givesValue : Option Json → Bool
  | none | some .null => false
  | _ => true

/-- Do the members name an account, or a service together with a mode? -/
def givesOwner (fields : Json.Fields) : Bool :=
  givesText (fields.get? "account_id")
    || (givesText (fields.get? "service_external_id") && givesValue (fields.get? "service_mode"))

theorem hasText_givenText? {value? : Option Json}
    (h : isOptional (isString Wide.isText 0 255) value? = true) :
    hasText (givenText? value?) = givesText value? := by
  cases value? with
  | none => rfl
  | some value =>
    cases value with
    | null => rfl
    | bool | int | real | list | object => cases h
    | string w =>
      cases w with
      | text s =>
        have hempty : (Wide.text s).isEmpty = s.isEmpty := by
          rw [Bool.eq_iff_iff]
          simp [Wide.isEmpty, Wide.points, Text.points]
        simp only [givenText?, givesText, hasText, Option.any_some, hempty]
      | broken points noText => cases h

theorem isSome_givenText? {value? : Option Json} (h : isOptional namesMode value? = true) :
    (givenText? value?).isSome = givesValue value? := by
  cases value? with
  | none => rfl
  | some value =>
    cases value with
    | null => rfl
    | bool | int | real | list | object => cases h
    | string w =>
      cases w with
      | text s => rfl
      | broken points noText => cases h

/-- Of fields that are as they must be, the values name an owner if the members do. -/
theorem Carries.namesOwner_eq {fields : Json.Fields} {f : StrictFields} (h : Carries fields f)
    (hadmitted : failing Wide.isText fields = []) :
    namesOwner f.accountId f.serviceId f.mode = givesOwner fields := by
  have hall := failing_eq_nil_iff.1 hadmitted
  have haccount : hasText f.accountId = givesText (fields.get? "account_id") := by
    rw [h.accountId]
    exact hasText_givenText? (hall .accountId)
  have hservice : hasText f.serviceId = givesText (fields.get? "service_external_id") := by
    rw [h.serviceId]
    exact hasText_givenText? (hall .serviceId)
  have hmode : f.mode.isSome = givesValue (fields.get? "service_mode") := by
    rw [← Option.isSome_map, h.mode, Option.isSome_map]
    exact isSome_givenText? (hall .mode)
  rw [namesOwner, givesOwner, haccount, hservice, hmode]

/-! ## The ends of a check -/

/-- The value from which the type of payment is read. -/
def paymentValue? (fields : Json.Fields) : Option Json :=
  fields.get? "token_type"

/-- The value from which the source is read, under the first of its two names. -/
def sourceValue? (fields : Json.Fields) : Option Json :=
  (fields.get? "type").or (fields.get? "source")

/-- The tags that are read from the members, and what is reported about them. -/
inductive TagsRead (fields : Json.Fields) : PaymentType → Source → List Event → Prop
  | read {p : PaymentType} {s : Source} {typeLog sourceLog : List Event}
      (paymentType : ReadsAs (paymentValue? fields) p typeLog)
      (source : ReadsAs (sourceValue? fields) s sourceLog) :
      TagsRead fields p s (typeLog ++ sourceLog)

/-- Both tags can be read. -/
structure TagsReadable (fields : Json.Fields) : Prop where
  paymentType : (paymentValue? fields).all isReadable = true
  source : (sourceValue? fields).all isReadable = true

/-- This value is in the way of reading the tags. -/
inductive Obstructs (fields : Json.Fields) (value : Json) : Prop
  | paymentType (given : paymentValue? fields = some value) (unreadable : isReadable value = false)
  | source (readable : (paymentValue? fields).all isReadable = true)
      (given : sourceValue? fields = some value) (unreadable : isReadable value = false)

/-- Nothing is in the way if both tags can be read. -/
theorem TagsReadable.not_obstructs {fields : Json.Fields} (h : TagsReadable fields) (value : Json) :
    ¬ Obstructs fields value := by
  rintro (⟨given, unreadable⟩ | ⟨-, given, unreadable⟩)
  · simpa [given, unreadable] using h.paymentType
  · simpa [given, unreadable] using h.source

/-- There is one value at most that is in the way, the first one. -/
theorem Obstructs.unique {fields : Json.Fields} {a b : Json} (ha : Obstructs fields a)
    (hb : Obstructs fields b) : a = b := by
  cases ha with
  | paymentType given unreadable =>
    cases hb with
    | paymentType given' _ => exact Option.some.inj (given.symm.trans given')
    | source readable => simp [given, unreadable] at readable
  | source readable given unreadable =>
    cases hb with
    | paymentType given' unreadable' => simp [given', unreadable'] at readable
    | source _ given' _ => exact Option.some.inj (given.symm.trans given')

/-- The strict fields of a request. -/
def Create.strictFields (r : Create) : StrictFields :=
  ⟨r.accountId, r.serviceId, r.mode, r.description, r.creator⟩

/-- The ways in which the check of an object can end. -/
inductive Outcome (fields : Json.Fields) : Checked Create → Prop
  | accepted {r : Create} {log : List Event} (readable : TagsReadable fields)
      (tags : TagsRead fields r.paymentType r.source log)
      (admitted : failing Wide.isText fields = []) (owner : givesOwner fields = true)
      (carries : Carries fields r.strictFields) : Outcome fields ⟨.ok r, log⟩
  | ownerless {log : List Event} (readable : TagsReadable fields)
      (admitted : failing Wide.isText fields = []) (owner : givesOwner fields = false) :
      Outcome fields ⟨.error (.issues [noOwner (.object fields)]), log⟩
  | badFields {issues : List Issue} {log : List Event} (readable : TagsReadable fields)
      (some : failing Wide.isText fields ≠ [])
      (places : issues.map Issue.place = (failing Wide.isText fields).map fun f => [f.name]) :
      Outcome fields ⟨.error (.issues issues), log⟩
  | notText {value : Json} {log : List Event} (obstructs : Obstructs fields value) :
      Outcome fields ⟨.error (.notText ⟨value.kindName⟩), log⟩

/-- **One check**: the tags are read first, then the strict fields, and then it is
asked whom the token is for. -/
theorem outcome_ofJson (fields : Json.Fields) :
    Outcome fields (Create.ofJson (.object fields)) := by
  have htype := tagReading_readTag PaymentType.named?_name (paymentValue? fields)
  have hsource := tagReading_readTag Source.named?_name (sourceValue? fields)
  have hstrict := strictReading_strictFields fields
  have hcheck : Create.ofJson (.object fields) = (Draft.ofFields fields).check := rfl
  rw [hcheck, Draft.check]
  change TagReading _ (readTag (Draft.ofFields fields).paymentType) at htype
  change TagReading _ (readTag (Draft.ofFields fields).source) at hsource
  generalize readTag (Draft.ofFields fields).paymentType = typeRead at htype ⊢
  generalize readTag (Draft.ofFields fields).source = sourceRead at hsource ⊢
  generalize (Draft.ofFields fields).strictFields = strictRead at hstrict ⊢
  cases htype with
  | notText given unreadable => exact .notText (.paymentType given unreadable)
  | @read p typeLog hreadable hreads =>
    cases hsource with
    | notText given unreadable => exact .notText (.source hreadable given unreadable)
    | @read s sourceLog hreadable' hreads' =>
      have htags : TagsReadable fields := ⟨hreadable, hreadable'⟩
      cases hstrict with
      | issues some places => exact .badFields htags some places
      | @read f hadmitted hcarries =>
        dsimp only
        rw [StrictFields.request?]
        have howner := hcarries.namesOwner_eq hadmitted
        split
        · rename_i r hr
          split at hr
          · rename_i hnames
            cases hr
            exact .accepted htags (.read hreads hreads') hadmitted (howner ▸ hnames) hcarries
          · cases hr
        · rename_i hr
          split at hr
          · cases hr
          · rename_i hnames
            exact .ownerless htags hadmitted (howner ▸ Bool.eq_false_iff.2 hnames)

/-! ## What is accepted -/

/-- An object is refused for its fields that are not as they must be, or else
because it does not say whom the token is for. -/
inductive RefusedFor (passes : Wide → Bool) (fields : Json.Fields) : Refusal → Prop
  | badFields {issues : List Issue} (some : failing passes fields ≠ [])
      (places : issues.map Issue.place = (failing passes fields).map fun f => [f.name]) :
      RefusedFor passes fields (.issues issues)
  | ownerless (admitted : failing passes fields = []) (owner : givesOwner fields = false) :
      RefusedFor passes fields (.issues [noOwner (.object fields)])

/-- The check of a value accepts an object exactly if every strict field is as it
must be and the members say whom the token is for; what is accepted is what was
given and can be made into a token. Which strings are allowed at all is left
open. -/
structure IsExact (passes : Wide → Bool) (body : Json) (checked : Checked Create) : Prop where
  accepted_iff : (∃ r, checked.result = .ok r) ↔ ∃ fields, body = .object fields
    ∧ (∀ f : StrictField, f.admits passes fields = true) ∧ givesOwner fields = true
  carries : ∀ r, checked.result = .ok r → ∀ fields, body = .object fields →
    Carries fields r.strictFields ∧ TagsRead fields r.paymentType r.source checked.log
  makes : ∀ r, checked.result = .ok r → ∀ link, ∃ token,
    PendingToken.make r.metadata link = .ok token ∧ token.link = link
      ∧ token.metadata = ⟨r.description, r.creator, r.accountId, r.serviceId, r.mode,
          r.paymentType, r.source⟩
  refused : ∀ refusal, checked.result = .error refusal → ∀ fields, body = .object fields →
    RefusedFor passes fields refusal

/-- The two checks of whom a token is for never disagree: a request that was
accepted makes a token. -/
theorem exists_make (r : Create) (link : Link) :
    ∃ token, PendingToken.make r.metadata link = .ok token ∧ token.link = link
      ∧ token.metadata = r.metadata :=
  ⟨r.token link, dif_pos r.hasScope_metadata, rfl, rfl⟩

/-- A refusal is exact if it is for the fields of the object that was given, if
one was. -/
theorem isExact_of_refused {passes : Wide → Bool} {body : Json} {checked : Checked Create}
    {refusal : Refusal} (hresult : checked.result = .error refusal)
    (hrefused : ∀ fields, body = .object fields → RefusedFor passes fields refusal) :
    IsExact passes body checked := by
  have hnot : ∀ r, checked.result ≠ .ok r := by
    intro r hr
    rw [hresult] at hr
    cases hr
  refine ⟨⟨?_, ?_⟩, fun r hr => absurd hr (hnot r), fun r hr => absurd hr (hnot r), ?_⟩
  · rintro ⟨r, hr⟩
    exact absurd hr (hnot r)
  · rintro ⟨fields, hfields, hall, howner⟩
    cases hrefused fields hfields with
    | badFields some => exact absurd (failing_eq_nil_iff.2 hall) some
    | ownerless _ owner =>
      rw [owner] at howner
      cases howner
  · intro refusal' hresult' fields hfields
    rw [hresult, Except.error.injEq] at hresult'
    exact hresult' ▸ hrefused fields hfields

/-- **What is accepted**: of the values in which both tags can be read, exactly
the objects whose strict fields are as they must be and name an owner. The strings
that are allowed are those without surrogates. -/
theorem create_validation_is_exact (body : Json)
    (hreadable : ∀ fields, body = .object fields → TagsReadable fields) :
    IsExact Wide.isText body (Create.ofJson body) := by
  cases body with
  | null | bool | int | real | string | list => exact isExact_of_refused rfl nofun
  | object fields =>
    have hfields : TagsReadable fields := hreadable fields rfl
    have houtcome := outcome_ofJson fields
    generalize Create.ofJson (.object fields) = checked at houtcome ⊢
    cases houtcome with
    | notText obstructs => exact absurd obstructs (hfields.not_obstructs _)
    | accepted readable tags admitted owner carries =>
      have hadmitted := failing_eq_nil_iff.1 admitted
      refine ⟨⟨fun _ => ⟨fields, rfl, hadmitted, owner⟩, fun _ => ⟨_, rfl⟩⟩, ?_, ?_, ?_⟩
      · rintro r ⟨⟩ fields' ⟨⟩
        exact ⟨carries, tags⟩
      · rintro r ⟨⟩ link
        exact exists_make _ link
      · rintro refusal ⟨⟩
    | ownerless readable admitted owner =>
      refine isExact_of_refused rfl fun fields' hfields' => ?_
      cases hfields'
      exact .ownerless admitted owner
    | badFields readable some places =>
      refine isExact_of_refused rfl fun fields' hfields' => ?_
      cases hfields'
      exact .badFields some places

/-- An object with a description and a creator, and more members. -/
def sampleFields (description : Wide) (more : Json.Fields) : Json.Fields :=
  ("account_id", .text "a") :: ("description", .string description)
    :: ("created_by", .text "me") :: more

/-- A request that is accepted, and one that is wrong in two places. -/
theorem sample_is_accepted :
    (∃ r, (Create.ofJson (.object (sampleFields "d" []))).result = .ok r)
      ∧ ∃ issues, (Create.ofJson (.object (sampleFields "" [("service_mode", .int 1)]))).result
          = .error (.issues issues)
        ∧ issues.map Issue.place = [["service_mode"], ["description"]] := by
  have hgood := create_validation_is_exact (.object (sampleFields "d" []))
    fun fields hfields => by
      cases hfields
      exact ⟨rfl, rfl⟩
  have hbad := create_validation_is_exact (.object (sampleFields "" [("service_mode", .int 1)]))
    fun fields hfields => by
      cases hfields
      exact ⟨rfl, rfl⟩
  refine ⟨hgood.accepted_iff.2 ⟨_, rfl, fun f => by cases f <;> decide, by decide⟩, ?_⟩
  cases hresult : (Create.ofJson (.object (sampleFields "" [("service_mode", .int 1)]))).result with
  | ok r =>
    obtain ⟨_, ⟨⟩, hall, -⟩ := hbad.accepted_iff.1 ⟨r, hresult⟩
    exact absurd (hall .mode) (by decide)
  | error refusal =>
    cases hbad.refused refusal hresult _ rfl with
    | badFields some places => exact ⟨_, rfl, places⟩
    | ownerless admitted => exact absurd admitted (by decide)

/-- A description that is half of a surrogate pair is a string of one code point
and it is refused. -/
theorem surrogates_are_refused :
    let body := Json.object (sampleFields (.broken [.surrogate 0] rfl) [])
    (∀ fields, body = .object fields → TagsReadable fields)
      ∧ ¬ IsExact (fun _ => true) body (Create.ofJson body) := by
  refine ⟨fun fields hfields => ?_, fun hexact => ?_⟩
  · cases hfields
    exact ⟨rfl, rfl⟩
  · obtain ⟨r, hr⟩ := hexact.accepted_iff.2 ⟨_, rfl, fun f => by cases f <;> decide, by decide⟩
    cases hr

/-! ## What tags can do -/

/-- Where both tags can be read they do not decide whether an object is accepted. -/
theorem exists_accepted {fields : Json.Fields} (hreadable : TagsReadable fields)
    (hadmitted : ∀ f : StrictField, f.admits Wide.isText fields = true)
    (howner : givesOwner fields = true) :
    ∃ r, (Create.ofJson (.object fields)).result = .ok r ∧ Carries fields r.strictFields
      ∧ TagsRead fields r.paymentType r.source (Create.ofJson (.object fields)).log := by
  have houtcome := outcome_ofJson fields
  generalize Create.ofJson (.object fields) = checked at houtcome ⊢
  cases houtcome with
  | accepted _ tags _ _ carries => exact ⟨_, rfl, carries, tags⟩
  | ownerless _ _ owner =>
    rw [owner] at howner
    cases howner
  | badFields _ some _ => exact absurd (failing_eq_nil_iff.2 hadmitted) some
  | notText obstructs => exact absurd obstructs (hreadable.not_obstructs _)

/-- A check fails if and only if a value is in the way, and it is that value that
is complained of. -/
theorem result_eq_notText_iff {fields : Json.Fields} {e : Tag.NotText} :
    (Create.ofJson (.object fields)).result = .error (.notText e)
      ↔ ∃ value, Obstructs fields value ∧ e = ⟨value.kindName⟩ := by
  have houtcome := outcome_ofJson fields
  generalize Create.ofJson (.object fields) = checked at houtcome ⊢
  cases houtcome with
  | notText obstructs =>
    constructor
    · rintro ⟨⟩
      exact ⟨_, obstructs, rfl⟩
    · rintro ⟨value, hvalue, rfl⟩
      rw [obstructs.unique hvalue]
  | accepted readable | ownerless readable | badFields readable =>
    refine ⟨nofun, ?_⟩
    rintro ⟨value, hvalue, -⟩
    exact absurd hvalue (readable.not_obstructs value)

/-- **Tags do not make issues**: an object that is as it must be is accepted
whatever texts or void values its tags are read from, with one report for each tag
that is unknown. A value of another kind is a failure instead, and there is no
other way to fail. -/
theorem only_unreadable_tags_fail (body : Json) :
    let checked := Create.ofJson body
    (∀ fields, body = .object fields → (∀ f : StrictField, f.admits Wide.isText fields = true) →
      givesOwner fields = true → TagsReadable fields → ∃ r, checked.result = .ok r
        ∧ Carries fields r.strictFields ∧ TagsRead fields r.paymentType r.source checked.log)
      ∧ ∀ e, checked.result = .error (.notText e) ↔
        ∃ fields value, body = .object fields ∧ Obstructs fields value
          ∧ e = ⟨value.kindName⟩ := by
  intro checked
  constructor
  · rintro fields rfl hadmitted howner hreadable
    exact exists_accepted hreadable hadmitted howner
  · intro e
    cases body with
    | null | bool | int | real | string | list =>
      exact ⟨nofun, by rintro ⟨_, _, ⟨⟩, -⟩⟩
    | object fields =>
      refine result_eq_notText_iff.trans ⟨?_, ?_⟩
      · rintro ⟨value, hvalue, he⟩
        exact ⟨fields, value, rfl, hvalue, he⟩
      · rintro ⟨_, value, ⟨⟩, hvalue, he⟩
        exact ⟨value, hvalue, he⟩

/-- A tag that is unknown is reported, and the request is accepted. -/
theorem unknown_tag_is_reported :
    let fields := sampleFields "d" [("token_type", .text "cash")]
    let checked := Create.ofJson (.object fields)
    ∃ r, checked.result = .ok r ∧ r.paymentType = .card ∧ r.source = .api
      ∧ checked.log = [.unknownTag "TokenPaymentType" (Json.display (.text "cash"))] := by
  intro fields checked
  obtain ⟨haccepts, -⟩ := only_unreadable_tags_fail (.object fields)
  obtain ⟨r, hr, -, htags⟩ := haccepts fields rfl (fun f => by cases f <;> decide) (by decide)
    ⟨rfl, rfl⟩
  refine ⟨r, hr, ?_⟩
  have htype : paymentValue? fields = some (.text "cash") := rfl
  have hsource : sourceValue? fields = none := rfl
  change TagsRead fields r.paymentType r.source checked.log at htags
  generalize r.paymentType = p, r.source = s, checked.log = log at htags ⊢
  obtain ⟨hp, hs⟩ := htags
  rw [htype] at hp
  rw [hsource] at hs
  cases hs with
  | absent =>
    cases hp with
    | named hname => exact absurd hname (by cases p <;> decide)
    | unknown => exact ⟨rfl, rfl, rfl⟩

/-- The number five is no text and not void, so that a request with it fails. -/
theorem number_as_tag_fails :
    let fields := sampleFields "d" [("token_type", .int 5)]
    (∀ f : StrictField, f.admits Wide.isText fields = true) ∧ givesOwner fields = true
      ∧ (Create.ofJson (.object fields)).result = .error (.notText ⟨"int"⟩)
      ∧ Tag.NotText.message ⟨"int"⟩ = "'int' object has no attribute 'strip'" := by
  refine ⟨fun f => by cases f <;> decide, by decide, rfl, by decide⟩

end BearerTokens.Request
