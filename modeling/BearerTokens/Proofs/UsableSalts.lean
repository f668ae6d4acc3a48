/-
BearerTokens.Proofs.UsableSalts — which configurations can be worked with.

A configuration is accepted for the shape of its salt. Whether it is of any use
is decided later and elsewhere: a codec is made of it if the salt is ASCII, and
the codec hashes if the setting that the salt spells is one of those that
passwords can be hashed with. The shape is looser than both.

`works_iff` says which of the accepted configurations work: those whose salt is
what `Setting.text` writes for a usable setting. The proof goes through the
parts that the shape has found: `saltParts?_spells` writes them out again, and
`text_setting` says that the setting of a codec is written like the parts of
its salt. There is nothing between the two cases, because the length of the
secret is the only other thing that hashing depends on: a configuration that
does not work fails for every secret (`fails_of_not_isUsableSalt`).
-/
import BearerTokens.Proofs.KeyRoundTrip

namespace BearerTokens.Codec

open Hash.Bcrypt (Setting)

/-! ## The parts of a salt -/

/-- The parts as one text. -/
def SaltParts.text (p : SaltParts) : List Char :=
  ['$', '2', p.variant, '$', p.tens, p.ones, '$'] ++ p.body

/-- What the shape asks of the parts. -/
structure SaltParts.IsShaped (p : SaltParts) : Prop where
  variant : isVariant p.variant = true
  tens : Text.isDecimalDigit p.tens = true
  ones : Text.isDecimalDigit p.ones = true
  length_body : p.body.length = 22
  mem_alphabet : ∀ x ∈ p.body, x ∈ Hash.Bcrypt.alphabet

/-- A text is these characters, or one line feed follows them. -/
def IsLine (cs line : List Char) : Prop :=
  cs = line ∨ cs = line ++ ['\n']

/-- Two lines of one length that a text is are the same line. -/
theorem IsLine.eq {cs line line' : List Char} (h : IsLine cs line) (h' : IsLine cs line')
    (hlength : line.length = line'.length) : line = line' := by
  rcases h with rfl | rfl <;> rcases h' with h' | h'
  · exact h'
  · simp [h'] at hlength
  · simp [← h'] at hlength
  · exact List.append_cancel_right h'

/-- What comes after the cost is a line of digits. -/
theorem isLine_of_isSaltTail {cs : List Char} (h : isSaltTail cs = true) :
    IsLine cs (cs.take 22) ∧ (cs.take 22).length = 22
      ∧ ∀ x ∈ cs.take 22, x ∈ Hash.Bcrypt.alphabet := by
  simp only [isSaltTail, Bool.and_eq_true, Bool.or_eq_true, beq_iff_eq, List.all_eq_true,
    List.contains_iff_mem] at h
  obtain ⟨⟨hlength, hmem⟩, hrest⟩ := h
  have hcs : cs = cs.take 22 ++ cs.drop 22 := (List.take_append_drop 22 cs).symm
  refine ⟨?_, hlength, hmem⟩
  rcases hrest with hrest | hrest
  · exact Or.inl (by rw [hrest, List.append_nil] at hcs; exact hcs)
  · exact Or.inr (by rw [hrest] at hcs; exact hcs)

/-- The parts that are found have the shape, and they spell the salt. -/
theorem saltParts?_spells {cs : List Char} {p : SaltParts} (h : saltParts? cs = some p) :
    p.IsShaped ∧ IsLine cs p.text := by
  unfold saltParts? at h
  split at h
  · rename_i v t o rest
    split at h
    · rename_i hshape
      simp only [Bool.and_eq_true] at hshape
      obtain ⟨⟨⟨hvariant, htens⟩, hones⟩, htail⟩ := hshape
      obtain ⟨hline, hlength, hmem⟩ := isLine_of_isSaltTail htail
      obtain rfl := Option.some.inj h
      refine ⟨⟨hvariant, htens, hones, hlength, hmem⟩, ?_⟩
      exact hline.imp (congrArg (['$', '2', v, '$', t, o, '$'] ++ ·))
        (congrArg (['$', '2', v, '$', t, o, '$'] ++ ·))
    · cases h
  · cases h

section

variable (config : Config)

theorem Config.isShaped_parts : config.parts.IsShaped :=
  (saltParts?_spells config.salt_parts).1

theorem Config.isLine_salt : IsLine config.salt.toList config.parts.text :=
  (saltParts?_spells config.salt_parts).2

end

/-! ## ASCII salts -/

/-- The ASCII characters among the decimal digits are those from `0` to `9`. -/
theorem isDigit_of_isAscii {x : Char} (hdigit : Text.isDecimalDigit x = true)
    (hascii : isAscii x = true) : 48 ≤ x.toNat ∧ x.toNat < 58 := by
  have hzero : ∀ z ∈ Text.zeroDigits, z = 48 ∨ 128 ≤ z := by decide
  simp only [Text.isDecimalDigit, List.any_eq_true, Bool.and_eq_true, decide_eq_true_eq] at hdigit
  obtain ⟨z, hz, hle, hlt⟩ := hdigit
  have hx : x.toNat < 128 := of_decide_eq_true hascii
  rcases hzero z hz with rfl | hbig
  · exact ⟨hle, hlt⟩
  · omega

/-- Only the digits of the cost can fail to be ASCII. -/
theorem SaltParts.IsShaped.all_isAscii_iff {p : SaltParts} (h : p.IsShaped) {cs : List Char}
    (hcs : IsLine cs p.text) :
    (∀ x ∈ cs, isAscii x = true) ↔ isAscii p.tens = true ∧ isAscii p.ones = true := by
  have hvariant : isAscii p.variant = true := by
    have hletters := h.variant
    simp only [isVariant, Bool.or_eq_true, beq_iff_eq] at hletters
    rcases hletters with (hv | hv) | hv <;> rw [hv] <;> decide
  have hbody : ∀ x ∈ p.body, isAscii x = true := by
    have halphabet : Hash.Bcrypt.alphabet.all isAscii = true := by decide
    exact fun x hx => List.all_eq_true.1 halphabet x (h.mem_alphabet x hx)
  have hfixed : isAscii '$' = true ∧ isAscii '2' = true ∧ isAscii '\n' = true := by decide
  have htext : (∀ x ∈ p.text, isAscii x = true)
      ↔ isAscii p.tens = true ∧ isAscii p.ones = true := by
    constructor
    · intro hall
      exact ⟨hall _ (by simp [text]), hall _ (by simp [text])⟩
    · rintro ⟨htens, hones⟩
      simpa [text, hvariant, htens, hones, hfixed] using hbody
  rcases hcs with rfl | rfl
  · exact htext
  · rw [List.forall_mem_append, List.forall_mem_singleton, and_iff_left hfixed.2.2]
    exact htext

/-- There is a codec if both digits are ASCII. -/
theorem exists_ofConfig_iff (config : Config) : (∃ codec, ofConfig config = .ok codec)
    ↔ isAscii config.parts.tens = true ∧ isAscii config.parts.ones = true := by
  unfold ofConfig
  cases ht : isAscii config.parts.tens <;> cases ho : isAscii config.parts.ones <;> simp [ht, ho]

theorem config_of_ofConfig {config : Config} {codec : Codec} (h : ofConfig config = .ok codec) :
    codec.config = config := by
  unfold ofConfig at h
  dsimp only at h
  split at h
  · split at h
    · rw [← Except.ok.inj h]
    · cases h
  · split at h <;> cases h

/-- A codec is that of its configuration. -/
theorem ofConfig_config (codec : Codec) : ofConfig codec.config = .ok codec := by
  simp only [ofConfig, dif_pos codec.tens_ascii, dif_pos codec.ones_ascii]

/-- There is a codec exactly if the salt is ASCII. -/
theorem exists_ofConfig_iff_isAscii (config : Config) : (∃ codec, ofConfig config = .ok codec)
    ↔ ∀ x ∈ config.salt.toList, isAscii x = true := by
  rw [exists_ofConfig_iff, config.isShaped_parts.all_isAscii_iff config.isLine_salt]

/-! ## Settings -/

/-- The setting of a codec is written like the parts of its salt. -/
theorem text_setting (c : Codec) : c.setting.text = c.config.parts.text := by
  have hshaped := c.config.isShaped_parts
  obtain ⟨htens, htens'⟩ := isDigit_of_isAscii hshaped.tens c.tens_ascii
  obtain ⟨hones, hones'⟩ := isDigit_of_isAscii hshaped.ones c.ones_ascii
  have hfirst : 48 + (10 * (c.config.parts.tens.toNat - 48) + (c.config.parts.ones.toNat - 48)) / 10
      = c.config.parts.tens.toNat := by omega
  have hlast : 48 + (10 * (c.config.parts.tens.toNat - 48) + (c.config.parts.ones.toNat - 48)) % 10
      = c.config.parts.ones.toNat := by omega
  simp only [setting, Setting.text, SaltParts.text, hfirst, hlast, Char.ofNat_toNat]

/-- The cost has two digits. -/
theorem cost_lt (c : Codec) : c.setting.cost < 100 := by
  have hshaped := c.config.isShaped_parts
  have htens := isDigit_of_isAscii hshaped.tens c.tens_ascii
  have hones := isDigit_of_isAscii hshaped.ones c.ones_ascii
  simp only [setting]
  omega

theorem toNat_digit {n : Nat} (h : n < 10) : (Char.ofNat (48 + n)).toNat = 48 + n := by
  revert n
  decide

/-- Settings with two digits for the cost are written differently. -/
theorem setting_eq_of_text {a b : Setting} (ha : a.cost < 100) (hb : b.cost < 100)
    (h : a.text = b.text) : a = b := by
  simp only [Setting.text, List.cons_append, List.nil_append, List.cons.injEq, true_and] at h
  obtain ⟨hvariant, htens, hones, hsalt⟩ := h
  have htens' := congrArg Char.toNat htens
  have hones' := congrArg Char.toNat hones
  rw [toNat_digit (by omega), toNat_digit (by omega)] at htens' hones'
  have hcost : a.cost = b.cost := by omega
  cases a
  cases b
  simp_all only

/-! ## What a configuration is good for -/

/-- There is a codec, it hashes every text that is short enough, and it issues
a key whatever is drawn. -/
def Config.Works (config : Config) : Prop :=
  ∃ codec, ofConfig config = .ok codec
    ∧ (∀ s, (Text.encode s).length ≤ 72 → ∃ h, codec.storageHash s = .ok h)
    ∧ ∀ d : Draws, d.IsBounded → ∃ issued, (codec.issue d).1 = .ok issued

/-- There is no codec, or there is one that refuses to hash any text and to
issue any key. -/
def Config.Fails (config : Config) : Prop :=
  (∃ e, ofConfig config = .error e)
    ∨ ∃ codec, ofConfig config = .ok codec
      ∧ (∀ s, (Text.encode s).length ≤ 72 → codec.storageHash s = .error .invalidSalt)
      ∧ ∀ d : Draws, d.IsBounded → (codec.issue d).1 = .error .invalidSalt

/-- The salt is how a usable setting is written. -/
def IsUsableSalt (salt : String) : Prop :=
  ∃ setting : Setting, setting.IsUsable ∧ IsLine salt.toList setting.text

section

variable {config : Config}

theorem length_text_parts (config : Config) : config.parts.text.length = 29 := by
  simp [SaltParts.text, config.isShaped_parts.length_body]

/-- A usable setting is written like the parts of the salt that it is written in. -/
theorem text_eq_of_isUsable {setting : Setting} (husable : setting.IsUsable)
    (hsalt : IsLine config.salt.toList setting.text) : setting.text = config.parts.text := by
  obtain ⟨-, -, hlength, -⟩ := husable
  refine hsalt.eq config.isLine_salt ?_
  rw [length_text_parts]
  simp [Setting.text, hlength]

/-- The digits of a usable salt are ASCII, so that there is a codec. -/
theorem exists_ofConfig_of_isUsableSalt (h : IsUsableSalt config.salt) :
    ∃ codec, ofConfig config = .ok codec := by
  obtain ⟨setting, husable, hsalt⟩ := h
  have htext := text_eq_of_isUsable husable hsalt
  simp only [Setting.text, SaltParts.text, List.cons_append, List.nil_append, List.cons.injEq,
    true_and] at htext
  obtain ⟨-, htens, hones, -⟩ := htext
  obtain ⟨-, hcost, -⟩ := husable
  rw [exists_ofConfig_iff, ← htens, ← hones]
  have hascii : ∀ n < 10, isAscii (Char.ofNat (48 + n)) = true := by decide
  exact ⟨hascii _ (by omega), hascii _ (by omega)⟩

/-- The setting of a codec is the one that its salt spells. -/
theorem isUsableSalt_iff {codec : Codec} (hcodec : ofConfig config = .ok codec) :
    IsUsableSalt config.salt ↔ codec.IsUsable := by
  have hconfig := config_of_ofConfig hcodec
  have htext : codec.setting.text = config.parts.text := by
    rw [text_setting, hconfig]
  constructor
  · rintro ⟨setting, husable, hsalt⟩
    have hcost : setting.cost < 100 := Nat.lt_of_le_of_lt husable.2.1 (by decide)
    have heq : setting = codec.setting := by
      refine setting_eq_of_text hcost codec.cost_lt ?_
      rw [htext, text_eq_of_isUsable husable hsalt]
    rw [heq] at husable
    exact husable
  · intro husable
    exact ⟨codec.setting, husable, htext ▸ config.isLine_salt⟩

/-- **Which configurations work**: those with a usable salt. -/
theorem works_iff : config.Works ↔ IsUsableSalt config.salt := by
  constructor
  · rintro ⟨codec, hcodec, hhash, -⟩
    obtain ⟨h, hempty⟩ := hhash "" (by decide)
    exact (isUsableSalt_iff hcodec).2 (isUsable_of_storageHash hempty)
  · intro hsalt
    obtain ⟨codec, hcodec⟩ := exists_ofConfig_of_isUsableSalt hsalt
    have husable : codec.IsUsable := (isUsableSalt_iff hcodec).1 hsalt
    refine ⟨codec, hcodec, fun s hs => ⟨_, storageHash_of_length_encode_le husable hs⟩, ?_⟩
    intro d hd
    rw [issue_eq, storageHash_of_isUsable husable (isSecret_drawSecret hd)]
    exact ⟨_, rfl⟩

/-- A setting that cannot be used fails for every secret that is drawn. -/
theorem fst_issue_of_not_isUsable {codec : Codec} (hcodec : ¬ codec.IsUsable) {d : Draws}
    (hd : d.IsBounded) : (codec.issue d).1 = .error .invalidSalt := by
  have hsecret := isSecret_drawSecret hd
  rw [issue_eq, storageHash_of_not_isUsable hcodec
    (length_encode_le hsecret.isAscii hsecret.length_le)]
  rfl

/-- The other configurations do not even work for some secrets. -/
theorem fails_of_not_isUsableSalt (h : ¬ IsUsableSalt config.salt) : config.Fails := by
  cases hcodec : ofConfig config with
  | error e => exact Or.inl ⟨e, hcodec⟩
  | ok codec =>
    have hunusable : ¬ codec.IsUsable := fun husable => h ((isUsableSalt_iff hcodec).2 husable)
    exact Or.inr ⟨codec, hcodec, fun _ hs => storageHash_of_not_isUsable hunusable hs,
      fun _ hd => fst_issue_of_not_isUsable hunusable hd⟩

end

/-- The texts of a configuration are the ones it was made of. -/
theorem salt_of_mk? {secret salt : String} {config : Config}
    (h : Config.mk? (some secret) (some salt) = .ok config) : config.salt = salt := by
  unfold Config.mk? at h
  dsimp only [Option.getD_some] at h
  split at h
  · cases h
  · split at h
    · rw [← Except.ok.inj h]
    · cases h

/-- **An accepted configuration** works exactly if its salt is how a usable
setting is written: with a cost from 4 to 31 in ASCII digits and a last
character that carries two bits. There is a codec as soon as the salt is ASCII.
If the salt is not a usable one, there is no codec or no secret can be hashed
and no key be issued. -/
theorem accepted_configuration_works_iff (secret salt : String) (config : Config)
    (h : Config.mk? (some secret) (some salt) = .ok config) :
    (config.Works ↔ IsUsableSalt salt)
      ∧ ((∃ codec, ofConfig config = .ok codec) ↔ ∀ x ∈ salt.toList, isAscii x = true)
      ∧ (¬ IsUsableSalt salt → config.Fails) := by
  obtain rfl := salt_of_mk? h
  exact ⟨works_iff, exists_ofConfig_iff_isAscii config, fails_of_not_isUsableSalt⟩

/-! ### Samples -/

/-- The sample with another salt, which consists of these parts. -/
def configOf (salt : String) (parts : SaltParts) (h : saltParts? salt.toList = some parts) :
    Config :=
  { sampleConfig with salt := salt, parts := parts, salt_parts := h }

theorem mk?_configOf (salt : String) (parts : SaltParts)
    (h : saltParts? salt.toList = some parts) :
    Config.mk? (some "s") (some salt) = .ok (configOf salt parts h) :=
  Config.mk?_self (configOf salt parts h)

/-- A salt whose setting is not a usable one is accepted all the same. -/
theorem exists_config_of_not_isUsable {salt : String} (parts : SaltParts)
    (hparts : saltParts? salt.toList = some parts) (htens : isAscii parts.tens = true)
    (hones : isAscii parts.ones = true)
    (hunusable : ¬ IsUsable ⟨configOf salt parts hparts, htens, hones⟩) :
    ∃ config codec, Config.mk? (some "s") (some salt) = .ok config
      ∧ ofConfig config = .ok codec ∧ codec.storageHash "" = .error .invalidSalt
      ∧ ∀ d : Draws, d.IsBounded → (codec.issue d).1 = .error .invalidSalt :=
  ⟨configOf salt parts hparts, _, mk?_configOf salt parts hparts,
    ofConfig_config ⟨configOf salt parts hparts, htens, hones⟩,
    storageHash_of_not_isUsable hunusable (by decide),
    fun _ hd => fst_issue_of_not_isUsable hunusable hd⟩

/-- The greatest cost that there is works, and a line feed after the salt does
no harm. -/
theorem greatest_cost_works :
    ∃ config, Config.mk? (some "s") (some "$2y$31$......................\n") = .ok config
      ∧ config.Works := by
  have hmk := mk?_configOf "$2y$31$......................\n" ⟨'y', '3', '1', List.replicate 22 '.'⟩
    (by decide)
  have husable : IsUsableSalt "$2y$31$......................\n" :=
    ⟨⟨'y', 31, List.replicate 22 '.'⟩, by decide, Or.inr (by decide)⟩
  exact ⟨_, hmk, (accepted_configuration_works_iff "s" _ _ hmk).1.2 husable⟩

/-- Salts that are accepted and of no use: the cost is one too high, the last
character carries more than two bits, or a digit of the cost is not ASCII. -/
theorem accepted_salts_that_fail :
    (∃ config codec, Config.mk? (some "s") (some "$2a$32$......................") = .ok config
        ∧ ofConfig config = .ok codec ∧ codec.storageHash "" = .error .invalidSalt
        ∧ ∀ d : Draws, d.IsBounded → (codec.issue d).1 = .error .invalidSalt)
      ∧ (∃ config codec, Config.mk? (some "s") (some "$2a$04$.....................A") = .ok config
        ∧ ofConfig config = .ok codec ∧ codec.storageHash "" = .error .invalidSalt
        ∧ ∀ d : Draws, d.IsBounded → (codec.issue d).1 = .error .invalidSalt)
      ∧ ∃ config, Config.mk? (some "s") (some "$2a$0\u0664$......................") = .ok config
        ∧ ofConfig config = .error ⟨5, ['\u0664']⟩ := by
  refine ⟨?cost, ?lastDigit, ?notAscii⟩
  case cost =>
    exact exists_config_of_not_isUsable ⟨'a', '3', '2', List.replicate 22 '.'⟩
      (by decide) (by decide) (by decide) (by decide)
  case lastDigit =>
    exact exists_config_of_not_isUsable ⟨'a', '0', '4', List.replicate 21 '.' ++ ['A']⟩
      (by decide) (by decide) (by decide) (by decide)
  case notAscii =>
    have hparts : saltParts? "$2a$0\u0664$......................".toList
        = some ⟨'a', '0', '\u0664', List.replicate 22 '.'⟩ := by decide
    exact ⟨_, mk?_configOf _ _ hparts, rfl⟩

end BearerTokens.Codec
