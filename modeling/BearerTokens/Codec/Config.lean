/-
BearerTokens.Codec.Config — the two secrets that keys depend on.

A configuration holds a secret for integrity codes, which is not empty, and a
setting for storage hashes, which has the shape `$2a$10$` and 22 characters.
The shape is looser than what can be hashed with: the cost may be any two
decimal digits of any script, any last character of the alphabet will do, and
one line feed may follow.

Both secrets are texts. A string with a lone surrogate is not empty either, but
it has no bytes to make codes with; such strings are outside the type, as are
secrets of tokens that hold them.
-/
import BearerTokens.Hash.Bcrypt
import BearerTokens.Text.Digit
import BearerTokens.Text.Quoted

namespace BearerTokens.Codec

/-! ## Shape of a salt -/

/-- A letter that names a variant. -/
def isVariant (c : Char) : Bool :=
  c == 'a' || c == 'b' || c == 'y'

/-- Twenty-two characters of the alphabet, and perhaps a line feed. -/
def isSaltTail (cs : List Char) : Bool :=
  let body := cs.take 22
  body.length == 22 && body.all (Hash.Bcrypt.alphabet.contains ·)
    && (cs.drop 22 == [] || cs.drop 22 == ['\n'])

/-- The variant, the two digits of the cost, and the characters of the salt. -/
structure SaltParts where
  variant : Char
  tens : Char
  ones : Char
  body : List Char
deriving DecidableEq, Repr

/-- The parts of a text that has the shape of a salt. -/
def saltParts? : List Char → Option SaltParts
  | '$' :: '2' :: v :: '$' :: t :: o :: '$' :: rest =>
    if isVariant v && Text.isDecimalDigit t && Text.isDecimalDigit o && isSaltTail rest then
      some ⟨v, t, o, rest.take 22⟩
    else none
  | _ => none

/-! ## Configurations -/

/-- What can be wrong with a configuration. -/
inductive ConfigError
  | noSecret
  | saltShape
deriving DecidableEq, Repr

/-- The text for people. -/
def ConfigError.message : ConfigError → String
  | noSecret => "API key HMAC secret must not be empty"
  | saltShape => "Token DB salt must be a bcrypt salt like '$2a$10$' followed by 22 characters"

/-- A secret for integrity codes, which is a text, and a salt for storage hashes. -/
structure Config where
  secret : String
  salt : String
  parts : SaltParts
  secret_ne : secret ≠ ""
  salt_parts : saltParts? salt.toList = some parts

/-- A configuration in diagnostics: both values are secret. -/
def Config.display (_ : Config) : String :=
  "TokenCodecConfig()"

/-- A configuration from two texts, either of which may be missing. -/
def Config.mk? (secret salt : Option String) : Except ConfigError Config :=
  let secret := secret.getD ""
  let salt := salt.getD ""
  if hs : secret = "" then .error .noSecret
  else
    match hp : saltParts? salt.toList with
    | some parts => .ok ⟨secret, salt, parts, hs, hp⟩
    | none => .error .saltShape

/-- A configuration is that of its two texts. -/
theorem Config.mk?_self (config : Config) :
    Config.mk? (some config.secret) (some config.salt) = .ok config := by
  simp only [Config.mk?, Option.getD_some, dif_neg config.secret_ne]
  split
  · rename_i parts hparts
    rw [config.salt_parts] at hparts
    cases hparts
    rfl
  · rename_i hnone
    rw [config.salt_parts] at hnone
    exact nomatch hnone

end BearerTokens.Codec
