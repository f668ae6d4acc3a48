/-
BearerTokens.Codec.Basic — secrets, keys and storage hashes.

A key is a secret followed by its integrity code, which is the HMAC-SHA1 of
the secret in base-32-hex and always takes 32 characters. A key is checked in
three steps, each of which is reported when it fails: its length, its
characters, its code. Only then is the secret hashed for the look-up.
-/
import BearerTokens.Codec.Config
import BearerTokens.Token.Secret
import BearerTokens.Log
import BearerTokens.Hash.Hmac
import BearerTokens.Text.Utf8

namespace BearerTokens

/-! ## Errors -/

/-- The cost of a salt holds digits that are not ASCII, at these places. -/
structure Codec.NotAscii where
  first : Nat
  chars : List Char
deriving DecidableEq, Repr

/-- The text for people. -/
def Codec.NotAscii.message (e : NotAscii) : String :=
  let refused := match e.chars with
    | [c] =>
      let shown := String.ofList (Text.codeEscape c.toNat)
      s!"character '{shown}' in position {e.first}"
    | _ => s!"characters in position {e.first}-{e.first + e.chars.length - 1}"
  s!"'ascii' codec can't encode {refused}: ordinal not in range(128)"

/-- Why a secret cannot be hashed, or a code not be compared. -/
inductive Codec.HashError
  | tooLong
  | invalidSalt
  /-- Only ASCII texts are compared in constant time. -/
  | notComparable
deriving DecidableEq, Repr

/-- The text for people. -/
def Codec.HashError.message : HashError → String
  | tooLong =>
    "password cannot be longer than 72 bytes, truncate manually if necessary "
      ++ "(e.g. my_password[:72])"
  | invalidSalt => "Invalid salt"
  | notComparable => "comparing strings with non-ASCII characters is not supported"

/-! ## Codecs -/

/-- Is the character an ASCII one? -/
def Codec.isAscii (c : Char) : Bool :=
  c.toNat < 128

/-- A configuration with an ASCII salt, ready for use. -/
structure Codec where
  config : Codec.Config
  tens_ascii : Codec.isAscii config.parts.tens = true
  ones_ascii : Codec.isAscii config.parts.ones = true

/-- A hash and the key that leads to it. -/
structure IssuedKey where
  hash : StorageHash
  key : String
deriving DecidableEq, Repr

/-- An issued key in diagnostics. -/
def IssuedKey.display (_ : IssuedKey) : String :=
  "IssuedToken(token_hash=TokenHash())"

/-- What checking a key came to: an error, the hash of the key if it is a good
one, and reports. -/
structure Verdict where
  hash? : Except Codec.HashError (Option StorageHash)
  log : List Event

namespace Codec

/-- A codec with a configuration. -/
def ofConfig (config : Config) : Except NotAscii Codec :=
  let tens := config.parts.tens
  let ones := config.parts.ones
  if ht : isAscii tens = true then
    if ho : isAscii ones = true then .ok ⟨config, ht, ho⟩ else .error ⟨5, [ones]⟩
  else if isAscii ones then .error ⟨4, [tens]⟩
  else .error ⟨4, [tens, ones]⟩

/-- The length of an integrity code. -/
def codeLength : Nat := 32

/-- The least length of a key. -/
def minKeyLength : Nat := Secret.minLength + codeLength

/-- The greatest length of a key. -/
def maxKeyLength : Nat := Secret.maxLength + codeLength

/-- The authentication code of a secret. -/
def digest (c : Codec) (secret : String) : Hash.Sha1.Digest :=
  Hash.Hmac.code (Text.encode c.config.secret) (Text.encode secret)

/-- The integrity code of a secret. Only a text has bytes to make it of: a key with
surrogates does not get as far as this, as it is not ASCII. -/
def integrityCode (c : Codec) (secret : String) : String :=
  Base32Hex.ofBytes (c.digest secret).bytes

/-- The key of a secret. -/
def keyOf (c : Codec) (secret : String) : String :=
  secret ++ c.integrityCode secret

/-- The setting that secrets are hashed with. -/
def setting (c : Codec) : Hash.Bcrypt.Setting :=
  let p := c.config.parts
  ⟨p.variant, 10 * (p.tens.toNat - 48) + (p.ones.toNat - 48), p.body⟩

/-- Can secrets be hashed at all? -/
def IsUsable (c : Codec) : Prop :=
  c.setting.IsUsable

instance (c : Codec) : Decidable c.IsUsable :=
  inferInstanceAs (Decidable (Hash.Bcrypt.Setting.IsUsable _))

/-- The storage hash of a secret. -/
def storageHash (c : Codec) (secret : String) : Except HashError StorageHash :=
  let bytes := Text.encode secret
  if Hash.Bcrypt.maxLength < bytes.length then .error .tooLong
  else if c.IsUsable then .ok ⟨Hash.Bcrypt.hash c.setting bytes⟩
  else .error .invalidSalt

/-- Draw a new secret and make its hash and its key. -/
def issue (c : Codec) (draws : Draws) : Except HashError IssuedKey × Draws :=
  let (secret, draws) := draws.drawSecret
  ((c.storageHash secret).map fun hash => ⟨hash, c.keyOf secret⟩, draws)

/-! ## Checking a key -/

/-- The secret and the code that a key consists of. -/
def splitKey (key : String) : String × String :=
  let cs := key.toList
  let cut := cs.length - codeLength
  (String.ofList (cs.take cut), String.ofList (cs.drop cut))

/-- Are two texts the same? The comparison takes as long wherever they differ,
and is refused if one of them is not ASCII. -/
def sameText (a b : String) : Except HashError Bool :=
  if a.toList.all isAscii && b.toList.all isAscii then .ok (a == b) else .error .notComparable

/-- Check a key and hash its secret. -/
def check (c : Codec) (key : String) : Verdict :=
  if key.length < minKeyLength || maxKeyLength < key.length then
    ⟨.ok none, [.keyLength key.length]⟩
  else if !key.toList.all isAscii then ⟨.ok none, [.keyNotAscii]⟩
  else
    let (secret, code) := splitKey key
    match sameText (c.integrityCode secret) code with
    | .error e => ⟨.error e, []⟩
    | .ok false => ⟨.ok none, [.keyCodeMismatch]⟩
    | .ok true => ⟨(c.storageHash secret).map some, []⟩

end Codec
end BearerTokens
