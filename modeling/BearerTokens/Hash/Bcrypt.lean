/-
BearerTokens.Hash.Bcrypt — the password hash bcrypt.

A setting names a variant, a cost and a salt. The variants a, b and y give the
same hash and differ in the text only. The schedule of Blowfish is run
`2 ^ cost` times over the password and the salt in turn, and the hash is a
fixed text encrypted with the tables that result. A password is at most 72
bytes; a zero byte is put after it and the whole repeats to fill the key.
-/
import BearerTokens.Hash.Blowfish
import BearerTokens.Hash.Word

namespace BearerTokens.Hash.Bcrypt

open Blowfish

/-! ## The alphabet -/

/-- The sixty-four digits of salts and hashes in the order of their values. -/
def alphabet : List Char :=
  "./ABCDEFGHIJKLMNOPQRSTUVWXYZabcdefghijklmnopqrstuvwxyz0123456789".toList

/-- The digit of a value below sixty-four. -/
def digit (n : Nat) : Char :=
  alphabet.getD (n % 64) '.'

/-- The digits of bytes, three bytes as four digits. -/
def encode : List UInt8 → List Char
  | a :: b :: c :: rest =>
    [digit (a >>> 2).toNat, digit ((a &&& 3) <<< 4 ||| b >>> 4).toNat,
      digit ((b &&& 15) <<< 2 ||| c >>> 6).toNat, digit (c &&& 63).toNat] ++ encode rest
  | [a, b] =>
    [digit (a >>> 2).toNat, digit ((a &&& 3) <<< 4 ||| b >>> 4).toNat,
      digit ((b &&& 15) <<< 2).toNat]
  | [a] => [digit (a >>> 2).toNat, digit ((a &&& 3) <<< 4).toNat]
  | [] => []

/-- The value of a digit. -/
def digitValue? (c : Char) : Option Nat :=
  alphabet.idxOf? c

/-- The number that digits stand for. -/
def digitsValue? (cs : List Char) : Option Nat :=
  cs.foldlM (fun acc c => (digitValue? c).map (64 * acc + ·)) 0

/-! ## Settings -/

/-- A variant, a cost and the digits of a salt. -/
structure Setting where
  variant : Char
  cost : Nat
  salt : List Char
deriving DecidableEq, Repr

/-- The characters that may end a salt: the last digit carries two bits only. -/
def lastDigits : List Char := ['.', 'O', 'e', 'u']

/-- Can a password be hashed with the setting? -/
def Setting.IsUsable (s : Setting) : Prop :=
  4 ≤ s.cost ∧ s.cost ≤ 31 ∧ s.salt.length = 22 ∧ (∀ c ∈ s.salt, c ∈ alphabet)
    ∧ ∃ c ∈ lastDigits, s.salt.getLast? = some c

-- Both quantifiers are decided by going through the list. Characters can also be
-- enumerated, which must not be the way that is found.
instance (s : Setting) : Decidable s.IsUsable :=
  letI : Decidable (∀ c ∈ s.salt, c ∈ alphabet) := List.decidableBAll (· ∈ alphabet) s.salt
  letI : Decidable (∃ c ∈ lastDigits, s.salt.getLast? = some c) :=
    List.decidableBEx (s.salt.getLast? = some ·) lastDigits
  inferInstanceAs (Decidable (_ ∧ _ ∧ _ ∧ _ ∧ _))

/-- The sixteen bytes of the salt: its digits hold four bits more. -/
def Setting.saltBytes (s : Setting) : List UInt8 :=
  let n := (digitsValue? s.salt).getD 0 / 16
  (List.range 16).map fun i => UInt8.ofNat (n / Nat.pow 256 (15 - i))

/-- The setting as the text before the hash. -/
def Setting.text (s : Setting) : List Char :=
  ['$', '2', s.variant, '$', Char.ofNat (48 + s.cost / 10), Char.ofNat (48 + s.cost % 10), '$']
    ++ s.salt

/-! ## The hash -/

/-- The most bytes that a password may have. -/
def maxLength : Nat := 72

/-- The text that is encrypted. -/
def magic : List UInt32 :=
  wordsOfBytes ("OrpheanBeholderScryDoubt".toList.map fun c => UInt8.ofNat c.toNat)

/-- Run the schedule over key and salt in turn, `count` times. -/
def stir (key salt : Vector UInt32 18) : Nat → Tables → Tables
  | 0, t => t
  | count + 1, t =>
    stir key salt count (expand (Vector.replicate 4 0) salt (expand (Vector.replicate 4 0) key t))

/-- Encrypt one block `count` times. -/
def encipherTimes (t : Tables) : Nat → UInt32 → UInt32 → List UInt32
  | 0, l, r => [l, r]
  | count + 1, l, r =>
    let (l, r) := encipher t l r
    encipherTimes t count l r

/-- Encrypt the blocks of a text, each 64 times. -/
def encipherText (t : Tables) : List UInt32 → List UInt32
  | l :: r :: rest => encipherTimes t 64 l r ++ encipherText t rest
  | _ => []

/-- The twenty-three bytes of the hash of a password. -/
def rawHash (s : Setting) (password : List UInt8) : List UInt8 :=
  let keyBytes := ((password ++ [0]).take maxLength).toArray
  let saltBytes := s.saltBytes.toArray
  let key := cyclicWords 18 keyBytes
  let tables := expand (cyclicWords 4 saltBytes) key piTables
  let tables := stir key (cyclicWords 18 saltBytes) (Nat.pow 2 s.cost) tables
  ((encipherText tables magic).flatMap wordBytes).take 23

/-- The setting and the hash of a password in one text. -/
def hash (s : Setting) (password : List UInt8) : String :=
  String.ofList (s.text ++ encode (rawHash s password))

end BearerTokens.Hash.Bcrypt
