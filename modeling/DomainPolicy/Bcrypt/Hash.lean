import DomainPolicy.Bcrypt.Cipher
import DomainPolicy.Bcrypt.Radix64
import DomainPolicy.Number.Decimal

/-!
# Password hashes as text

* A hash reads `$version$cost$` and then 22 characters of salt and 31 of digest. A `Setting` is what its first part
  says: version, cost and salt.
* `hash?` hashes a password under the setting that a text begins with; `check?` compares the result with the whole
  text, so a text that is not written as `hash?` writes matches no password.
* The digest is a parameter. It sees a password only through `cyclicKey`: the password and one zero byte, repeated to
  72 bytes.
-/

namespace DomainPolicy.Bcrypt

/-- A digest for a cost, a salt and a key. -/
abbrev Digest := Nat → Bytes → Bytes → Bytes

structure Setting where
  version : List Char
  cost : Nat
  salt : List Char
  saltBytes : Bytes
  deriving DecidableEq, Repr

/-- The pieces of a text between dollar signs, empty ones left out. -/
def pieces (cs : List Char) : List (List Char) := (cs.splitOn '$').filter (· ≠ [])

def isVersion (v : List Char) : Bool := v ∈ [['2', 'a'], ['2', 'b'], ['2', 'x'], ['2', 'y']]

/-- A cost in decimal, perhaps with a plus sign, from 4 to 31. -/
def readCost? (cs : List Char) : Option Nat :=
  let ds := match cs with
    | '+' :: rest => rest
    | _ => cs
  if ds ≠ [] ∧ ds.all Decimal.isDigit then
    let n := Decimal.value ds
    if 4 ≤ n ∧ n ≤ 31 then some n else none
  else none

/-- The setting that a text begins with. -/
def Setting.read? (cs : List Char) : Option Setting :=
  match pieces cs with
  | [version, cost, rest] =>
    if isVersion version then
      (readCost? cost).bind fun n =>
        let salt := rest.take 22
        if salt.length = 22 then (Radix64.decode? salt).map fun bs => ⟨version, n, salt, bs⟩ else none
    else none
  | _ => none

/-- The text of a setting and a digest. -/
def Setting.write (s : Setting) (digest : Bytes) : List Char :=
  '$' :: s.version ++ '$' :: Decimal.padded 2 s.cost ++ '$' :: s.salt ++ Radix64.encode digest

/-- A list repeated over and over, cut at a length. -/
def cycle (bs : Bytes) (n : Nat) : Bytes := (List.range n).map fun i => bs.getD (i % bs.length) 0

/-- The part of a password that a digest sees. -/
def cyclicKey (password : Bytes) : Bytes := cycle (password ++ [0]) 72

/-- The hash of a password under the setting that a text begins with. -/
def hash? (digest : Digest) (password : Bytes) (setting : String) : Option String :=
  (Setting.read? setting.toList).map fun s =>
    String.ofList (s.write (digest s.cost s.saltBytes (cyclicKey password)))

/-- Whether a password has a hash; nothing when the hash has no setting. -/
def check? (digest : Digest) (password : Bytes) (hash : String) : Option Bool :=
  (hash? digest password hash).map (· == hash)

/-- The setting of a fresh hash. -/
def freshSetting (cost : Nat) (salt : String) : String :=
  String.ofList ("$2b$".toList ++ Decimal.padded 2 cost ++ '$' :: salt.toList)

end DomainPolicy.Bcrypt
