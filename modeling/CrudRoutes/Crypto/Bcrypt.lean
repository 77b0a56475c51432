import CrudRoutes.Crypto.Blowfish
import CrudRoutes.Crypto.Base64
import CrudRoutes.Crypto.Sha2

/-!
Password hashing with bcrypt.

A hash is `$2a$`, the cost in two digits, `$`, the salt (16 bytes) and the digest (23 bytes),
both in the bcrypt alphabet. The digest sets up Blowfish from the salt and the password (with
its terminating zero byte), then expands the state with the password and the salt in turn
`2 ^ cost` times, and finally encrypts the text `OrpheanBeholderScryDoubt` sixty-four times.

Passwords longer than 72 bytes cannot be hashed. Checking a password against a hash reads the
version, the cost (4 to 31) and the salt from the hash and compares the digests.

The authentication service and the hash-password mapper use a password hashing scheme
(`PasswordHashing`); bcrypt, salted with the start of the password's SHA-256 digest in place of a
random salt, is the scheme of the program (`Crypto.bcrypt`).
-/

namespace CrudRoutes

/-- A password hashing scheme: a new hash of a password, with a salt of the scheme's choosing,
the hash of a password under a given salt, or in both cases why the password cannot be hashed,
and whether a password matches a hash. -/
structure PasswordHashing where
  generate : String → Except String String
  hashWith : ByteArray → String → Except String String
  compare : String → String → Bool

namespace Crypto

def defaultCost : Nat := 10

def magicText : ByteArray := "OrpheanBeholderScryDoubt".toUTF8

def expensiveRounds (key salt : ByteArray) : Nat → Array UInt32 → Array UInt32
  | 0, c => c
  | n + 1, c => expensiveRounds key salt n (expandKey salt (expandKey key c))

def encryptTimes (c : Array UInt32) : Nat → UInt32 → UInt32 → UInt32 × UInt32
  | 0, l, r => (l, r)
  | n + 1, l, r =>
    let (l, r) := encryptBlock c l r
    encryptTimes c n l r

def digest (password : ByteArray) (cost : Nat) (salt : ByteArray) : ByteArray :=
  let key := password.push 0
  let c := expensiveRounds key salt (Nat.pow 2 cost) (saltedState key salt)
  let words := (List.range 3).foldl (fun (acc : Array UInt32) i =>
    let (l, r) := encryptTimes c 64 (word32 magicText (8 * i)) (word32 magicText (8 * i + 4))
    (acc.push l).push r) #[]
  (bytes32 words).extract 0 23

def twoDigits (n : Nat) : String :=
  if n < 10 then "0" ++ toString n else toString n

/-- The hash text of a password under a cost and a raw salt. -/
def hashWith (password : ByteArray) (cost : Nat) (salt : ByteArray) : String :=
  "$2a$" ++ twoDigits cost ++ "$" ++ encode64 bcryptAlphabet salt ++
    encode64 bcryptAlphabet (digest password cost salt)

/-- Hashes a password under a raw salt at the default cost. -/
def hashSalted (salt : ByteArray) (password : String) : Except String String :=
  let p := password.toUTF8
  if p.size > 72 then .error "bcrypt: password length exceeds 72 bytes"
  else .ok (hashWith p defaultCost salt)

/-- The salt of a new hash: the start of the password's SHA-256 digest, which keeps every run
reproducible. -/
def saltFor (password : String) : ByteArray :=
  (sha256 password.toUTF8).extract 0 16

/-- Hashes a new password. -/
def hashPassword (password : String) : Except String String :=
  hashSalted (saltFor password) password

def readCost (cs : List Char) : Option Int :=
  let (neg, ds) := match cs with
    | '-' :: r => (true, r)
    | '+' :: r => (false, r)
    | r => (false, r)
  if ds.isEmpty || !ds.all Char.isDigit then none
  else
    let n : Int := ds.foldl (fun a d => a * 10 + (d.toNat - '0'.toNat)) 0
    some (if neg then -n else n)

/-- Whether a password matches a hash. -/
def checkPassword (hash password : String) : Bool :=
  let s := hash.toList
  if s.length < 59 then false else
  match s with
  | '$' :: major :: rest =>
    if major > '2' then false else
    let rest := match rest with
      | '$' :: r => r
      | _ :: r => r.drop 1
      | [] => []
    match readCost (rest.take 2) with
    | none => false
    | some cost =>
      if cost < 4 || cost > 31 then false else
      let rest := rest.drop 3
      let saltText := String.ofList (rest.take 22)
      let expected := String.ofList (rest.drop 22)
      match decode64 bcryptAlphabet saltText with
      | none => false
      | some salt =>
        encode64 bcryptAlphabet (digest password.toUTF8 cost.toNat salt) == expected
  | _ => false

/-- bcrypt at the default cost. -/
def bcrypt : PasswordHashing where
  generate := hashPassword
  hashWith := hashSalted
  compare := checkPassword

end Crypto

instance : Inhabited PasswordHashing := ⟨Crypto.bcrypt⟩

end CrudRoutes
