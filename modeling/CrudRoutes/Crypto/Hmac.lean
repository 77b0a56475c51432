import CrudRoutes.Crypto.Sha2

/-!
Keyed hashing (HMAC, RFC 2104) over the SHA-2 functions: the hash of the key padded and masked
with `0x5c`, followed by the hash of the key masked with `0x36` and the message. A key longer
than a block is hashed first.
-/

namespace CrudRoutes.Crypto

def hmac (hash : ByteArray → ByteArray) (block : Nat) (key msg : ByteArray) : ByteArray :=
  let k := if key.size > block then hash key else key
  let k := (List.replicate (block - k.size) (0 : UInt8)).foldl ByteArray.push k
  let mask := fun (m : UInt8) => ByteArray.mk (k.toList.map (· ^^^ m)).toArray
  hash (mask 0x5c ++ hash (mask 0x36 ++ msg))

def hmac256 (key msg : ByteArray) : ByteArray :=
  hmac sha256 64 key msg

def hmac384 (key msg : ByteArray) : ByteArray :=
  hmac sha384 128 key msg

def hmac512 (key msg : ByteArray) : ByteArray :=
  hmac sha512 128 key msg

end CrudRoutes.Crypto
