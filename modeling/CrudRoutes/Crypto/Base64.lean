/-!
Base64 with a choice of alphabet and no padding: the URL-safe alphabet of signed tokens and
the alphabet of bcrypt hashes.

Decoding skips line breaks, refuses any other character outside the alphabet (padding
included), and refuses a text whose length leaves a single character over; the unused low
bits of a last partial group are ignored.

The standard alphabet is also read padded: every group has four characters, the last one
possibly ending in `=` or `==`, and nothing may follow the padding.
-/

namespace CrudRoutes.Crypto

def urlAlphabet : String :=
  "ABCDEFGHIJKLMNOPQRSTUVWXYZabcdefghijklmnopqrstuvwxyz0123456789-_"

def bcryptAlphabet : String :=
  "./ABCDEFGHIJKLMNOPQRSTUVWXYZabcdefghijklmnopqrstuvwxyz0123456789"

def encode64 (alphabet : String) (b : ByteArray) : String :=
  let table := alphabet.toList.toArray
  let sym := fun (n : Nat) => table[n % 64]!
  let rec go : List UInt8 → List Char
    | [] => []
    | [x] =>
      let n := x.toNat
      [sym (n / 4), sym (n % 4 * 16)]
    | [x, y] =>
      let n := x.toNat * 256 + y.toNat
      [sym (n / 1024), sym (n / 16 % 64), sym (n % 16 * 4)]
    | x :: y :: z :: rest =>
      let n := x.toNat * 65536 + y.toNat * 256 + z.toNat
      sym (n / 262144) :: sym (n / 4096 % 64) :: sym (n / 64 % 64) :: sym (n % 64) :: go rest
  String.ofList (go b.toList)

def decode64 (alphabet : String) (s : String) : Option ByteArray := do
  let table := alphabet.toList
  let chars := s.toList.filter fun c => c != '\r' && c != '\n'
  let vals ← chars.mapM fun c => table.idxOf? c
  let rec go : List Nat → Option (List UInt8)
    | [] => some []
    | [_] => none
    | [a, b] => some [(a * 4 + b / 16).toUInt8]
    | [a, b, c] => some [(a * 4 + b / 16).toUInt8, ((b % 16) * 16 + c / 4).toUInt8]
    | a :: b :: c :: d :: rest => do
      let more ← go rest
      pure ((a * 4 + b / 16).toUInt8 :: ((b % 16) * 16 + c / 4).toUInt8 ::
        ((c % 4) * 64 + d).toUInt8 :: more)
  let bytes ← go vals
  pure (ByteArray.mk bytes.toArray)

def standardAlphabet : String :=
  "ABCDEFGHIJKLMNOPQRSTUVWXYZabcdefghijklmnopqrstuvwxyz0123456789+/"

def decodePadded64 (s : String) : Option ByteArray :=
  let chars := s.toList.filter fun c => c != '\r' && c != '\n'
  let body := if chars.length % 4 != 0 then none
    else match chars.reverse with
      | '=' :: '=' :: rest => some (rest.reverse, 2)
      | '=' :: rest => some (rest.reverse, 1)
      | _ => some (chars, 0)
  match body with
  | some (cs, pad) =>
    if cs.contains '=' || (pad == 2 && cs.length % 4 != 2) || (pad == 1 && cs.length % 4 != 3) then
      none
    else decode64 standardAlphabet (String.ofList cs)
  | none => none

end CrudRoutes.Crypto
