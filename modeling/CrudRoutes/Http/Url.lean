import CrudRoutes.Text.Utf8

/-!
Paths and query strings of request targets.

Percent-escapes are decoded byte by byte: `%` must be followed by two hex digits, and in
query components `+` stands for a blank. A path is routed in its decoded form when escaping
that form again gives back the text as sent, and as sent otherwise, so that an escaped slash
never splits a segment.

A query string is split at `&`; a part holding `;` is refused, an empty part is skipped, and
each part is a name, optionally `=` and a value, both decoded. Parts that fail to decode are
dropped, the others kept.
-/

namespace CrudRoutes.Url

def hexDigit? (b : UInt8) : Option Nat :=
  if 48 ≤ b && b ≤ 57 then some (b.toNat - 48)
  else if 65 ≤ b && b ≤ 70 then some (b.toNat - 55)
  else if 97 ≤ b && b ≤ 102 then some (b.toNat - 87)
  else none

def unescapeBytes (plusIsBlank : Bool) : List UInt8 → Option (List UInt8)
  | [] => some []
  | 37 :: a :: b :: rest =>
    match hexDigit? a, hexDigit? b with
    | some x, some y => (UInt8.ofNat (16 * x + y) :: ·) <$> unescapeBytes plusIsBlank rest
    | _, _ => none
  | 37 :: _ => none
  | 43 :: rest => ((if plusIsBlank then 32 else 43) :: ·) <$> unescapeBytes plusIsBlank rest
  | b :: rest => (b :: ·) <$> unescapeBytes plusIsBlank rest

def escapedInPath (b : UInt8) : Bool :=
  let c := Char.ofNat b.toNat
  !(c.isAlphanum || b < 128 && "-_.~$&+,/:;=@".contains c)

def hexUpper (n : Nat) : Char :=
  if n < 10 then Char.ofNat (48 + n) else Char.ofNat (55 + n)

def escapePath (bs : List UInt8) : String :=
  String.join (bs.map fun b =>
    if escapedInPath b then
      String.ofList ['%', hexUpper (b.toNat / 16), hexUpper (b.toNat % 16)]
    else String.singleton (Char.ofNat b.toNat))

def unescapeQuery (s : String) : Option String :=
  (unescapeBytes true s.toUTF8.toList).map Text.decodeLossy

def routePath (raw : String) : String :=
  match unescapeBytes false raw.toUTF8.toList with
  | some bs => if escapePath bs == raw then Text.decodeLossy bs else raw
  | none => raw

def parseQuery (query : String) : List (String × List String) :=
  (query.splitOn "&").foldl (fun acc part =>
    if part.isEmpty || part.contains ';' then acc else
    let (name, value) := match part.splitOn "=" with
      | [] => ("", "")
      | n :: rest => (n, "=".intercalate rest)
    match unescapeQuery name, unescapeQuery value with
    | some n, some v =>
      if acc.any (·.1 == n) then acc.map fun (k, vs) => if k == n then (k, vs ++ [v]) else (k, vs)
      else acc ++ [(n, [v])]
    | _, _ => acc) []

def queryValue (values : List (String × List String)) (name : String) : String :=
  ((values.find? (·.1 == name)).bind fun (_, vs) => vs.head?).getD ""

end CrudRoutes.Url
