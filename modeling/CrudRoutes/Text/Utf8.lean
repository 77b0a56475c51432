/-!
Reading bytes as UTF-8 text. A byte that does not start a well-formed sequence (overlong forms,
surrogates and code points past U+10FFFF included) stands for one replacement character, and
reading resumes at the next byte.
-/

namespace CrudRoutes.Text

def contIn (b : UInt8) (lo hi : UInt8) : Bool :=
  lo ≤ b && b ≤ hi

def low6 (b : UInt8) : Nat :=
  (b &&& 0x3f).toNat

def decodeStep (b : UInt8) (rest : List UInt8) : Char × Nat :=
  if b < 0x80 then (Char.ofNat b.toNat, 0)
  else if 0xc2 ≤ b && b ≤ 0xdf then
    match rest with
    | c :: _ => if contIn c 0x80 0xbf then
        (Char.ofNat ((b &&& 0x1f).toNat * 64 + low6 c), 1)
      else ('�', 0)
    | [] => ('�', 0)
  else if 0xe0 ≤ b && b ≤ 0xef then
    let (lo, hi) : UInt8 × UInt8 :=
      if b == 0xe0 then (0xa0, 0xbf) else if b == 0xed then (0x80, 0x9f) else (0x80, 0xbf)
    match rest with
    | c :: d :: _ =>
      if contIn c lo hi && contIn d 0x80 0xbf then
        (Char.ofNat ((b &&& 0x0f).toNat * 4096 + low6 c * 64 + low6 d), 2)
      else ('�', 0)
    | _ => ('�', 0)
  else if 0xf0 ≤ b && b ≤ 0xf4 then
    let (lo, hi) : UInt8 × UInt8 :=
      if b == 0xf0 then (0x90, 0xbf) else if b == 0xf4 then (0x80, 0x8f) else (0x80, 0xbf)
    match rest with
    | c :: d :: e :: _ =>
      if contIn c lo hi && contIn d 0x80 0xbf && contIn e 0x80 0xbf then
        (Char.ofNat ((b &&& 0x07).toNat * 262144 + low6 c * 4096 + low6 d * 64 + low6 e), 3)
      else ('�', 0)
    | _ => ('�', 0)
  else ('�', 0)

def decodeInto : List UInt8 → List Char → List Char
  | [], acc => acc.reverse
  | b :: rest, acc =>
    let (c, n) := decodeStep b rest
    decodeInto (rest.drop n) (c :: acc)
termination_by bs => bs.length
decreasing_by simp only [List.length_drop, List.length_cons]; omega

def decodeLossy (bytes : List UInt8) : String :=
  String.ofList (decodeInto bytes [])

end CrudRoutes.Text
