import CrudRoutes.Decimal.Shortest

/-!
Writing doubles from their shortest digits. A style says which decimal exponents are written
positionally and how wide a written exponent is; everything else is shared: a minus sign for
negative numbers and negative zero, one digit before the point in the exponent form, and the
exponent's sign always written.
-/

namespace CrudRoutes.Decimal

/-- Where positional notation ends and how a written exponent looks. -/
structure Style where
  fixedFrom : Int
  fixedBelow : Int
  expWidth : Nat
  deriving Repr

def Bits.shortest : Bits → Option (Bool × Digits)
  | .finite b => some (b.neg, shortestOf b)
  | _ => none

def digitChars (ds : List Nat) : String :=
  String.ofList (ds.map fun d => Char.ofNat (d + '0'.toNat))

def positional (d : Digits) : String :=
  let n := d.digits.length
  if d.digits.isEmpty then "0"
  else if d.point ≤ 0 then
    "0." ++ String.ofList (List.replicate d.point.natAbs '0') ++ digitChars d.digits
  else if d.point.toNat ≥ n then
    digitChars d.digits ++ String.ofList (List.replicate (d.point.toNat - n) '0')
  else
    digitChars (d.digits.take d.point.toNat) ++ "." ++ digitChars (d.digits.drop d.point.toNat)

def scientific (d : Digits) (width : Nat) : String :=
  let e := d.point - 1
  let mant := match d.digits with
    | [] => "0"
    | [x] => digitChars [x]
    | x :: rest => digitChars [x] ++ "." ++ digitChars rest
  let et := toString e.natAbs
  mant ++ "e" ++ (if e < 0 then "-" else "+") ++
    String.ofList (List.replicate (width - et.length) '0') ++ et

def Style.render (st : Style) (x : Float) : String :=
  match Bits.ofFloat x with
  | .nan => "NaN"
  | .infinite neg => if neg then "-Inf" else "+Inf"
  | .finite b =>
    let d := shortestOf b
    let sign := if b.neg then "-" else ""
    let e := d.point - 1
    if d.digits.isEmpty then sign ++ "0"
    else if e < st.fixedFrom || e ≥ st.fixedBelow then sign ++ scientific d st.expWidth
    else sign ++ positional d

end CrudRoutes.Decimal
