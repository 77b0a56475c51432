import Mathlib
import CrudRoutes.Crypto.Bcrypt

/-!
A password hash accepts the password it was made from.

Base64 without padding reads back what it writes, in any alphabet of sixty-four distinct
characters without a line break (`decode64_encode64`), and writes `n` bytes in `4 * (n / 3)`
characters and two or three more for a last partial group (`length_encode64`). A bcrypt hash is
`$2a$`, the cost in two digits, `$`, the salt and the digest; with a salt of 16 bytes the salt
takes exactly the 22 characters the check cuts off, and the digest, of 23 bytes, brings the hash
to 60 characters, above the 59 the check asks for. So the check reads back the cost and the
salt, recomputes the digest and accepts (`checkPassword_hashWith`). So bcrypt is a lawful
password hashing scheme (`Crypto.bcrypt_lawful`): a new hash is made under a salt of 16 bytes,
and every hash made under such a salt accepts its password.
-/

namespace CrudRoutes

namespace Crypto

theorem byteArray_toList_loop (b : ByteArray) (i : Nat) (r : List UInt8) :
    ByteArray.toList.loop b i r = r.reverse ++ b.data.toList.drop i := by
  fun_induction ByteArray.toList.loop b i r with
  | case1 i r before ih =>
    have remaining : b.data.toList.drop i = b.data[i] :: b.data.toList.drop (i + 1) := by
      rw [List.drop_eq_getElem_cons (by simpa using before)]
      rfl
    rw [ih, remaining]
    simp [ByteArray.get!, before]
  | case2 i r after =>
    rw [List.drop_of_length_le (by simpa using after), List.append_nil]

theorem byteArray_toList (b : ByteArray) : b.toList = b.data.toList := by
  rw [ByteArray.toList, byteArray_toList_loop]
  simp

/-! Base64. -/

/-- An alphabet of base64: sixty-four distinct characters, no line break among them. -/
structure IsAlphabet (alphabet : String) : Prop where
  length_eq : alphabet.toList.length = 64
  nodup : alphabet.toList.Nodup
  no_cr : '\r' ∉ alphabet.toList
  no_lf : '\n' ∉ alphabet.toList

theorem bcryptAlphabet_isAlphabet : IsAlphabet bcryptAlphabet :=
  ⟨by decide, by decide, by decide, by decide⟩

namespace IsAlphabet

variable {alphabet : String} (hA : IsAlphabet alphabet)
include hA

theorem sym_eq (n : Nat) :
    alphabet.toList.toArray[n % 64]! =
      alphabet.toList.get ⟨n % 64, by rw [hA.length_eq]; omega⟩ := by
  have h : n % 64 < alphabet.toList.toArray.size := by simp [hA.length_eq]; omega
  rw [getElem!_pos alphabet.toList.toArray (n % 64) h]
  simp

theorem idxOf_sym (n : Nat) :
    alphabet.toList.idxOf? (alphabet.toList.toArray[n % 64]!) = some (n % 64) := by
  rw [hA.sym_eq, List.idxOf?_eq_some_iff]
  refine ⟨_, rfl, fun j hj h => ?_⟩
  have := (hA.nodup.getElem_inj_iff).1 h
  omega

theorem sym_mem (n : Nat) : alphabet.toList.toArray[n % 64]! ∈ alphabet.toList := by
  rw [hA.sym_eq]
  exact List.get_mem _ _

end IsAlphabet

theorem mem_encode64_go {f : Nat → Char} {l : List UInt8} {c : Char}
    (h : c ∈ encode64.go f l) : ∃ n, c = f n := by
  induction l using encode64.go.induct with
  | case1 => simp [encode64.go] at h
  | case2 x =>
    simp only [encode64.go, List.mem_cons, List.not_mem_nil, or_false] at h
    rcases h with rfl | rfl <;> exact ⟨_, rfl⟩
  | case3 x y =>
    simp only [encode64.go, List.mem_cons, List.not_mem_nil, or_false] at h
    rcases h with rfl | rfl | rfl <;> exact ⟨_, rfl⟩
  | case4 x y z rest ih =>
    simp only [encode64.go, List.mem_cons] at h
    rcases h with rfl | rfl | rfl | rfl | h
    any_goals exact ⟨_, rfl⟩
    exact ih h

theorem decode64_go_encode {alphabet : String} (hA : IsAlphabet alphabet) (l : List UInt8) :
    ∃ vals, (encode64.go (fun n => alphabet.toList.toArray[n % 64]!) l).mapM
        (fun c => alphabet.toList.idxOf? c) = some vals ∧ decode64.go vals = some l := by
  induction l using encode64.go.induct with
  | case1 => exact ⟨[], rfl, rfl⟩
  | case2 x =>
    have hx := x.toNat_lt
    refine ⟨_, by simp only [encode64.go, List.mapM_cons, List.mapM_nil, hA.idxOf_sym]; rfl, ?_⟩
    simp only [decode64.go, Option.some.injEq, List.cons.injEq, and_true]
    apply UInt8.toNat_inj.mp
    simp
    omega
  | case3 x y =>
    have hx := x.toNat_lt
    have hy := y.toNat_lt
    refine ⟨_, by simp only [encode64.go, List.mapM_cons, List.mapM_nil, hA.idxOf_sym]; rfl, ?_⟩
    simp only [decode64.go, Option.some.injEq, List.cons.injEq, and_true]
    constructor <;> apply UInt8.toNat_inj.mp <;> simp <;> omega
  | case4 x y z rest ih =>
    have hx := x.toNat_lt
    have hy := y.toNat_lt
    have hz := z.toNat_lt
    obtain ⟨vals, hvals, hrest⟩ := ih
    refine ⟨_, by simp only [encode64.go, List.mapM_cons, hA.idxOf_sym, hvals]; rfl, ?_⟩
    simp only [decode64.go, hrest]
    show some _ = some _
    simp only [Option.some.injEq, List.cons.injEq, and_true]
    refine ⟨?_, ?_, ?_⟩ <;> apply UInt8.toNat_inj.mp <;> simp <;> omega

theorem decode64_encode64 {alphabet : String} (hA : IsAlphabet alphabet) (b : ByteArray) :
    decode64 alphabet (encode64 alphabet b) = some b := by
  obtain ⟨vals, hvals, hdec⟩ := decode64_go_encode hA b.toList
  -- every written symbol is in the alphabet, so none is a line break to skip
  have hclean : (encode64.go (fun n => alphabet.toList.toArray[n % 64]!) b.toList).filter
      (fun c => c != '\r' && c != '\n') =
      encode64.go (fun n => alphabet.toList.toArray[n % 64]!) b.toList := by
    refine List.filter_eq_self.2 fun c hc => ?_
    obtain ⟨n, rfl⟩ := mem_encode64_go hc
    have hmem := hA.sym_mem n
    rw [Bool.and_eq_true, bne_iff_ne, bne_iff_ne]
    exact ⟨fun h => hA.no_cr (h ▸ hmem), fun h => hA.no_lf (h ▸ hmem)⟩
  simp only [decode64, encode64, String.toList_ofList, hclean, hvals]
  show (decode64.go vals >>= fun bytes => pure { data := bytes.toArray }) = some b
  rw [hdec]
  show some _ = some b
  rw [byteArray_toList, Array.toArray_toList]

theorem length_encode64_go (f : Nat → Char) (l : List UInt8) :
    (encode64.go f l).length =
      4 * (l.length / 3) + (if l.length % 3 = 0 then 0 else l.length % 3 + 1) := by
  induction l using encode64.go.induct with
  | case1 => rfl
  | case2 x => simp [encode64.go]
  | case3 x y => simp [encode64.go]
  | case4 x y z rest ih =>
    simp only [encode64.go, List.length_cons, ih]
    split <;> split <;> omega

theorem length_encode64 (alphabet : String) (b : ByteArray) :
    (encode64 alphabet b).toList.length =
      4 * (b.size / 3) + (if b.size % 3 = 0 then 0 else b.size % 3 + 1) := by
  simp only [encode64, String.toList_ofList, length_encode64_go, byteArray_toList]
  simp

/-! Sizes of digests. -/

theorem size_foldl_bytes (ws : List UInt32) (acc : ByteArray) :
    (ws.foldl (fun (b : ByteArray) (w : UInt32) => ((b.push (w >>> 24).toUInt8).push
      (w >>> 16).toUInt8 |>.push (w >>> 8).toUInt8).push w.toUInt8) acc).size =
      acc.size + 4 * ws.length := by
  induction ws generalizing acc with
  | nil => simp
  | cons w ws ih =>
    rw [List.foldl_cons, ih]
    simp only [ByteArray.size_push, List.length_cons]
    omega

theorem size_bytes32 (ws : Array UInt32) : (bytes32 ws).size = 4 * ws.size := by
  rw [bytes32, ← Array.foldl_toList, size_foldl_bytes]
  simp

theorem size_foldl_set {α : Type} (f : Nat → α) (l : List Nat) (acc : Array α) :
    (l.foldl (fun s i => s.set! i (f i)) acc).size = acc.size := by
  induction l generalizing acc with
  | nil => rfl
  | cons i l ih => rw [List.foldl_cons, ih, Array.size_set!]

theorem size_compress256 (state : Array UInt32) (msg : ByteArray) (start : Nat) :
    (compress256 state msg start).size = state.size := by
  simp only [compress256]
  exact size_foldl_set _ _ _

theorem size_sha256 (msg : ByteArray) : (sha256 msg).size = 32 := by
  -- every block keeps the eight words of the state
  have hblocks : ∀ (l : List Nat) (s : Array UInt32), s.size = 8 →
      (l.foldl (fun s i => compress256 s (pad msg 64 8) (64 * i)) s).size = 8 := by
    intro l
    induction l with
    | nil => exact fun s hs => hs
    | cons i l ih =>
      intro s hs
      rw [List.foldl_cons]
      exact ih _ (by rw [size_compress256, hs])
  have h8 : init256.size = 8 := rfl
  unfold sha256
  rw [size_bytes32, hblocks _ _ h8]

theorem size_foldl_pairs (g : Nat → UInt32 × UInt32) (l : List Nat) (acc : Array UInt32) :
    (l.foldl (fun acc i => match g i with | (x, y) => (acc.push x).push y) acc).size =
      acc.size + 2 * l.length := by
  induction l generalizing acc with
  | nil => simp
  | cons i l ih =>
    rw [List.foldl_cons, ih]
    rcases g i with ⟨x, y⟩
    simp only [Array.size_push, List.length_cons]
    omega

theorem size_digest (password : ByteArray) (cost : Nat) (salt : ByteArray) :
    (digest password cost salt).size = 23 := by
  simp only [digest]
  rw [ByteArray.size_extract, size_bytes32, size_foldl_pairs]
  simp

/-! The check of a hash. -/

theorem twoDigits_cost : ∀ c, 4 ≤ c → c ≤ 31 →
    (twoDigits c).toList.length = 2 ∧ readCost (twoDigits c).toList = some (c : Int) := by
  decide

theorem checkPassword_hashWith (pw : String) {cost : Nat} (hlo : 4 ≤ cost) (hhi : cost ≤ 31)
    {salt : ByteArray} (hsalt : salt.size = 16) :
    checkPassword (hashWith pw.toUTF8 cost salt) pw = true := by
  obtain ⟨hlen, hcost⟩ := twoDigits_cost cost hlo hhi
  obtain ⟨d₁, d₂, hd⟩ := List.length_eq_two.1 hlen
  rw [hd] at hcost
  have hs : (encode64 bcryptAlphabet salt).toList.length = 22 := by
    rw [length_encode64, hsalt]
    rfl
  have hg : (encode64 bcryptAlphabet (digest pw.toUTF8 cost salt)).toList.length = 31 := by
    rw [length_encode64, size_digest]
    rfl
  have htext : (hashWith pw.toUTF8 cost salt).toList =
      '$' :: '2' :: 'a' :: '$' :: d₁ :: d₂ :: '$' :: ((encode64 bcryptAlphabet salt).toList ++
        (encode64 bcryptAlphabet (digest pw.toUTF8 cost salt)).toList) := by
    simp [hashWith, String.toList_append, hd]
  unfold checkPassword
  simp only [htext]
  simp only [String.toUTF8_eq_toByteArray] at hg
  simp [hs, hg, hcost, hlo, hhi, List.drop_append_of_le_length,
    decode64_encode64 bcryptAlphabet_isAlphabet]

theorem hashSalted_eq_ok_iff {salt : ByteArray} {pw hash : String} :
    hashSalted salt pw = .ok hash ↔ pw.toUTF8.size ≤ 72 ∧ hash = hashWith pw.toUTF8 defaultCost salt := by
  unfold hashSalted
  by_cases h : pw.toUTF8.size > 72
  · simp only [if_pos h]
    exact ⟨nofun, fun h' => absurd h'.1 (by omega)⟩
  · simp only [if_neg h, Except.ok.injEq]
    exact ⟨fun e => ⟨by omega, e.symm⟩, fun e => e.2.symm⟩

theorem size_saltFor (pw : String) : (saltFor pw).size = 16 := by
  rw [saltFor, ByteArray.size_extract, size_sha256]
  rfl

theorem checkPassword_of_hashSalted {salt : ByteArray} (hsalt : salt.size = 16) {pw hash : String}
    (h : hashSalted salt pw = .ok hash) : checkPassword hash pw = true := by
  obtain ⟨-, rfl⟩ := hashSalted_eq_ok_iff.1 h
  exact checkPassword_hashWith pw (by decide) (by decide) hsalt

end Crypto

/-- What the authentication service assumes of its password hashing, as bcrypt documents it: a
new hash is the hash of the password under a salt of 16 bytes, and a hash of a password under a
salt of 16 bytes accepts that password. -/
structure PasswordHashing.Lawful (H : PasswordHashing) : Prop where
  salted : ∀ pw hash, H.generate pw = .ok hash →
    ∃ salt : ByteArray, salt.size = 16 ∧ H.hashWith salt pw = .ok hash
  accepts : ∀ (salt : ByteArray) pw hash, salt.size = 16 → H.hashWith salt pw = .ok hash →
    H.compare hash pw = true

theorem Crypto.bcrypt_lawful : Crypto.bcrypt.Lawful where
  salted pw _ h := ⟨Crypto.saltFor pw, Crypto.size_saltFor pw, h⟩
  accepts _ _ _ hs h := Crypto.checkPassword_of_hashSalted hs h

end CrudRoutes
