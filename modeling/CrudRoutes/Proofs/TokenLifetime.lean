import Mathlib
import CrudRoutes.Proofs.DoubleBits
import CrudRoutes.Proofs.JsonReadBack
import CrudRoutes.Proofs.Utf8Decode
import CrudRoutes.Proofs.Session
import CrudRoutes.Proofs.Login

/-!
# Token lifetimes

The authentication service signs and parses tokens through a library, and what it assumes of one
is `Jwt.Lawful`: a signed token is in compact form, parses under its key to the claims it carries,
with the expiry in whole seconds, exactly while the clock is before the expiry and the issuer is the
expected one, and a token of another issuer is refused under every key. Under any lawful library a
service's token lives until its issue instant plus its lifetime, rounded down to the second
(`Token.seconds_addNanos`, `AuthService.issued_token_lifetime`), which can be up to a second
before the lifetime is over (`AuthService.token_refused_within_lifetime`).

The program's HMAC tokens are such a library (`Jwt.hs256_lawful`). A token is three base64
segments joined by dots: the header, the claims and the HMAC of the two. The segments hold no dot
and no blank, so the token is its own trimmed form and splits back into its three segments. Each
segment decodes to the text it was made from, the header and the claims parse back
(`Json.parseWritten_obj`), and the two times come back as the doubles nearest to them, which for
whole seconds of at most 53 bits round down to the seconds themselves (`Token.nearest_int`).
`Token.parse_sign` puts this together, under any key. HMAC pads a short key with zero bytes, so
a secret followed by a NUL character signs like the secret itself (`Crypto.hmac_push_zero`): the
library does not bind tokens to keys, and such another secret accepts the same tokens
(`AuthService.authenticate_issued_push_nul`).
-/

namespace CrudRoutes

namespace Crypto

theorem toList_inj {a b : ByteArray} : a.toList = b.toList ↔ a = b := by
  rw [byteArray_toList, byteArray_toList, Array.toList_inj, ByteArray.ext_iff]

/-- A key shorter than the block is padded with zero bytes before it is used, so one zero byte
more at its end keys the same HMAC. -/
theorem hmac_push_zero (hash : ByteArray → ByteArray) {block : Nat} {key : ByteArray}
    (msg : ByteArray) (hk : key.size < block) :
    hmac hash block (key.push 0) msg = hmac hash block key msg := by
  have hpad : block - key.size = (block - (key.size + 1)) + 1 := by omega
  simp only [hmac, ByteArray.size_push, if_neg (show ¬ key.size + 1 > block by omega),
    if_neg (show ¬ key.size > block by omega), hpad, List.replicate_succ, List.foldl_cons]

theorem hmac256_push_nul (secret : String) (msg : ByteArray) (h : secret.utf8ByteSize < 64) :
    hmac256 (secret.push '\x00').toUTF8 msg = hmac256 secret.toUTF8 msg := by
  have hbytes : (secret.push '\x00').toUTF8 = secret.toUTF8.push 0 := by
    simp only [String.toUTF8_eq_toByteArray, String.toByteArray_push]
    apply ByteArray.ext
    rw [ByteArray.data_append, ByteArray.data_push, Array.push_eq_append]
    rfl
  rw [hbytes, hmac256, hmac256, hmac_push_zero]
  simpa using h

theorem urlAlphabet_isAlphabet : IsAlphabet urlAlphabet :=
  ⟨by decide, by decide, by decide, by decide⟩

theorem mem_encode64 {alphabet : String} (hA : IsAlphabet alphabet) (b : ByteArray)
    {c : Char} (hc : c ∈ (encode64 alphabet b).toList) : c ∈ alphabet.toList := by
  simp only [encode64, String.toList_ofList] at hc
  obtain ⟨n, rfl⟩ := mem_encode64_go hc
  exact hA.sym_mem n

theorem urlAlphabet_all_symbols :
    urlAlphabet.toList.all (fun c => c != '.' && !Text.isBlank c) = true := by
  decide

theorem urlAlphabet_symbols : ∀ c ∈ urlAlphabet.toList, c ≠ '.' ∧ Text.isBlank c = false := by
  intro c hc
  simpa using List.all_eq_true.1 urlAlphabet_all_symbols c hc

theorem encode64_symbols (b : ByteArray) :
    ∀ c ∈ (encode64 urlAlphabet b).toList, c ≠ '.' ∧ Text.isBlank c = false :=
  fun _ hc => urlAlphabet_symbols _ (mem_encode64 urlAlphabet_isAlphabet b hc)

end Crypto

namespace Text

theorem dropWhile_isBlank_of_forall {l : List Char} (h : ∀ c ∈ l, isBlank c = false) :
    l.dropWhile isBlank = l := by
  cases l with
  | nil => rfl
  | cons c cs => simp [h c List.mem_cons_self]

theorem trimBlanks_of_forall {s : String} (h : ∀ c ∈ s.toList, isBlank c = false) :
    trimBlanks s = s := by
  rw [trimBlanks, trimBy, dropWhile_isBlank_of_forall h,
    dropWhile_isBlank_of_forall (fun c hc => h c (List.mem_reverse.1 hc)), List.reverse_reverse,
    String.ofList_toList]

theorem splitOn_dots {a b c : String} (ha : ∀ x ∈ a.toList, x ≠ '.')
    (hb : ∀ x ∈ b.toList, x ≠ '.') (hc : ∀ x ∈ c.toList, x ≠ '.') :
    ((a ++ "." ++ b ++ "." ++ c).toList.splitOn '.').map String.ofList = [a, b, c] := by
  have hjoin : (a ++ "." ++ b ++ "." ++ c).toList =
      ['.'].intercalate [a.toList, b.toList, c.toList] := by
    simp
  have hsplit : (['.'].intercalate [a.toList, b.toList, c.toList]).splitOn '.' =
      [a.toList, b.toList, c.toList] := List.splitOn_intercalate '.'
    (by
      intro l hl
      simp only [List.mem_cons, List.not_mem_nil, or_false] at hl
      rcases hl with rfl | rfl | rfl
      · exact fun h => ha _ h rfl
      · exact fun h => hb _ h rfl
      · exact fun h => hc _ h rfl)
    (by simp)
  rw [hjoin, hsplit]
  simp

theorem isEmpty_dot (a b : String) : (a ++ "." ++ b).isEmpty = false := by
  rw [Bool.eq_false_iff, ne_eq, String.isEmpty_iff]
  intro h
  simpa using congrArg String.toList h

end Text

namespace Bind

theorem members_cons_of_foldName_ne {k name : String} (v : Value) (fs : Fields)
    (h : Text.foldName k ≠ Text.foldName name) : members ((k, v) :: fs) name = members fs name := by
  simp [members, h]

theorem members_optional (c : Bool) (k : String) (v : Value) (name : String) :
    members (if c then [] else [(k, v)]) name = if c then [] else members [(k, v)] name := by
  cases c <;> rfl

theorem text_of_members {fs : Fields} {name s : String}
    (h : members fs name = if s.isEmpty then [] else [.str s]) : text fs name = some s := by
  rw [text, h]
  cases hs : s.isEmpty
  · rfl
  · simp only [String.isEmpty_iff] at hs
    simp [hs]

theorem texts_of_members {fs : Fields} {name : String} {l : List String}
    (h : members fs name = if l.isEmpty then [] else [Value.strs l]) :
    texts fs name = some (if l.isEmpty then none else some l) := by
  cases hl : l.isEmpty
  · rw [if_neg (by simp), texts_strs fs name l (by rw [h, hl]; rfl)]
  · rw [hl, if_pos rfl] at h
    simp [texts, list, h, Slots.items]

end Bind

namespace Token

/-! ## The text of a token -/

def claimFields (c : TokenClaims) : Fields :=
  (if c.email.isEmpty then [] else [("email", .str c.email)] : Fields) ++
  (if c.roles.isEmpty then [] else [("roles", Value.strs c.roles)] : Fields) ++
  (if c.issuer.isEmpty then [] else [("iss", .str c.issuer)] : Fields) ++
  (if c.subject.isEmpty then [] else [("sub", .str c.subject)] : Fields) ++
  [("exp", .int (seconds c.expiresAt)), ("iat", .int (seconds c.issuedAt))] ++
  (if c.id.isEmpty then [] else [("jti", .str c.id)] : Fields)

def header : String := "\x7b\"alg\":\"HS256\",\"typ\":\"JWT\"\x7d"

def signingInput (claimsText : String) : String :=
  segment header ++ "." ++ segment claimsText

def signedPart (c : TokenClaims) : ByteArray :=
  (signingInput (Json.render (.obj (claimFields c)))).toUTF8

theorem sign_eq (key : ByteArray) (c : TokenClaims) :
    sign key c =
      signingInput (Json.render (.obj (claimFields c))) ++ "." ++
        Crypto.encode64 Crypto.urlAlphabet (Crypto.hmac256 key (signedPart c)) := rfl

theorem sign_symbols (key : ByteArray) (c : TokenClaims) :
    ∀ x ∈ (sign key c).toList, Text.isBlank x = false := by
  intro x hx
  simp only [sign_eq, signingInput, segment, String.toList_append, List.mem_append] at hx
  -- three segments and the two dots between them
  rcases hx with (((h | h) | h) | h) | h
  · exact (Crypto.encode64_symbols _ x h).2
  · simp_all [Text.isBlank]
  · exact (Crypto.encode64_symbols _ x h).2
  · simp_all [Text.isBlank]
  · exact (Crypto.encode64_symbols _ x h).2

theorem segmentText_segment (s : String) : segmentText? (segment s) = some s := by
  simp only [segmentText?, segment, Crypto.decode64_encode64 Crypto.urlAlphabet_isAlphabet,
    Option.map_some, Text.decodeLossy_toUTF8]

def headerFields : Fields := [("alg", .str "HS256"), ("typ", .str "JWT")]

theorem header_eq_render : header = Json.render (.obj headerFields) := by
  rfl

theorem parse_header : Json.parse header = .ok (Value.asMap (.obj headerFields)) := by
  have hfs : List.Forall₂ (fun a b => a.1 = b.1 ∧ Json.ReadsBack a.2 b.2) headerFields
      headerFields :=
    .cons ⟨rfl, .str _⟩ (.cons ⟨rfl, .str _⟩ .nil)
  rw [Json.parse, header_eq_render, Json.parseWritten_obj hfs (by simp [headerFields])]
  rfl

theorem alg_header :
    (Fields.get? (Fields.ofPairs (Value.asMapFields headerFields)) "alg").bind Value.str? =
      some "HS256" := by
  rfl

/-! ## The claims read back -/

def claimsRead (c : TokenClaims) (exp iat : Float) : Fields :=
  (if c.email.isEmpty then [] else [("email", .str c.email)] : Fields) ++
  (if c.roles.isEmpty then [] else [("roles", Value.strs c.roles)] : Fields) ++
  (if c.issuer.isEmpty then [] else [("iss", .str c.issuer)] : Fields) ++
  (if c.subject.isEmpty then [] else [("sub", .str c.subject)] : Fields) ++
  [("exp", .num exp), ("iat", .num iat)] ++
  (if c.id.isEmpty then [] else [("jti", .str c.id)] : Fields)

theorem forall₂_optional (b : Bool) (k : String) {v w : Value} (h : Json.ReadsBack v w) :
    List.Forall₂ (fun a b => a.1 = b.1 ∧ Json.ReadsBack a.2 b.2)
      (if b then [] else [(k, v)]) (if b then [] else [(k, w)]) := by
  cases b
  · exact List.Forall₂.cons ⟨rfl, h⟩ List.Forall₂.nil
  · exact List.Forall₂.nil

theorem claimFields_readsBack {c : TokenClaims} {x y : Float}
    (hx : Decimal.nearest (decide (seconds c.expiresAt < 0)) (seconds c.expiresAt).natAbs 0 = some x)
    (hy : Decimal.nearest (decide (seconds c.issuedAt < 0)) (seconds c.issuedAt).natAbs 0 = some y) :
    List.Forall₂ (fun a b => a.1 = b.1 ∧ Json.ReadsBack a.2 b.2)
      (claimFields c) (claimsRead c x y) := by
  unfold claimFields claimsRead
  refine List.rel_append (List.rel_append (List.rel_append (List.rel_append
    (List.rel_append ?_ ?_) ?_) ?_) ?_) ?_
  · exact forall₂_optional _ _ (.str _)
  · exact forall₂_optional _ _ (.strs _)
  · exact forall₂_optional _ _ (.str _)
  · exact forall₂_optional _ _ (.str _)
  · exact .cons ⟨rfl, .int _ _ hx⟩ (.cons ⟨rfl, .int _ _ hy⟩ .nil)
  · exact forall₂_optional _ _ (.str _)

theorem members_claimsRead (c : TokenClaims) (exp iat : Float) :
    let fs := claimsRead c exp iat
    Bind.members fs "email" = (if c.email.isEmpty then [] else [.str c.email]) ∧
    Bind.members fs "roles" = (if c.roles.isEmpty then [] else [Value.strs c.roles]) ∧
    Bind.members fs "iss" = (if c.issuer.isEmpty then [] else [.str c.issuer]) ∧
    Bind.members fs "sub" = (if c.subject.isEmpty then [] else [.str c.subject]) ∧
    Bind.members fs "jti" = (if c.id.isEmpty then [] else [.str c.id]) ∧
    Bind.members fs "aud" = [] ∧ Bind.members fs "exp" = [.num exp] ∧
    Bind.members fs "nbf" = [] ∧ Bind.members fs "iat" = [.num iat] := by
  -- the claim names are distinct without regard to case, which the kernel checks name by name
  simp (disch := decide +kernel) only [claimsRead, Bind.members_append, Bind.members_optional,
    Bind.members_cons_self, Bind.members_cons_of_foldName_ne, Bind.members_nil, ite_self,
    List.append_nil, List.nil_append, and_self]

theorem timeClaim_num {fs : Fields} {name : String} {x : Float}
    (h : Bind.members fs name = [.num x]) : timeClaim fs name = some (some (floorSeconds x)) := by
  simp [timeClaim, h, timeValue]

theorem timeClaim_absent {fs : Fields} {name : String} (h : Bind.members fs name = []) :
    timeClaim fs name = some none := by
  simp [timeClaim, h]

theorem readClaims_claimsRead (c : TokenClaims) (exp iat : Float) :
    readClaims (.obj (claimsRead c exp iat)) =
      some { email := c.email, roles := if c.roles.isEmpty then none else some c.roles,
             issuer := c.issuer, subject := c.subject, expires := some (floorSeconds exp),
             notBefore := none } := by
  obtain ⟨hemail, hroles, hiss, hsub, hjti, haud, hexp, hnbf, hiat⟩ := members_claimsRead c exp iat
  simp only [readClaims, Bind.fields?, Option.bind_eq_bind, Option.bind_some, textClaim,
    Bind.text_of_members hemail,
    Bind.texts_of_members hroles, Bind.text_of_members hiss, Bind.text_of_members hsub,
    Bind.text_of_members hjti, haud, timeClaim_num hexp, timeClaim_absent hnbf,
    timeClaim_num hiat, List.all_nil, Bool.not_true, Bool.false_eq_true, if_false]
  rfl

/-- A whole number of seconds of at most 53 bits is read back exactly: its nearest double rounds
down to it. -/
theorem nearest_int (n : Int) (hn : n.natAbs < 2 ^ 53) :
    ∃ x, Decimal.nearest (decide (n < 0)) n.natAbs 0 = some x ∧ floorSeconds x = n := by
  obtain ⟨x, hx, hfx⟩ := Decimal.nearest_whole (decide (n < 0)) n.natAbs hn
  refine ⟨x, hx, ?_⟩
  rw [hfx]
  by_cases h : n < 0
  · rw [if_pos (decide_eq_true h), Int.ofNat_natAbs_of_nonpos h.le, neg_neg]
  · rw [if_neg (by simpa using h), Int.natAbs_of_nonneg (not_lt.1 h)]

/-- The whole seconds of an instant moved by some nanoseconds: the nanoseconds since the epoch,
moved and rounded down to whole seconds. -/
theorem seconds_addNanos (t : Time) (ns : Int) :
    seconds (t.addNanos ns) = Int.fdiv (t.unixNanos + ns) 1000000000 := by
  have h : t.unixNanos + ns = ((t.nanos : Int) + ns) + t.unix * 1000000000 := by
    simp only [Time.unixNanos]
    ring
  rw [h, Int.add_mul_fdiv_right _ _ (by decide)]
  simp only [seconds, Time.addNanos]
  ring

end Token

/-! ## What a token library is assumed to do -/

namespace TokenClaims

/-- Claims whose times a token carries exactly: whole seconds of at most 53 bits, which a double
holds. -/
def Representable (c : TokenClaims) : Prop :=
  c.expiresAt.unix.natAbs < 2 ^ 53 ∧ c.issuedAt.unix.natAbs < 2 ^ 53

/-- The claims a token signed with `c` carries back: the expiry in whole seconds, rounded down,
and no roles for an empty list of roles. -/
def carried (c : TokenClaims) : Token.Claims :=
  { email := c.email, roles := if c.roles.isEmpty then none else some c.roles,
    issuer := c.issuer, subject := c.subject, expires := some c.expiresAt.unix }

end TokenClaims

/-- What the authentication service assumes of its token library, as HS256 tokens document it: a
token is in compact form, with no blank and not empty; it parses under the key it was signed
with to the claims it carries, with the expiry kept in whole seconds, exactly while the clock is
before the expiry and the issuer is the expected one; and under any key, a token of another
issuer is refused. -/
structure Jwt.Lawful (J : Jwt) : Prop where
  compact : ∀ key c, Text.trimBlanks (J.sign key c) = J.sign key c ∧ J.sign key c ≠ ""
  parse_sign : ∀ key c now issuer, c.Representable →
    J.parse key (J.sign key c) now issuer =
      if now.unixNanos < c.expiresAt.unix * 1000000000 ∧ c.issuer = issuer then some c.carried
      else none
  issuer_checked : ∀ key key' c now issuer, c.Representable → c.issuer ≠ issuer →
    J.parse key' (J.sign key c) now issuer = none

/-- A token library binds tokens to keys when a token signed under one key is refused under
every other. -/
def Jwt.KeyBound (J : Jwt) : Prop :=
  ∀ key key' c now issuer, key' ≠ key → J.parse key' (J.sign key c) now issuer = none

namespace Token

/-- What parsing makes of a signed token, whatever the key, the clock and the expected issuer:
the claims carried, when the key gives the signed part the signer's HMAC, the clock is before the
expiry in whole seconds and the issuer is the expected one; nothing otherwise. -/
theorem parse_sign (key key' : ByteArray) (c : TokenClaims) (now : Time) (issuer : String)
    (hc : c.Representable) :
    parse key' (sign key c) now issuer =
      if Crypto.hmac256 key' (signedPart c) = Crypto.hmac256 key (signedPart c) ∧
        now.unixNanos < c.expiresAt.unix * 1000000000 ∧ c.issuer = issuer
      then some c.carried else none := by
  obtain ⟨x, hx, hfx⟩ := nearest_int _ hc.1
  obtain ⟨y, hy, -⟩ := nearest_int _ hc.2
  have hread : Json.readPrefix (Json.render (.obj (claimFields c))).toList =
      .ok (.obj (claimsRead c x y), []) :=
    Json.readPrefix_obj (claimFields_readsBack hx hy) (by simp [claimFields])
  have hdots : ∀ s, ∀ x ∈ (segment s).toList, x ≠ '.' :=
    fun s x hx => (Crypto.encode64_symbols _ x hx).1
  rw [parse, sign_eq]
  unfold signedPart signingInput
  simp only [Text.splitOn_dots (hdots _) (hdots _) (fun x hx => (Crypto.encode64_symbols _ x hx).1),
    segmentText_segment, Option.bind_eq_bind, Option.bind_some, parse_header, Except.toOption,
    Value.asMap, alg_header, hread, readClaims_claimsRead, hmacOf?,
    Crypto.decode64_encode64 Crypto.urlAlphabet_isAlphabet, hfx, Option.bind_none,
    bne_iff_ne, ne_eq, Crypto.toList_inj, Bool.not_eq_true', decide_eq_false_iff_not]
  -- parsing checks the signature, the expiry and the issuer in turn
  simp only [ite_not, ite_and, Option.pure_def, TokenClaims.carried]

end Token

/-- The HMAC tokens of the program are a lawful token library. -/
theorem Jwt.hs256_lawful : Jwt.hs256.Lawful where
  compact key c := by
    refine ⟨Text.trimBlanks_of_forall (Token.sign_symbols key c), ?_⟩
    change Token.sign key c ≠ ""
    rw [Token.sign_eq, ne_eq, ← String.isEmpty_iff, Text.isEmpty_dot]
    decide
  parse_sign key c now issuer hc := by
    simp only [Jwt.hs256, Token.parse_sign key key c now issuer hc, true_and]
  issuer_checked key key' c now issuer hc hiss := by
    simp only [Jwt.hs256, Token.parse_sign key key' c now issuer hc, hiss, and_false, if_false]

namespace AuthService

/-! ## Tokens of a service -/

/-- The principal a token issued for `p` gives back: its id and address, with no roles and an
empty list of roles read alike. -/
def readBack (p : Principal) : Principal :=
  { id := p.id, email := p.email,
    roles := if (p.roles.getD []).isEmpty then none else some (p.roles.getD []) }

def issued (a : AuthService) (p : Principal) (now : Time) (jti : String) : String :=
  a.jwt.sign a.token.secret.toUTF8 (a.claimsFor p now jti)

theorem issue_run_issued (a : AuthService) (p : Principal) (s : Storage) :
    ((a.issue p).run s).1 = .ok (a.issued p s.host.now s.host.draw.1) := rfl

/-- The principal of parsed claims, when they name a subject. -/
def principalOf (c : Token.Claims) : Option Principal :=
  if c.subject.isEmpty then none else some { id := c.subject, email := c.email, roles := c.roles }

theorem verify_of_compact (a : AuthService) {token : String} (htrim : Text.trimBlanks token = token)
    (hne : token ≠ "") (now : Time) :
    a.verify token now =
      (a.jwt.parse a.token.secret.toUTF8 token now a.token.issuer).bind principalOf := by
  have hempty : token.isEmpty = false := by simpa [String.isEmpty_iff] using hne
  simp only [verify, htrim, hempty, Bool.false_eq_true, if_false, Option.bind_eq_bind]
  rfl

theorem carried_claimsFor (a : AuthService) {p : Principal} (hid : p.id ≠ "") (now : Time)
    (jti : String) :
    principalOf (a.claimsFor p now jti).carried = some (readBack p) := by
  simp [principalOf, TokenClaims.carried, claimsFor, readBack, String.isEmpty_iff, hid]

theorem representable_claimsFor (a : AuthService) (p : Principal) (now : Time) (jti : String)
    (hexp : (Int.fdiv (now.unixNanos + a.token.ttlNanos) 1000000000).natAbs < 2 ^ 53)
    (hiat : now.unix.natAbs < 2 ^ 53) : (a.claimsFor p now jti).Representable := by
  refine ⟨?_, hiat⟩
  rw [claimsFor, ← Token.seconds, Token.seconds_addNanos]
  exact hexp

section Lawful

variable {a a' : AuthService} (hJ : a.jwt.Lawful) (hJ' : a'.jwt = a.jwt) {p : Principal}
  {now : Time} {jti : String}
include hJ hJ'

theorem verify_issued_eq (now' : Time) :
    a'.verify (a.issued p now jti) now' =
      (a.jwt.parse a'.token.secret.toUTF8 (a.issued p now jti) now' a'.token.issuer).bind
        principalOf := by
  obtain ⟨htrim, hne⟩ : Text.trimBlanks (a.issued p now jti) = a.issued p now jti ∧
      a.issued p now jti ≠ "" := hJ.compact _ _
  rw [verify_of_compact a' htrim hne, hJ']

theorem verify_issued_of_issuer_ne (hc : (a.claimsFor p now jti).Representable)
    (hiss : a'.token.issuer ≠ a.token.issuer) (now' : Time) :
    a'.verify (a.issued p now jti) now' = none := by
  rw [verify_issued_eq hJ hJ', issued,
    hJ.issuer_checked _ _ _ _ _ hc (Ne.symm hiss), Option.bind_none]

theorem verify_issued_of_secret_ne (hK : a.jwt.KeyBound)
    (hsec : a'.token.secret ≠ a.token.secret) (now' : Time) :
    a'.verify (a.issued p now jti) now' = none := by
  have hkey : a'.token.secret.toUTF8 ≠ a.token.secret.toUTF8 :=
    fun h => hsec (String.toByteArray_inj.1 h)
  rw [verify_issued_eq hJ hJ', issued, hK _ _ _ _ _ hkey, Option.bind_none]

end Lawful

theorem verify_issued_self {a : AuthService} (hJ : a.jwt.Lawful) {p : Principal} (hid : p.id ≠ "")
    {now : Time} {jti : String} (hc : (a.claimsFor p now jti).Representable) (now' : Time) :
    a.verify (a.issued p now jti) now' =
      if now'.unixNanos < (a.claimsFor p now jti).expiresAt.unix * 1000000000 then some (readBack p)
      else none := by
  have hiss : (a.claimsFor p now jti).issuer = a.token.issuer := rfl
  rw [verify_issued_eq hJ rfl, issued, hJ.parse_sign _ _ _ _ hc]
  by_cases hlive : now'.unixNanos < (a.claimsFor p now jti).expiresAt.unix * 1000000000
  · rw [if_pos ⟨hlive, hiss⟩, if_pos hlive, Option.bind_some]
    exact carried_claimsFor a hid now jti
  · rw [if_neg (fun h => hlive h.1), if_neg hlive, Option.bind_none]

/-- A token the service issues for a principal with an id authenticates, at every clock, exactly
while the clock is before the issue instant plus the lifetime taken down to the whole second, and
gives back the principal's id, address and roles, no roles and an empty list of roles alike. This
holds of every lawful token library. A service with the same library and another issuer refuses
it at every clock; one with another secret refuses it too when the library binds tokens to keys. -/
theorem issued_token_lifetime (a a' : AuthService) (hJ : a.jwt.Lawful) (hJ' : a'.jwt = a.jwt)
    (p : Principal) (s s' : Storage) (hid : p.id ≠ "")
    (hexp : (Int.fdiv (s.host.now.unixNanos + a.token.ttlNanos) 1000000000).natAbs < 2 ^ 53)
    (hiat : s.host.now.unix.natAbs < 2 ^ 53) :
    ∃ token, ((a.issue p).run s).1 = .ok token ∧
      ((a.authenticate token).run s').1 =
        (if s'.host.now.unixNanos <
            Int.fdiv (s.host.now.unixNanos + a.token.ttlNanos) 1000000000 * 1000000000
          then .ok (readBack p) else .error Fault.unauthorized) ∧
      (a'.token.issuer ≠ a.token.issuer →
        ((a'.authenticate token).run s').1 = .error Fault.unauthorized) ∧
      (a.jwt.KeyBound → a'.token.secret ≠ a.token.secret →
        ((a'.authenticate token).run s').1 = .error Fault.unauthorized) := by
  have hc := representable_claimsFor a p s.host.now s.host.draw.1 hexp hiat
  have hexpiry : (a.claimsFor p s.host.now s.host.draw.1).expiresAt.unix =
      Int.fdiv (s.host.now.unixNanos + a.token.ttlNanos) 1000000000 :=
    Token.seconds_addNanos _ _
  refine ⟨a.issued p s.host.now s.host.draw.1, issue_run_issued a p s, ?_, ?_, ?_⟩
  · rw [authenticate_run, verify_issued_self hJ hid hc, hexpiry]
    split_ifs <;> rfl
  · intro hiss
    rw [authenticate_run, verify_issued_of_issuer_ne hJ hJ' hc hiss]
    rfl
  · intro hK hsec
    rw [authenticate_run, verify_issued_of_secret_ne hJ hJ' hK hsec]
    rfl

/-- A token issued with a lifetime of an hour authenticates at its issue instant. -/
theorem fresh_token_authenticates :
    let a : AuthService :=
      { token := { secret := "s3cret", issuer := "dynamicapi", ttlNanos := 3600000000000 },
        users := default }
    let s : Storage := { host := { now := ⟨1704067200, 0, 0⟩ }, backend := default }
    let p : Principal := { id := "u-alice", email := "alice@x.io" }
    (a.jwt.Lawful ∧ p.id ≠ "" ∧
      (Int.fdiv (s.host.now.unixNanos + a.token.ttlNanos) 1000000000).natAbs < 2 ^ 53 ∧
      s.host.now.unix.natAbs < 2 ^ 53) ∧
    ∃ token, ((a.issue p).run s).1 = .ok token ∧
      ((a.authenticate token).run s).1 = .ok (readBack p) := by
  intro a s p
  have hyps : a.jwt.Lawful ∧ p.id ≠ "" ∧
      (Int.fdiv (s.host.now.unixNanos + a.token.ttlNanos) 1000000000).natAbs < 2 ^ 53 ∧
      s.host.now.unix.natAbs < 2 ^ 53 := ⟨Jwt.hs256_lawful, by decide, by decide, by decide⟩
  obtain ⟨token, hissue, hauth, -, -⟩ :=
    issued_token_lifetime a a hyps.1 rfl p s s hyps.2.1 hyps.2.2.1 hyps.2.2.2
  refine ⟨hyps, token, hissue, ?_⟩
  rw [hauth, if_pos (by decide)]

/-- The expiry is kept in whole seconds: a token issued half a second into a second, for one
second, is refused seven tenths of a second later, before its lifetime is over. -/
theorem token_refused_within_lifetime :
    let a : AuthService :=
      { token := { secret := "s3cret", issuer := "dynamicapi", ttlNanos := 1000000000 },
        users := default }
    let s : Storage := { host := { now := ⟨1704067200, 500000000, 0⟩ }, backend := default }
    let s' : Storage := { host := { now := ⟨1704067201, 200000000, 0⟩ }, backend := default }
    let p : Principal := { id := "u-alice", email := "alice@x.io" }
    s'.host.now.unixNanos < s.host.now.unixNanos + a.token.ttlNanos ∧
    ∃ token, ((a.issue p).run s).1 = .ok token ∧
      ((a.authenticate token).run s').1 = .error Fault.unauthorized := by
  intro a s s' p
  obtain ⟨token, hissue, hauth, -, -⟩ :=
    issued_token_lifetime a a Jwt.hs256_lawful rfl p s s' (by decide) (by decide) (by decide)
  refine ⟨by decide, token, hissue, ?_⟩
  rw [hauth, if_neg (by decide)]

/-- Another secret need not refuse a token of the program's library: the secret with a NUL
character after it is another secret, and it accepts and refuses every issued token just as the
secret itself does, since HMAC pads a short key with zero bytes. -/
theorem authenticate_issued_push_nul (a : AuthService) (hJ : a.jwt = Jwt.hs256) (p : Principal)
    (s s' : Storage)
    (hexp : (Int.fdiv (s.host.now.unixNanos + a.token.ttlNanos) 1000000000).natAbs < 2 ^ 53)
    (hiat : s.host.now.unix.natAbs < 2 ^ 53) (hsecret : a.token.secret.utf8ByteSize < 64) :
    let a' : AuthService :=
      { a with token := { a.token with secret := a.token.secret.push '\x00' } }
    a'.token.secret ≠ a.token.secret ∧
      ((a'.authenticate (a.issued p s.host.now s.host.draw.1)).run s').1 =
        ((a.authenticate (a.issued p s.host.now s.host.draw.1)).run s').1 := by
  intro a'
  have hc := representable_claimsFor a p s.host.now s.host.draw.1 hexp hiat
  have hlawful : a.jwt.Lawful := hJ ▸ Jwt.hs256_lawful
  constructor
  · intro h
    have hlen := congrArg String.length h
    simp [a'] at hlen
  · rw [authenticate_run, authenticate_run,
      verify_issued_eq hlawful (show a'.jwt = a.jwt from rfl), verify_issued_eq hlawful rfl,
      issued, hJ]
    simp only [a', Jwt.hs256, Token.parse_sign _ _ _ _ _ hc, Crypto.hmac256_push_nul _ _ hsecret]

end AuthService

end CrudRoutes
