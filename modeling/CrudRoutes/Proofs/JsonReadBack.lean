import Mathlib
import CrudRoutes.Json.Read
import CrudRoutes.Json.Write

/-!
Reading back what is written. The text written for a string reads back as the string, every
escape included (`readValue_quote`); the text of an integer reads back as the double nearest to
it (`readValue_int`); and an object of strings, integers and lists of strings reads back member
by member, names and order kept (`readPrefix_obj`, `parseWritten_obj`). Each reading is stated
with what follows the value (`Closes`) and with the fuel that the reader needs, which the text's
own length bounds.
-/

namespace CrudRoutes.Json

theorem hexValue_hexChar (d : Nat) (hd : d < 16) : hexValue? (hexChar d) = some d := by
  have h : ∀ i : Fin 16, hexValue? (hexChar i) = some i := by decide
  exact h ⟨d, hd⟩

theorem readHex4_hexChars (n : Nat) (hn : n < 65536) (rest : List Char) :
    readHex4 ([hexChar (n / 4096 % 16), hexChar (n / 256 % 16), hexChar (n / 16 % 16),
      hexChar (n % 16)] ++ rest) = pure (n, rest) := by
  simp only [readHex4, readHex4.go, List.cons_append, List.nil_append,
    hexValue_hexChar _ (Nat.mod_lt _ (by decide : 16 > 0))]
  congr 2
  omega

theorem readUnicodeEscape_hexChars (n : Nat) (hn : n < 0xD800) (rest : List Char) :
    readUnicodeEscape ([hexChar (n / 4096 % 16), hexChar (n / 256 % 16), hexChar (n / 16 % 16),
      hexChar (n % 16)] ++ rest) = pure (Char.ofNat n, rest) := by
  rw [readUnicodeEscape, readHex4_hexChars n (by omega), pure_bind]
  simp only [show ¬ (0xD800 ≤ n ∧ n < 0xDC00) by omega, show ¬ (0xDC00 ≤ n ∧ n < 0xE000) by omega,
    if_false]

theorem readString_escapeChar (c : Char) (fuel : Nat) (acc rest : List Char) :
    readString (fuel + 1) acc ((escapeChar c).toList ++ rest) = readString fuel (c :: acc) rest := by
  unfold escapeChar
  split_ifs with hq hb hn hr ht hu
  · rw [beq_iff_eq] at hq; subst hq; simp [readString, escaped?]
  · rw [beq_iff_eq] at hb; subst hb; simp [readString, escaped?]
  · rw [beq_iff_eq] at hn; subst hn; simp [readString, escaped?]
  · rw [beq_iff_eq] at hr; subst hr; simp [readString, escaped?]
  · rw [beq_iff_eq] at ht; subst ht; simp [readString, escaped?]
  · -- control characters and the characters unsafe in HTML: `\u` and four hex digits
    have hlt : c.toNat < 0xD800 := by
      simp only [Bool.or_eq_true, decide_eq_true_eq, beq_iff_eq] at hu
      rcases hu with ((((h | h) | h) | h) | h) | h <;> first | omega | (subst h; decide)
    have hesc := readUnicodeEscape_hexChars c.toNat hlt rest
    rw [Char.ofNat_toNat, List.cons_append, List.cons_append, List.cons_append, List.cons_append,
      List.nil_append] at hesc
    simp [unicodeEscape, readString, hesc]
  · -- any other character stands for itself
    simp only [beq_iff_eq] at hq hb
    have hctl : ¬ c.toNat < 0x20 := by
      simp only [Bool.or_eq_true, decide_eq_true_eq, beq_iff_eq, not_or] at hu
      exact hu.1.1.1.1.1
    simp [readString, hq, hb, hctl]

theorem readString_escaped (cs : List Char) (fuel : Nat) (acc rest : List Char)
    (h : cs.length < fuel) :
    readString fuel acc ((String.join (cs.map escapeChar)).toList ++ '"' :: rest) =
      pure (String.ofList (acc.reverse ++ cs), rest) := by
  obtain ⟨f, rfl⟩ : ∃ f, fuel = f + 1 := ⟨fuel - 1, by omega⟩
  induction cs generalizing f acc with
  | nil => simp [readString]
  | cons c cs ih =>
    rw [List.map_cons, String.join_cons, String.toList_append, List.append_assoc,
      readString_escapeChar]
    obtain ⟨g, rfl⟩ : ∃ g, f = g + 1 := ⟨f - 1, by simp at h; omega⟩
    rw [ih _ _ (by simp at h ⊢; omega)]
    simp

theorem toList_quote_append (s : String) (rest : List Char) :
    (quote s).toList ++ rest =
      '"' :: ((String.join (s.toList.map escapeChar)).toList ++ '"' :: rest) := by
  simp [quote]

/-- A string literal, whatever follows it, reads back as the string. -/
theorem readValue_quote (s : String) (fuel : Nat) (h : s.length + 2 ≤ fuel) (rest : List Char) :
    readValue fuel ((quote s).toList ++ rest) = pure (.str s, rest) := by
  obtain ⟨f, rfl⟩ : ∃ f, fuel = f + 1 := ⟨fuel - 1, by omega⟩
  have hs : s.toList.length < f := by rw [String.length_toList]; omega
  rw [toList_quote_append]
  simp only [readValue, List.dropWhile_cons, show isSpace '"' = false from rfl, Bool.false_eq_true,
    if_false]
  rw [readString_escaped _ _ _ _ hs]
  simp

/-- Text that may follow a value inside an array or an object: nothing, a comma, or a closing
bracket or brace. -/
def Closes (rest : List Char) : Prop :=
  ∀ d ∈ rest.head?, d = ',' ∨ d = '\x7d' ∨ d = ']'

theorem closes_brace (rest : List Char) : Closes ('\x7d' :: rest) :=
  fun _ hd => Or.inr (Or.inl (Option.some_inj.1 hd).symm)

theorem closes_comma (rest : List Char) : Closes (',' :: rest) :=
  fun _ hd => Or.inl (Option.some_inj.1 hd).symm

theorem Closes.not_digit {rest : List Char} (h : Closes rest) :
    ∀ d ∈ rest.head?, d.isDigit = false ∧ d ≠ '.' ∧ d ≠ 'e' ∧ d ≠ 'E' := by
  intro d hd
  rcases h d hd with rfl | rfl | rfl <;> decide

theorem takeWhile_isDigit_of_closes {rest : List Char} (h : Closes rest) :
    rest.takeWhile Char.isDigit = [] ∧ rest.dropWhile Char.isDigit = rest := by
  cases rest with
  | nil => simp
  | cons d rest =>
    have hd := (h.not_digit d rfl).1
    simp [List.takeWhile_cons_of_neg, List.dropWhile_cons_of_neg, hd]

theorem toList_toString_int (n : Int) :
    (toString n).toList = (if n < 0 then ['-'] else []) ++ Nat.toDigits 10 n.natAbs := by
  cases n with
  | ofNat m => simp [toString, Int.repr]
  | negSucc m => simp [toString, Int.repr, Int.natAbs]

theorem toDigits_head_ne_zero (m : Nat) (hm : 0 < m) :
    ∃ c cs, Nat.toDigits 10 m = c :: cs ∧ c ≠ '0' := by
  induction m using Nat.strong_induction_on with
  | _ m ih =>
    rw [Nat.toDigits_eq_if (by decide)]
    split
    · refine ⟨_, [], rfl, ?_⟩
      have h : ∀ i : Fin 10, 0 < i.val → Nat.digitChar i ≠ '0' := by decide
      exact h ⟨m, by omega⟩ hm
    · obtain ⟨c, cs, hds, hc⟩ := ih (m / 10) (by omega) (by omega)
      exact ⟨c, cs ++ _, by rw [hds, List.cons_append], hc⟩

theorem readSign_digits (m : Nat) (rest : List Char) :
    readSign (Nat.toDigits 10 m ++ rest) = (false, Nat.toDigits 10 m ++ rest) := by
  obtain ⟨c, cs, hds⟩ := List.exists_cons_of_ne_nil (Nat.toDigits_ne_nil (n := m) (b := 10))
  have hc : c.isDigit = true :=
    Nat.isDigit_of_mem_toDigits (b := 10) (by decide) (by decide)
      (by rw [hds]; exact List.mem_cons_self)
  rw [hds, List.cons_append]
  unfold readSign
  split
  · rename_i heq
    obtain ⟨rfl, -⟩ := List.cons.inj heq
    exact absurd hc (by decide)
  · rfl

theorem readIntDigits_cons {c : Char} (xs : List Char) (hc : c.isDigit = true) (hc0 : c ≠ '0') :
    readIntDigits (c :: xs) =
      pure ((c :: xs).takeWhile Char.isDigit, (c :: xs).dropWhile Char.isDigit) := by
  unfold readIntDigits
  split
  · rename_i heq
    exact absurd (List.cons.inj heq).1 hc0
  · rename_i heq
    obtain ⟨rfl, rfl⟩ := List.cons.inj heq
    simp only [hc, if_true]
  · rename_i heq
    exact absurd heq (List.cons_ne_nil _ _)

theorem readIntDigits_digits (m : Nat) {rest : List Char} (hrest : Closes rest) :
    readIntDigits (Nat.toDigits 10 m ++ rest) = pure (Nat.toDigits 10 m, rest) := by
  rcases Nat.eq_zero_or_pos m with rfl | hm
  · simp [Nat.toDigits_zero, readIntDigits]
  · obtain ⟨c, cs, hds, hc0⟩ := toDigits_head_ne_zero m hm
    have hall : ∀ d ∈ Nat.toDigits 10 m, d.isDigit = true := fun d hd =>
      Nat.isDigit_of_mem_toDigits (b := 10) (by decide) (by decide) hd
    have hc : c.isDigit = true := hall c (by rw [hds]; exact List.mem_cons_self)
    have htake := takeWhile_isDigit_of_closes hrest
    have hkeep : (Nat.toDigits 10 m ++ rest).takeWhile Char.isDigit = Nat.toDigits 10 m := by
      rw [List.takeWhile_append_of_pos hall, htake.1, List.append_nil]
    have hdrop : (Nat.toDigits 10 m ++ rest).dropWhile Char.isDigit = rest := by
      rw [List.dropWhile_append_of_pos hall, htake.2]
    rw [hds, List.cons_append, readIntDigits_cons _ hc hc0, ← List.cons_append, ← hds, hkeep, hdrop]

theorem readFraction_of_closes {rest : List Char} (hrest : Closes rest) :
    readFraction rest = pure ([], rest) := by
  cases rest with
  | nil => rfl
  | cons d more =>
    have hd := hrest.not_digit d rfl
    unfold readFraction
    split
    · rename_i heq
      exact absurd (List.cons.inj heq).1 hd.2.1
    · rfl

theorem readExponent_of_closes {rest : List Char} (hrest : Closes rest) :
    readExponent rest = pure (false, [], rest) := by
  cases rest with
  | nil => rfl
  | cons d more =>
    have hd := hrest.not_digit d rfl
    simp [readExponent, hd.2.2.1, hd.2.2.2]

theorem digitsValue_toDigits (m : Nat) : digitsValue (Nat.toDigits 10 m) = m := by
  have h : digitsValue (Nat.toDigits 10 m) = Nat.ofDigitChars 10 (Nat.toDigits 10 m) 0 := by
    simp only [digitsValue, Nat.ofDigitChars, Nat.mul_comm]
  rw [h, Nat.ofDigitChars_ten_toDigits]

theorem readNumber_int (n : Int) {x : Float}
    (hx : Decimal.nearest (decide (n < 0)) n.natAbs 0 = some x) {rest : List Char}
    (hrest : Closes rest) : readNumber ((toString n).toList ++ rest) = pure (.num x, rest) := by
  have hsign : readSign ((toString n).toList ++ rest) =
      (decide (n < 0), Nat.toDigits 10 n.natAbs ++ rest) := by
    rw [toList_toString_int]
    by_cases hn : n < 0
    · simp only [hn, if_true, decide_true, List.cons_append]
      rfl
    · simp only [hn, if_false, decide_false, List.nil_append, readSign_digits]
  simp only [readNumber, hsign, readIntDigits_digits _ hrest, readFraction_of_closes hrest,
    readExponent_of_closes hrest, pure_bind, List.append_nil, digitsValue_toDigits]
  simp [digitsValue, hx]

theorem readValue_of_digit (fuel : Nat) {c : Char} (cs : List Char) (hc : c = '-' ∨ c.isDigit) :
    readValue (fuel + 1) (c :: cs) = readNumber (c :: cs) := by
  rcases hc with rfl | hc
  · simp [readValue, isSpace]
  · have hn : 48 ≤ c.toNat ∧ c.toNat ≤ 57 := by
      simp [Char.isDigit, UInt32.le_iff_toNat_le] at hc
      exact hc
    have hne : ∀ d : Char, d.toNat < 48 ∨ 57 < d.toNat → (c == d) = false := by
      intro d hd
      rw [beq_eq_false_iff_ne]
      rintro rfl
      omega
    simp [readValue, isSpace, hne ' ' (by decide), hne '\t' (by decide), hne '\n' (by decide),
      hne '\r' (by decide), hne '\x7b' (by decide), hne '[' (by decide), hne '"' (by decide),
      hne 't' (by decide), hne 'f' (by decide), hne 'n' (by decide), hc]

theorem toList_toString_int_cons (n : Int) :
    ∃ c cs, (toString n).toList = c :: cs ∧ (c = '-' ∨ c.isDigit) := by
  rw [toList_toString_int]
  by_cases hn : n < 0
  · exact ⟨'-', Nat.toDigits 10 n.natAbs, by simp [hn], Or.inl rfl⟩
  · obtain ⟨c, cs, hds⟩ := List.exists_cons_of_ne_nil (Nat.toDigits_ne_nil (n := n.natAbs) (b := 10))
    refine ⟨c, cs, by simp [hn, hds], Or.inr ?_⟩
    exact Nat.isDigit_of_mem_toDigits (b := 10) (by decide) (by decide)
      (by rw [hds]; exact List.mem_cons_self)

/-- An integer's text reads back as the double nearest to it. -/
theorem readValue_int (n : Int) {x : Float}
    (hx : Decimal.nearest (decide (n < 0)) n.natAbs 0 = some x) (fuel : Nat) {rest : List Char}
    (hrest : Closes rest) :
    readValue (fuel + 1) ((toString n).toList ++ rest) = pure (.num x, rest) := by
  obtain ⟨c, cs, hcs, hc⟩ := toList_toString_int_cons n
  rw [hcs, List.cons_append, readValue_of_digit fuel _ hc, ← List.cons_append, ← hcs,
    readNumber_int n hx hrest]

theorem one_le_length_escapeChar (c : Char) : 1 ≤ (escapeChar c).length := by
  unfold escapeChar
  split_ifs
  · decide
  · decide
  · decide
  · decide
  · decide
  · simp [unicodeEscape]
  · simp

theorem length_le_quote (s : String) : s.length + 2 ≤ (quote s).length := by
  have hjoin : ∀ cs : List Char, cs.length ≤ (String.join (cs.map escapeChar)).length := by
    intro cs
    induction cs with
    | nil => simp
    | cons c cs ih =>
      rw [List.map_cons, String.join_cons, String.length_append, List.length_cons]
      have := one_le_length_escapeChar c
      omega
  have h := congrArg List.length (toList_quote_append s [])
  simp only [List.append_nil, String.length_toList, List.length_cons, List.length_append,
    List.length_nil] at h
  have := hjoin s.toList
  rw [String.length_toList] at this
  omega

theorem readElements_strs (xs : List String) (hxs : xs ≠ []) (fuel : Nat) (acc : List Value)
    (hfuel : (renderItems (xs.map .str)).length + 2 ≤ fuel) (rest : List Char) :
    readElements fuel acc ((renderItems (xs.map .str)).toList ++ ']' :: rest) =
      pure (.arr (acc.reverse ++ xs.map .str), rest) := by
  induction xs generalizing fuel acc with
  | nil => exact absurd rfl hxs
  | cons x xs ih =>
    obtain ⟨f, rfl⟩ : ∃ f, fuel = f + 1 := ⟨fuel - 1, by omega⟩
    have hq := length_le_quote x
    cases xs with
    | nil =>
      have hitems : renderItems [Value.str x] = quote x := by simp [renderItems, render]
      rw [List.map_cons, List.map_nil, hitems] at hfuel ⊢
      simp [readElements, readValue_quote x f (by omega), isSpace]
    | cons y ys =>
      have hitems : renderItems (.str x :: (y :: ys).map .str) =
          quote x ++ "," ++ renderItems ((y :: ys).map .str) := by
        simp [renderItems, render]
      rw [List.map_cons, hitems] at hfuel ⊢
      simp only [String.length_append, show ",".length = 1 from rfl] at hfuel
      have hstep : (quote x ++ "," ++ renderItems ((y :: ys).map .str)).toList ++ ']' :: rest =
          (quote x).toList ++ ',' :: ((renderItems ((y :: ys).map .str)).toList ++ ']' :: rest) := by
        simp
      rw [hstep]
      simp only [readElements, readValue_quote x f (by omega), pure_bind, List.dropWhile_cons,
        show isSpace ',' = false from rfl, Bool.false_eq_true, if_false]
      rw [ih (List.cons_ne_nil _ _) f (.str x :: acc) (by omega)]
      simp

theorem readArrayStart_of_ne (fuel : Nat) {c : Char} (cs : List Char) (hc : c ≠ ']') :
    readArrayStart (fuel + 1) (c :: cs) = readElements fuel [] (c :: cs) := by
  unfold readArrayStart
  split
  · rename_i heq
    exact absurd (List.cons.inj heq).1 hc
  · rfl

/-- A value of the kinds a flat record holds and the value its JSON text reads back as: a string
as itself, an integer as the double nearest to it, and a list of strings as itself. -/
inductive ReadsBack : Value → Value → Prop
  | str (s : String) : ReadsBack (.str s) (.str s)
  | int (n : Int) (x : Float) (hx : Decimal.nearest (decide (n < 0)) n.natAbs 0 = some x) :
      ReadsBack (.int n) (.num x)
  | strs (xs : List String) : ReadsBack (Value.strs xs) (Value.strs xs)

theorem readValue_readsBack {v w : Value} (h : ReadsBack v w) (fuel : Nat)
    (hfuel : (render v).length + 2 ≤ fuel) {rest : List Char} (hrest : Closes rest) :
    readValue fuel ((render v).toList ++ rest) = pure (w, rest) := by
  obtain ⟨f, rfl⟩ : ∃ f, fuel = f + 1 := ⟨fuel - 1, by omega⟩
  cases h with
  | str s =>
    have hq := length_le_quote s
    simp only [render] at hfuel ⊢
    exact readValue_quote s (f + 1) (by omega) rest
  | int n x hx =>
    simp only [render]
    exact readValue_int n hx f hrest
  | strs xs =>
    obtain ⟨g, rfl⟩ : ∃ g, f = g + 1 := ⟨f - 1, by simp [Value.strs, render] at hfuel; omega⟩
    cases xs with
    | nil => simp [Value.strs, render, renderItems, readValue, readArrayStart, isSpace]
    | cons x xs =>
      obtain ⟨t, ht⟩ : ∃ t, (renderItems ((x :: xs).map .str)).toList = '"' :: t := by
        obtain ⟨q, hq⟩ : ∃ q, (quote x).toList = '"' :: q :=
          ⟨_, by simpa using toList_quote_append x []⟩
        cases xs with
        | nil => exact ⟨q, by simpa [renderItems, render] using hq⟩
        | cons y ys =>
          exact ⟨q ++ ',' :: (renderItems (.str y :: ys.map .str)).toList,
            by simp [renderItems, render, hq]⟩
      have htext : (render (Value.strs (x :: xs))).toList ++ rest =
          '[' :: ((renderItems ((x :: xs).map .str)).toList ++ ']' :: rest) := by
        simp [Value.strs, render]
      simp only [Value.strs, render, String.length_append, show "[".length = 1 from rfl,
        show "]".length = 1 from rfl] at hfuel
      rw [htext]
      simp only [readValue, List.dropWhile_cons, show isSpace '[' = false from rfl,
        Bool.false_eq_true, if_false, if_true, beq_self_eq_true, show ('[' == '\x7b') = false from rfl]
      rw [ht, List.cons_append]
      simp only [List.dropWhile_cons, show isSpace '"' = false from rfl, Bool.false_eq_true,
        if_false, readArrayStart_of_ne _ _ (show '"' ≠ ']' by decide)]
      rw [← List.cons_append, ← ht, readElements_strs _ (List.cons_ne_nil _ _) g [] (by omega)]
      simp [Value.strs]

def escapedChars (s : String) : List Char :=
  (String.join (s.toList.map escapeChar)).toList

theorem toList_renderFields_cons (k : String) (v : Value) (fs : Fields) (rest : List Char) :
    (renderFields ((k, v) :: fs)).toList ++ rest =
      '"' :: (escapedChars k ++ '"' :: ':' :: ((render v).toList ++
        (if fs.isEmpty then rest else ',' :: ((renderFields fs).toList ++ rest)))) := by
  cases fs with
  | nil => simp [renderFields, escapedChars, quote]
  | cons p fs => simp [renderFields, escapedChars, quote]

theorem length_renderFields_cons (k : String) (v : Value) (fs : Fields) :
    (renderFields ((k, v) :: fs)).length =
      (quote k).length + 1 + (render v).length +
        (if fs.isEmpty then 0 else 1 + (renderFields fs).length) := by
  cases fs with
  | nil => simp [renderFields, show ":".length = 1 from rfl]
  | cons p fs => simp [renderFields, show ":".length = 1 from rfl, show ",".length = 1 from rfl]; omega

theorem readMembers_readsBack {fs gs : Fields}
    (h : List.Forall₂ (fun a b => a.1 = b.1 ∧ ReadsBack a.2 b.2) fs gs) (hne : fs ≠ [])
    (fuel : Nat) (acc : Fields) (hfuel : (renderFields fs).length + 2 ≤ fuel) (rest : List Char) :
    readMembers fuel acc ((renderFields fs).toList ++ '\x7d' :: rest) =
      pure (.obj (acc.reverse ++ gs), rest) := by
  induction h generalizing fuel acc with
  | nil => exact absurd rfl hne
  | @cons a b fs gs hab hfs ih =>
    obtain ⟨k, v⟩ := a
    obtain ⟨k', w⟩ := b
    obtain ⟨rfl, hvw⟩ := hab
    obtain ⟨f, rfl⟩ : ∃ f, fuel = f + 1 := ⟨fuel - 1, by omega⟩
    have hq := length_le_quote k
    have hlen := length_renderFields_cons k v fs
    have hk : k.toList.length < f := by rw [String.length_toList]; split at hlen <;> omega
    have hv : (render v).length + 2 ≤ f := by split at hlen <;> omega
    rw [toList_renderFields_cons]
    simp only [readMembers]
    rw [escapedChars, readString_escaped _ _ _ _ hk]
    cases fs with
    | nil =>
      cases hfs
      have hread := readValue_readsBack hvw f hv (closes_brace rest)
      simp [isSpace, hread]
    | cons p fs =>
      have hread := readValue_readsBack hvw f hv (closes_comma
        ((renderFields (p :: fs)).toList ++ '\x7d' :: rest))
      obtain ⟨k2, v2⟩ := p
      have hnext := toList_renderFields_cons k2 v2 fs ('\x7d' :: rest)
      simp only [List.isEmpty_cons, Bool.false_eq_true, if_false, pure_bind, List.dropWhile_cons,
        show isSpace ':' = false from rfl]
      rw [hread]
      simp only [pure_bind, List.dropWhile_cons, show isSpace ',' = false from rfl,
        Bool.false_eq_true, if_false]
      rw [hnext]
      simp only [List.dropWhile_cons, show isSpace '"' = false from rfl, Bool.false_eq_true,
        if_false]
      rw [← hnext, List.reverse_nil, List.nil_append, String.ofList_toList,
        ih (List.cons_ne_nil _ _) f ((k, w) :: acc) (by simp at hlen; omega)]
      simp

theorem readValue_obj {fs gs : Fields}
    (h : List.Forall₂ (fun a b => a.1 = b.1 ∧ ReadsBack a.2 b.2) fs gs) (hne : fs ≠ [])
    (fuel : Nat) (hfuel : (render (.obj fs)).length + 2 ≤ fuel) (rest : List Char) :
    readValue fuel ((render (.obj fs)).toList ++ rest) = pure (.obj gs, rest) := by
  obtain ⟨⟨k, v⟩, fs', rfl⟩ := List.exists_cons_of_ne_nil hne
  have hlen : (render (.obj ((k, v) :: fs'))).length = (renderFields ((k, v) :: fs')).length + 2 := by
    simp [render, lbrace, rbrace, show "\x7b".length = 1 from rfl, show "\x7d".length = 1 from rfl]
    omega
  obtain ⟨f, rfl⟩ : ∃ f, fuel = f + 2 := ⟨fuel - 2, by omega⟩
  have htext : (render (.obj ((k, v) :: fs'))).toList ++ rest =
      '\x7b' :: ((renderFields ((k, v) :: fs')).toList ++ '\x7d' :: rest) := by
    simp [render, lbrace, rbrace]
  rw [htext, toList_renderFields_cons]
  simp only [readValue, readObjectStart, List.dropWhile_cons, show isSpace '\x7b' = false from rfl,
    show isSpace '"' = false from rfl, Bool.false_eq_true, if_false, beq_self_eq_true, if_true,
    show ('"' == '\x7d') = false from rfl]
  rw [← toList_renderFields_cons, readMembers_readsBack h hne f [] (by omega)]
  simp

theorem readValue_render_obj {fs gs : Fields}
    (h : List.Forall₂ (fun a b => a.1 = b.1 ∧ ReadsBack a.2 b.2) fs gs) (hne : fs ≠ []) :
    readValue (2 * (render (.obj fs)).toList.length + 2) (render (.obj fs)).toList =
      pure (.obj gs, []) := by
  have hread := readValue_obj h hne (2 * (render (.obj fs)).toList.length + 2)
    (by rw [String.length_toList]; omega) []
  rwa [List.append_nil] at hread

/-- Reading a prefix of the text of such an object gives it back, with nothing left over. -/
theorem readPrefix_obj {fs gs : Fields}
    (h : List.Forall₂ (fun a b => a.1 = b.1 ∧ ReadsBack a.2 b.2) fs gs) (hne : fs ≠ []) :
    readPrefix (render (.obj fs)).toList = .ok (.obj gs, []) := by
  simp [readPrefix, readValue_render_obj h hne, StateT.run]
  rfl

/-- The text of such an object, as a whole, reads back as it. -/
theorem parseWritten_obj {fs gs : Fields}
    (h : List.Forall₂ (fun a b => a.1 = b.1 ∧ ReadsBack a.2 b.2) fs gs) (hne : fs ≠ []) :
    parseWritten (render (.obj fs)) = .ok (.obj gs) := by
  simp [parseWritten, readValue_render_obj h hne, StateT.run]
  rfl

end CrudRoutes.Json
