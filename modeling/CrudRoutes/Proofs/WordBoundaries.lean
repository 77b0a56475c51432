import Mathlib
import CrudRoutes.Route.Naming

/-!
Where names are cut into words.

The words of a text are its letters and digits in order, cut at every run of other characters
and, inside a run, before an upper case letter that follows a lower case letter or a digit, or
that follows an upper case letter and comes before a lower case one (`words_cut_at_boundaries`).
The proof follows the reading loop: the word being read is never cut inside
(`splitWords_eq_buffer_append`), so whether two letters are apart is settled when the second is
read, by the letter before it and the one after it.

Pascal case and kebab case are built from these words. Since `/` is no word character, the words
of parts joined by `/` are the words of the parts, so an event name is the kebab case of the
words of its kind, its sub path and its display name.
-/

namespace CrudRoutes.Naming

open Text

/-- A list of words is cut after its first `k` characters: the words before the cut hold
exactly `k` characters. -/
def Cuts (ws : List (List Char)) (k : Nat) : Prop :=
  ∃ u v, ws = u ++ v ∧ u.flatten.length = k

theorem cuts_cons_iff (w : List Char) (ws : List (List Char)) (k : Nat) :
    Cuts (w :: ws) (w.length + k) ↔ Cuts ws k := by
  constructor
  · rintro ⟨u, v, huv, hk⟩
    cases u with
    | nil =>
      -- a cut before the first word is a cut at zero
      have hk0 : k = 0 := by
        simp only [List.flatten_nil, List.length_nil] at hk
        omega
      exact ⟨[], ws, rfl, by simp [hk0]⟩
    | cons x u =>
      simp only [List.cons_append, List.cons.injEq] at huv
      obtain ⟨rfl, rfl⟩ := huv
      exact ⟨u, v, rfl, by simp_all⟩
  · rintro ⟨u, v, rfl, hk⟩
    exact ⟨w :: u, v, rfl, by simp [hk]⟩

theorem cuts_cons_length (w : List Char) (ws : List (List Char)) : Cuts (w :: ws) w.length :=
  ⟨[w], ws, rfl, by simp⟩

theorem not_cuts_inside {w v : List Char} {ws : List (List Char)} {k : Nat} (hk : 0 < k)
    (hw : k < w.length) : ¬ Cuts ((w ++ v) :: ws) k := by
  rintro ⟨u, v', huv, hlen⟩
  cases u with
  | nil => simp at hlen; omega
  | cons x u =>
    simp only [List.cons_append, List.cons.injEq] at huv
    obtain ⟨rfl, -⟩ := huv
    simp only [List.flatten_cons, List.length_append] at hlen
    omega

/-! The steps of the reading loop. -/

variable {cur rest : List Char} {c x : Char}

@[simp] theorem flush_nil (ws : List (List Char)) : flush [] ws = ws := rfl

theorem flush_of_ne_nil (h : cur ≠ []) (ws : List (List Char)) :
    flush cur ws = cur.reverse :: ws := by
  simp [flush, h]

theorem flush_append (ws ws' : List (List Char)) : flush cur (ws ++ ws') = flush cur ws ++ ws' := by
  unfold flush
  split <;> simp

theorem splitWords_nil : splitWords cur [] = flush cur [] := by
  simp [splitWords]

theorem splitWords_sep (h : isWordChar c = false) :
    splitWords cur (c :: rest) = flush cur (splitWords [] rest) := by
  simp [splitWords, h]

theorem splitWords_start (h : isWordChar c = true) : splitWords [] (c :: rest) = splitWords [c] rest := by
  simp [splitWords, h]

theorem splitWords_next (h : isWordChar c = true) :
    splitWords (x :: cur) (c :: rest) =
      if startsWord x c rest then (x :: cur).reverse :: splitWords [c] rest
      else splitWords (c :: x :: cur) rest := by
  simp [splitWords, h]

theorem startsWord_iff (a b : Char) (q : List Char) :
    startsWord a b q = true ↔
      isUpper b ∧ (isLower a ∨ isDigit a ∨ (isUpper a ∧ ∃ n q', q = n :: q' ∧ isLower n)) := by
  cases q <;> simp [startsWord, or_assoc]

/-! What the loop gives: word characters, in order, and the word being read kept whole. -/

theorem flatten_splitWords (cur s : List Char) :
    (splitWords cur s).flatten = cur.reverse ++ s.filter isWordChar := by
  induction s generalizing cur with
  | nil =>
    rw [splitWords_nil]
    unfold flush
    split <;> simp_all
  | cons c s ih =>
    cases hc : isWordChar c with
    | false =>
      rw [splitWords_sep hc]
      unfold flush
      split <;> simp_all
    | true =>
      cases cur with
      | nil => simp [splitWords_start hc, ih, hc]
      | cons x cur =>
        rw [splitWords_next hc]
        split <;> simp [ih, hc]

theorem mem_splitWords (cur s : List Char) (hcur : ∀ c ∈ cur, isWordChar c) :
    ∀ w ∈ splitWords cur s, w ≠ [] ∧ ∀ c ∈ w, isWordChar c := by
  induction s generalizing cur with
  | nil =>
    rw [splitWords_nil]
    unfold flush
    split <;> simp_all
  | cons c s ih =>
    cases hc : isWordChar c with
    | false =>
      rw [splitWords_sep hc]
      unfold flush
      split
      · exact ih [] (by simp)
      · rename_i hne
        simp only [List.mem_cons]
        rintro w (rfl | hw)
        · exact ⟨by simpa using hne, fun d hd => hcur d (List.mem_reverse.1 hd)⟩
        · exact ih [] (by simp) w hw
    | true =>
      cases cur with
      | nil =>
        rw [splitWords_start hc]
        exact ih [c] (by simp [hc])
      | cons x cur =>
        rw [splitWords_next hc]
        split
        · simp only [List.mem_cons]
          rintro w (rfl | hw)
          · exact ⟨by simp, fun d hd => hcur d (List.mem_reverse.1 hd)⟩
          · exact ih [c] (by simp [hc]) w hw
        · exact ih (c :: x :: cur) (by simp_all)

/-- The word being read is never cut: it begins the first word. -/
theorem splitWords_eq_buffer_append (s cur : List Char) (h : cur ≠ []) :
    ∃ w ws, splitWords cur s = (cur.reverse ++ w) :: ws := by
  induction s generalizing cur with
  | nil => exact ⟨[], [], by rw [splitWords_nil, flush_of_ne_nil h]; simp⟩
  | cons c s ih =>
    cases hc : isWordChar c with
    | false => exact ⟨[], splitWords [] s, by rw [splitWords_sep hc, flush_of_ne_nil h]; simp⟩
    | true =>
      obtain ⟨x, cur, rfl⟩ := List.exists_cons_of_ne_nil h
      rw [splitWords_next hc]
      split
      · exact ⟨[], splitWords [c] s, by simp⟩
      · obtain ⟨w, ws, hw⟩ := ih (c :: x :: cur) (by simp)
        exact ⟨c :: w, ws, by simp [hw]⟩

/-! Cuts between two word characters. -/

theorem cuts_after_read (a b : Char) (r g q : List Char) (hb : isWordChar b = true)
    (hg : ∀ c ∈ g, isWordChar c = false) :
    Cuts (splitWords (a :: r) (g ++ b :: q)) (r.length + 1) ↔
      g ≠ [] ∨ startsWord a b q = true := by
  cases g with
  | cons c g =>
    rw [List.cons_append, splitWords_sep (hg c (by simp)), flush_of_ne_nil (by simp)]
    simpa using cuts_cons_length (a :: r).reverse _
  | nil =>
    rw [List.nil_append, splitWords_next hb]
    split
    · rename_i hstart
      simpa [hstart] using cuts_cons_length (a :: r).reverse (splitWords [b] q)
    · rename_i hstart
      obtain ⟨w, ws, hw⟩ := splitWords_eq_buffer_append q (b :: a :: r) (by simp)
      have hnot : ¬ Cuts (((b :: a :: r).reverse ++ w) :: ws) (r.length + 1) :=
        not_cuts_inside (by omega) (by simp)
      simpa [hw, hstart] using hnot

theorem cuts_splitWords_iff (p : List Char) {a b : Char} {g q : List Char}
    (ha : isWordChar a = true) (hb : isWordChar b = true) (hg : ∀ c ∈ g, isWordChar c = false)
    (cur : List Char) :
    Cuts (splitWords cur (p ++ a :: (g ++ b :: q))) (cur.length + (p.filter isWordChar).length + 1) ↔
      g ≠ [] ∨ startsWord a b q = true := by
  induction p generalizing cur with
  | nil =>
    cases cur with
    | nil => simpa [splitWords_start ha] using cuts_after_read a b [] g q hb hg
    | cons x r =>
      rw [List.nil_append, splitWords_next ha]
      split
      · have hk : (x :: r).length + ([].filter isWordChar).length + 1 =
            (x :: r).reverse.length + 1 := by simp
        rw [hk, cuts_cons_iff]
        simpa using cuts_after_read a b [] g q hb hg
      · simpa using cuts_after_read a b (x :: r) g q hb hg
  | cons c p ih =>
    cases hc : isWordChar c with
    | false =>
      rw [List.cons_append, splitWords_sep hc, List.filter_cons_of_neg (by simp [hc])]
      cases cur with
      | nil => rw [flush_nil]; exact ih []
      | cons x r =>
        -- the word being read is closed, and the cut lies in what follows it
        have hk : (x :: r).length + (p.filter isWordChar).length + 1 =
            (x :: r).reverse.length + (([] : List Char).length + (p.filter isWordChar).length + 1) := by
          simp; omega
        rw [flush_of_ne_nil (by simp), hk, cuts_cons_iff]
        exact ih []
    | true =>
      rw [List.cons_append, List.filter_cons_of_pos hc]
      cases cur with
      | nil =>
        have hk : ([] : List Char).length + (c :: p.filter isWordChar).length + 1 =
            [c].length + (p.filter isWordChar).length + 1 := by
          simp; omega
        rw [splitWords_start hc, hk]
        exact ih [c]
      | cons x r =>
        rw [splitWords_next hc]
        split
        · have hk : (x :: r).length + (c :: p.filter isWordChar).length + 1 =
              (x :: r).reverse.length + ([c].length + (p.filter isWordChar).length + 1) := by
            simp; omega
          rw [hk, cuts_cons_iff]
          exact ih [c]
        · have hk : (x :: r).length + (c :: p.filter isWordChar).length + 1 =
              (c :: x :: r).length + (p.filter isWordChar).length + 1 := by
            simp; omega
          rw [hk]
          exact ih (c :: x :: r)

/-! Words of texts joined by a separator. -/

theorem splitWords_append_sep (hc : isWordChar c = false) (hl : isLower c = false)
    (s t : List Char) (cur : List Char) :
    splitWords cur (s ++ c :: t) = splitWords cur s ++ splitWords [] t := by
  induction s generalizing cur with
  | nil => rw [List.nil_append, splitWords_sep hc, splitWords_nil, ← flush_append, List.nil_append]
  | cons d s ih =>
    cases hd : isWordChar d with
    | false => rw [List.cons_append, splitWords_sep hd, splitWords_sep hd, ih, flush_append]
    | true =>
      cases cur with
      | nil => rw [List.cons_append, splitWords_start hd, splitWords_start hd, ih]
      | cons x cur =>
        -- the look-ahead past the end of `s` sees `c`, which is not lower case
        have hlook : startsWord x d (s ++ c :: t) = startsWord x d s := by
          cases s <;> simp [startsWord, hl]
        rw [List.cons_append, splitWords_next hd, splitWords_next hd, hlook]
        split <;> simp [ih]

/-! The words of a text. -/

theorem words_toList (s : String) : (words s).map String.toList = splitWords [] s.toList := by
  simp [words, Function.comp_def]

theorem words_empty : words "" = [] := by
  simp [words, splitWords_nil]

theorem words_append_slash (s t : String) : words (s ++ "/" ++ t) = words s ++ words t := by
  have h := splitWords_append_sep (c := '/') (by decide) (by decide) s.toList t.toList []
  simp only [words, String.toList_append]
  simp [h]

theorem words_intercalate_slash (parts : List String) :
    words ("/".intercalate parts) = parts.flatMap words := by
  induction parts with
  | nil => simp [words_empty]
  | cons s rest ih =>
    cases rest with
    | nil => simp
    | cons t rest =>
      rw [String.intercalate_cons_cons, words_append_slash, ih]
      simp

theorem eventName_eq (kind subPath display : String) :
    eventName kind subPath display =
      "-".intercalate ((words kind ++ words (trimChar '/' subPath) ++ words display).map lowerAll) := by
  simp only [eventName, kebab, words_intercalate_slash]
  by_cases h : (trimChar '/' subPath).isEmpty
  · have he : trimChar '/' subPath = "" := by simpa using h
    simp [he, words_empty]
  · simp [h]

/-- The words of a text split it exactly at its word boundaries. They are non-empty and made
of letters and digits; together they are the letters and digits of the text, in order; two
letters or digits `a` and `b` of the text, with only other characters `g` between them, are in
different words exactly when `g` is not empty, or `b` is upper case and follows a lower case
letter or a digit, or follows an upper case letter and is followed by a lower case one. Pascal
case capitalises and joins these words, kebab case lowers them and joins them with `-`, and so
the generated names and events are built from them. -/
theorem words_cut_at_boundaries (s : String) :
    (∀ w ∈ words s, w ≠ "" ∧ ∀ c ∈ w.toList, isWordChar c) ∧
    String.join (words s) = String.ofList (s.toList.filter isWordChar) ∧
    (∀ p g q a b, s.toList = p ++ a :: (g ++ b :: q) → isWordChar a → isWordChar b →
      (∀ c ∈ g, isWordChar c = false) →
      (Cuts ((words s).map String.toList) ((p.filter isWordChar).length + 1) ↔
        g ≠ [] ∨ (isUpper b ∧
          (isLower a ∨ isDigit a ∨ (isUpper a ∧ ∃ n q', q = n :: q' ∧ isLower n))))) ∧
    pascal s = String.join ((words s).map capitalize) ∧
    kebab s = "-".intercalate ((words s).map lowerAll) ∧
    (∀ kind version a, nameFor kind s version a =
      kind ++ String.join ((words s).map capitalize) ++ versionSuffix version ++ a.suffix) ∧
    (∀ kind subPath, eventName kind subPath s =
      "-".intercalate ((words kind ++ words (trimChar '/' subPath) ++ words s).map lowerAll)) := by
  have hws := words_toList s
  refine ⟨?_, ?_, ?_, rfl, rfl, fun _ _ _ => rfl, fun kind subPath => eventName_eq kind subPath s⟩
  · intro w hw
    have hmem := mem_splitWords [] s.toList (by simp) w.toList
      (by rw [← hws]; exact List.mem_map_of_mem hw)
    exact ⟨fun h => hmem.1 (by simp [h]), hmem.2⟩
  · apply String.toList_injective
    rw [String.toList_join, String.toList_ofList, List.flatMap_def, hws,
      flatten_splitWords]
    simp
  · intro p g q a b hs ha hb hg
    rw [hws, hs, ← startsWord_iff]
    simpa using cuts_splitWords_iff p ha hb hg []

example : words "GetOne/user-profiles/HTTPServer2Go" =
    ["Get", "One", "user", "profiles", "HTTP", "Server2", "Go"] := by
  decide

end CrudRoutes.Naming
