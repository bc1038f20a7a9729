/-
Packed vectors: several small digits to one word.

A vector of digits below `b` is stored `k` to a word, the first digit of a word
in its highest place; the last word is filled up with zeros.

* `word` — the word made of `k` digits, by Horner's rule;
* `pack` — the words of a list of digits;
* `pack_snoc` — appending a digit opens a new word when the last one is full, and
  adds the digit at its place otherwise;
* `digit_pack` — dividing and reducing a word gives a digit back.
-/
import Mathlib.Tactic

namespace Packed

variable {b k : ℕ} {d d' : ℕ → ℕ}

/-- The word made of the digits `d 0, …, d (k - 1)` in base `b`. -/
def word (b : ℕ) (d : ℕ → ℕ) : ℕ → ℕ
  | 0 => 0
  | k + 1 => word b d k * b + d k

theorem word_congr : ∀ {k : ℕ}, (∀ i < k, d i = d' i) → word b d k = word b d' k := by
  intro k
  induction k with
  | zero => intro _; rfl
  | succ k ih =>
    intro h
    rw [word, word, ih (fun i hi => h i (by omega)), h k (by omega)]

theorem word_zero : ∀ {k : ℕ}, (∀ i < k, d i = 0) → word b d k = 0 := by
  intro k
  induction k with
  | zero => intro _; rfl
  | succ k ih =>
    intro h
    rw [word, ih (fun i hi => h i (by omega)), h k (by omega), Nat.zero_mul, Nat.add_zero]

theorem word_lt : ∀ {k : ℕ}, (∀ i < k, d i < b) → word b d k < b ^ k := by
  intro k
  induction k with
  | zero => intro _; simp [word]
  | succ k ih =>
    intro h
    have hw : word b d k + 1 ≤ b ^ k := ih fun i hi => h i (by omega)
    have hd : d k < b := h k (by omega)
    have hmul : (word b d k + 1) * b ≤ b ^ k * b := Nat.mul_le_mul_right b hw
    rw [word, pow_succ]
    linarith

/-- Raising the digit at place `j` by `e` raises the word by `e` at that place. -/
theorem word_add {e j : ℕ} : ∀ {k : ℕ}, j < k → (∀ i < k, i ≠ j → d' i = d i) →
    d' j = d j + e → word b d' k = word b d k + e * b ^ (k - 1 - j) := by
  intro k
  induction k with
  | zero => intro hj; omega
  | succ k ih =>
    intro hj hne hje
    rw [word, word, Nat.add_sub_cancel]
    by_cases hjk : j = k
    · subst hjk
      rw [word_congr fun i hi => hne i (by omega) (by omega), hje, Nat.sub_self, pow_zero,
        Nat.mul_one, Nat.add_assoc]
    · obtain ⟨r, hr⟩ : ∃ r, k - j = r + 1 := ⟨k - j - 1, by omega⟩
      rw [ih (by omega) (fun i hi => hne i (by omega)) hje, hne k (by omega) (Ne.symm hjk), hr,
        show k - 1 - j = r by omega, pow_succ]
      ring

/-- The digit at place `i` of a word. -/
theorem digit_word (hb : 0 < b) : ∀ {k i : ℕ}, (∀ j < k, d j < b) → i < k →
    word b d k / b ^ (k - 1 - i) % b = d i := by
  intro k
  induction k with
  | zero => intro i _ hi; omega
  | succ k ih =>
    intro i h hi
    rw [word, Nat.add_sub_cancel]
    by_cases hik : i = k
    · subst hik
      rw [Nat.sub_self, pow_zero, Nat.div_one, Nat.mul_add_mod_self_right,
        Nat.mod_eq_of_lt (h i (by omega))]
    · obtain ⟨r, hr⟩ : ∃ r, k - i = r + 1 := ⟨k - i - 1, by omega⟩
      have hdiv : (word b d k * b + d k) / b = word b d k := by
        rw [Nat.add_comm, Nat.add_mul_div_right _ _ hb, Nat.div_eq_of_lt (h k (by omega)),
          Nat.zero_add]
      rw [hr, pow_succ', ← Nat.div_div_eq_div_mul, hdiv, show r = k - 1 - i by omega]
      exact ih (fun j hj => h j (by omega)) (by omega)

/-! ### Lists of digits -/

section Lists

variable {es : List ℕ} {e : ℕ}

/-- The digits that go into word `j` of a list. -/
def digits (k : ℕ) (es : List ℕ) (j i : ℕ) : ℕ := es.getD (j * k + i) 0

/-- Word `j` of a list of digits. -/
def wordAt (b k : ℕ) (es : List ℕ) (j : ℕ) : ℕ := word b (digits k es j) k

/-- The words of a list of digits, `k` digits to a word. -/
def pack (b k : ℕ) (es : List ℕ) : List ℕ :=
  (List.range ((es.length + (k - 1)) / k)).map (wordAt b k es)

theorem length_pack : (pack b k es).length = (es.length + (k - 1)) / k := by
  rw [pack, List.length_map, List.length_range]

theorem digits_lt (hb : 0 < b) (hes : ∀ e ∈ es, e < b) (j i : ℕ) : digits k es j i < b := by
  rw [digits, List.getD_eq_getElem?_getD]
  rcases h : es[j * k + i]? with _ | e
  · exact hb
  · exact hes e (List.mem_of_getElem? h)

theorem wordAt_lt (hb : 0 < b) (hes : ∀ e ∈ es, e < b) (j : ℕ) : wordAt b k es j < b ^ k :=
  word_lt fun i _ => digits_lt hb hes j i

/-- The number of words grows by one exactly when the last word is full. -/
theorem words_succ (hk : 0 < k) (n : ℕ) :
    (n + 1 + (k - 1)) / k = n / k + 1 ∧
      (n + (k - 1)) / k = if n % k = 0 then n / k else n / k + 1 := by
  have hsucc : n + 1 + (k - 1) = n + k := by omega
  have hdm := Nat.div_add_mod n k
  have hmod := Nat.mod_lt n hk
  refine ⟨by rw [hsucc, Nat.add_div_right n hk], ?_⟩
  by_cases h0 : n % k = 0
  · rw [if_pos h0]
    have hn : n + (k - 1) = (k - 1) + k * (n / k) := by omega
    rw [hn, Nat.add_mul_div_left _ _ hk, Nat.div_eq_of_lt (by omega), Nat.zero_add]
  · rw [if_neg h0]
    have hn : n + (k - 1) = (n % k - 1) + k * (n / k + 1) := by
      rw [Nat.mul_add, Nat.mul_one]
      omega
    rw [hn, Nat.add_mul_div_left _ _ hk, Nat.div_eq_of_lt (by omega), Nat.zero_add]

/-- The word that a digit of the list falls into is one of the list's words. -/
theorem index_lt_words {n i : ℕ} (hk : 0 < k) (hi : i < n) : i / k < (n + (k - 1)) / k := by
  rw [Nat.div_lt_iff_lt_mul hk]
  have hdm := Nat.div_add_mod (n + (k - 1)) k
  have hmod := Nat.mod_lt (n + (k - 1)) hk
  rw [Nat.mul_comm] at hdm
  omega

theorem getD_snoc {i : ℕ} (hi : i ≠ es.length) : (es ++ [e]).getD i 0 = es.getD i 0 := by
  rw [List.getD_eq_getElem?_getD, List.getD_eq_getElem?_getD]
  by_cases hlt : i < es.length
  · rw [List.getElem?_append_left hlt]
  · rw [List.getElem?_eq_none (by simp; omega), List.getElem?_eq_none (by omega)]

/-- Appending a digit raises the word that it falls into, at the digit's place. -/
theorem wordAt_snoc (hk : 0 < k) :
    wordAt b k (es ++ [e]) (es.length / k) =
      wordAt b k es (es.length / k) + e * b ^ (k - 1 - es.length % k) := by
  have hdm : es.length / k * k + es.length % k = es.length := by
    rw [Nat.mul_comm]
    exact Nat.div_add_mod _ _
  refine word_add (Nat.mod_lt _ hk) (fun i _ hne => ?_) ?_
  · exact getD_snoc (by omega)
  · rw [digits, digits, hdm, List.getD_eq_getElem?_getD, List.getD_eq_getElem?_getD,
      List.getElem?_concat_length, List.getElem?_eq_none (le_refl _)]
    simp

theorem wordAt_snoc_of_lt {j : ℕ} (hj : j < es.length / k) :
    wordAt b k (es ++ [e]) j = wordAt b k es j := by
  refine word_congr fun i hi => getD_snoc ?_
  have hmul : (j + 1) * k ≤ es.length / k * k := Nat.mul_le_mul_right k hj
  have hle : es.length / k * k ≤ es.length := Nat.div_mul_le_self _ _
  rw [Nat.succ_mul] at hmul
  omega

/-- Appending a digit: after a zero word has been opened where the last one is
full, the last word is raised by the digit and the words before it stay. -/
theorem pack_snoc (b : ℕ) (hk : 0 < k) (es : List ℕ) (e : ℕ) :
    ∃ init : List ℕ, ∃ last : ℕ, init.length = es.length / k ∧
      (if es.length % k = 0 then pack b k es ++ [0] else pack b k es) = init ++ [last] ∧
      pack b k (es ++ [e]) = init ++ [last + e * b ^ (k - 1 - es.length % k)] := by
  refine ⟨(List.range (es.length / k)).map (wordAt b k es), wordAt b k es (es.length / k),
    by simp, ?_, ?_⟩
  · rw [pack, (words_succ hk es.length).2]
    by_cases h0 : es.length % k = 0
    · have hdm : es.length / k * k = es.length := by
        have := Nat.div_add_mod es.length k
        rw [Nat.mul_comm]
        omega
      have hzero : wordAt b k es (es.length / k) = 0 := by
        refine word_zero fun i _ => ?_
        rw [digits, hdm, List.getD_eq_getElem?_getD, List.getElem?_eq_none (by omega)]
        rfl
      rw [if_pos h0, if_pos h0, hzero]
    · rw [if_neg h0, if_neg h0, List.range_succ, List.map_append, List.map_singleton]
  · rw [pack, List.length_append, List.length_singleton, (words_succ hk es.length).1,
      List.range_succ, List.map_append, List.map_singleton, wordAt_snoc hk]
    congr 1
    refine List.map_congr_left fun j hj => ?_
    exact wordAt_snoc_of_lt (List.mem_range.mp hj)

/-- The digit at place `i` of a packed list is found in word `i / k`. -/
theorem digit_pack (hb : 0 < b) (hk : 0 < k) (hes : ∀ e ∈ es, e < b) (i : ℕ) :
    wordAt b k es (i / k) / b ^ (k - 1 - i % k) % b = es.getD i 0 := by
  rw [wordAt, digit_word hb (fun j _ => digits_lt hb hes _ j) (Nat.mod_lt i hk), digits,
    Nat.mul_comm, Nat.div_add_mod]

theorem getElem_pack {j : ℕ} (hj : j < (pack b k es).length) :
    (pack b k es)[j] = wordAt b k es j := by
  simp [pack]

end Lists

end Packed
