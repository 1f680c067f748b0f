import Mathlib.Data.List.TakeWhile
import TrinoGateway.Lib.RegexTakes

/-!
# Replacing matches

* `Begins r s m`: `m` is the match that a leftmost-first engine prefers at the beginning of the
  text `s`, with a rule for each construction. A repeated class is greedy.
* Where no match begins, a text is left as it is (`replaceGo_eq_self`), and what is before the
  leftmost match too (`replaceGo_append`).
-/

namespace Interact.Regex

variable {r a b : Regex} {s t u : List Char} {f : Caps → List Char} {c d : Caps}

/-- The preferred match at the beginning of a text. -/
def Begins (r : Regex) (s : List Char) (m : Match) : Prop := ∃ ms, r.results s = m :: ms

theorem begins_eps : eps.Begins s (s, []) := ⟨[], rfl⟩

theorem begins_set {p : Char → Bool} {x : Char} (hx : p x = true) :
    (set p).Begins (x :: s) (s, []) := by
  refine ⟨[], ?_⟩
  rw [results, if_pos hx]

theorem Begins.seq (ha : a.Begins s (t, c)) (hb : b.Begins t (u, d)) :
    (seq a b).Begins s (u, c ++ d) := by
  obtain ⟨ms, hms⟩ := ha
  obtain ⟨ns, hns⟩ := hb
  rw [Begins, results, hms, List.flatMap_cons, hns, List.map_cons, List.cons_append]
  exact ⟨_, rfl⟩

theorem Begins.group {n : ℕ} (ha : a.Begins (u ++ t) (t, c)) :
    (group n a).Begins (u ++ t) (t, c ++ [(n, u)]) := by
  obtain ⟨ms, hms⟩ := ha
  rw [Begins, results, hms, List.map_cons, List.length_append, Nat.add_sub_cancel,
    List.take_left]
  exact ⟨_, rfl⟩

/-- A class is repeated as long as it goes. -/
theorem iterate_set {p : Char → Bool} {n : ℕ} (hn : s.length ≤ n) :
    ∃ ms, iterate (set p).results n s = (s.dropWhile p, []) :: ms := by
  induction n generalizing s with
  | zero =>
    obtain rfl := List.length_eq_zero_iff.mp (Nat.le_zero.mp hn)
    exact ⟨[], rfl⟩
  | succ n ih =>
    cases s with
    | nil => exact ⟨[], rfl⟩
    | cons x s =>
      rw [iterate, results]
      by_cases hx : p x = true
      · obtain ⟨ms, hms⟩ := ih (s := s) (by simpa using hn)
        rw [if_pos hx, List.dropWhile_cons_of_pos hx, List.filter_cons_of_pos (by simp)]
        rw [List.flatMap_cons, hms]
        exact ⟨_, rfl⟩
      · rw [if_neg hx, List.dropWhile_cons_of_neg hx]
        exact ⟨[], rfl⟩

theorem begins_star_set {p : Char → Bool} : (star (set p)).Begins s (s.dropWhile p, []) :=
  iterate_set le_rfl

theorem begins_lit {x : String} : (lit x).Begins (x.toList ++ s) (s, []) := by
  rw [lit]
  induction x.toList with
  | nil => exact begins_eps
  | cons y ys ih =>
    have hy : (chr y).Begins (y :: (ys ++ s)) (ys ++ s, []) := begins_set (by simp)
    exact hy.seq ih

theorem results_ne_nil : r.results s ≠ [] ↔ r.Matches s := by
  rw [← not_iff_not, not_not, ← results_eq_nil, results, List.map_eq_nil_iff]

/-- A text has a leftmost match, or none. -/
theorem exists_leftmost {P : List Char → Prop} (s : List Char) :
    (∀ t, t <:+ s → ¬ P t) ∨ ∃ t, Leftmost P s t := by
  induction s with
  | nil =>
    by_cases hP : P []
    · exact Or.inr ⟨[], Leftmost.self hP⟩
    · exact Or.inl fun t ht => List.suffix_nil.mp ht ▸ hP
  | cons x s ih =>
    by_cases hP : P (x :: s)
    · exact Or.inr ⟨x :: s, Leftmost.self hP⟩
    · rcases ih with hnone | ⟨t, ht⟩
      · refine Or.inl fun t ht => ?_
        rcases List.suffix_cons_iff.mp ht with rfl | ht
        · exact hP
        · exact hnone t ht
      · exact Or.inr ⟨t, ht.cons hP⟩

theorem replaceGo_cons {x : Char} {n : ℕ} (h : ¬ r.Matches (x :: s)) :
    replaceGo r f (n + 1) (x :: s) = x :: replaceGo r f n s := by
  have hnil : r.results (x :: s) = [] := not_not.mp (mt results_ne_nil.mp h)
  rw [replaceGo, hnil]
  rfl

/-- Without a match nothing is replaced. -/
theorem replaceGo_eq_self {n : ℕ} (h : ∀ t, t <:+ s → ¬ r.Matches t) : replaceGo r f n s = s := by
  induction n generalizing s with
  | zero => rfl
  | succ n ih =>
    cases s with
    | nil => rfl
    | cons x s =>
      rw [replaceGo_cons (h _ List.suffix_rfl),
        ih fun t ht => h t (ht.trans (List.suffix_cons x s))]

/-- What is before the leftmost match stays. -/
theorem replaceGo_append {x : List Char} {n : ℕ}
    (h : ∀ t', t' <:+ x ++ t → r.Matches t' → t'.length ≤ t.length) :
    replaceGo r f (x.length + n) (x ++ t) = x ++ replaceGo r f n t := by
  induction x with
  | nil => rw [List.length_nil, Nat.zero_add, List.nil_append, List.nil_append]
  | cons y x ih =>
    have hy : ¬ r.Matches (y :: (x ++ t)) := by
      intro hm
      have hlen := h _ List.suffix_rfl hm
      simp only [List.cons_append, List.length_cons, List.length_append] at hlen
      omega
    have hlen : (y :: x).length + n = x.length + n + 1 := by
      rw [List.length_cons]
      omega
    rw [hlen, List.cons_append, replaceGo_cons hy, List.cons_append,
      ih fun t' ht' => h t' (ht'.trans (List.suffix_cons y _))]

/-- A match that takes the rest of the text. -/
theorem replaceGo_all {x : Char} {n : ℕ} (h : r.Begins (x :: s) ([], c)) :
    replaceGo r f (n + 1) (x :: s) = f c := by
  obtain ⟨ms, hms⟩ := h
  rw [replaceGo, hms, List.find?_cons_of_pos (by simp)]
  have hnil : replaceGo r f n [] = [] := by
    cases n <;> rfl
  simp only [hnil, List.append_nil]

end Interact.Regex
