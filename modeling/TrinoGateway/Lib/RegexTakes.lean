import Mathlib.Data.List.Infix
import TrinoGateway.Lib.Regex

/-!
# What a regular expression takes

`Takes r w caps` says which words `r` describes, and with which groups, without a word about the
order of the search. The matcher lists exactly these at the beginning of a text
(`mem_results_iff`), and `find` goes to the leftmost place that has one (`find_eq_some`,
`find_eq_none`).
-/

namespace Interact.Regex

variable {r : Regex} {s t w : List Char} {caps : Caps}

/-- Words in a row, none of them empty, that each satisfy `P`. -/
inductive Rounds (P : List Char → Caps → Prop) : List Char → Caps → Prop
  | nil : Rounds P [] []
  | cons {u v : List Char} {c d : Caps} (hne : u ≠ []) (hu : P u c) (hv : Rounds P v d) :
      Rounds P (u ++ v) (c ++ d)

/-- `r` describes the word `w`, with the groups `caps`. -/
def Takes : Regex → List Char → Caps → Prop
  | eps, w, caps => w = [] ∧ caps = []
  | set p, w, caps => ∃ c, p c = true ∧ w = [c] ∧ caps = []
  | seq a b, w, caps =>
    ∃ u v c d, a.Takes u c ∧ b.Takes v d ∧ w = u ++ v ∧ caps = c ++ d
  | alt a b, w, caps => a.Takes w caps ∨ b.Takes w caps
  | star a, w, caps => Rounds a.Takes w caps
  | group n a, w, caps => ∃ c, a.Takes w c ∧ caps = c ++ [(n, w)]

theorem Rounds.caps_of_nil {P : List Char → Caps → Prop} (h : Rounds P w caps) (hw : w = []) :
    caps = [] := by
  cases h with
  | nil => rfl
  | cons hne _ _ => exact absurd (List.append_eq_nil_iff.mp hw).1 hne

/-- **Greedy rounds**, where one round is known to list the words that satisfy `P`. -/
theorem mem_iterate {f : List Char → List Match} {P : List Char → Caps → Prop}
    (hf : ∀ s m, m ∈ f s ↔ ∃ w, s = w ++ m.1 ∧ P w m.2) {n : ℕ} (hn : s.length ≤ n) {m : Match} :
    m ∈ iterate f n s ↔ ∃ w, s = w ++ m.1 ∧ Rounds P w m.2 := by
  induction n generalizing s m with
  | zero =>
    obtain rfl := List.length_eq_zero_iff.mp (Nat.le_zero.mp hn)
    rw [iterate, List.mem_singleton]
    constructor
    · rintro rfl
      exact ⟨[], rfl, Rounds.nil⟩
    · rintro ⟨w, hw, hrounds⟩
      obtain ⟨hnil, hrest⟩ := List.append_eq_nil_iff.mp hw.symm
      exact Prod.ext hrest (hrounds.caps_of_nil hnil)
  | succ n ih =>
    rw [iterate, List.mem_append, List.mem_flatMap, List.mem_singleton]
    constructor
    · rintro (⟨m₁, hm₁, hm⟩ | rfl)
      · obtain ⟨hm₁, hlt⟩ := List.mem_filter.mp hm₁
        obtain ⟨m₂, hm₂, rfl⟩ := List.mem_map.mp hm
        have hlt : m₁.1.length < s.length := by simpa using hlt
        obtain ⟨u, rfl, hu⟩ := (hf s m₁).mp hm₁
        obtain ⟨v, hv, hrounds⟩ := (ih (by omega)).mp hm₂
        have hne : u ≠ [] := by
          rintro rfl
          exact lt_irrefl _ hlt
        exact ⟨u ++ v, by rw [List.append_assoc, ← hv], Rounds.cons hne hu hrounds⟩
      · exact ⟨[], rfl, Rounds.nil⟩
    · rintro ⟨w, hw, hrounds⟩
      obtain ⟨rest, caps⟩ := m
      cases hrounds with
      | nil => exact Or.inr (Prod.ext hw.symm rfl)
      | @cons u v c d hne hu hv =>
        have hlen := List.length_pos_of_ne_nil hne
        subst hw
        simp only [List.length_append] at hn
        refine Or.inl ⟨(v ++ rest, c), List.mem_filter.mpr ⟨?_, ?_⟩, ?_⟩
        · exact (hf _ _).mpr ⟨u, List.append_assoc .., hu⟩
        · simpa using hlen
        · refine List.mem_map.mpr ⟨(rest, d), (ih ?_).mpr ⟨v, rfl, hv⟩, rfl⟩
          simp only [List.length_append]
          omega

/-- **The matcher lists exactly what `r` takes** at the beginning of the text. -/
theorem mem_results_iff {m : Match} : m ∈ r.results s ↔ ∃ w, s = w ++ m.1 ∧ r.Takes w m.2 := by
  obtain ⟨rest, caps⟩ := m
  induction r generalizing s rest caps with
  | eps =>
    simp only [results, Takes, List.mem_singleton, Prod.mk.injEq]
    constructor
    · rintro ⟨rfl, rfl⟩
      exact ⟨[], rfl, rfl, rfl⟩
    · rintro ⟨w, rfl, rfl, rfl⟩
      exact ⟨rfl, rfl⟩
  | set p =>
    cases s with
    | nil =>
      simp only [results, Takes, List.not_mem_nil, false_iff]
      rintro ⟨w, hw, c, -, rfl, -⟩
      cases hw
    | cons c cs =>
      have hmem : (rest, caps) ∈ (set p).results (c :: cs) ↔
          p c = true ∧ rest = cs ∧ caps = [] := by
        rw [results]
        split <;> simp [*]
      rw [hmem]
      constructor
      · rintro ⟨hp, rfl, rfl⟩
        exact ⟨[c], rfl, c, hp, rfl, rfl⟩
      · rintro ⟨w, hw, c', hp, rfl, rfl⟩
        obtain ⟨rfl, rfl⟩ := List.cons.inj hw
        exact ⟨hp, rfl, rfl⟩
  | seq a b iha ihb =>
    simp only [results, Takes, List.mem_flatMap, List.mem_map, Prod.mk.injEq]
    constructor
    · rintro ⟨⟨s₁, c⟩, ha, ⟨rest, d⟩, hb, rfl, rfl⟩
      obtain ⟨u, rfl, hu⟩ := (iha s₁ c).mp ha
      obtain ⟨v, hv, htake⟩ := (ihb rest d).mp hb
      exact ⟨u ++ v, by rw [List.append_assoc, ← hv], u, v, c, d, hu, htake, rfl, rfl⟩
    · rintro ⟨w, rfl, u, v, c, d, hu, hv, rfl, rfl⟩
      exact ⟨(v ++ rest, c), (iha _ _).mpr ⟨u, List.append_assoc .., hu⟩, (rest, d),
        (ihb _ _).mpr ⟨v, rfl, hv⟩, rfl, rfl⟩
  | alt a b iha ihb =>
    simp only [results, Takes, List.mem_append, iha, ihb]
    rw [← exists_or]
    exact exists_congr fun w => by rw [and_or_left]
  | star a ih =>
    rw [results]
    exact mem_iterate (fun s m => ih m.1 m.2) le_rfl
  | group n a ih =>
    simp only [results, Takes, List.mem_map, Prod.mk.injEq]
    constructor
    · rintro ⟨⟨rest, c⟩, ha, rfl, rfl⟩
      obtain ⟨w, rfl, hw⟩ := (ih rest c).mp ha
      exact ⟨w, rfl, c, hw, by simp⟩
    · rintro ⟨w, rfl, c, hw, rfl⟩
      exact ⟨(rest, c), (ih _ _).mpr ⟨w, rfl, hw⟩, rfl, by simp⟩

theorem takes_chr {c : Char} : (chr c).Takes w caps ↔ w = [c] ∧ caps = [] := by
  simp only [chr, Takes, decide_eq_true_eq]
  constructor
  · rintro ⟨d, rfl, hw, hcaps⟩
    exact ⟨hw, hcaps⟩
  · rintro ⟨hw, hcaps⟩
    exact ⟨c, rfl, hw, hcaps⟩

theorem takes_any : any.Takes w caps ↔ (∃ c, c ≠ '\n' ∧ w = [c]) ∧ caps = [] := by
  simp only [any, Takes, decide_eq_true_eq]
  exact ⟨fun ⟨c, hc, hw, hcaps⟩ => ⟨⟨c, hc, hw⟩, hcaps⟩,
    fun ⟨⟨c, hc, hw⟩, hcaps⟩ => ⟨c, hc, hw, hcaps⟩⟩

theorem takes_lit {x : String} : (lit x).Takes w caps ↔ w = x.toList ∧ caps = [] := by
  rw [lit]
  induction x.toList generalizing w caps with
  | nil => rfl
  | cons c cs ih =>
    simp only [List.foldr_cons, Takes]
    constructor
    · rintro ⟨u, v, d, e, hu, hv, rfl, rfl⟩
      obtain ⟨rfl, rfl⟩ := takes_chr.mp hu
      obtain ⟨rfl, rfl⟩ := ih.mp hv
      exact ⟨rfl, rfl⟩
    · rintro ⟨rfl, rfl⟩
      exact ⟨[c], cs, [], [], takes_chr.mpr ⟨rfl, rfl⟩, ih.mpr ⟨rfl, rfl⟩, rfl, rfl⟩

/-- A class, any number of times. -/
theorem takes_star_set {p : Char → Bool} :
    (star (set p)).Takes w caps ↔ (∀ c ∈ w, p c = true) ∧ caps = [] := by
  rw [Takes]
  constructor
  · intro h
    induction h with
    | nil => simp
    | cons hne hu hv ih =>
      obtain ⟨c, hp, rfl, rfl⟩ := hu
      exact ⟨by simpa [hp] using ih.1, ih.2⟩
  · rintro ⟨hp, rfl⟩
    induction w with
    | nil => exact Rounds.nil
    | cons c cs ih =>
      simp only [List.mem_cons, forall_eq_or_imp] at hp
      exact Rounds.cons (List.cons_ne_nil c []) ⟨c, hp.1, rfl, rfl⟩ (ih hp.2)

theorem takes_alt {a b : Regex} : (alt a b).Takes w caps ↔ a.Takes w caps ∨ b.Takes w caps :=
  Iff.rfl

theorem takes_seq_eps {a : Regex} : (seq a eps).Takes w caps ↔ a.Takes w caps := by
  constructor
  · rintro ⟨u, _, c, _, ha, ⟨rfl, rfl⟩, rfl, rfl⟩
    rwa [List.append_nil, List.append_nil]
  · intro ha
    exact ⟨w, [], caps, [], ha, ⟨rfl, rfl⟩, (List.append_nil w).symm, (List.append_nil caps).symm⟩

section Captures

variable {a b : Regex} {A : List Char → Prop} {n : ℕ}

/-- A group around what captures nothing. -/
theorem takes_group_of_silent (ha : ∀ u c, a.Takes u c ↔ A u ∧ c = []) :
    (group n a).Takes w caps ↔ A w ∧ caps = [(n, w)] := by
  simp only [Takes, ha]
  constructor
  · rintro ⟨c, ⟨hw, rfl⟩, rfl⟩
    exact ⟨hw, rfl⟩
  · rintro ⟨hw, rfl⟩
    exact ⟨[], ⟨hw, rfl⟩, rfl⟩

/-- A sequence whose first part captures nothing. -/
theorem takes_seq_of_silent (ha : ∀ u c, a.Takes u c ↔ A u ∧ c = []) :
    (seq a b).Takes w caps ↔ ∃ u v, A u ∧ b.Takes v caps ∧ w = u ++ v := by
  simp only [Takes, ha]
  constructor
  · rintro ⟨u, v, c, d, ⟨hu, rfl⟩, hv, rfl, rfl⟩
    exact ⟨u, v, hu, hv, rfl⟩
  · rintro ⟨u, v, hu, hv, rfl⟩
    exact ⟨u, v, [], caps, ⟨hu, rfl⟩, hv, rfl, rfl⟩

/-- A sequence whose first part is one group. -/
theorem takes_seq_of_group (ha : ∀ u c, a.Takes u c ↔ A u ∧ c = [(n, u)]) :
    (seq a b).Takes w caps ↔
      ∃ u v c, A u ∧ b.Takes v c ∧ w = u ++ v ∧ caps = (n, u) :: c := by
  simp only [Takes, ha]
  constructor
  · rintro ⟨u, v, c, d, ⟨hu, rfl⟩, hv, rfl, rfl⟩
    exact ⟨u, v, d, hu, hv, rfl, rfl⟩
  · rintro ⟨u, v, d, hu, hv, rfl, rfl⟩
    exact ⟨u, v, [(n, u)], d, ⟨hu, rfl⟩, hv, rfl, rfl⟩

end Captures

/-- `r` takes some word at the beginning of the text. -/
def Matches (r : Regex) (s : List Char) : Prop :=
  ∃ w rest caps, s = w ++ rest ∧ r.Takes w caps

/-- The leftmost place of `s` where `P` holds: `t` is what is left of the text from there on. -/
def Leftmost (P : List Char → Prop) (s t : List Char) : Prop :=
  t <:+ s ∧ P t ∧ ∀ t', t' <:+ s → P t' → t'.length ≤ t.length

theorem Leftmost.unique {P : List Char → Prop} {t' : List Char} (h : Leftmost P s t)
    (h' : Leftmost P s t') : t = t' := by
  have hle : t.length ≤ t'.length := h'.2.2 t h.1 h.2.1
  have hge : t'.length ≤ t.length := h.2.2 t' h'.1 h'.2.1
  have hsuffix : t <:+ t' := List.suffix_of_suffix_length_le h.1 h'.1 hle
  exact hsuffix.eq_of_length (le_antisymm hle hge)

theorem Leftmost.self {P : List Char → Prop} (h : P s) : Leftmost P s s :=
  ⟨List.suffix_rfl, h, fun _ ht' _ => ht'.length_le⟩

theorem Leftmost.cons {P : List Char → Prop} {c : Char} (hc : ¬ P (c :: s))
    (h : Leftmost P s t) : Leftmost P (c :: s) t := by
  obtain ⟨hsuffix, ht, hleft⟩ := h
  refine ⟨hsuffix.trans (List.suffix_cons c s), ht, fun t' ht' hP => ?_⟩
  rcases List.suffix_cons_iff.mp ht' with rfl | ht'
  · exact absurd hP hc
  · exact hleft t' ht' hP

theorem results_eq_nil : (group 0 r).results s = [] ↔ ¬ r.Matches s := by
  rw [List.eq_nil_iff_forall_not_mem]
  constructor
  · rintro h ⟨w, rest, caps, hs, htakes⟩
    exact h (rest, caps ++ [(0, w)]) (mem_results_iff.mpr ⟨w, hs, caps, htakes, rfl⟩)
  · rintro h ⟨rest, caps⟩ hm
    obtain ⟨w, hs, c, htakes, -⟩ := mem_results_iff.mp hm
    exact h ⟨w, rest, c, hs, htakes⟩

/-- Where there is a match, `find` goes no further. -/
theorem find_of_matches (h : r.Matches s) :
    ∃ w rest c, s = w ++ rest ∧ r.Takes w c ∧ r.find s = some (c ++ [(0, w)]) := by
  obtain ⟨m, ms, hm⟩ := List.exists_cons_of_ne_nil (mt results_eq_nil.mp (not_not_intro h))
  have hmem : m ∈ (group 0 r).results s := by
    rw [hm]
    exact List.mem_cons_self ..
  obtain ⟨w, hw, c, htakes, hcaps⟩ := mem_results_iff.mp hmem
  refine ⟨w, m.1, c, hw, htakes, ?_⟩
  rw [← hcaps]
  cases s with
  | nil => rw [find, hm]; rfl
  | cons c cs => rw [find, hm]

theorem find_cons_of_not_matches {c : Char} (h : ¬ r.Matches (c :: s)) :
    r.find (c :: s) = r.find s := by
  rw [find, results_eq_nil.mpr h]

theorem find_nil_of_not_matches (h : ¬ r.Matches []) : r.find [] = none := by
  rw [find, results_eq_nil.mpr h]
  rfl

/-- **What `find` returns**: the groups of a match at the leftmost place that has one. -/
theorem find_eq_some (h : r.find s = some caps) :
    ∃ t w rest c, Leftmost r.Matches s t ∧ t = w ++ rest ∧ r.Takes w c ∧ caps = c ++ [(0, w)] := by
  induction s with
  | nil =>
    by_cases hs : r.Matches []
    · obtain ⟨w, rest, c, hw, htakes, hfind⟩ := find_of_matches hs
      exact ⟨[], w, rest, c, Leftmost.self hs, hw, htakes, Option.some.inj (h.symm.trans hfind)⟩
    · rw [find_nil_of_not_matches hs] at h
      cases h
  | cons c cs ih =>
    by_cases hs : r.Matches (c :: cs)
    · obtain ⟨w, rest, d, hw, htakes, hfind⟩ := find_of_matches hs
      exact ⟨c :: cs, w, rest, d, Leftmost.self hs, hw, htakes,
        Option.some.inj (h.symm.trans hfind)⟩
    · rw [find_cons_of_not_matches hs] at h
      obtain ⟨t, w, rest, d, hleft, hrest⟩ := ih h
      exact ⟨t, w, rest, d, hleft.cons hs, hrest⟩

/-- `find` misses no match. -/
theorem find_eq_none (h : r.find s = none) (ht : t <:+ s) : ¬ r.Matches t := by
  have hnone : ∀ {s}, r.find s = none → ¬ r.Matches s := by
    intro s h hs
    obtain ⟨w, rest, c, -, -, hfind⟩ := find_of_matches hs
    rw [hfind] at h
    cases h
  induction s with
  | nil => exact List.suffix_nil.mp ht ▸ hnone h
  | cons c cs ih =>
    rcases List.suffix_cons_iff.mp ht with rfl | ht
    · exact hnone h
    · rw [find_cons_of_not_matches (hnone h)] at h
      exact ih h ht

end Interact.Regex
