import Mathlib.Data.List.Nodup
import Mathlib.Data.List.Perm.Basic
import Mathlib.Data.List.Range
import Mathlib.Data.Nat.Find
import Mathlib.Order.Lattice

/-!
# Pages of a list that is sorted anew for each of them

`page c k` is the `k`-th page of a list, of `c` elements. When each page is cut out of another list
(`pages`), all of them sorted by one key and permutations of each other, the order among equal keys
may differ from page to page.

* `Separated`: no two elements with equal keys are on both sides of a boundary.
* `pages_perm`: **if every boundary between pages is separated, the pages are a partition**, however
  equal keys are ordered.
* `exists_repeats`: otherwise there are orders in which an element comes twice.
* `separated_iff`: the condition in terms of how many elements come before one, and up to its
  equals.
-/

namespace Interact.Paging

variable {α κ : Type*}

/-- The `k`-th page of `c` elements. -/
def page (c k : ℕ) (l : List α) : List α := (l.drop (c * k)).take c

/-- The first `n` pages, each of a list of its own. -/
def pages (c n : ℕ) (orders : ℕ → List α) : List α :=
  (List.range n).flatMap fun k => page c k (orders k)

theorem take_succ_page (c k : ℕ) (l : List α) :
    l.take (c * (k + 1)) = l.take (c * k) ++ page c k l := by
  rw [Nat.mul_succ, List.take_add, page]

/-- The pages of one list are the list. -/
theorem pages_const (c n : ℕ) (l : List α) : pages c n (fun _ => l) = l.take (c * n) := by
  unfold pages
  induction n with
  | zero => simp
  | succ n ih =>
    rw [List.range_succ, List.flatMap_append, ih, take_succ_page]
    simp

theorem mem_page {c k i : ℕ} {l : List α} {a : α} (ha : l[i]? = some a) (hi : c * k ≤ i)
    (hi' : i < c * (k + 1)) : a ∈ page c k l := by
  rw [Nat.mul_succ] at hi'
  refine List.mem_of_getElem? (i := i - c * k) ?_
  rw [page, List.getElem?_take_of_lt (by omega), List.getElem?_drop, ← ha]
  congr 1
  omega

/-- An element on two of the pages. -/
theorem not_nodup_pages {c n i j : ℕ} {orders : ℕ → List α} {a : α} (hij : i < j) (hj : j < n)
    (hi : a ∈ page c i (orders i)) (hj' : a ∈ page c j (orders j)) :
    ¬ (pages c n orders).Nodup := by
  intro hnodup
  obtain ⟨-, hdisj⟩ := List.nodup_flatMap.mp hnodup
  have hpair := List.pairwise_iff_getElem.mp hdisj i j (by rw [List.length_range]; omega)
    (by rw [List.length_range]; omega) hij
  rw [Function.onFun_apply, List.getElem_range, List.getElem_range] at hpair
  exact hpair hi hj'

theorem page_eq_nil_iff {c : ℕ} (hc : 0 < c) (k : ℕ) (l : List α) :
    page c k l = [] ↔ l.length ≤ c * k := by
  unfold page
  rw [List.take_eq_nil_iff, List.drop_eq_nil_iff]
  omega

/-- There is a first empty page. -/
theorem exists_end {c : ℕ} (hc : 0 < c) (len : ℕ) : ∃ n, len ≤ c * n ∧ ∀ k < n, c * k < len := by
  have hex : ∃ n, len ≤ c * n := ⟨len, Nat.le_mul_of_pos_left len hc⟩
  classical
  refine ⟨Nat.find hex, Nat.find_spec hex, fun k hk => ?_⟩
  have := Nat.find_min hex hk
  omega

variable [LinearOrder κ] (key : α → κ)

/-- The greatest key first. -/
def Desc (l : List α) : Prop := l.Pairwise fun a b => key b ≤ key a

instance (l : List α) : Decidable (Desc key l) :=
  inferInstanceAs (Decidable (l.Pairwise fun a b => key b ≤ key a))

/-- Nothing before the position `p` of the sorted list has the key of something after it. -/
def Separated (l : List α) (p : ℕ) : Prop :=
  l.length ≤ p ∨ ∃ t, (l.countP fun a => t < key a) = p

variable {key} {l l' : List α} {c : ℕ}

/-- What is above a threshold comes first. -/
theorem Desc.filter_eq_take (h : Desc key l) (t : κ) :
    (l.filter fun a => t < key a) = l.take (l.countP fun a => t < key a) := by
  induction l with
  | nil => rfl
  | cons a l ih =>
    obtain ⟨hhead, htail⟩ := List.pairwise_cons.mp h
    by_cases ha : t < key a
    · rw [List.filter_cons_of_pos (by simpa using ha), List.countP_cons_of_pos (by simpa using ha),
        List.take_succ_cons, ih htail]
    · have hnone : ∀ b ∈ l, ¬ t < key b :=
        fun b hb => not_lt.mpr ((hhead b hb).trans (not_lt.mp ha))
      have hcount : (l.countP fun a => decide (t < key a)) = 0 :=
        List.countP_eq_zero.mpr fun b hb => by simpa using not_lt.mp (hnone b hb)
      rw [List.filter_cons_of_neg (by simpa using ha), List.countP_cons_of_neg (by simpa using ha),
        hcount, List.take_zero]
      exact List.filter_eq_nil_iff.mpr fun b hb => by simpa using not_lt.mp (hnone b hb)

/-- Up to a separated boundary the order does not matter. -/
theorem take_perm {p : ℕ} (hp : Separated key l p) (hl : Desc key l) (hl' : Desc key l')
    (hperm : l'.Perm l) : (l'.take p).Perm (l.take p) := by
  rcases hp with hlen | ⟨t, ht⟩
  · rw [List.take_of_length_le hlen, List.take_of_length_le (hperm.length_eq ▸ hlen)]
    exact hperm
  · have ht' : (l'.countP fun a => t < key a) = p := by rw [hperm.countP_eq, ht]
    rw [← ht', ← hl'.filter_eq_take, ht', ← ht, ← hl.filter_eq_take]
    exact hperm.filter _

theorem page_perm {k : ℕ} (hk : Separated key l (c * k)) (hk' : Separated key l (c * (k + 1)))
    (hl : Desc key l) (hl' : Desc key l') (hperm : l'.Perm l) :
    (page c k l').Perm (page c k l) := by
  have hbefore := take_perm hk hl hl' hperm
  have hafter := take_perm hk' hl hl' hperm
  rw [take_succ_page, take_succ_page] at hafter
  exact (List.perm_append_left_iff _).mp ((hbefore.symm.append_right _).trans hafter)

/-- **Pages with separated boundaries**, whatever the order of equal keys is in each of them. -/
theorem pages_perm (hsep : ∀ k, Separated key l (c * k)) (hl : Desc key l) {orders : ℕ → List α}
    (hsorted : ∀ k, Desc key (orders k)) (hperm : ∀ k, (orders k).Perm l) (n : ℕ) :
    (pages c n orders).Perm (l.take (c * n)) := by
  rw [← pages_const]
  exact List.Perm.flatMap_left _ fun k _ =>
    page_perm (hsep k) (hsep (k + 1)) hl (hsorted k) (hperm k)

/-- The elements on both sides of a position. -/
theorem exists_split {p : ℕ} (hp : 0 < p) (hlen : p < l.length) :
    ∃ as x y bs, l = as ++ x :: y :: bs ∧ as.length + 1 = p := by
  have hprev : p - 1 < l.length := by omega
  have hnext : p - 1 + 1 = p := by omega
  refine ⟨l.take (p - 1), l[p - 1], l[p], l.drop (p + 1), ?_, ?_⟩
  · rw [← List.drop_eq_getElem_cons hlen]
    have hdrop := List.drop_eq_getElem_cons hprev
    rw [hnext] at hdrop
    rw [← hdrop, List.take_append_drop]
  · rw [List.length_take]
    omega

/-- Where a boundary is not separated, there are equal keys next to it. -/
theorem exists_tie (hl : Desc key l) {p : ℕ} (hp : 0 < p) (hsep : ¬ Separated key l p) :
    ∃ as x y bs, l = as ++ x :: y :: bs ∧ as.length + 1 = p ∧ key x = key y := by
  unfold Separated at hsep
  push Not at hsep
  obtain ⟨hlen, hcount⟩ := hsep
  obtain ⟨as, x, y, bs, rfl, hpos⟩ := exists_split hp hlen
  refine ⟨as, x, y, bs, rfl, hpos, ?_⟩
  by_contra hne
  obtain ⟨-, hrest, hbefore⟩ := List.pairwise_append.mp hl
  obtain ⟨hx, hy⟩ := List.pairwise_cons.mp hrest
  -- the keys drop at the boundary: the second one is a threshold that separates
  have hlt : key y < key x := lt_of_le_of_ne (hx y List.mem_cons_self) (Ne.symm hne)
  refine hcount (key y) ?_
  have hall : as.countP (fun a => key y < key a) = as.length := by
    refine List.countP_eq_length.mpr fun a ha => ?_
    simpa using lt_of_lt_of_le hlt (hbefore a ha x List.mem_cons_self)
  have hnone : bs.countP (fun a => key y < key a) = 0 := by
    refine List.countP_eq_zero.mpr fun b hb => ?_
    simpa using (List.pairwise_cons.mp hy).1 b hb
  rw [List.countP_append, List.countP_cons_of_pos (by simpa using hlt),
    List.countP_cons_of_neg (by simp), hall, hnone]
  omega

theorem separated_zero (hl : Desc key l) : Separated key l 0 := by
  cases l with
  | nil => exact Or.inl le_rfl
  | cons a l =>
    refine Or.inr ⟨key a, List.countP_eq_zero.mpr fun b hb => ?_⟩
    rcases List.mem_cons.mp hb with rfl | hb
    · simp
    · simpa using (List.pairwise_cons.mp hl).1 b hb

/-- Equal keys next to each other can change places. -/
theorem Desc.swap {as bs : List α} {x y : α} (h : Desc key (as ++ x :: y :: bs))
    (hkey : key x = key y) : Desc key (as ++ y :: x :: bs) := by
  unfold Desc at h ⊢
  simp only [List.pairwise_append, List.pairwise_cons, List.mem_cons, forall_eq_or_imp] at h ⊢
  obtain ⟨has, ⟨⟨hxy, hx⟩, hy, hbs⟩, hbefore⟩ := h
  refine ⟨has, ⟨⟨hkey.le, hy⟩, hx, hbs⟩, fun a ha => ?_⟩
  obtain ⟨hax, hay, habs⟩ := hbefore a ha
  exact ⟨hay, hax, habs⟩

/-- **A boundary that is not separated**: in some orders of equal keys an element is on the page
before it and on the one after it. -/
theorem exists_repeats (hc : 0 < c) (hl : Desc key l) {k : ℕ}
    (hsep : ¬ Separated key l (c * k)) :
    ∃ orders : ℕ → List α, (∀ k, Desc key (orders k)) ∧ (∀ k, (orders k).Perm l) ∧
      c * k < l.length ∧ ∀ n, k < n → ¬ (pages c n orders).Nodup := by
  have hlen : c * k < l.length := by
    by_contra hcon
    exact hsep (Or.inl (not_lt.mp hcon))
  obtain ⟨k, rfl⟩ : ∃ j, k = j + 1 := by
    refine Nat.exists_eq_succ_of_ne_zero fun hk => hsep ?_
    rw [hk, Nat.mul_zero]
    exact separated_zero hl
  obtain ⟨as, x, y, bs, rfl, hpos, hkey⟩ := exists_tie hl (Nat.mul_pos hc (Nat.succ_pos k)) hsep
  have hswap : (as ++ y :: x :: bs).Perm (as ++ x :: y :: bs) :=
    (List.Perm.swap x y bs).append_left as
  refine ⟨fun j => if j = k + 1 then as ++ y :: x :: bs else as ++ x :: y :: bs, fun j => ?_,
    fun j => ?_, hlen, fun n hn => ?_⟩
  · dsimp only
    split
    · exact hl.swap hkey
    · exact hl
  · dsimp only
    split
    · exact hswap
    · exact List.Perm.refl _
  · rw [Nat.mul_succ] at hpos
    refine not_nodup_pages (a := x) (Nat.lt_succ_self k) hn ?_ ?_
    · rw [if_neg (by omega)]
      refine mem_page (i := as.length) (by simp) (by omega) (by rw [Nat.mul_succ]; omega)
    · rw [if_pos rfl]
      refine mem_page (i := as.length + 1) (by simp) (by rw [Nat.mul_succ]; omega) ?_
      rw [Nat.mul_succ, Nat.mul_succ]
      omega

/-- An element counts among its equals, and not among the greater ones. -/
theorem countP_lt_countP {x : α} (hx : x ∈ l) :
    (l.countP fun a => key x < key a) < l.countP fun a => key x ≤ key a := by
  obtain ⟨as, bs, rfl⟩ := List.append_of_mem hx
  have hmono : ∀ l : List α, (l.countP fun a => key x < key a) ≤ l.countP fun a => key x ≤ key a :=
    fun l => List.countP_mono_left fun a _ ha => by simpa using (of_decide_eq_true ha).le
  have has := hmono as
  have hbs := hmono bs
  rw [List.countP_append, List.countP_append, List.countP_cons_of_neg (by simp),
    List.countP_cons_of_pos (by simp)]
  omega

/-- **The boundaries are separated exactly if what has the key of an element is on one page**: as
many pages are full of greater keys as are full before the last of its equals. -/
theorem separated_iff (hc : 0 < c) (hl : Desc key l) :
    (∀ k, Separated key l (c * k)) ↔
      ∀ x ∈ l, (l.countP fun a => key x < key a) / c =
        ((l.countP fun a => key x ≤ key a) - 1) / c := by
  constructor
  · intro hsep x hx
    have hself : (l.countP fun a => key x < key a) < l.countP fun a => key x ≤ key a :=
      countP_lt_countP hx
    have hlength : (l.countP fun a => key x ≤ key a) ≤ l.length := List.countP_le_length
    set newer := l.countP fun a => key x < key a with hnewer
    set notOlder := l.countP fun a => key x ≤ key a with hnotOlder
    refine Nat.le_antisymm (Nat.div_le_div_right (by omega)) (not_lt.mp fun hlt => ?_)
    -- a boundary that has equals of `x` on both sides
    have hbelow : c * ((notOlder - 1) / c) ≤ notOlder - 1 := Nat.mul_div_le _ _
    have habove : newer < c * ((notOlder - 1) / c) := by
      rw [Nat.mul_comm]
      exact (Nat.div_lt_iff_lt_mul hc).mp hlt
    rcases hsep ((notOlder - 1) / c) with hend | ⟨t, ht⟩
    · omega
    · rcases le_or_gt (key x) t with hle | hgt
      · have hmono : (l.countP fun a => t < key a) ≤ newer :=
          List.countP_mono_left fun a _ ha => by simpa using hle.trans_lt (of_decide_eq_true ha)
        omega
      · have hmono : notOlder ≤ l.countP fun a => t < key a :=
          List.countP_mono_left fun a _ ha => by simpa using hgt.trans_le (of_decide_eq_true ha)
        omega
  · intro h k
    refine or_iff_not_imp_left.mpr fun hlen => ?_
    rw [not_le] at hlen
    obtain ⟨as, x, bs, hl', has⟩ : ∃ as x bs, l = as ++ x :: bs ∧ as.length = c * k := by
      refine ⟨l.take (c * k), l[c * k], l.drop (c * k + 1), ?_, ?_⟩
      · rw [← List.drop_eq_getElem_cons hlen, List.take_append_drop]
      · rw [List.length_take]
        omega
    refine ⟨key x, ?_⟩
    have hx := h x (by rw [hl']; simp)
    rw [hl'] at hl hx ⊢
    obtain ⟨-, hrest, hbefore⟩ := List.pairwise_append.mp hl
    have hall : (as.countP fun a => key x ≤ key a) = as.length :=
      List.countP_eq_length.mpr fun a ha => by simpa using hbefore a ha x List.mem_cons_self
    have hnone : (bs.countP fun a => key x < key a) = 0 :=
      List.countP_eq_zero.mpr fun b hb => by simpa using (List.pairwise_cons.mp hrest).1 b hb
    have hle : (as.countP fun a => key x < key a) ≤ as.length := List.countP_le_length
    rw [List.countP_append, List.countP_cons_of_neg (by simp), hnone] at hx ⊢
    rw [List.countP_append, List.countP_cons_of_pos (by simp), hall, has] at hx
    -- the equals of `x` go on behind the boundary, so the greater keys fill the pages before it
    have hpages : c * k / c ≤ (c * k + ((bs.countP fun a => key x ≤ key a) + 1) - 1) / c :=
      Nat.div_le_div_right (by omega)
    rw [Nat.mul_div_cancel_left k hc, ← hx, Nat.le_div_iff_mul_le hc, Nat.mul_comm] at hpages
    omega

end Interact.Paging
