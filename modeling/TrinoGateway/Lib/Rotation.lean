import Mathlib.Data.Finset.Card
import Mathlib.Data.Finset.Dedup
import Mathlib.Data.List.Induction
import Mathlib.Data.List.Sort
import Mathlib.Order.Lattice

/-!
# The successor of an element in a sorted list

`lastIndex x xs` is the last position of `x`, found by one scan, and `wrapNext` the position
after it, wrapping around. In the sorted list of `x` and some others the successor of `x` is
there (`isNext_wrapNext`). `Rotates`: each pick is the successor of the one before, and **what
is there at every turn is picked** within as many turns as there are elements
(`mem_of_rotates`).
-/

namespace Interact.Rotation

variable {α : Type*} [DecidableEq α]

/-- The last position of `x`, or `0`. -/
def lastIndex (x : α) (xs : List α) : ℕ :=
  xs.zipIdx.foldl (fun index p => if p.1 = x then p.2 else index) 0

/-- The position after the last `x`, wrapping to `0` at the end. -/
def wrapNext (x : α) (xs : List α) : ℕ :=
  let index := lastIndex x xs + 1
  if index ≥ xs.length then 0 else index

theorem lastIndex_concat (x y : α) (xs : List α) :
    lastIndex x (xs ++ [y]) = if y = x then xs.length else lastIndex x xs := by
  simp [lastIndex, List.zipIdx_append]

/-- The scan finds `x`, if it is there. -/
theorem getElem?_lastIndex {x : α} {xs : List α} (h : x ∈ xs) : xs[lastIndex x xs]? = some x := by
  induction xs using List.reverseRecOn with
  | nil => cases h
  | append_singleton xs y ih =>
    rw [lastIndex_concat]
    by_cases hy : y = x
    · simp [hy]
    · have hx : x ∈ xs := by
        rcases List.mem_append.mp h with h | h
        · exact h
        · exact absurd (List.mem_singleton.mp h).symm hy
      have hlt : lastIndex x xs < xs.length := by
        have := ih hx
        rw [List.getElem?_eq_some_iff] at this
        exact this.1
      rw [if_neg hy, List.getElem?_append_left hlt]
      exact ih hx

/-- After the position found there is no further `x`. -/
theorem ne_of_lastIndex_lt {x y : α} {xs : List α} {i : ℕ} (hi : lastIndex x xs < i)
    (hy : xs[i]? = some y) : y ≠ x := by
  induction xs using List.reverseRecOn with
  | nil => simp at hy
  | append_singleton xs z ih =>
    rw [lastIndex_concat] at hi
    have hlen : i < xs.length + 1 := by
      have := (List.getElem?_eq_some_iff.mp hy).1
      simpa using this
    by_cases hz : z = x
    · rw [if_pos hz] at hi; omega
    · rw [if_neg hz] at hi
      by_cases hl : i < xs.length
      · rw [List.getElem?_append_left hl] at hy
        exact ih hi hy
      · have : i = xs.length := by omega
        subst this
        rw [List.getElem?_concat_length] at hy
        cases hy
        exact hz

theorem wrapNext_lt (x : α) {xs : List α} (h : xs ≠ []) : wrapNext x xs < xs.length := by
  have hpos : 0 < xs.length := List.length_pos_iff.mpr h
  unfold wrapNext
  simp only
  split <;> omega

end Interact.Rotation

namespace Interact.Rotation

variable {α : Type*} [LinearOrder α]

/-- `x` comes after `p` in `ids`, wrapping around: it is the least element above `p`, or the
least of all if none is above `p`. -/
structure IsNext (ids : List α) (p x : α) : Prop where
  mem : x ∈ ids
  next : (p < x ∧ ∀ y ∈ ids, p < y → x ≤ y) ∨ ((∀ y ∈ ids, y ≤ p) ∧ ∀ y ∈ ids, x ≤ y)

/-- **The position after the last `p` in the sorted list of `p` and the others** holds the
successor of `p`. -/
theorem isNext_wrapNext {ids : List α} {p x : α} (hne : ids ≠ [])
    (hx : ((ids ++ [p]).insertionSort (· ≤ ·))[wrapNext p ((ids ++ [p]).insertionSort (· ≤ ·))]? =
      some x) : IsNext ids p x := by
  set xs := (ids ++ [p]).insertionSort (· ≤ ·) with hxs
  have hmem : ∀ y, y ∈ xs ↔ y ∈ ids ∨ y = p := by
    intro y
    rw [hxs, List.mem_insertionSort, List.mem_append, List.mem_singleton]
  have hmono : ∀ {i j : ℕ} {a b : α}, xs[i]? = some a → xs[j]? = some b → i ≤ j → a ≤ b := by
    intro i j a b ha hb hij
    obtain ⟨hi, rfl⟩ := List.getElem?_eq_some_iff.mp ha
    obtain ⟨hj, rfl⟩ := List.getElem?_eq_some_iff.mp hb
    rcases Nat.eq_or_lt_of_le hij with rfl | hlt
    · exact le_rfl
    · exact List.pairwise_iff_getElem.mp (List.pairwise_insertionSort _ _) i j hi hj hlt
  have hlast : xs[lastIndex p xs]? = some p := getElem?_lastIndex ((hmem p).mpr (Or.inr rfl))
  unfold wrapNext at hx
  simp only at hx
  split at hx
  · -- `p` is the last element, and the successor is the first one
    rename_i hge
    have htop : ∀ y ∈ ids, y ≤ p := by
      intro y hy
      obtain ⟨j, hj, hyj⟩ := List.getElem_of_mem ((hmem y).mpr (Or.inl hy))
      exact hmono (List.getElem?_eq_some_iff.mpr ⟨hj, hyj⟩) hlast (by omega)
    have hbot : ∀ y ∈ xs, x ≤ y := by
      intro y hy
      obtain ⟨j, hj, hyj⟩ := List.getElem_of_mem hy
      exact hmono hx (List.getElem?_eq_some_iff.mpr ⟨hj, hyj⟩) (Nat.zero_le j)
    have hids : ∀ y ∈ ids, x ≤ y := fun y hy => hbot y ((hmem y).mpr (Or.inl hy))
    refine ⟨?_, Or.inr ⟨htop, hids⟩⟩
    rcases (hmem x).mp (List.mem_of_getElem? hx) with hmem | rfl
    · exact hmem
    · -- every other element equals `p`
      obtain ⟨y, hy⟩ := List.exists_mem_of_ne_nil ids hne
      rwa [le_antisymm (hids y hy) (htop y hy)]
  · have hne' : x ≠ p := ne_of_lastIndex_lt (Nat.lt_succ_self _) hx
    have hlt : p < x := lt_of_le_of_ne (hmono hlast hx (Nat.le_succ _)) hne'.symm
    refine ⟨((hmem x).mp (List.mem_of_getElem? hx)).resolve_right hne', Or.inl ⟨hlt, ?_⟩⟩
    intro y hy hpy
    obtain ⟨j, hj, hyj⟩ := List.getElem_of_mem ((hmem y).mpr (Or.inl hy))
    have hyj' : xs[j]? = some y := List.getElem?_eq_some_iff.mpr ⟨hj, hyj⟩
    -- what is above `p` stands after it
    have hafter : lastIndex p xs < j := by
      by_contra hc
      exact absurd (hmono hyj' hlast (by omega)) (not_le.mpr hpy)
    exact hmono hx hyj' hafter

/-- Each pick is the successor of the one before, among the elements that are there at its turn. -/
def Rotates (p : α) : List (List α × α) → Prop
  | [] => True
  | (ids, x) :: turns => IsNext ids p x ∧ Rotates x turns

/-- The elements from `p`, excluded, to `t`, wrapping around. -/
def ahead (U : Finset α) (p t : α) : Finset α :=
  U.filter fun y => if p < t then p < y ∧ y ≤ t else p < y ∨ y ≤ t

/-- **A turn that picks another element than `t` comes closer to `t`.** -/
theorem ahead_ssubset {U : Finset α} {ids : List α} {p x t : α} (h : IsNext ids p x)
    (ht : t ∈ ids) (hx : x ∈ U) (hne : x ≠ t) : ahead U x t ⊂ ahead U p t := by
  have hpx : x ∈ ahead U p t ∧ ∀ y, (if x < t then x < y ∧ y ≤ t else x < y ∨ y ≤ t) →
      (if p < t then p < y ∧ y ≤ t else p < y ∨ y ≤ t) := by
    rcases h.next with ⟨hlt, hleast⟩ | ⟨htop, hbot⟩
    · by_cases hpt : p < t
      · -- `p < x < t`
        have hxt : x < t := lt_of_le_of_ne (hleast t ht hpt) hne
        simp only [ahead, Finset.mem_filter, if_pos hpt, if_pos hxt]
        exact ⟨⟨hx, hlt, hxt.le⟩, fun y hy => ⟨hlt.trans hy.1, hy.2⟩⟩
      · -- `t ≤ p < x`
        have hxt : ¬ x < t := not_lt.mpr ((not_lt.mp hpt).trans hlt.le)
        simp only [ahead, Finset.mem_filter, if_neg hpt, if_neg hxt]
        exact ⟨⟨hx, Or.inl hlt⟩, fun y hy => hy.imp hlt.trans id⟩
    · -- `x < t ≤ p`
      have hxt : x < t := lt_of_le_of_ne (hbot t ht) hne
      have hpt : ¬ p < t := not_lt.mpr (htop t ht)
      simp only [ahead, Finset.mem_filter, if_neg hpt, if_pos hxt]
      exact ⟨⟨hx, Or.inr hxt.le⟩, fun y hy => Or.inr hy.2⟩
  refine (Finset.ssubset_iff_of_subset fun y hy => ?_).mpr ⟨x, hpx.1, fun hc => ?_⟩
  · obtain ⟨hyU, hy⟩ := Finset.mem_filter.mp hy
    exact Finset.mem_filter.mpr ⟨hyU, hpx.2 y hy⟩
  · -- `x` itself is not ahead of `x`, for it is not `t`
    have hc' := (Finset.mem_filter.mp hc).2
    split at hc'
    · exact lt_irrefl x hc'.1
    · rename_i hxt
      rcases hc' with hc' | hc'
      · exact lt_irrefl x hc'
      · exact hne (le_antisymm hc' (not_lt.mp hxt))

/-- As long as `t` is not picked, the elements ahead of it outnumber the turns. -/
theorem length_lt_card_ahead {U : Finset α} {p t : α} {turns : List (List α × α)}
    (h : Rotates p turns) (hU : ∀ c ∈ turns, ∀ y ∈ c.1, y ∈ U) (htU : t ∈ U)
    (ht : ∀ c ∈ turns, t ∈ c.1) (hnot : t ∉ turns.map Prod.snd) :
    turns.length < (ahead U p t).card := by
  induction turns generalizing p with
  | nil =>
    refine Finset.card_pos.mpr ⟨t, Finset.mem_filter.mpr ⟨htU, ?_⟩⟩
    split
    · exact ⟨‹_›, le_rfl⟩
    · exact Or.inr le_rfl
  | cons c turns ih =>
    obtain ⟨ids, x⟩ := c
    obtain ⟨hnext, hrest⟩ := h
    rw [List.map_cons, List.mem_cons, not_or] at hnot
    have hx : x ∈ U := hU (ids, x) (List.mem_cons_self ..) x hnext.mem
    have hlt := ih hrest (fun c hc => hU c (List.mem_cons_of_mem _ hc))
      (fun c hc => ht c (List.mem_cons_of_mem _ hc)) hnot.2
    have hcloser := Finset.card_lt_card
      (ahead_ssubset hnext (ht (ids, x) (List.mem_cons_self ..)) hx (Ne.symm hnot.1))
    rw [List.length_cons]
    omega

/-- **What is there at every turn is picked** within as many turns as there are elements. -/
theorem mem_of_rotates {U : Finset α} {p t : α} {turns : List (List α × α)} (h : Rotates p turns)
    (hU : ∀ c ∈ turns, ∀ y ∈ c.1, y ∈ U) (htU : t ∈ U) (ht : ∀ c ∈ turns, t ∈ c.1)
    (hlen : U.card ≤ turns.length) : t ∈ turns.map Prod.snd := by
  by_contra hnot
  have hlt := length_lt_card_ahead h hU htU ht hnot
  have hle : (ahead U p t).card ≤ U.card := Finset.card_filter_le _ _
  omega

/-- **With the same elements at every turn** as many turns as there are elements pick each of them
once. -/
theorem nodup_of_rotates {ids picks : List α} {p : α}
    (h : Rotates p (picks.map fun x => (ids, x))) (hlen : picks.length = ids.toFinset.card) :
    picks.Nodup := by
  have hsub : ids.toFinset ⊆ picks.toFinset := by
    intro t ht
    have hpicked := mem_of_rotates (U := ids.toFinset) (t := t) h (fun c hc y hy => ?_) ht
      (fun c hc => ?_) (by rw [List.length_map, hlen])
    · rw [List.map_map] at hpicked
      simpa using hpicked
    · obtain ⟨x, -, rfl⟩ := List.mem_map.mp hc
      exact List.mem_toFinset.mpr hy
    · obtain ⟨x, -, rfl⟩ := List.mem_map.mp hc
      exact List.mem_toFinset.mp ht
  have hcard : picks.length ≤ picks.dedup.length := by
    rw [hlen, ← List.card_toFinset]
    exact Finset.card_le_card hsub
  rw [← (List.dedup_sublist picks).eq_of_length_le hcard]
  exact List.nodup_dedup picks

/-- A run of turns within another. -/
theorem Rotates.infix {p : α} {turns turns' : List (List α × α)} (h : Rotates p turns)
    (hin : turns' <:+: turns) : ∃ p', Rotates p' turns' := by
  obtain ⟨before, after, rfl⟩ := hin
  induction before generalizing p with
  | nil =>
    refine ⟨p, ?_⟩
    rw [List.nil_append] at h
    induction turns' generalizing p with
    | nil => trivial
    | cons c turns' ih => exact ⟨h.1, ih h.2⟩
  | cons c before ih => exact ih h.2

end Interact.Rotation
