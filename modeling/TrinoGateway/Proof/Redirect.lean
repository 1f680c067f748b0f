import TrinoGateway.Lib.RegexReplace
import TrinoGateway.Lib.Uri
import TrinoGateway.Spec.Router

/-!
# Where a redirect leads

`handleRedirect` strips a scheme and an authority where the location has them, and puts `http://`
and the router's host name before the rest. The pattern is searched for anywhere in the text.

* `strip_cases`: what the replacement leaves. Nothing changes, or the text from the leftmost
  `word://` up to the next slash goes.
* `strip_iff`: for which references this is the path, the query and the fragment.
* `handleRedirect_iff`: **the location is moved to the router's host exactly for these**: the
  absolute ones with a path, whose scheme is a word, the relative ones with a rooted path, or none,
  and no `word://` in them, and a coincidence.
-/

namespace TrinoGateway

open Interact Regex RouterServer

/-- `s` begins with the word `w` and `://`, and goes on with `z`. -/
structure SchemeAt (w z s : List Char) : Prop where
  ne_nil : w ≠ []
  isWord : ∀ c ∈ w, word c = true
  eq : s = w ++ ':' :: '/' :: '/' :: z

variable {s t w z : List Char}

theorem SchemeAt.colon_notMem (h : SchemeAt w z s) : ':' ∉ w :=
  fun hc => absurd (h.isWord _ hc) (by decide)

theorem SchemeAt.slash_notMem (h : SchemeAt w z s) : '/' ∉ w :=
  fun hc => absurd (h.isWord _ hc) (by decide)

theorem SchemeAt.ne_slash (h : SchemeAt w z s) {l : List Char} : s ≠ '/' :: l := by
  intro hs
  obtain ⟨c, w', hw⟩ := List.exists_cons_of_ne_nil h.ne_nil
  have hcons := h.eq
  rw [hs, hw] at hcons
  refine h.slash_notMem ?_
  rw [hw, (List.cons.inj hcons).1]
  exact List.mem_cons_self ..

theorem takes_plus_word {caps : Caps} :
    (plus (Regex.set word)).Takes w caps ↔ (w ≠ [] ∧ ∀ c ∈ w, word c = true) ∧ caps = [] := by
  simp only [plus, Takes]
  constructor
  · rintro ⟨u, v, c, d, ⟨x, hx, rfl, rfl⟩, hv, rfl, rfl⟩
    obtain ⟨hall, rfl⟩ := takes_star_set.mp hv
    refine ⟨⟨List.cons_ne_nil x v, fun y hy => ?_⟩, rfl⟩
    rcases List.mem_cons.mp hy with rfl | hy
    · exact hx
    · exact hall y hy
  · rintro ⟨⟨hne, hw⟩, rfl⟩
    obtain ⟨x, v, rfl⟩ := List.exists_cons_of_ne_nil hne
    simp only [List.mem_cons, forall_eq_or_imp] at hw
    exact ⟨[x], v, [], [], ⟨x, hw.1, rfl, rfl⟩, takes_star_set.mpr ⟨hw.2, rfl⟩, rfl, rfl⟩

theorem matches_authority : authority.Matches s ↔ ∃ w z, SchemeAt w z s := by
  have hscheme : ∀ u c, authority.Takes u c ↔ ∃ w v, (w ≠ [] ∧ ∀ c ∈ w, word c = true) ∧
      (concat [lit "://", star (Regex.set (· ≠ '/')), group 1 (star any)]).Takes v c ∧
      u = w ++ v := fun u c => takes_seq_of_silent fun _ _ => takes_plus_word
  have hlit : ∀ u c,
      (concat [lit "://", star (Regex.set (· ≠ '/')), group 1 (star any)]).Takes u c ↔
        ∃ x v, x = "://".toList ∧
          (concat [star (Regex.set (· ≠ '/')), group 1 (star any)]).Takes v c ∧ u = x ++ v :=
    fun u c => takes_seq_of_silent fun _ _ => takes_lit
  constructor
  · rintro ⟨u, rest, caps, rfl, htakes⟩
    obtain ⟨w, v, ⟨hne, hw⟩, hv, rfl⟩ := (hscheme u caps).mp htakes
    obtain ⟨_, z, rfl, -, rfl⟩ := (hlit v caps).mp hv
    exact ⟨w, z ++ rest, hne, hw, by simp⟩
  · rintro ⟨w, z, hne, hw, rfl⟩
    -- the shortest match ends behind the slashes
    refine ⟨w ++ "://".toList, z, [(1, [])], by simp, (hscheme _ _).mpr ⟨w, "://".toList, ⟨hne, hw⟩,
      (hlit _ _).mpr ⟨_, [], rfl, ?_, (List.append_nil _).symm⟩, rfl⟩⟩
    exact ⟨[], [], [], _, Rounds.nil,
      ⟨[], [], _, [], ⟨[], Rounds.nil, rfl⟩, ⟨rfl, rfl⟩, rfl, rfl⟩, rfl, rfl⟩

/-- The pattern takes the rest of the line, and captures it from the first slash on. -/
theorem SchemeAt.begins (h : SchemeAt w z s) (hz : '\n' ∉ z) :
    authority.Begins s ([], [(1, z.dropWhile (· ≠ '/'))]) := by
  obtain ⟨hne, hw, rfl⟩ := h
  obtain ⟨c, w, rfl⟩ := List.exists_cons_of_ne_nil hne
  simp only [List.mem_cons, forall_eq_or_imp] at hw
  have hword : (plus (Regex.set word)).Begins (c :: w ++ ':' :: '/' :: '/' :: z)
      (':' :: '/' :: '/' :: z, []) := by
    have hstar := begins_star_set (p := word) (s := w ++ ':' :: '/' :: '/' :: z)
    rw [List.dropWhile_append_of_pos hw.2, List.dropWhile_cons_of_neg (by decide)] at hstar
    exact (begins_set hw.1).seq hstar
  have hlit : (lit "://").Begins (':' :: '/' :: '/' :: z) (z, []) := begins_lit
  have hhost := begins_star_set (p := fun c => c ≠ '/') (s := z)
  have hrest : (star any).Begins (z.dropWhile (· ≠ '/') ++ []) ([], []) := by
    have hany := begins_star_set (p := fun c => c ≠ '\n') (s := z.dropWhile (· ≠ '/'))
    have hall : (z.dropWhile (· ≠ '/')).dropWhile (fun c => c ≠ '\n') = [] := by
      refine List.dropWhile_eq_nil_iff.mpr fun c hc => ?_
      have hcz : c ∈ z := (List.dropWhile_suffix _).subset hc
      have hc : c ≠ '\n' := fun h => hz (h ▸ hcz)
      simpa using hc
    rw [hall] at hany
    rw [List.append_nil]
    exact hany
  have hgroup := hrest.group (n := 1)
  rw [List.append_nil] at hgroup
  exact hword.seq (hlit.seq (hhost.seq (hgroup.seq begins_eps)))

/-- `ReplaceAllString` with the group. -/
abbrev strip (s : List Char) : List Char :=
  replaceGo authority (fun groups => groups.get 1) s.length s

theorem SchemeAt.matches (h : SchemeAt w z s) : authority.Matches s :=
  matches_authority.mpr ⟨w, z, h⟩

/-- Where the text begins with a match, all up to the next slash goes. -/
theorem SchemeAt.strip_eq (h : SchemeAt w z s) (hs : '\n' ∉ s) :
    strip s = z.dropWhile (· ≠ '/') := by
  have hz : '\n' ∉ z := by
    intro hz
    refine hs ?_
    rw [h.eq]
    simp [hz]
  have hne : s ≠ [] := by
    rw [h.eq]
    simp
  obtain ⟨x, l, rfl⟩ := List.exists_cons_of_ne_nil hne
  rw [strip, List.length_cons, replaceGo_all (h.begins hz)]
  rfl

theorem strip_of_leftmost {a : List Char} (hs : '\n' ∉ a ++ t) (hat : SchemeAt w z t)
    (hleft : Leftmost authority.Matches (a ++ t) t) :
    strip (a ++ t) = a ++ z.dropWhile (· ≠ '/') := by
  rw [strip, List.length_append, replaceGo_append hleft.2.2]
  exact congrArg (a ++ ·) (hat.strip_eq fun ht => hs (List.mem_append_right a ht))

/-- **What the replacement leaves.** -/
theorem strip_cases (hs : '\n' ∉ s) :
    ((∀ t, t <:+ s → ¬ authority.Matches t) ∧ strip s = s) ∨
      ∃ a w z t, SchemeAt w z t ∧ s = a ++ t ∧ Leftmost authority.Matches s t ∧
        strip s = a ++ z.dropWhile (· ≠ '/') := by
  rcases exists_leftmost (P := authority.Matches) s with hnone | ⟨t, hleft⟩
  · exact Or.inl ⟨hnone, replaceGo_eq_self hnone⟩
  · obtain ⟨a, rfl⟩ := hleft.1
    obtain ⟨w, z, hat⟩ := matches_authority.mp hleft.2.1
    exact Or.inr ⟨a, w, z, t, hat, rfl, hleft, strip_of_leftmost hs hat hleft⟩

/-- What the replacement makes shorter. -/
theorem length_strip_lt (hs : '\n' ∉ s) (ht : t <:+ s) (hm : authority.Matches t) :
    (strip s).length < s.length := by
  rcases strip_cases hs with ⟨hnone, -⟩ | ⟨a, w, z, t', hat, rfl, -, hstrip⟩
  · exact absurd hm (hnone t ht)
  · have hlen := (List.dropWhile_suffix (l := z) (· ≠ '/')).length_le
    rw [hstrip, List.length_append, List.length_append, hat.eq]
    simp only [List.length_append, List.length_cons]
    omega

theorem dropWhile_slash {a x : List Char} (ha : '/' ∉ a) :
    (a ++ x).dropWhile (· ≠ '/') = x.dropWhile (· ≠ '/') := by
  refine List.dropWhile_append_of_pos fun c hc => ?_
  have hc : c ≠ '/' := fun h => ha (h ▸ hc)
  simpa using hc

theorem dropWhile_rooted {p : List Char} (hp : UriRef.Rooted p) :
    p.dropWhile (· ≠ '/') = p := by
  rcases hp with rfl | ⟨rest, rfl⟩
  · rfl
  · exact List.dropWhile_cons_of_neg (by simp)

theorem rooted_dropWhile (p : List Char) : UriRef.Rooted (p.dropWhile (· ≠ '/')) := by
  induction p with
  | nil => exact Or.inl rfl
  | cons c p ih =>
    by_cases hc : c = '/'
    · rw [List.dropWhile_cons_of_neg (by simpa using hc)]
      exact Or.inr ⟨p, by rw [hc]⟩
    · rw [List.dropWhile_cons_of_pos (by simpa using hc)]
      exact ih

/-- When `b` stands before a word and `://` and ends the text too: `a` ends in the word and a
colon. -/
theorem exists_of_wrapped {a b x : List Char} (ha : '/' ∉ a) (hne : w ≠ []) (hw : '/' ∉ w)
    (h : a ++ '/' :: '/' :: b = b ++ w ++ ':' :: '/' :: '/' :: x) :
    ∃ b', a = b' ++ w ++ [':'] ∧ (b' = b ∨ a.length < b.length) := by
  induction hn : b.length using Nat.strong_induction_on generalizing b with
  | _ n ih =>
    by_cases hb : '/' ∈ b
    · obtain ⟨b₁, b₂, rfl, hb₁⟩ := List.eq_append_cons_of_mem hb
      simp only [List.append_assoc, List.cons_append] at h
      obtain ⟨rfl, h⟩ := Text.delim_inj ha hb₁ h
      cases b₂ with
      | nil =>
        obtain ⟨c, w', rfl⟩ := List.exists_cons_of_ne_nil hne
        rw [List.nil_append, List.cons_append] at h
        obtain ⟨rfl, -⟩ := List.cons.inj h
        exact absurd List.mem_cons_self hw
      | cons c b₂ =>
        obtain ⟨rfl, h⟩ := List.cons.inj h
        simp only [List.length_append, List.length_cons] at hn
        -- one `a` and its slashes less on both sides
        obtain ⟨b', hb', -⟩ := ih b₂.length (by omega) (b := b₂) (by simpa using h) rfl
        exact ⟨b', hb', Or.inr (by omega)⟩
    · have hbw : '/' ∉ b ++ w ++ [':'] := by simp [hb, hw]
      obtain ⟨hab, -⟩ := Text.delim_inj (x := '/' :: b) (y := '/' :: x) ha hbw (by simpa using h)
      exact ⟨b, hab, Or.inl rfl⟩

/-- The references that are moved: those with an authority, whose scheme is a word and whose path
keeps the query and the fragment apart from it; those without scheme and authority, with a rooted
path or none, and without a `://` behind a word; and those that are by coincidence. -/
inductive Movable (u : UriRef) : Prop
  | absolute {s a : List Char} (scheme : u.scheme = some s) (authority : u.authority = some a)
      (isWord : ∀ c ∈ s, word c = true) (path : u.path ≠ [] ∨ u.suffix = [])
  | relative (scheme : u.scheme = none) (authority : u.authority = none) (ne_nil : u.text ≠ [])
      (path : UriRef.Rooted u.path)
      (single : ∀ x c z, u.text = x ++ c :: ':' :: '/' :: '/' :: z → word c = false)
  -- `//b word:` before `//b`: what is taken is what has to go
  | coincidence {b w d : List Char} (scheme : u.scheme = none)
      (authority : u.authority = some (b ++ w ++ [':'])) (ne_nil : w ≠ [])
      (isWord : ∀ c ∈ w, word c = true) (maximal : ∀ x c, b = x ++ [c] → word c = false)
      (rooted : UriRef.Rooted d) (rest : u.path ++ u.suffix = '/' :: '/' :: (b ++ d))

variable {u : UriRef}

theorem movable_of_scheme {s : List Char} (hs : u.scheme = some s) :
    Movable u ↔ ∃ a, u.authority = some a ∧ (∀ c ∈ s, word c = true) ∧
      (u.path ≠ [] ∨ u.suffix = []) := by
  constructor
  · intro h
    cases h with
    | absolute hs' ha hw hp =>
      obtain rfl := Option.some.inj (hs.symm.trans hs')
      exact ⟨_, ha, hw, hp⟩
    | relative hnone | coincidence hnone =>
      rw [hs] at hnone
      cases hnone
  · rintro ⟨a, ha, hw, hp⟩
    exact Movable.absolute hs ha hw hp

theorem movable_of_path (hs : u.scheme = none) (ha : u.authority = none) :
    Movable u ↔ u.text ≠ [] ∧ UriRef.Rooted u.path ∧
      ∀ x c z, u.text = x ++ c :: ':' :: '/' :: '/' :: z → word c = false := by
  constructor
  · intro h
    cases h with
    | relative _ _ hne hp hsingle => exact ⟨hne, hp, hsingle⟩
    | absolute _ hsome | coincidence _ hsome =>
      rw [ha] at hsome
      cases hsome
  · rintro ⟨hne, hp, hsingle⟩
    exact Movable.relative hs ha hne hp hsingle

theorem movable_of_authority {a : List Char} (hs : u.scheme = none) (ha : u.authority = some a) :
    Movable u ↔ ∃ b w d, a = b ++ w ++ [':'] ∧ w ≠ [] ∧ (∀ c ∈ w, word c = true) ∧
      (∀ x c, b = x ++ [c] → word c = false) ∧ UriRef.Rooted d ∧
      u.path ++ u.suffix = '/' :: '/' :: (b ++ d) := by
  constructor
  · intro h
    cases h with
    | coincidence _ hb hne hw hmax hd hrest =>
      exact ⟨_, _, _, Option.some.inj (ha.symm.trans hb), hne, hw, hmax, hd, hrest⟩
    | absolute hsome =>
      rw [hs] at hsome
      cases hsome
    | relative _ hnone =>
      rw [ha] at hnone
      cases hnone
  · rintro ⟨b, w, d, rfl, hne, hw, hmax, hd, hrest⟩
    exact Movable.coincidence hs ha hne hw hmax hd hrest

/-- What is left begins as the text does, unless a match does. -/
theorem head_strip (hs : '\n' ∉ s) (hm : ¬ authority.Matches s) : (strip s).head? = s.head? := by
  rcases strip_cases hs with ⟨-, hstrip⟩ | ⟨a, w, z, t, -, rfl, hleft, hstrip⟩
  · rw [hstrip]
  · cases a with
    | nil => exact absurd hleft.2.1 hm
    | cons c a =>
      rw [hstrip]
      rfl

/-- Behind an authority, the path ends before the query or the fragment. -/
theorem dropWhile_path_suffix (hp : UriRef.Rooted u.path) :
    (u.path ++ u.suffix).dropWhile (· ≠ '/') = u.path ++ u.suffix ↔
      u.path ≠ [] ∨ u.suffix = [] := by
  rcases hp with hp | ⟨p, hp⟩
  · rw [hp, List.nil_append]
    cases hsuffix : u.suffix with
    | nil => simp
    | cons c x =>
      have hc : c ≠ '/' := by
        rcases UriRef.suffix_cons hsuffix with rfl | rfl <;> decide
      rw [List.dropWhile_cons_of_pos (by simpa using hc)]
      refine iff_of_false (fun h => ?_) (by simp)
      have hlen := (List.dropWhile_suffix (l := x) (· ≠ '/')).length_le
      rw [h, List.length_cons] at hlen
      omega
  · rw [hp, List.cons_append, List.dropWhile_cons_of_neg (by simp)]
    simp

/-- What should be left begins with one of the delimiters. -/
theorem head_rootPath {c : Char} (h : (UriRef.rootPath u.path ++ u.suffix).head? = some c) :
    c = '/' ∨ c = '?' ∨ c = '#' := by
  rcases UriRef.rooted_rootPath u.path with hp | ⟨p, hp⟩
  · rw [hp, List.nil_append] at h
    obtain ⟨x, hx⟩ := List.head?_eq_some_iff.mp h
    exact Or.inr (UriRef.suffix_cons hx)
  · rw [hp] at h
    exact Or.inl (Option.some.inj h).symm

/-- A match at the beginning of a reference with a scheme has the scheme. -/
theorem SchemeAt.of_text (hat : SchemeAt w z u.text) (hu : u.WellFormed) (hs : u.scheme = some s) :
    w = s ∧ ∃ a, u.authority = some a ∧ z = a ++ (u.path ++ u.suffix) := by
  have hsplit := hat.eq
  rw [UriRef.text_of_scheme hs] at hsplit
  obtain ⟨hsw, hrest⟩ :=
    Text.delim_inj ((hu.scheme s hs).notMem (by decide)) hat.colon_notMem hsplit
  refine ⟨hsw.symm, ?_⟩
  cases ha : u.authority with
  | none =>
    rw [UriRef.hierText_of_noAuthority ha] at hrest
    exact absurd hrest (hu.path_suffix_ne ha)
  | some a =>
    rw [UriRef.hierText_of_authority ha] at hrest
    exact ⟨a, rfl, (List.cons.inj (List.cons.inj hrest).2).2.symm⟩

/-- A reference with a scheme. -/
theorem strip_iff_of_scheme (hu : u.WellFormed) (hs : u.scheme = some s) :
    strip u.text = UriRef.rootPath u.path ++ u.suffix ↔ Movable u := by
  have hnl := hu.newline_notMem
  obtain ⟨c, cs, hcons, hc, -⟩ := hu.scheme s hs
  rw [movable_of_scheme hs]
  by_cases hm : authority.Matches u.text
  · obtain ⟨w, z, hat⟩ := matches_authority.mp hm
    obtain ⟨rfl, a, ha, hz⟩ := hat.of_text hu hs
    have hpath := hu.path_rooted a ha
    rw [hat.strip_eq hnl, hz, dropWhile_slash (hu.authority a ha).slash_notMem,
      UriRef.rootPath_eq_self_iff.mpr hpath, dropWhile_path_suffix hpath]
    exact ⟨fun hp => ⟨a, ha, hat.isWord, hp⟩, fun ⟨_, _, _, hp⟩ => hp⟩
  · refine iff_of_false (fun h => ?_) ?_
    · -- the first letter of the scheme is left
      have hhead := head_strip hnl hm
      rw [h, UriRef.text_of_scheme hs, hcons] at hhead
      rcases head_rootPath (hhead.trans rfl) with rfl | rfl | rfl <;> exact absurd hc (by decide)
    · rintro ⟨a, ha, hw, -⟩
      have hat : SchemeAt s (a ++ (u.path ++ u.suffix)) u.text := by
        refine ⟨by simp [hcons], hw, ?_⟩
        rw [UriRef.text_of_scheme hs, UriRef.hierText_of_authority ha]
      exact hm hat.matches

/-- A text has a match exactly if some `://` is behind a word character. -/
theorem exists_matches_iff :
    (∃ t, t <:+ s ∧ authority.Matches t) ↔
      ∃ x c z, s = x ++ c :: ':' :: '/' :: '/' :: z ∧ word c = true := by
  constructor
  · rintro ⟨t, ⟨x, rfl⟩, hm⟩
    obtain ⟨w, z, hne, hw, rfl⟩ := matches_authority.mp hm
    have hlast : w.dropLast ++ [w.getLast hne] = w := List.dropLast_append_getLast hne
    refine ⟨x ++ w.dropLast, w.getLast hne, z, ?_, hw _ (List.getLast_mem hne)⟩
    nth_rewrite 1 [← hlast]
    simp
  · rintro ⟨x, c, z, rfl, hc⟩
    have hat : SchemeAt [c] z (c :: ':' :: '/' :: '/' :: z) :=
      ⟨List.cons_ne_nil c [], by simpa using hc, rfl⟩
    exact ⟨_, ⟨x, rfl⟩, hat.matches⟩

/-- A reference that is only a path, a query and a fragment. -/
theorem strip_iff_of_path (hu : u.WellFormed) (hs : u.scheme = none) (ha : u.authority = none)
    (hne : u.text ≠ []) : strip u.text = UriRef.rootPath u.path ++ u.suffix ↔ Movable u := by
  have hnl := hu.newline_notMem
  have htext : u.text = u.path ++ u.suffix := by
    rw [UriRef.text_of_noScheme hs, UriRef.hierText_of_noAuthority ha]
  rw [movable_of_path hs ha]
  by_cases hm : ∃ t, t <:+ u.text ∧ authority.Matches t
  · refine iff_of_false (fun h => ?_) ?_
    · -- something is missing
      obtain ⟨t, ht, hm⟩ := hm
      have hlt := length_strip_lt hnl ht hm
      have hle := UriRef.length_le_rootPath u.path
      rw [h, htext, List.length_append, List.length_append] at hlt
      omega
    · rintro ⟨-, -, hsingle⟩
      obtain ⟨x, c, z, hx, hc⟩ := exists_matches_iff.mp hm
      rw [hsingle x c z hx] at hc
      cases hc
  · have hstrip : strip u.text = u.text := by
      rcases strip_cases hnl with ⟨-, h⟩ | ⟨_, _, _, t, -, -, hleft, -⟩
      · exact h
      · exact absurd ⟨t, hleft.1, hleft.2.1⟩ hm
    rw [hstrip, htext, List.append_left_inj, eq_comm, UriRef.rootPath_eq_self_iff, ← htext]
    refine ⟨fun hp => ⟨hne, hp, fun x c z hx => ?_⟩, fun h => h.2.1⟩
    by_contra hc
    exact hm (exists_matches_iff.mpr ⟨x, c, z, hx, by simpa using hc⟩)

/-- Where `b` does not end in a word character, no match begins in it. -/
theorem leftmost_behind {b : List Char} (hb : '/' ∉ b) (hat : SchemeAt w z t)
    (hmax : ∀ x c, b = x ++ [c] → word c = false) :
    Leftmost authority.Matches ('/' :: '/' :: (b ++ t)) t := by
  refine ⟨⟨'/' :: '/' :: b, rfl⟩, hat.matches, fun t' ht' hm => ?_⟩
  obtain ⟨v, y, hv⟩ := matches_authority.mp hm
  rcases List.suffix_cons_iff.mp ht' with h | ht'
  · exact absurd h hv.ne_slash
  rcases List.suffix_cons_iff.mp ht' with h | ⟨l, hl⟩
  · exact absurd h hv.ne_slash
  rcases List.append_eq_append_iff.mp hl with ⟨e, he, het⟩ | ⟨e, he, het⟩
  · -- `t'` begins in `b`: the word before the colon goes on into it
    have he_slash : '/' ∉ e := fun hmem => hb (he ▸ List.mem_append_right l hmem)
    have hword : e ++ w = v := by
      have heq := het
      rw [hv.eq, hat.eq] at heq
      have hsplit : (v ++ [':']) ++ '/' :: '/' :: y = (e ++ w ++ [':']) ++ '/' :: '/' :: z := by
        simpa using heq
      obtain ⟨hcolon, -⟩ := Text.delim_inj (by simp [hv.slash_notMem])
        (by simp [he_slash, hat.slash_notMem]) hsplit
      exact (List.append_cancel_right hcolon).symm
    have hnil : e = [] := by
      by_contra hne
      have hlast : e.dropLast ++ [e.getLast hne] = e := List.dropLast_append_getLast hne
      have hc := hmax (l ++ e.dropLast) (e.getLast hne) (by rw [he, List.append_assoc, hlast])
      have hv := hv.isWord (e.getLast hne) (by simp [← hword])
      rw [hc] at hv
      cases hv
    rw [het, hnil, List.nil_append]
  · rw [het, List.length_append]
    exact Nat.le_add_left ..

/-- What is before the leftmost match does not end in a word character. -/
theorem SchemeAt.maximal (hat : SchemeAt w z t) {b : List Char}
    (hleft : Leftmost authority.Matches (b ++ t) t) :
    ∀ x c, b = x ++ [c] → word c = false := by
  intro x c hx
  by_contra hc
  have hc : word c = true := by simpa using hc
  have hlonger : SchemeAt (c :: w) z (c :: t) := by
    refine ⟨List.cons_ne_nil c w, ?_, by rw [hat.eq, List.cons_append]⟩
    simpa [hc] using hat.isWord
  have hlen := hleft.2.2 (c :: t) ⟨x, by simp [hx]⟩ hlonger.matches
  rw [List.length_cons] at hlen
  omega

/-- Where the rest of a text is `//b`, as is what comes before the leftmost match. -/
theorem movable_of_wrapped {a b : List Char} (hs : u.scheme = none) (ha : u.authority = some a)
    (hslash : '/' ∉ a) (hat : SchemeAt w z t)
    (hrest : u.path ++ u.suffix = '/' :: '/' :: b ++ z.dropWhile (· ≠ '/'))
    (hleft : Leftmost authority.Matches ('/' :: '/' :: b ++ t) t)
    (htext : '/' :: '/' :: (a ++ (u.path ++ u.suffix)) = '/' :: '/' :: b ++ t) : Movable u := by
  have hz : z.takeWhile (· ≠ '/') ++ z.dropWhile (· ≠ '/') = z := List.takeWhile_append_dropWhile
  have hsplit : a ++ '/' :: '/' :: b = b ++ w ++ ':' :: '/' :: '/' :: z.takeWhile (· ≠ '/') := by
    have heq := (List.cons.inj (List.cons.inj htext).2).2
    rw [hrest, hat.eq, ← hz] at heq
    have hcancel : (a ++ '/' :: '/' :: b) ++ z.dropWhile (· ≠ '/') =
        (b ++ w ++ ':' :: '/' :: '/' :: z.takeWhile (· ≠ '/')) ++ z.dropWhile (· ≠ '/') := by
      simpa [hz] using heq
    exact List.append_cancel_right hcancel
  obtain ⟨b', hb', rfl | hlt⟩ := exists_of_wrapped hslash hat.ne_nil hat.slash_notMem hsplit
  · have hmax : ∀ x c, b' = x ++ [c] → word c = false := fun x c hx =>
      hat.maximal hleft ('/' :: '/' :: x) c (by rw [hx]; rfl)
    exact (movable_of_authority hs ha).mpr
      ⟨b', w, _, hb', hat.ne_nil, hat.isWord, hmax, rooted_dropWhile z, hrest⟩
  · -- the word and the colon at the end of `a` are a match before the leftmost one
    have hearlier : SchemeAt w (b ++ z.dropWhile (· ≠ '/'))
        (w ++ ':' :: '/' :: '/' :: (b ++ z.dropWhile (· ≠ '/'))) := ⟨hat.ne_nil, hat.isWord, rfl⟩
    have hsuffix : '/' :: '/' :: b' ++ (w ++ ':' :: '/' :: '/' :: (b ++ z.dropWhile (· ≠ '/'))) =
        '/' :: '/' :: b ++ t := by
      rw [← htext, hrest, hb']
      simp
    have hlen := hleft.2.2 _ ⟨_, hsuffix⟩ hearlier.matches
    have hsum := congrArg List.length hsuffix
    have ha' := congrArg List.length hb'
    simp only [List.length_append, List.length_cons, List.length_nil] at hlen hsum ha'
    omega

/-- A reference that begins with an authority. -/
theorem strip_iff_of_authority (hu : u.WellFormed) (hs : u.scheme = none) {a : List Char}
    (ha : u.authority = some a) :
    strip u.text = UriRef.rootPath u.path ++ u.suffix ↔ Movable u := by
  have hnl := hu.newline_notMem
  have hslash := (hu.authority a ha).slash_notMem
  have htext : u.text = '/' :: '/' :: (a ++ (u.path ++ u.suffix)) := by
    rw [UriRef.text_of_noScheme hs, UriRef.hierText_of_authority ha]
  rw [UriRef.rootPath_eq_self_iff.mpr (hu.path_rooted a ha)]
  constructor
  · intro h
    rcases strip_cases hnl with ⟨-, hstrip⟩ | ⟨x, w, z, t, hat, hx, hleft, hstrip⟩
    · -- something has to go
      have hlen := congrArg List.length (hstrip.symm.trans h)
      rw [htext] at hlen
      simp only [List.length_cons, List.length_append] at hlen
      omega
    · rw [h] at hstrip
      obtain ⟨b, rfl⟩ : ∃ b, x = '/' :: '/' :: b := by
        match x with
        | [] => exact absurd (hx.symm.trans htext) hat.ne_slash
        | [c] => exact absurd (List.cons.inj (hx.symm.trans htext)).2 hat.ne_slash
        | c :: d :: b =>
          obtain ⟨hc, hrest⟩ := List.cons.inj (hx.symm.trans htext)
          exact ⟨b, by rw [hc, (List.cons.inj hrest).1]⟩
      exact movable_of_wrapped hs ha hslash hat hstrip (hx ▸ hleft) (htext.symm.trans hx)
  · intro h
    obtain ⟨b, w, d, rfl, hne, hw, hmax, hd, hrest⟩ := (movable_of_authority hs ha).mp h
    have hat : SchemeAt w (b ++ d) (w ++ ':' :: '/' :: '/' :: (b ++ d)) := ⟨hne, hw, rfl⟩
    have hbs : '/' ∉ b := fun hmem => hslash (by simp [hmem])
    have hleft := leftmost_behind hbs hat hmax
    have hsplit : u.text = ('/' :: '/' :: b) ++ (w ++ ':' :: '/' :: '/' :: (b ++ d)) := by
      rw [htext, hrest]
      simp
    rw [hsplit] at hnl ⊢
    rw [strip_of_leftmost hnl hat hleft, dropWhile_slash hbs, dropWhile_rooted hd, hrest]
    rfl

theorem strip_iff (hu : u.WellFormed) (hne : u.text ≠ []) :
    strip u.text = UriRef.rootPath u.path ++ u.suffix ↔ Movable u := by
  cases hs : u.scheme with
  | some s => exact strip_iff_of_scheme hu hs
  | none =>
    cases ha : u.authority with
    | some a => exact strip_iff_of_authority hu hs ha
    | none => exact strip_iff_of_path hu hs ha hne

theorem Movable.text_ne (h : Movable u) : u.text ≠ [] := by
  cases h with
  | absolute hs _ =>
    rw [UriRef.text_of_scheme hs]
    simp
  | relative _ _ hne => exact hne
  | coincidence hs ha =>
    rw [UriRef.text_of_noScheme hs, UriRef.hierText_of_authority ha]
    simp

/-- The text is a URL at `host`, with the path, the query and the fragment of `u`. Behind the host
a path is rooted. -/
def LeadsTo (u : UriRef) (host loc : String) : Prop :=
  (∃ v : UriRef, v.WellFormed ∧ v.text = loc.toList) ∧
    ∀ v : UriRef, v.WellFormed → v.text = loc.toList → v.scheme ≠ none ∧
      v.authority = some host.toList ∧ v.path = UriRef.rootPath u.path ∧ v.query = u.query ∧
      v.fragment = u.fragment

/-- A text has one reading, so one will do. -/
theorem leadsTo_iff {host loc : String} : LeadsTo u host loc ↔ ∃ scheme,
    (u.relocate scheme host.toList).WellFormed ∧
      (u.relocate scheme host.toList).text = loc.toList := by
  constructor
  · rintro ⟨⟨v, hv, htext⟩, hall⟩
    obtain ⟨hscheme, hauthority, hpath, hquery, hfragment⟩ := hall v hv htext
    obtain ⟨s, hs⟩ := Option.ne_none_iff_exists'.mp hscheme
    have heq : v = u.relocate s host.toList :=
      UriRef.ext hs hauthority hpath hquery hfragment
    exact ⟨s, heq ▸ hv, heq ▸ htext⟩
  · rintro ⟨s, hwf, htext⟩
    refine ⟨⟨_, hwf, htext⟩, fun v hv hloc => ?_⟩
    rw [hv.text_inj hwf (hloc.trans htext.symm)]
    exact ⟨Option.some_ne_none s, rfl, rfl, rfl, rfl⟩

namespace RouterServer

/-- A response of a backend whose location is a URI reference. -/
structure Redirect where
  resp : Response
  ref : UriRef
  wellFormed : ref.WellFormed
  located : resp.header.get "Location" = String.ofList ref.text

variable {r : RouterServer}

theorem handleRedirect_location (m : Redirect) (hne : m.ref.text ≠ []) :
    ((r.handleRedirect m.resp).header.get "Location").toList =
      "http".toList ++ ':' :: '/' :: '/' :: (r.routerHostname.toList ++ strip m.ref.text) := by
  have hloc : m.resp.header.get "Location" ≠ "" := by
    rw [m.located]
    exact fun h => hne (String.ofList_eq_empty_iff.mp h)
  have hreplace : (authority.replaceAll (fun groups => groups.get 1)
      (m.resp.header.get "Location")).toList = strip m.ref.text := by
    rw [m.located, replaceAll, String.toList_ofList, String.length_ofList, String.toList_ofList]
  unfold handleRedirect
  rw [if_pos hloc, Header.get, Header.values_set, List.headD_cons, String.toList_append,
    String.toList_append, hreplace, List.append_assoc]
  rfl

theorem isScheme_http : UriRef.IsScheme "http".toList :=
  ⟨'h', "ttp".toList, rfl, by decide, List.all_eq_true.mp (by decide)⟩

/-- **Where a redirect leads.** -/
theorem handleRedirect_iff (r : RouterServer) (m : Redirect) :
    LeadsTo m.ref r.routerHostname ((r.handleRedirect m.resp).header.get "Location") ↔
      UriRef.IsAuthority r.routerHostname.toList ∧ Movable m.ref := by
  by_cases hne : m.ref.text = []
  · -- an empty header stays empty
    have hloc : m.resp.header.get "Location" = "" := by
      rw [m.located, hne]
    have hsame : r.handleRedirect m.resp = m.resp := if_neg (not_not_intro hloc)
    refine iff_of_false (fun h => ?_) fun h => h.2.text_ne hne
    obtain ⟨s, -, htext⟩ := leadsTo_iff.mp h
    rw [hsame, hloc, UriRef.text_of_scheme rfl] at htext
    exact absurd htext (by simp)
  · rw [leadsTo_iff, handleRedirect_location m hne, ← strip_iff m.wellFormed hne]
    have htext : ∀ s, (m.ref.relocate s r.routerHostname.toList).text = s ++ ':' :: '/' :: '/' ::
        (r.routerHostname.toList ++ (UriRef.rootPath m.ref.path ++ m.ref.suffix)) := by
      intro s
      rw [UriRef.text_of_scheme rfl, UriRef.hierText_of_authority rfl]
      rfl
    constructor
    · rintro ⟨s, hwf, heq⟩
      rw [htext] at heq
      obtain ⟨-, hrest⟩ := Text.delim_inj ((hwf.scheme s rfl).notMem (by decide))
        (isScheme_http.notMem (by decide)) heq
      refine ⟨hwf.authority _ rfl, ?_⟩
      exact (List.append_cancel_left (List.cons.inj (List.cons.inj hrest).2).2).symm
    · rintro ⟨hhost, hstrip⟩
      refine ⟨_, (UriRef.relocate_wellFormed_iff m.wellFormed isScheme_http).mpr hhost, ?_⟩
      rw [htext, hstrip]

/-- A login page that is told where to go on. -/
def loginPage (next : List Char) : UriRef where
  path := "/ui/login".toList
  query := some ("next=".toList ++ next)

theorem loginPage_wellFormed {next : List Char} (h : ∀ c ∈ next, UriRef.queryChar c) :
    (loginPage next).WellFormed where
  scheme := by rintro s ⟨⟩
  authority := by rintro a ⟨⟩
  path := by
    change ∀ c ∈ "/ui/login".toList, UriRef.pathChar c
    exact List.all_eq_true.mp (by decide)
  query := by
    rintro q ⟨⟩ c hc
    have hname : ∀ c ∈ "next=".toList, UriRef.queryChar c := List.all_eq_true.mp (by decide)
    exact (List.mem_append.mp hc).elim (hname c) (h c)
  fragment := by rintro f ⟨⟩
  path_rooted := by rintro a ⟨⟩
  path_single := by
    intro _ p hp
    exact absurd (List.cons.inj (List.cons.inj hp).2).1 (by decide)
  path_noColon := by
    intro _ _ x y hxy
    have hcolon : ':' ∉ "/ui/login".toList := by decide
    have hpath : "/ui/login".toList = x ++ ':' :: y := hxy
    exact absurd (hpath ▸ List.mem_append_right x (List.mem_cons_self ..)) hcolon

def nestedUrl : Redirect where
  resp := { statusCode := 200, header := [("Location", "/ui/login?next=http://trino-1/ui/")] }
  ref := loginPage "http://trino-1/ui/".toList
  wellFormed := loginPage_wellFormed (List.all_eq_true.mp (by decide))
  located := by decide

def gateway : RouterServer := { port := 8080, routerHostname := "gateway" }

/-- The URL in the query loses its host. -/
theorem nestedUrl_cut : UriRef.IsAuthority gateway.routerHostname.toList ∧
    ¬ LeadsTo nestedUrl.ref gateway.routerHostname
      ((gateway.handleRedirect nestedUrl.resp).header.get "Location") := by
  refine ⟨by decide, fun h => ?_⟩
  have hloc : (gateway.handleRedirect nestedUrl.resp).header.get "Location" =
      "http://gateway/ui/login?next=/ui/" := by decide
  rw [hloc] at h
  have hcut : (loginPage "/ui/".toList).WellFormed :=
    loginPage_wellFormed (List.all_eq_true.mp (by decide))
  have hwf : ((loginPage "/ui/".toList).relocate "http".toList "gateway".toList).WellFormed :=
    (UriRef.relocate_wellFormed_iff hcut isScheme_http).mpr (by decide)
  obtain ⟨-, -, -, hquery, -⟩ := h.2 _ hwf (by decide)
  exact absurd hquery (by decide)

end RouterServer

end TrinoGateway
