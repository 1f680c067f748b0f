import Mathlib.Data.List.Basic
import TrinoGateway.Lib.Text

/-!
# URI references

A reference by its components, as the generic syntax has them: `text` puts them together, and
`WellFormed` are the rules under which this text falls apart into the same components again. A
percent sign is taken for the beginning of an encoded octet, whatever follows.

* `text_inj`: a text is that of one reference at most.

`relocate` gives a reference another scheme and authority. Behind an authority a path begins with a
slash, so a path that has none gets one (`rootPath`).
-/

namespace Interact

@[ext]
structure UriRef where
  scheme : Option (List Char) := none
  authority : Option (List Char) := none
  path : List Char := []
  query : Option (List Char) := none
  fragment : Option (List Char) := none
deriving DecidableEq, Repr

namespace UriRef

def schemeChar (c : Char) : Bool := c.isAlphanum || c = '+' || c = '-' || c = '.'

def unreserved (c : Char) : Bool := c.isAlphanum || c = '-' || c = '.' || c = '_' || c = '~'

def subDelim (c : Char) : Bool := "!$&'()*+,;=".toList.contains c

def pchar (c : Char) : Bool := unreserved c || subDelim c || c = '%' || c = ':' || c = '@'

def authorityChar (c : Char) : Bool := pchar c || c = '[' || c = ']'

def pathChar (c : Char) : Bool := pchar c || c = '/'

/-- A character of a query or a fragment. -/
def queryChar (c : Char) : Bool := pathChar c || c = '?'

/-- A scheme begins with a letter. -/
def IsScheme (s : List Char) : Prop := ∃ c cs, s = c :: cs ∧ c.isAlpha ∧ ∀ d ∈ cs, schemeChar d

def IsAuthority (a : List Char) : Prop := ∀ c ∈ a, authorityChar c

instance : DecidablePred IsAuthority := fun _ => List.decidableBAll ..

/-- A path that begins with a slash, or the empty one. -/
def Rooted (p : List Char) : Prop := p = [] ∨ ∃ rest, p = '/' :: rest

structure WellFormed (u : UriRef) : Prop where
  scheme : ∀ s, u.scheme = some s → IsScheme s
  authority : ∀ a, u.authority = some a → IsAuthority a
  path : ∀ c ∈ u.path, pathChar c
  query : ∀ q, u.query = some q → ∀ c ∈ q, queryChar c
  fragment : ∀ f, u.fragment = some f → ∀ c ∈ f, queryChar c
  path_rooted : ∀ a, u.authority = some a → Rooted u.path
  path_single : u.authority = none → ∀ p, u.path ≠ '/' :: '/' :: p
  path_noColon : u.scheme = none → u.authority = none → ∀ x y, u.path = x ++ ':' :: y → '/' ∈ x

variable (u : UriRef)

def schemeText : List Char :=
  match u.scheme with
  | some s => s ++ [':']
  | none => []

def authorityText : List Char :=
  match u.authority with
  | some a => '/' :: '/' :: a
  | none => []

/-- A component that begins with a mark. -/
def marked (mark : Char) : Option (List Char) → List Char
  | some x => mark :: x
  | none => []

/-- The query and the fragment. -/
def suffix : List Char := marked '?' u.query ++ marked '#' u.fragment

/-- What comes after the scheme. -/
def hierText : List Char := u.authorityText ++ (u.path ++ u.suffix)

def text : List Char := u.schemeText ++ u.hierText

def rootPath : List Char → List Char
  | [] => []
  | c :: p => if c = '/' then c :: p else '/' :: c :: p

/-- The same path, query and fragment elsewhere. -/
def relocate (scheme authority : List Char) : UriRef :=
  { u with scheme := some scheme, authority := some authority, path := rootPath u.path }

variable {u}

theorem rooted_rootPath (p : List Char) : Rooted (rootPath p) := by
  cases p with
  | nil => exact Or.inl rfl
  | cons c p =>
    rw [rootPath]
    split
    · rename_i hc
      exact Or.inr ⟨p, by rw [hc]⟩
    · exact Or.inr ⟨c :: p, rfl⟩

theorem rootPath_eq_self_iff {p : List Char} : rootPath p = p ↔ Rooted p := by
  refine ⟨fun h => h ▸ rooted_rootPath p, ?_⟩
  rintro (rfl | ⟨rest, rfl⟩)
  · rfl
  · rw [rootPath, if_pos rfl]

theorem length_le_rootPath (p : List Char) : p.length ≤ (rootPath p).length := by
  cases p with
  | nil => exact Nat.le_refl _
  | cons c p =>
    rw [rootPath]
    split
    · exact Nat.le_refl _
    · exact Nat.le_succ _

theorem text_of_scheme {s : List Char} (h : u.scheme = some s) :
    u.text = s ++ ':' :: u.hierText := by
  simp [text, schemeText, h]

theorem text_of_noScheme (h : u.scheme = none) : u.text = u.hierText := by
  simp [text, schemeText, h]

theorem hierText_of_authority {a : List Char} (h : u.authority = some a) :
    u.hierText = '/' :: '/' :: (a ++ (u.path ++ u.suffix)) := by
  simp [hierText, authorityText, h]

theorem hierText_of_noAuthority (h : u.authority = none) : u.hierText = u.path ++ u.suffix := by
  simp [hierText, authorityText, h]

theorem marked_cons {mark c : Char} {o : Option (List Char)} {x : List Char}
    (h : marked mark o = c :: x) : c = mark ∧ o = some x := by
  cases o with
  | none => cases h
  | some y =>
    obtain ⟨hc, hx⟩ := List.cons.inj h
    exact ⟨hc.symm, congrArg some hx⟩

theorem mem_marked {mark c : Char} {o : Option (List Char)} (h : c ∈ marked mark o) :
    c = mark ∨ ∃ x, o = some x ∧ c ∈ x := by
  cases o with
  | none => cases h
  | some x =>
    rcases List.mem_cons.mp h with rfl | h
    · exact Or.inl rfl
    · exact Or.inr ⟨x, rfl, h⟩

theorem marked_inj {mark : Char} {o o' : Option (List Char)} (h : marked mark o = marked mark o') :
    o = o' := by
  cases o' with
  | some x => exact (marked_cons h).2
  | none =>
    cases o with
    | none => rfl
    | some x => cases h

/-- What the query and the fragment begin with. -/
theorem suffix_cons {c : Char} {x : List Char} (h : u.suffix = c :: x) : c = '?' ∨ c = '#' := by
  unfold suffix at h
  cases hq : u.query with
  | some q =>
    rw [hq] at h
    exact Or.inl (List.cons.inj h).1.symm
  | none =>
    rw [hq] at h
    exact Or.inr (marked_cons h).1

/-- A relocated reference is one, exactly if it gets an authority. -/
theorem relocate_wellFormed_iff (h : u.WellFormed) {scheme authority : List Char}
    (hs : IsScheme scheme) : (u.relocate scheme authority).WellFormed ↔ IsAuthority authority := by
  refine ⟨fun h' => h'.authority _ rfl, fun ha => ?_⟩
  refine ⟨?_, ?_, ?_, h.query, h.fragment, ?_, ?_, ?_⟩
  · rintro s ⟨⟩
    exact hs
  · rintro a ⟨⟩
    exact ha
  · intro c hc
    have hmem : c ∈ u.path ∨ c = '/' := by
      change c ∈ rootPath u.path at hc
      cases hp : u.path with
      | nil =>
        rw [hp] at hc
        cases hc
      | cons d p =>
        rw [hp, rootPath] at hc
        split at hc
        · exact Or.inl hc
        · exact (List.mem_cons.mp hc).symm
    rcases hmem with hmem | rfl
    · exact h.path c hmem
    · decide
  · exact fun _ _ => rooted_rootPath _
  · rintro ⟨⟩
  · rintro ⟨⟩

theorem WellFormed.newline_notMem (h : u.WellFormed) : '\n' ∉ u.text := by
  have hscheme : '\n' ∉ u.schemeText := by
    intro hmem
    unfold schemeText at hmem
    split at hmem
    · rename_i s hs
      obtain ⟨c, cs, rfl, hc, hcs⟩ := h.scheme s hs
      rcases List.mem_append.mp hmem with hmem | hmem
      · rcases List.mem_cons.mp hmem with rfl | hmem
        · exact absurd hc (by decide)
        · exact absurd (hcs _ hmem) (by decide)
      · exact absurd (List.mem_singleton.mp hmem) (by decide)
    · cases hmem
  have hauthority : '\n' ∉ u.authorityText := by
    intro hmem
    unfold authorityText at hmem
    split at hmem
    · rename_i a ha
      simp only [List.mem_cons, Char.reduceEq, false_or] at hmem
      exact absurd (h.authority a ha _ hmem) (by decide)
    · cases hmem
  have hpath : '\n' ∉ u.path := fun hmem => absurd (h.path _ hmem) (by decide)
  have hsuffix : '\n' ∉ u.suffix := by
    intro hmem
    rcases List.mem_append.mp hmem with hmem | hmem
    · rcases mem_marked hmem with hc | ⟨q, hq, hmem⟩
      · exact absurd hc (by decide)
      · exact absurd (h.query q hq _ hmem) (by decide)
    · rcases mem_marked hmem with hc | ⟨f, hf, hmem⟩
      · exact absurd hc (by decide)
      · exact absurd (h.fragment f hf _ hmem) (by decide)
  simp only [text, hierText, List.mem_append, hscheme, hauthority, hpath, hsuffix, or_self,
    not_false_eq_true]

theorem IsAuthority.slash_notMem {a : List Char} (h : IsAuthority a) : '/' ∉ a :=
  fun hmem => absurd (h _ hmem) (by decide)

theorem IsScheme.notMem {s : List Char} (h : IsScheme s) {c : Char} (hc : schemeChar c = false) :
    c ∉ s := by
  obtain ⟨d, cs, rfl, hd, hcs⟩ := h
  intro hmem
  rcases List.mem_cons.mp hmem with rfl | hmem
  · have halpha : schemeChar c = true := by simp [schemeChar, Char.isAlphanum, hd]
    exact absurd (hc.symm.trans halpha) (by decide)
  · exact absurd (hc.symm.trans (hcs c hmem)) (by decide)

/-- Without a scheme, no colon comes before the other delimiters. -/
theorem WellFormed.colon (hu : u.WellFormed) (hs : u.scheme = none) {x y : List Char}
    (h : u.text = x ++ ':' :: y) : '/' ∈ x ∨ '?' ∈ x ∨ '#' ∈ x := by
  rw [text_of_noScheme hs] at h
  cases ha : u.authority with
  | some a =>
    rw [hierText_of_authority ha] at h
    cases x with
    | nil => exact absurd (List.cons.inj h).1 (by decide)
    | cons c x =>
      rw [← (List.cons.inj h).1]
      exact Or.inl (List.mem_cons_self ..)
  | none =>
    rw [hierText_of_noAuthority ha] at h
    rcases List.append_eq_append_iff.mp h with ⟨w, rfl, hw⟩ | ⟨w, hp, hw⟩
    · -- the colon is in the query or the fragment
      cases w with
      | nil => exact absurd (suffix_cons hw) (by decide)
      | cons c w =>
        rcases suffix_cons hw with rfl | rfl <;> simp
    · cases w with
      | nil => exact absurd (suffix_cons hw.symm) (by decide)
      | cons c w =>
        obtain ⟨rfl, -⟩ := List.cons.inj hw
        exact Or.inl (hu.path_noColon hs ha x w hp)

/-- Without an authority, no two slashes come first. -/
theorem WellFormed.path_suffix_ne (hu : u.WellFormed) (ha : u.authority = none) {z : List Char} :
    u.path ++ u.suffix ≠ '/' :: '/' :: z := by
  intro h
  have hslash : ∀ {x}, u.suffix ≠ '/' :: x := fun hx => absurd (suffix_cons hx) (by decide)
  match hp : u.path with
  | [] =>
    rw [hp] at h
    exact hslash h
  | [c] =>
    rw [hp] at h
    exact hslash (List.cons.inj h).2
  | c :: d :: p =>
    rw [hp] at h
    obtain ⟨hc, h⟩ := List.cons.inj h
    obtain ⟨hd, -⟩ := List.cons.inj h
    exact hu.path_single ha p (by rw [hp, hc, hd])

theorem noScheme_text_ne (hu : u.WellFormed) (hs : u.scheme = none) {s x : List Char}
    (hscheme : IsScheme s) : u.text ≠ s ++ ':' :: x := by
  intro h
  rcases hu.colon hs h with hmem | hmem | hmem
  · exact hscheme.notMem (by decide) hmem
  · exact hscheme.notMem (by decide) hmem
  · exact hscheme.notMem (by decide) hmem

variable {v : UriRef}

theorem scheme_inj (hu : u.WellFormed) (hv : v.WellFormed) (h : u.text = v.text) :
    u.scheme = v.scheme ∧ u.hierText = v.hierText := by
  cases hs : u.scheme with
  | none =>
    cases ht : v.scheme with
    | none =>
      rw [text_of_noScheme hs, text_of_noScheme ht] at h
      exact ⟨rfl, h⟩
    | some t =>
      rw [text_of_scheme ht] at h
      exact absurd h (noScheme_text_ne hu hs (hv.scheme t ht))
  | some s =>
    cases ht : v.scheme with
    | none =>
      rw [text_of_scheme hs] at h
      exact absurd h.symm (noScheme_text_ne hv ht (hu.scheme s hs))
    | some t =>
      rw [text_of_scheme hs, text_of_scheme ht] at h
      obtain ⟨hst, hrest⟩ := Text.delim_inj ((hu.scheme s hs).notMem (by decide))
        ((hv.scheme t ht).notMem (by decide)) h
      exact ⟨congrArg some hst, hrest⟩

theorem authority_inj (hu : u.WellFormed) (hv : v.WellFormed) (h : u.hierText = v.hierText) :
    u.authority = v.authority ∧ u.path ++ u.suffix = v.path ++ v.suffix := by
  have hstop : ∀ {w : UriRef} {a}, w.WellFormed → w.authority = some a →
      ∀ c t, w.path ++ w.suffix = c :: t → ¬ authorityChar c := by
    intro w a hw ha c t hct
    rcases hw.path_rooted a ha with hp | ⟨p, hp⟩
    · rw [hp, List.nil_append] at hct
      rcases suffix_cons hct with rfl | rfl <;> decide
    · rw [hp] at hct
      obtain ⟨rfl, -⟩ := List.cons.inj hct
      decide
  cases ha : u.authority with
  | none =>
    rw [hierText_of_noAuthority ha] at h
    cases hb : v.authority with
    | none =>
      rw [hierText_of_noAuthority hb] at h
      exact ⟨rfl, h⟩
    | some b =>
      rw [hierText_of_authority hb] at h
      exact absurd h (hu.path_suffix_ne ha)
  | some a =>
    rw [hierText_of_authority ha] at h
    cases hb : v.authority with
    | none =>
      rw [hierText_of_noAuthority hb] at h
      exact absurd h.symm (hv.path_suffix_ne hb)
    | some b =>
      rw [hierText_of_authority hb] at h
      obtain ⟨hab, hrest⟩ := Text.span_inj (hu.authority a ha) (hv.authority b hb) (hstop hu ha)
        (hstop hv hb) (List.cons.inj (List.cons.inj h).2).2
      exact ⟨congrArg some hab, hrest⟩

theorem path_inj (hu : u.WellFormed) (hv : v.WellFormed)
    (h : u.path ++ u.suffix = v.path ++ v.suffix) : u.path = v.path ∧ u.suffix = v.suffix := by
  have hstop : ∀ {w : UriRef}, ∀ c t, w.suffix = c :: t → ¬ pathChar c := by
    intro w c t hct
    rcases suffix_cons hct with rfl | rfl <;> decide
  exact Text.span_inj hu.path hv.path hstop hstop h

theorem suffix_inj (hu : u.WellFormed) (hv : v.WellFormed) (h : u.suffix = v.suffix) :
    u.query = v.query ∧ u.fragment = v.fragment := by
  unfold suffix at h
  have hhash : ∀ {o : Option (List Char)} {c t}, marked '#' o = c :: t → ¬ queryChar c := by
    intro o c t hct
    rw [(marked_cons hct).1]
    decide
  have hmark : ∀ {o : Option (List Char)} {x}, '?' :: x ≠ marked '?' none ++ marked '#' o := by
    intro o x hx
    exact absurd (marked_cons hx.symm).1 (by decide)
  cases hq : u.query with
  | none =>
    cases hq' : v.query with
    | none =>
      rw [hq, hq'] at h
      exact ⟨rfl, marked_inj h⟩
    | some q' =>
      rw [hq, hq'] at h
      exact absurd h.symm hmark
  | some q =>
    cases hq' : v.query with
    | none =>
      rw [hq, hq'] at h
      exact absurd h hmark
    | some q' =>
      rw [hq, hq'] at h
      obtain ⟨hqq, hff⟩ := Text.span_inj (hu.query q hq) (hv.query q' hq') (fun _ _ => hhash)
        (fun _ _ => hhash) (List.cons.inj h).2
      exact ⟨congrArg some hqq, marked_inj hff⟩

/-- **A text is that of one reference at most.** -/
theorem WellFormed.text_inj (hu : u.WellFormed) (hv : v.WellFormed) (h : u.text = v.text) :
    u = v := by
  obtain ⟨hscheme, hrest⟩ := scheme_inj hu hv h
  obtain ⟨hauthority, hrest⟩ := authority_inj hu hv hrest
  obtain ⟨hpath, hrest⟩ := path_inj hu hv hrest
  obtain ⟨hquery, hfragment⟩ := suffix_inj hu hv hrest
  exact UriRef.ext hscheme hauthority hpath hquery hfragment

end UriRef

end Interact
