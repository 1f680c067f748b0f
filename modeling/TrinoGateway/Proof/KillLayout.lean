import TrinoGateway.Proof.KillPatterns
import TrinoGateway.Spec.KillCall

/-!
# Where a place can begin

In the text of a call the second pattern reads a place at the call's own query id, or in what is
left to the writer: a comment, the message, the id itself. `Barren` says of a word that no place
begins in it, and `NoPlace` of the code among pieces.
-/

namespace TrinoGateway

open Interact Regex Sql

variable {t x y rest : List Char} {c d : Char}

theorem spaces_cons {w : List Char} : Spaces (c :: w) ↔ c = ' ' ∧ Spaces w :=
  List.forall_mem_cons

/-- What a place begins with. -/
theorem IdPlace.cases (h : IdPlace t) :
    (∃ kill sp sp' y, Quotable "kill_query" kill ∧ Spaces sp ∧ Spaces sp' ∧
      t = kill ++ (sp ++ '(' :: (sp' ++ '\'' :: y))) ∨
    ∃ sp y, Spaces sp ∧ t = "query_id".toList ++ (sp ++ '=' :: y) := by
  obtain ⟨id, w, rest, rfl, ⟨kill, sp, q, hkill, hsp, ⟨-, sp', hsp', rfl⟩, rfl⟩ |
    ⟨sp, q, hsp, -, rfl⟩⟩ := h
  · exact Or.inl ⟨kill, sp, sp', id ++ ['\''] ++ rest, hkill, hsp, hsp', by simp⟩
  · exact Or.inr ⟨sp, '>' :: q ++ rest, hsp, by simp⟩

theorem kill_query_cons : "kill_query".toList = 'k' :: "ill_query".toList := by decide

theorem query_id_cons : "query_id".toList = 'q' :: "uery_id".toList := by decide

theorem IdPlace.ne_nil (h : IdPlace t) : t ≠ [] := by
  rcases h.cases with ⟨kill, sp, sp', y, -, -, -, rfl⟩ | ⟨sp, y, -, rfl⟩
  all_goals simp

/-- A character that no place begins with. -/
def Dull (c : Char) : Prop := c ≠ 'k' ∧ c ≠ 'q' ∧ c ≠ '"'

instance (c : Char) : Decidable (Dull c) :=
  inferInstanceAs (Decidable (c ≠ 'k' ∧ c ≠ 'q' ∧ c ≠ '"'))

def DullWord (w : List Char) : Prop := ∀ c ∈ w, Dull c

instance (w : List Char) : Decidable (DullWord w) :=
  decidable_of_iff (w.all (fun c => decide (Dull c)) = true) (by simp [DullWord])

theorem Dull.not_idPlace (hc : Dull c) : ¬ IdPlace (c :: x) := by
  intro h
  rcases h.cases with ⟨kill, sp, sp', y, rfl | rfl, -, -, ht⟩ | ⟨sp, y, -, ht⟩
  · rw [kill_query_cons] at ht
    exact hc.1 (List.cons.inj ht).1
  · exact hc.2.2 (List.cons.inj ht).1
  · rw [query_id_cons] at ht
    exact hc.2.1 (List.cons.inj ht).1

/-- After a double quote there is the name of the procedure. -/
theorem IdPlace.of_quote (h : IdPlace ('"' :: x)) : ∃ y, x = 'k' :: y := by
  rcases h.cases with ⟨kill, sp, sp', y, rfl | rfl, -, -, ht⟩ | ⟨sp, y, -, ht⟩
  · rw [kill_query_cons] at ht
    exact absurd (List.cons.inj ht).1 (by decide)
  · rw [kill_query_cons] at ht
    exact ⟨_, (List.cons.inj ht).2⟩
  · rw [query_id_cons] at ht
    exact absurd (List.cons.inj ht).1 (by decide)

/-- After the bare name of the procedure there is a space or the parenthesis. -/
theorem IdPlace.of_kill (h : IdPlace ("kill_query".toList ++ d :: x)) : d = ' ' ∨ d = '(' := by
  rcases h.cases with ⟨kill, sp, sp', y, hkill, hsp, -, ht⟩ | ⟨sp, y, -, ht⟩
  · obtain ⟨-, hrest⟩ := Quotable.inj (Or.inl rfl) hkill ht
    cases sp with
    | nil => exact Or.inr (List.cons.inj hrest).1
    | cons c sp => exact Or.inl ((List.cons.inj hrest).1.trans (spaces_cons.mp hsp).1)
  · rw [kill_query_cons, query_id_cons] at ht
    exact absurd (List.cons.inj ht).1 (by decide)

/-- A place that begins with a `q` has the name of the argument, and a space or the arrow. -/
theorem IdPlace.of_q (h : IdPlace ('q' :: x)) :
    ∃ d y, x = "uery_id".toList ++ d :: y ∧ (d = ' ' ∨ d = '=') := by
  rcases h.cases with ⟨kill, sp, sp', y, rfl | rfl, -, -, ht⟩ | ⟨sp, y, hsp, ht⟩
  · rw [kill_query_cons] at ht
    exact absurd (List.cons.inj ht).1 (by decide)
  · exact absurd (List.cons.inj ht).1 (by decide)
  · rw [query_id_cons] at ht
    have hx := (List.cons.inj ht).2
    cases sp with
    | nil => exact ⟨'=', y, hx, Or.inr rfl⟩
    | cons c sp =>
      obtain ⟨rfl, -⟩ := spaces_cons.mp hsp
      exact ⟨' ', _, hx, Or.inl rfl⟩

/-- No place begins in `x`, where `rest` follows. -/
def Barren (x rest : List Char) : Prop := ∀ u, u <:+ x → u ≠ [] → ¬ IdPlace (u ++ rest)

theorem barren_nil : Barren [] rest :=
  fun _ hu hne => absurd (List.suffix_nil.mp hu) hne

theorem barren_cons : Barren (c :: x) rest ↔ ¬ IdPlace (c :: (x ++ rest)) ∧ Barren x rest := by
  constructor
  · intro h
    refine ⟨h (c :: x) List.suffix_rfl (List.cons_ne_nil c x), fun u hu => ?_⟩
    exact h u (hu.trans (List.suffix_cons c x))
  · rintro ⟨hc, hx⟩ u hu hne
    rcases List.suffix_cons_iff.mp hu with rfl | hu
    · exact hc
    · exact hx u hu hne

theorem barren_append :
    Barren (x ++ y) rest ↔ Barren x (y ++ rest) ∧ Barren y rest := by
  induction x with
  | nil => simp [barren_nil]
  | cons c x ih => rw [List.cons_append, barren_cons, barren_cons, ih, List.append_assoc, and_assoc]

theorem barren_of_dull (hx : DullWord x) : Barren x rest := by
  induction x with
  | nil => exact barren_nil
  | cons c x ih =>
    obtain ⟨hc, hx⟩ := List.forall_mem_cons.mp hx
    exact barren_cons.mpr ⟨hc.not_idPlace, ih hx⟩

/-- A gap with nothing but spaces before a token, as the text has it, consists of spaces. -/
theorem Sql.Gap.spaces_of_append {g : Gap} {sp x y : List Char} {d e : Char} (hsp : Spaces sp)
    (hd : d ≠ ' ') (he : e ∉ [' ', '\t', '\n', '\r', '-', '/'])
    (h : g.text ++ d :: x = sp ++ e :: y) : Spaces g.text ∧ d = e ∧ x = y := by
  simp only [List.mem_cons, List.not_mem_nil, or_false, not_or] at he
  induction g generalizing sp with
  | nil =>
    cases sp with
    | nil => exact ⟨hsp, List.cons.inj h⟩
    | cons c sp => exact absurd ((List.cons.inj h).1.trans (spaces_cons.mp hsp).1) hd
  | cons b g ih =>
    rw [Gap.text_cons, List.append_assoc] at h
    cases sp with
    | nil =>
      exfalso
      cases b with
      | white c hc =>
        obtain rfl : c = e := (List.cons.inj h).1
        rcases hc with rfl | rfl | rfl | rfl <;> simp at he
      | line body stop hbody hstop => exact he.2.2.2.2.1 (List.cons.inj h).1.symm
      | block body hbody => exact he.2.2.2.2.2 (List.cons.inj h).1.symm
    | cons c sp =>
      obtain ⟨rfl, hsp'⟩ := spaces_cons.mp hsp
      cases b with
      | white c hc =>
        obtain ⟨rfl, hrest⟩ := List.cons.inj h
        obtain ⟨hg, hrest⟩ := ih hsp' hrest
        exact ⟨spaces_cons.mpr ⟨rfl, hg⟩, hrest⟩
      | line body stop hbody hstop => exact absurd (List.cons.inj h).1 (by decide)
      | block body hbody => exact absurd (List.cons.inj h).1 (by decide)

/-- A bare identifier that the text has in lower case. -/
theorem bare_eq {w : String} {cs x y : List Char} (hcs : cs.map Char.toLower = w.toList)
    (h : cs ++ x = w.toList ++ y) : cs = w.toList ∧ x = y :=
  List.append_inj h (by rw [← hcs, List.length_map])

/-- A bare identifier begins with its first letter, in some case. -/
theorem bare_head {w : String} {cs x y : List Char} {d : Char}
    (hcs : cs.map Char.toLower = w.toList) (hw : w ≠ "") (h : cs ++ x = d :: y) :
    w.toList.head? = some d.toLower := by
  rw [← hcs]
  cases cs with
  | nil => exact absurd (String.toList_eq_nil_iff.mp hcs.symm) hw
  | cons b cs =>
    obtain ⟨rfl, -⟩ := List.cons.inj h
    rfl

theorem quotable_of_append {name : Ident "kill_query"} {kill x y : List Char}
    (hkill : Quotable "kill_query" kill) (h : name.text ++ x = kill ++ y) :
    Quotable "kill_query" name.text ∧ x = y := by
  cases name with
  | bare cs hcs =>
    rcases hkill with rfl | rfl
    · obtain ⟨hcs, hxy⟩ := bare_eq hcs h
      exact ⟨Or.inl hcs, hxy⟩
    · exact absurd (bare_head hcs (by decide) h) (by decide)
  | quoted => exact Quotable.inj (Or.inr rfl) hkill h |>.imp_left fun _ => Or.inr rfl

theorem query_of_append {name : Ident "query_id"} {x y : List Char}
    (h : name.text ++ x = "query_id".toList ++ y) : name.text = "query_id".toList ∧ x = y := by
  cases name with
  | bare cs hcs => exact bare_eq hcs h
  | quoted => simp [Ident.text] at h

/-- The two names do not begin alike. -/
theorem name_ne {name : Ident "kill_query"} {x y : List Char} :
    name.text ++ x ≠ "query_id".toList ++ y := by
  intro h
  cases name with
  | bare cs hcs => exact absurd (bare_head (d := 'q') hcs (by decide) h) (by decide)
  | quoted => simp [Ident.text] at h

theorem quotable_ne {name : Ident "query_id"} {kill x y : List Char}
    (hkill : Quotable "kill_query" kill) : name.text ++ x ≠ kill ++ y := by
  intro h
  cases name with
  | bare cs hcs =>
    rcases hkill with rfl | rfl
    · exact absurd (bare_head (d := 'k') hcs (by decide) h) (by decide)
    · exact absurd (bare_head hcs (by decide) h) (by decide)
  | quoted => rcases hkill with rfl | rfl <;> simp [Ident.text] at h

theorem Sql.Gap.ne_cons {g : Gap} (hd : d ≠ ' ') (hdc : d ≠ c)
    (hc : c ∉ [' ', '\t', '\n', '\r', '-', '/']) : g.text ++ d :: x ≠ c :: y := by
  intro h
  have hnil : Spaces [] := fun _ hb => by cases hb
  exact hdc (Gap.spaces_of_append hnil hd hc h).2.1

theorem dull_of_lower {cs w : List Char} (hcs : cs.map Char.toLower = w)
    (hw : DullWord w) : DullWord cs := by
  intro c hc
  have hl : Dull c.toLower := hw _ (hcs ▸ List.mem_map_of_mem hc)
  refine ⟨?_, ?_, ?_⟩
  all_goals
    rintro rfl
    exact absurd hl (by decide)

theorem barren_quote (hrest : ∀ y, rest ≠ 'k' :: y) : Barren ['"'] rest := by
  refine barren_cons.mpr ⟨fun h => ?_, barren_nil⟩
  obtain ⟨y, hy⟩ := h.of_quote
  exact hrest y hy

/-- No place begins in a name of dull letters. -/
theorem barren_name {w : String} (hw : DullWord w.toList) (hne : w ≠ "") (name : Ident w)
    (hrest : ∀ y, rest ≠ 'k' :: y) : Barren name.text rest := by
  cases name with
  | bare cs hcs => exact barren_of_dull (dull_of_lower hcs hw)
  | quoted =>
    refine barren_append (x := '"' :: w.toList) |>.mpr ⟨?_, barren_quote hrest⟩
    refine barren_cons.mpr ⟨fun h => ?_, barren_of_dull hw⟩
    obtain ⟨y, hy⟩ := h.of_quote
    cases hl : w.toList with
    | nil => exact hne (String.toList_eq_nil_iff.mp hl)
    | cons l ls =>
      rw [hl] at hy hw
      exact (hw l (List.mem_cons_self ..)).1 (List.cons.inj hy).1

theorem kill_query_split :
    "kill_query".toList = 'k' :: ("ill_".toList ++ 'q' :: "uery".toList) := by
  decide

/-- A `q` before other letters than those of `query_id` begins no place. -/
theorem not_idPlace_q {us : List Char} (hus : us.map Char.toLower = "uery".toList)
    (hrest : ∀ y, rest ≠ '_' :: y) : ¬ IdPlace ('q' :: (us ++ rest)) := by
  intro h
  obtain ⟨d, y, hq, -⟩ := h.of_q
  have hsplit : "uery_id".toList = "uery".toList ++ '_' :: "id".toList := by decide
  rw [hsplit, List.append_assoc] at hq
  exact hrest _ (bare_eq hus hq).2

/-- Within the name of the procedure no place begins. -/
theorem kill_tail (name : Ident "kill_query") (hk : ∀ y, rest ≠ 'k' :: y)
    (hrest : ∀ y, rest ≠ '_' :: y) : ∃ c x, name.text = c :: x ∧ Barren x rest := by
  have hill : DullWord "ill_".toList := by decide
  have huery : DullWord "uery".toList := by decide
  cases name with
  | bare cs hcs =>
    -- the q in the middle is the one letter at which a place could begin
    rw [kill_query_split] at hcs
    obtain ⟨c, x, rfl, -, hx⟩ := List.map_eq_cons_iff.mp hcs
    obtain ⟨as, bs, rfl, has, hbs⟩ := List.map_eq_append_iff.mp hx
    obtain ⟨d, us, rfl, hd, hus⟩ := List.map_eq_cons_iff.mp hbs
    refine ⟨c, as ++ d :: us, rfl, barren_append.mpr ⟨barren_of_dull (dull_of_lower has hill), ?_⟩⟩
    refine barren_cons.mpr ⟨?_, barren_of_dull (dull_of_lower hus huery)⟩
    by_cases hq : d = 'q'
    · rw [hq]
      exact not_idPlace_q hus hrest
    · refine Dull.not_idPlace ⟨?_, hq, ?_⟩
      all_goals
        rintro rfl
        exact absurd hd (by decide)
  | quoted =>
    refine ⟨'"', "kill_query".toList ++ ['"'], rfl, barren_append.mpr ⟨?_, barren_quote hk⟩⟩
    rw [kill_query_split]
    refine barren_cons.mpr ⟨fun h => ?_, barren_append.mpr ⟨barren_of_dull hill, ?_⟩⟩
    · rw [← List.cons_append, ← kill_query_split] at h
      rcases h.of_kill with h | h
      all_goals exact absurd h (by decide)
    · refine barren_cons.mpr ⟨?_, barren_of_dull huery⟩
      exact not_idPlace_q (by decide) fun y h => absurd (List.cons.inj h).1 (by decide)

/-- Within the name of the argument no place begins. -/
theorem query_tail (name : Ident "query_id") (hk : ∀ y, rest ≠ 'k' :: y) :
    ∃ c x, name.text = c :: x ∧ Barren x rest := by
  have huery : DullWord "uery_id".toList := by decide
  cases name with
  | bare cs hcs =>
    rw [query_id_cons] at hcs
    obtain ⟨c, x, rfl, -, hx⟩ := List.map_eq_cons_iff.mp hcs
    exact ⟨c, x, rfl, barren_of_dull (dull_of_lower hx huery)⟩
  | quoted =>
    refine ⟨'"', "query_id".toList ++ ['"'], rfl, barren_append.mpr ⟨?_, barren_quote hk⟩⟩
    rw [query_id_cons]
    refine barren_cons.mpr ⟨fun h => ?_, barren_of_dull huery⟩
    obtain ⟨d, y, hq, hd⟩ := h.of_q
    obtain ⟨rfl, -⟩ := List.cons.inj (List.append_cancel_left hq)
    rcases hd with h | h
    all_goals exact absurd h (by decide)

/-- The name of the procedure is no place where a name follows the parenthesis. -/
theorem kill_not_idPlace {name : Ident "kill_query"} {g g' : Gap} (hd : d ≠ ' ')
    (hquote : d ≠ '\'') : ¬ IdPlace (name.text ++ (g.text ++ '(' :: (g'.text ++ d :: x))) := by
  intro h
  rcases h.cases with ⟨kill, sp, sp', y, hkill, hsp, hsp', ht⟩ | ⟨sp, y, -, ht⟩
  · obtain ⟨-, ht⟩ := quotable_of_append hkill ht
    obtain ⟨-, -, ht⟩ := Gap.spaces_of_append hsp (by decide) (by decide) ht
    exact hquote (Gap.spaces_of_append hsp' hd (by decide) ht).2.1
  · exact absurd ht name_ne

/-- Nor is there one in it. -/
theorem barren_kill {name : Ident "kill_query"} {g g' : Gap} (hd : d ≠ ' ') (hquote : d ≠ '\'') :
    Barren name.text (g.text ++ '(' :: (g'.text ++ d :: x)) := by
  have hstart : ¬ IdPlace (name.text ++ (g.text ++ '(' :: (g'.text ++ d :: x))) :=
    kill_not_idPlace hd hquote
  obtain ⟨c, u, hname, hu⟩ : ∃ c u, name.text = c :: u ∧
      Barren u (g.text ++ '(' :: (g'.text ++ d :: x)) :=
    kill_tail name (fun y => Gap.ne_cons (by decide) (by decide) (by decide))
      fun y => Gap.ne_cons (by decide) (by decide) (by decide)
  rw [hname] at hstart ⊢
  exact barren_cons.mpr ⟨hstart, hu⟩

/-- A name begins neither with a space nor with the quote of a literal. -/
theorem Sql.Ident.text_cons {w : String} (hw : w ≠ "") (hspace : w.toList.head? ≠ some ' ')
    (hquote : w.toList.head? ≠ some '\'') (name : Ident w) :
    ∃ d x, name.text = d :: x ∧ d ≠ ' ' ∧ d ≠ '\'' := by
  cases name with
  | bare cs hcs =>
    cases cs with
    | nil => exact absurd (String.toList_eq_nil_iff.mp hcs.symm) hw
    | cons d x =>
      have hd : w.toList.head? = some d.toLower :=
        bare_head (x := []) hcs hw (List.append_nil _)
      refine ⟨d, x, rfl, ?_, ?_⟩
      · rintro rfl
        exact hspace hd
      · rintro rfl
        exact hquote hd
  | quoted => exact ⟨'"', _, rfl, by decide, by decide⟩

/-- No place begins in the code of `ps`, where `rest` follows. -/
def NoPlace : List Piece → List Char → Prop
  | [], _ => True
  | .code x :: ps, rest => Barren x (written ps ++ rest) ∧ NoPlace ps rest
  | .free _ :: ps, rest => NoPlace ps rest

theorem noPlace_append {ps qs : List Piece} :
    NoPlace (ps ++ qs) rest ↔ NoPlace ps (written qs ++ rest) ∧ NoPlace qs rest := by
  induction ps with
  | nil => simp [NoPlace]
  | cons p ps ih =>
    cases p with
    | code x =>
      simp only [List.cons_append, NoPlace, written_append, List.append_assoc, ih, and_assoc]
    | free x => exact ih

theorem suffix_append_cases {u v : List Char} (h : t <:+ u ++ v) :
    t <:+ v ∨ ∃ w, w ≠ [] ∧ w <:+ u ∧ t = w ++ v := by
  rcases List.suffix_or_suffix_of_suffix h (List.suffix_append u v) with ht | ⟨w, rfl⟩
  · exact Or.inl ht
  · cases w with
    | nil => exact Or.inl List.suffix_rfl
    | cons c w =>
      exact Or.inr ⟨c :: w, List.cons_ne_nil c w, List.suffix_append_self_iff.mp h, rfl⟩

/-- `t` begins in a free piece of `ps`, where `rest` follows. -/
def BeginsFree (ps : List Piece) (rest t : List Char) : Prop :=
  ∃ before x after u, ps = before ++ .free x :: after ∧ u ≠ [] ∧ u <:+ x ∧
    t = u ++ (written after ++ rest)

theorem BeginsFree.append_right {ps : List Piece} (qs : List Piece) (h : BeginsFree ps rest t) :
    BeginsFree (qs ++ ps) rest t := by
  obtain ⟨before, x, after, u, rfl, hu⟩ := h
  exact ⟨qs ++ before, x, after, u, (List.append_assoc ..).symm, hu⟩

theorem BeginsFree.append_left {ps qs : List Piece} (h : BeginsFree ps (written qs ++ rest) t) :
    BeginsFree (ps ++ qs) rest t := by
  obtain ⟨before, x, after, u, rfl, hne, hu, rfl⟩ := h
  refine ⟨before, x, after ++ qs, u, by rw [List.append_assoc, List.cons_append], hne, hu, ?_⟩
  rw [written_append, List.append_assoc]

theorem BeginsFree.of_code {ps : List Piece} (h : BeginsFree (.code x :: ps) rest t) :
    BeginsFree ps rest t := by
  obtain ⟨before, y, after, u, heq, hu⟩ := h
  cases before with
  | nil => cases (List.cons.inj heq).1
  | cons p before => exact ⟨before, y, after, u, (List.cons.inj heq).2, hu⟩

theorem NoPlace.beginsFree {ps : List Piece} (h : NoPlace ps rest) (ht : t <:+ written ps ++ rest)
    (hlen : rest.length < t.length) (hplace : IdPlace t) : BeginsFree ps rest t := by
  induction ps with
  | nil => exact absurd ht.length_le (not_le.mpr hlen)
  | cons p ps ih =>
    cases p with
    | code x =>
      rw [written_code, List.append_assoc] at ht
      rcases suffix_append_cases ht with ht | ⟨u, hne, hu, rfl⟩
      · exact (ih h.2 ht).append_right [.code x]
      · exact absurd hplace (h.1 u hu hne)
    | free x =>
      rw [written_free, List.append_assoc] at ht
      rcases suffix_append_cases ht with ht | ⟨u, hne, hu, rfl⟩
      · exact (ih h ht).append_right [.free x]
      · exact ⟨[], x, ps, u, rfl, hne, hu, rfl⟩

theorem noPlace_gap (g : Gap) : NoPlace g.pieces rest := by
  induction g with
  | nil => trivial
  | cons b g ih =>
    refine noPlace_append.mpr ⟨?_, ih⟩
    cases b with
    | white c h =>
      refine ⟨barren_of_dull ?_, trivial⟩
      rcases h with rfl | rfl | rfl | rfl
      all_goals decide
    | line body stop hbody hstop =>
      refine ⟨barren_of_dull (by decide), barren_of_dull ?_, trivial⟩
      rcases hstop with rfl | rfl
      all_goals decide
    | block body h => exact ⟨barren_of_dull (by decide), barren_of_dull (by decide), trivial⟩

theorem noPlace_code {ps : List Piece} (hx : DullWord x) (h : NoPlace ps rest) :
    NoPlace (.code x :: ps) rest :=
  ⟨barren_of_dull hx, h⟩

theorem noPlace_literal {v : List Char} : NoPlace (literal v) rest :=
  ⟨barren_of_dull (by decide), barren_of_dull (by decide), trivial⟩

theorem noPlace_value {α : Type} {write : α → List Piece} {v : Value α}
    (h : ∀ rest, NoPlace (write v.value) rest) : NoPlace (v.pieces write) rest := by
  rw [Value.pieces, noPlace_append, noPlace_append]
  exact ⟨⟨noPlace_gap _, h _⟩, noPlace_gap _⟩

theorem noPlace_tail {w : String} {α : Type} {write : α → List Piece} {a : Named w α}
    (h : ∀ rest, NoPlace (write a.value.value) rest) : NoPlace (a.tail write) rest := by
  rw [Named.tail, noPlace_append]
  exact ⟨noPlace_gap _, noPlace_code (by decide) (noPlace_value h)⟩

/-- After a name and before an arrow there is no letter. -/
theorem tail_ne {w : String} {α : Type} {write : α → List Piece} {a : Named w α} {y : List Char} :
    written (a.tail write) ++ rest ≠ 'k' :: y := by
  simp only [Named.tail, written_append, written_code, Gap.written_pieces, List.append_assoc,
    List.cons_append]
  exact Gap.ne_cons (by decide) (by decide) (by decide)

theorem noPlace_message {α : Type} {write : α → List Piece} {a : Named "message" α}
    (h : ∀ rest, NoPlace (write a.value.value) rest) : NoPlace (a.pieces write) rest := by
  rw [Named.pieces, noPlace_append]
  exact ⟨noPlace_gap _, barren_name (by decide) (by decide) _ fun _ => tail_ne, noPlace_tail h⟩

theorem noPlace_rest {α : Type} {write : α → List Piece} {m : Option α}
    (h : ∀ a rest, NoPlace (write a) rest) : NoPlace (Args.rest write m) rest := by
  cases m with
  | none => trivial
  | some a => exact noPlace_code (by decide) (h a _)

theorem dot_ne {d : Dot} {y : List Char} : written d.pieces ++ rest ≠ 'k' :: y := by
  simp only [Dot.pieces, written_append, written_code, Gap.written_pieces, List.append_assoc,
    List.cons_append]
  exact Gap.ne_cons (by decide) (by decide) (by decide)

theorem noPlace_dot {d : Dot} : NoPlace d.pieces rest := by
  rw [Dot.pieces, noPlace_append]
  exact ⟨noPlace_gap _, noPlace_code (by decide) (noPlace_gap _)⟩

namespace Sql.KillCall

variable {expr : List Char → Prop} (c : KillCall expr)

theorem noPlace_head : NoPlace c.head rest := by
  rw [head, noPlace_append, noPlace_append, noPlace_append]
  have hcall : DullWord c.call.1 := dull_of_lower c.call.2 (by decide)
  exact ⟨⟨⟨noPlace_gap _, noPlace_code hcall (noPlace_gap _)⟩,
      barren_name (by decide) (by decide) _ fun _ => dot_ne, noPlace_dot⟩,
    barren_name (by decide) (by decide) _ fun _ => dot_ne, noPlace_dot⟩

theorem noPlace_close : NoPlace c.close rest := by
  rw [close, noPlace_append]
  refine ⟨noPlace_code (by decide) (noPlace_gap _), ?_⟩
  cases c.remark with
  | none => trivial
  | some body => exact noPlace_code (by decide) trivial

end Sql.KillCall

end TrinoGateway
