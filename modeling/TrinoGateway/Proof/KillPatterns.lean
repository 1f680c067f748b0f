import TrinoGateway.Lib.RegexTakes
import TrinoGateway.Spec.KillCall
import TrinoGateway.Spec.Router

/-!
# What `extractQueryId` looks for

The two patterns as plain statements about a text. `Mentions` is the first: somewhere the text reads
as the beginning of a call. `IdAt` is the second, at one place, with the id that is quoted there.

* `takes_callKillQuery`, `takes_killQueryId`: the patterns describe these words.
* `IdAt.inj`: one place quotes one id.
* `extractQueryId_eq_iff`: the function returns the id of the leftmost place, where the text
  mentions a call.
-/

namespace TrinoGateway

open Interact Regex Sql

variable {T t w id : List Char} {caps : Caps}

def Spaces (w : List Char) : Prop := ∀ c ∈ w, c = ' '

/-- The name `x`, bare or in double quotes, in lower case. -/
def Quotable (x : String) (w : List Char) : Prop := w = x.toList ∨ w = '"' :: x.toList ++ ['"']

/-- The words of the first pattern. -/
def Mention (w : List Char) : Prop :=
  ∃ call sp sys d₁ run d₂ kill, (call = "call".toList ∨ call = "CALL".toList) ∧
    (sp ≠ [] ∧ Spaces sp) ∧ Quotable "system" sys ∧ d₁ ≠ '\n' ∧ Quotable "runtime" run ∧
    d₂ ≠ '\n' ∧ Quotable "kill_query" kill ∧
    w = call ++ sp ++ sys ++ d₁ :: run ++ d₂ :: kill

/-- Somewhere the text reads as a call of the procedure. -/
def Mentions (T : List Char) : Prop := ∃ w, w <:+: T ∧ Mention w

/-- The characters that the second pattern takes in a query id. -/
def IdChar (c : Char) : Prop := word c = true ∨ c = '-'

/-- Spaces, and the quoted id. -/
def QuotedId (w id : List Char) : Prop :=
  (∀ c ∈ id, IdChar c) ∧ ∃ sp, Spaces sp ∧ w = sp ++ '\'' :: id ++ ['\'']

/-- The words of the second pattern, with the id that they quote: after the name of the procedure
and a parenthesis. -/
def QuotesFirst (w id : List Char) : Prop :=
  ∃ kill sp q, Quotable "kill_query" kill ∧ Spaces sp ∧ QuotedId q id ∧ w = kill ++ sp ++ '(' :: q

/-- The words of the second pattern, with the id that they quote: after the name of the
argument. -/
def QuotesNamed (w id : List Char) : Prop :=
  ∃ sp q, Spaces sp ∧ QuotedId q id ∧ w = "query_id".toList ++ sp ++ '=' :: '>' :: q

theorem takes_quotable {x : String} :
    (quotable x).Takes w caps ↔ Quotable x w ∧ caps = [] := by
  simp only [quotable, Takes, takes_lit, Quotable, String.toList_append, ← or_and_right]
  rfl

theorem takes_spaces : (star (chr ' ')).Takes w caps ↔ Spaces w ∧ caps = [] := by
  rw [chr, takes_star_set]
  simp only [decide_eq_true_eq, Spaces]

theorem takes_plus_spaces : (plus (chr ' ')).Takes w caps ↔ (w ≠ [] ∧ Spaces w) ∧ caps = [] := by
  rw [plus, takes_seq_of_silent fun _ _ => takes_chr]
  simp only [takes_spaces]
  constructor
  · rintro ⟨u, v, rfl, ⟨hv, rfl⟩, rfl⟩
    exact ⟨⟨List.cons_ne_nil ' ' v, by simpa [Spaces] using hv⟩, rfl⟩
  · rintro ⟨⟨hne, hw⟩, rfl⟩
    obtain ⟨c, cs, rfl⟩ := List.exists_cons_of_ne_nil hne
    obtain ⟨rfl, hcs⟩ : c = ' ' ∧ Spaces cs := by simpa [Spaces] using hw
    exact ⟨[' '], cs, rfl, ⟨hcs, rfl⟩, rfl⟩

theorem takes_callKillQuery : callKillQuery.Takes w caps ↔ Mention w ∧ caps = [] := by
  have hcall : ∀ u c, (alt (lit "call") (lit "CALL")).Takes u c ↔
      (u = "call".toList ∨ u = "CALL".toList) ∧ c = [] := by
    intro u c
    simp only [Takes, takes_lit, ← or_and_right]
  simp only [callKillQuery, concat, takes_seq_of_silent hcall,
    takes_seq_of_silent fun _ _ => takes_plus_spaces, takes_seq_of_silent fun _ _ => takes_any,
    takes_seq_of_silent fun _ _ => takes_quotable]
  constructor
  · rintro ⟨call, _, hcall, ⟨sp, _, hsp, ⟨sys, _, hsys, ⟨_, _, ⟨d₁, hd₁, rfl⟩, ⟨run, _, hrun,
      ⟨_, _, ⟨d₂, hd₂, rfl⟩, ⟨kill, _, hkill, ⟨rfl, rfl⟩, rfl⟩, rfl⟩, rfl⟩, rfl⟩, rfl⟩, rfl⟩, rfl⟩
    exact ⟨⟨call, sp, sys, d₁, run, d₂, kill, hcall, hsp, hsys, hd₁, hrun, hd₂, hkill, by simp⟩,
      rfl⟩
  · rintro ⟨⟨call, sp, sys, d₁, run, d₂, kill, hcall, hsp, hsys, hd₁, hrun, hd₂, hkill, rfl⟩, rfl⟩
    exact ⟨call, _, hcall, ⟨sp, _, hsp, ⟨sys, _, hsys, ⟨_, _, ⟨d₁, hd₁, rfl⟩, ⟨run, _, hrun,
      ⟨_, _, ⟨d₂, hd₂, rfl⟩, ⟨kill, _, hkill, ⟨rfl, rfl⟩, rfl⟩, rfl⟩, rfl⟩, rfl⟩, rfl⟩, rfl⟩,
      by simp⟩

theorem takes_quotedId {n : ℕ} :
    (quotedId n).Takes w caps ↔ ∃ id, QuotedId w id ∧ caps = [(n, id)] := by
  have hid : ∀ u c, (star (set fun c => word c || c = '-')).Takes u c ↔
      (∀ c ∈ u, IdChar c) ∧ c = [] := by
    intro u c
    simp only [takes_star_set, Bool.or_eq_true, decide_eq_true_eq, IdChar]
  simp only [quotedId, concat, takes_seq_of_silent fun _ _ => takes_spaces,
    takes_seq_of_silent fun _ _ => takes_chr,
    takes_seq_of_group fun _ _ => takes_group_of_silent hid]
  constructor
  · rintro ⟨sp, _, hsp, ⟨_, _, rfl, ⟨id, _, _, hid, ⟨_, _, rfl, ⟨rfl, rfl⟩, rfl⟩, rfl, rfl⟩,
      rfl⟩, rfl⟩
    exact ⟨id, ⟨hid, sp, hsp, by simp⟩, rfl⟩
  · rintro ⟨id, ⟨hid, sp, hsp, rfl⟩, rfl⟩
    exact ⟨sp, _, hsp, ⟨_, _, rfl, ⟨id, _, _, hid, ⟨_, _, rfl, ⟨rfl, rfl⟩, rfl⟩, rfl, rfl⟩,
      rfl⟩, by simp⟩

theorem takes_killQueryId : killQueryId.Takes w caps ↔
    ∃ id, QuotesFirst w id ∧ caps = [(1, id)] ∨ QuotesNamed w id ∧ caps = [(2, id)] := by
  simp only [killQueryId, takes_alt, concat, takes_seq_eps, takes_quotedId, exists_or,
    takes_seq_of_silent fun _ _ => takes_spaces, takes_seq_of_silent fun _ _ => takes_chr,
    takes_seq_of_silent fun _ _ => takes_quotable, takes_seq_of_silent fun _ _ => takes_lit]
  refine or_congr ⟨?_, ?_⟩ ⟨?_, ?_⟩
  · rintro ⟨kill, _, hkill, ⟨sp, _, hsp, ⟨_, q, rfl, ⟨id, hq, rfl⟩, rfl⟩, rfl⟩, rfl⟩
    exact ⟨id, ⟨kill, sp, q, hkill, hsp, hq, by simp⟩, rfl⟩
  · rintro ⟨id, ⟨kill, sp, q, hkill, hsp, hq, rfl⟩, rfl⟩
    exact ⟨kill, _, hkill, ⟨sp, _, hsp, ⟨_, q, rfl, ⟨id, hq, rfl⟩, rfl⟩, rfl⟩, by simp⟩
  · rintro ⟨_, _, rfl, ⟨sp, _, hsp, ⟨_, q, rfl, ⟨id, hq, rfl⟩, rfl⟩, rfl⟩, rfl⟩
    exact ⟨id, ⟨sp, q, hsp, hq, by simp⟩, rfl⟩
  · rintro ⟨id, ⟨sp, q, hsp, hq, rfl⟩, rfl⟩
    exact ⟨_, _, rfl, ⟨sp, _, hsp, ⟨_, q, rfl, ⟨id, hq, rfl⟩, rfl⟩, rfl⟩, by simp⟩

/-- The text reads, from its beginning on, as a place that quotes an id. -/
def IdAt (t id : List Char) : Prop :=
  ∃ w rest, t = w ++ rest ∧ (QuotesFirst w id ∨ QuotesNamed w id)

def IdPlace (t : List Char) : Prop := ∃ id, IdAt t id

theorem matches_killQueryId : killQueryId.Matches t ↔ IdPlace t := by
  constructor
  · rintro ⟨w, rest, caps, ht, htakes⟩
    obtain ⟨id, ⟨hw, -⟩ | ⟨hw, -⟩⟩ := takes_killQueryId.mp htakes
    · exact ⟨id, w, rest, ht, Or.inl hw⟩
    · exact ⟨id, w, rest, ht, Or.inr hw⟩
  · rintro ⟨id, w, rest, ht, hw | hw⟩
    · exact ⟨w, rest, [(1, id)], ht, takes_killQueryId.mpr ⟨id, Or.inl ⟨hw, rfl⟩⟩⟩
    · exact ⟨w, rest, [(2, id)], ht, takes_killQueryId.mpr ⟨id, Or.inr ⟨hw, rfl⟩⟩⟩

theorem Mention.ne_nil (h : Mention w) : w ≠ [] := by
  obtain ⟨call, sp, sys, d₁, run, d₂, kill, -, -, -, -, -, -, -, rfl⟩ := h
  simp

/-- The first pattern is there if and only if the text mentions a call. -/
theorem isKillQuery_iff (body : String) :
    ((callKillQuery.submatch body).any fun groups => groups 0 ≠ "") = true ↔
      Mentions body.toList := by
  rw [submatch]
  cases hfind : callKillQuery.find body.toList with
  | none =>
    simp only [Option.map_none, Option.any_none, Bool.false_eq_true, false_iff]
    rintro ⟨w, ⟨pre, post, hbody⟩, hw⟩
    refine find_eq_none hfind (t := w ++ post) ⟨pre, by rw [← hbody, List.append_assoc]⟩ ?_
    exact ⟨w, post, [], rfl, takes_callKillQuery.mpr ⟨hw, rfl⟩⟩
  | some caps =>
    obtain ⟨t, w, rest, c, ⟨⟨pre, hpre⟩, -⟩, rfl, htakes, rfl⟩ := find_eq_some hfind
    obtain ⟨hw, rfl⟩ := takes_callKillQuery.mp htakes
    have hmentions : Mentions body.toList :=
      ⟨w, ⟨pre, rest, by rw [← hpre, List.append_assoc]⟩, hw⟩
    simp [hmentions, Caps.get, hw.ne_nil]

/-- The id that the second pattern finds is the one of the leftmost place. -/
theorem submatch_killQueryId (body : String) :
    match killQueryId.submatch body with
    | none => ∀ t, t <:+ body.toList → ¬ IdPlace t
    | some groups => ∃ t id, Leftmost IdPlace body.toList t ∧ IdAt t id ∧
        (if groups 1 = "" then groups 2 else groups 1) = String.ofList id := by
  have hmatches : killQueryId.Matches = IdPlace := funext fun t => propext matches_killQueryId
  rw [submatch]
  cases hfind : killQueryId.find body.toList with
  | none =>
    intro t ht
    rw [← matches_killQueryId]
    exact find_eq_none hfind ht
  | some caps =>
    obtain ⟨t, w, rest, c, hleft, ht, htakes, rfl⟩ := find_eq_some hfind
    rw [hmatches] at hleft
    obtain ⟨id, ⟨hw, rfl⟩ | ⟨hw, rfl⟩⟩ := takes_killQueryId.mp htakes
    · refine ⟨t, id, hleft, ⟨w, rest, ht, Or.inl hw⟩, ?_⟩
      simp [Caps.get, List.lookup_cons]
    · refine ⟨t, id, hleft, ⟨w, rest, ht, Or.inr hw⟩, ?_⟩
      simp [Caps.get, List.lookup_cons]

theorem quote_not_idChar : ¬ IdChar '\'' := by
  rintro (h | h)
  · exact absurd h (by decide)
  · exact absurd h (by decide)

theorem Quotable.inj {u v x y : List Char} (hu : Quotable "kill_query" u)
    (hv : Quotable "kill_query" v) (h : u ++ x = v ++ y) : u = v ∧ x = y := by
  rcases hu with rfl | rfl <;> rcases hv with rfl | rfl
  · exact ⟨rfl, List.append_cancel_left h⟩
  · simp at h
  · simp at h
  · exact ⟨rfl, List.append_cancel_left h⟩

theorem QuotedId.inj {q q' id' x y : List Char} (h : QuotedId q id) (h' : QuotedId q' id')
    (heq : q ++ x = q' ++ y) : id = id' := by
  obtain ⟨hid, sp, hsp, rfl⟩ := h
  obtain ⟨hid', sp', hsp', rfl⟩ := h'
  simp only [List.append_assoc, List.cons_append] at heq
  obtain ⟨-, -, heq⟩ := Text.split_inj hsp hsp' (by decide) (by decide) heq
  exact (Text.split_inj hid hid' quote_not_idChar quote_not_idChar heq).1

/-- A place after the name of the procedure is none after the name of the argument. -/
theorem QuotesFirst.not_named {w' id' x y : List Char} (h : QuotesFirst w id)
    (h' : QuotesNamed w' id') : w ++ x ≠ w' ++ y := by
  obtain ⟨kill, sp, q, hkill, -, -, rfl⟩ := h
  obtain ⟨sp', q', -, -, rfl⟩ := h'
  rcases hkill with rfl | rfl <;> simp

theorem IdAt.inj {id' : List Char} (h : IdAt t id) (h' : IdAt t id') : id = id' := by
  obtain ⟨w, rest, ht, hw⟩ := h
  obtain ⟨w', rest', ht', hw'⟩ := h'
  rw [ht] at ht'
  rcases hw with hw | hw <;> rcases hw' with hw' | hw'
  · obtain ⟨kill, sp, q, hkill, hsp, hq, rfl⟩ := hw
    obtain ⟨kill', sp', q', hkill', hsp', hq', rfl⟩ := hw'
    simp only [List.append_assoc, List.cons_append] at ht'
    obtain ⟨-, ht'⟩ := hkill.inj hkill' ht'
    obtain ⟨-, -, ht'⟩ := Text.split_inj hsp hsp' (by decide) (by decide) ht'
    exact hq.inj hq' ht'
  · exact absurd ht' (hw.not_named hw')
  · exact absurd ht'.symm (hw'.not_named hw)
  · obtain ⟨sp, q, hsp, hq, rfl⟩ := hw
    obtain ⟨sp', q', hsp', hq', rfl⟩ := hw'
    simp only [List.append_assoc, List.cons_append] at ht'
    have ht' := List.append_cancel_left ht'
    obtain ⟨-, -, ht'⟩ := Text.split_inj hsp hsp' (by decide) (by decide) ht'
    exact hq.inj hq' (List.cons.inj ht').2

/-- The text mentions a call, and the leftmost place in it quotes `id`. -/
def Reads (T id : List Char) : Prop :=
  Mentions T ∧ ∃ t, Leftmost IdPlace T t ∧ IdAt t id

/-- The text mentions no call, or has no place that quotes an id. -/
def Silent (T : List Char) : Prop := ¬ Mentions T ∨ ∀ t, t <:+ T → ¬ IdPlace t

theorem Reads.not_silent (h : Reads T id) : ¬ Silent T := by
  obtain ⟨hmentions, t, ⟨ht, hplace, -⟩, -⟩ := h
  rintro (hno | hno)
  · exact hno hmentions
  · exact hno t ht hplace

theorem Reads.inj {id' : List Char} (h : Reads T id) (h' : Reads T id') : id = id' := by
  obtain ⟨-, t, hleft, hat⟩ := h
  obtain ⟨-, t', hleft', hat'⟩ := h'
  exact hat.inj (hleft.unique hleft' ▸ hat')

theorem extractQueryId_of_reads {body : String} (h : Reads body.toList id) :
    extractQueryId body = String.ofList id := by
  rw [extractQueryId, if_pos ((isKillQuery_iff body).mpr h.1)]
  have hsub := submatch_killQueryId body
  cases hgroups : killQueryId.submatch body with
  | none =>
    rw [hgroups] at hsub
    exact absurd (Or.inr hsub) h.not_silent
  | some groups =>
    rw [hgroups] at hsub
    obtain ⟨t, id', hleft, hat, heq⟩ := hsub
    rw [h.inj ⟨h.1, t, hleft, hat⟩]
    exact heq

theorem extractQueryId_of_silent {body : String} (h : Silent body.toList) :
    extractQueryId body = "" := by
  rw [extractQueryId]
  split
  · rename_i hmentions
    have hsub := submatch_killQueryId body
    cases hgroups : killQueryId.submatch body with
    | none => rfl
    | some groups =>
      rw [hgroups] at hsub
      obtain ⟨t, id, hleft, hat, -⟩ := hsub
      exact absurd h (Reads.not_silent ⟨(isKillQuery_iff body).mp hmentions, t, hleft, hat⟩)
  · rfl

theorem reads_or_silent (T : List Char) : (∃ id, Reads T id) ∨ Silent T := by
  by_cases hmentions : Mentions T
  · have hsub := submatch_killQueryId (String.ofList T)
    rw [String.toList_ofList] at hsub
    cases hgroups : killQueryId.submatch (String.ofList T) with
    | none =>
      rw [hgroups] at hsub
      exact Or.inr (Or.inr hsub)
    | some groups =>
      rw [hgroups] at hsub
      obtain ⟨t, id, hleft, hat, -⟩ := hsub
      exact Or.inl ⟨id, hmentions, t, hleft, hat⟩
  · exact Or.inr (Or.inl hmentions)

/-- **What is extracted**: the id that the leftmost place quotes, where the text mentions a
call. -/
theorem extractQueryId_eq_iff {body : String} : extractQueryId body = String.ofList id ↔
    Reads body.toList id ∨ id = [] ∧ Silent body.toList := by
  constructor
  · intro h
    rcases reads_or_silent body.toList with ⟨id', hreads⟩ | hsilent
    · rw [extractQueryId_of_reads hreads] at h
      exact Or.inl (String.ofList_injective h ▸ hreads)
    · rw [extractQueryId_of_silent hsilent] at h
      exact Or.inr ⟨String.ofList_injective h.symm, hsilent⟩
  · rintro (hreads | ⟨rfl, hsilent⟩)
    · exact extractQueryId_of_reads hreads
    · exact extractQueryId_of_silent hsilent

end TrinoGateway
