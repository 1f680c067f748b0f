import TrinoGateway.Proof.KillLayout

/-!
# `extractQueryId` against the calls of `kill_query`

A call has its query id at one place of its text, `KillCall.argument`, and `idAt_argument` tells in
which writing the second pattern reads it there. Any other place begins in a comment, in the message
or in the id (`beginsFree_of_idPlace`), and what it quotes is chance.

`extractsKills_iff`: **the function extracts the ids of the calls, and nothing else, exactly when**
each call is in plain writing and mentions the procedure plainly, with no other place before its
own, and no other text looks like a call.
-/

namespace TrinoGateway

open Interact Regex Sql

variable {expr : List Char → Prop}

/-- Nothing is doubled in an id that the second pattern takes. -/
theorem doubled_of_idChars {v : List Char} (hv : ∀ c ∈ v, IdChar c) :
    doubled v = v := by
  have hne : ∀ c ∈ v, (if c = '\'' then ['\'', '\''] else [c]) = [c] := by
    intro c hc
    rw [if_neg]
    rintro rfl
    exact quote_not_idChar (hv _ hc)
  rw [doubled, List.flatMap_congr hne, List.flatMap_singleton']

section Places

variable {rest : List Char}

/-- After the name of the procedure. -/
theorem idAt_positional {name : Ident "kill_query"} {g : Gap} {q : Value (List Char)} :
    IdAt (name.text ++ g.text ++ '(' :: (written (q.pieces literal) ++ rest)) q.value ↔
      (∀ c ∈ q.value, IdChar c) ∧ Quotable "kill_query" name.text ∧ Spaces g.text ∧
        Spaces q.before.text := by
  simp only [Value.pieces, literal, written_append, written_code, written_free,
    Gap.written_pieces, List.append_assoc, List.cons_append, List.nil_append]
  constructor
  · rintro ⟨w, rest', heq, ⟨kill, sp, q', hkill, hsp, ⟨hid, sp', hsp', rfl⟩, rfl⟩ | hnamed⟩
    · rw [doubled_of_idChars hid] at heq
      simp only [List.append_assoc, List.cons_append] at heq
      obtain ⟨hname, heq⟩ := quotable_of_append hkill heq
      obtain ⟨hg, -, heq⟩ := Gap.spaces_of_append hsp (by decide) (by decide) heq
      obtain ⟨hbefore, -⟩ := Gap.spaces_of_append hsp' (by decide) (by decide) heq
      exact ⟨hid, hname, hg, hbefore⟩
    · obtain ⟨sp, q', -, -, rfl⟩ := hnamed
      simp only [List.append_assoc] at heq
      exact absurd heq name_ne
  · rintro ⟨hid, hname, hg, hbefore⟩
    have hq : QuotedId (q.before.text ++ '\'' :: q.value ++ ['\'']) q.value :=
      ⟨hid, _, hbefore, rfl⟩
    refine ⟨_, q.after.text ++ rest, ?_, Or.inl ⟨_, _, _, hname, hg, hq, rfl⟩⟩
    simp [doubled_of_idChars hid]

/-- After the name of the argument. -/
theorem idAt_named {q : Named "query_id" (List Char)} :
    IdAt (q.name.text ++ (written (q.tail literal) ++ rest)) q.value.value ↔
      (∀ c ∈ q.value.value, IdChar c) ∧ q.name.text = "query_id".toList ∧
        Spaces q.beforeArrow.text ∧ Spaces q.value.before.text := by
  simp only [Named.tail, Value.pieces, literal, written_append, written_code, written_free,
    Gap.written_pieces, List.append_assoc, List.cons_append, List.nil_append]
  constructor
  · rintro ⟨w, rest', heq, hfirst | ⟨sp, q', hsp, ⟨hid, sp', hsp', rfl⟩, rfl⟩⟩
    · obtain ⟨kill, sp, q', hkill, -, -, rfl⟩ := hfirst
      simp only [List.append_assoc] at heq
      exact absurd heq (quotable_ne hkill)
    · rw [doubled_of_idChars hid] at heq
      simp only [List.append_assoc, List.cons_append] at heq
      obtain ⟨hname, heq⟩ := query_of_append heq
      obtain ⟨harrow, -, heq⟩ := Gap.spaces_of_append hsp (by decide) (by decide) heq
      obtain ⟨hbefore, -⟩ := Gap.spaces_of_append hsp' (by decide) (by decide)
        (List.cons.inj heq).2
      exact ⟨hid, hname, harrow, hbefore⟩
  · rintro ⟨hid, hname, harrow, hbefore⟩
    have hq : QuotedId (q.value.before.text ++ '\'' :: q.value.value ++ ['\'']) q.value.value :=
      ⟨hid, _, hbefore, rfl⟩
    refine ⟨_, q.value.after.text ++ rest, ?_, Or.inr ⟨_, _, harrow, hq, rfl⟩⟩
    simp [doubled_of_idChars hid, hname]

end Places

variable (c : KillCall expr)

namespace Sql

namespace KillCall

/-- The call up to the place that has the query id. -/
def upto : List Piece :=
  match c.args with
  | .positional .. => c.head
  | .named q _ =>
    c.head ++ .code c.killQuery.text :: c.beforeArgs.pieces ++ .code ['('] :: q.before.pieces
  | .messageFirst m q =>
    c.head ++ .code c.killQuery.text :: c.beforeArgs.pieces ++
      .code ['('] :: m.pieces Message.pieces ++ .code [','] :: q.before.pieces

/-- The name at the place that has the query id: of the procedure, or of the argument. -/
def name : List Char :=
  match c.args with
  | .positional .. => c.killQuery.text
  | .named q _ | .messageFirst _ q => q.name.text

/-- The call after this name. -/
def onward : List Piece :=
  match c.args with
  | .positional .. => c.beforeArgs.pieces ++ .code ['('] :: c.args.pieces ++ c.close
  | .named q m => q.tail literal ++ Args.rest (Named.pieces Message.pieces) m ++ c.close
  | .messageFirst _ q => q.tail literal ++ c.close

theorem pieces_eq : c.pieces = c.upto ++ .code c.name :: c.onward := by
  unfold pieces upto name onward
  cases c.args with
  | positional q m => simp
  | named q m => simp [Args.pieces, Named.pieces]
  | messageFirst m q => simp [Args.pieces, Named.pieces]

/-- The call from the place on that has the query id. -/
def argument : List Char := c.name ++ written c.onward

theorem argument_suffix : c.argument <:+ c.text :=
  ⟨written c.upto, by rw [text, pieces_eq, written_append, written_code, argument]⟩

/-- Up to the call's own place, none begins in the code. -/
theorem noPlace_upto : NoPlace c.upto c.argument := by
  have hmessage : ∀ (a : Message expr) rest, NoPlace a.pieces rest := fun _ _ => trivial
  unfold upto argument name onward
  cases c.args with
  | positional q m => exact c.noPlace_head
  | named q m =>
    obtain ⟨d, x, hname, hspace, hquote⟩ := q.name.text_cons (by decide) (by decide) (by decide)
    simp only
    rw [hname, noPlace_append, noPlace_append]
    exact ⟨⟨c.noPlace_head, barren_kill hspace hquote, noPlace_gap _⟩,
      noPlace_code (by decide) (noPlace_gap _)⟩
  | messageFirst m q =>
    obtain ⟨d, x, hname, hspace, hquote⟩ := m.name.text_cons (by decide) (by decide) (by decide)
    rw [noPlace_append, noPlace_append, noPlace_append]
    refine ⟨⟨⟨c.noPlace_head, ?_, noPlace_gap _⟩,
      noPlace_code (by decide) (noPlace_message (hmessage _))⟩,
      noPlace_code (by decide) (noPlace_gap _)⟩
    simp only [Named.pieces, written_append, written_code, Gap.written_pieces, hname,
      List.append_assoc, List.cons_append, List.nil_append]
    exact barren_kill hspace hquote

/-- Nor does one after its name. -/
theorem noPlace_onward : NoPlace c.onward [] := by
  have hmessage : ∀ (a : Message expr) rest, NoPlace a.pieces rest := fun _ _ => trivial
  unfold onward
  cases c.args with
  | positional q m =>
    rw [noPlace_append, noPlace_append, Args.pieces]
    refine ⟨⟨noPlace_gap _, noPlace_code (by decide) (noPlace_append.mpr ⟨?_, ?_⟩)⟩,
      c.noPlace_close⟩
    · exact noPlace_value fun _ => noPlace_literal
    · exact noPlace_rest fun a _ => noPlace_value (hmessage _)
  | named q m =>
    rw [noPlace_append, noPlace_append]
    exact ⟨⟨noPlace_tail fun _ => noPlace_literal,
      noPlace_rest fun a _ => noPlace_message (hmessage _)⟩, c.noPlace_close⟩
  | messageFirst m q =>
    rw [noPlace_append]
    exact ⟨noPlace_tail fun _ => noPlace_literal, c.noPlace_close⟩

/-- Nor in its name, but at the beginning. -/
theorem name_tail : ∃ ch x, c.name = ch :: x ∧ Barren x (written c.onward) := by
  unfold name onward
  cases c.args with
  | positional q m =>
    refine kill_tail c.killQuery (fun y => ?_) fun y => ?_
    all_goals
      simp only [written_append, written_code, Gap.written_pieces, List.append_assoc,
        List.cons_append]
      exact Gap.ne_cons (by decide) (by decide) (by decide)
  | named q m =>
    refine query_tail q.name fun y => ?_
    rw [written_append, written_append, List.append_assoc]
    exact tail_ne
  | messageFirst m q =>
    refine query_tail q.name fun y => ?_
    rw [written_append]
    exact tail_ne

/-- **A place that is not the call's own** begins in a comment, in the message or in the id. -/
theorem beginsFree_of_idPlace {t : List Char} (ht : t <:+ c.text) (hplace : IdPlace t)
    (hlen : t.length ≠ c.argument.length) : BeginsFree c.pieces [] t := by
  rw [pieces_eq]
  have htext : c.text = written c.upto ++ c.argument := by
    rw [text, pieces_eq, written_append, written_code, argument]
  rcases lt_or_gt_of_ne hlen with hlt | hgt
  · -- after the own place
    have hsuffix : t <:+ c.argument :=
      List.suffix_of_suffix_length_le ht c.argument_suffix hlt.le
    obtain ⟨ch, x, hname, hbarren⟩ := c.name_tail
    rw [argument, hname, List.cons_append, List.suffix_cons_iff] at hsuffix
    have htail : t <:+ x ++ written c.onward := by
      refine hsuffix.resolve_left fun heq => ?_
      rw [argument, hname, List.cons_append, ← heq] at hlt
      exact lt_irrefl _ hlt
    have hno : NoPlace (.code x :: c.onward) [] := ⟨by rwa [List.append_nil], c.noPlace_onward⟩
    have hfree := hno.beginsFree (by rwa [List.append_nil, written_code])
      (List.length_pos_of_ne_nil hplace.ne_nil) hplace
    exact (hfree.of_code.append_right [.code c.name]).append_right c.upto
  · have hfree := c.noPlace_upto.beginsFree (htext ▸ ht) hgt hplace
    refine BeginsFree.append_left ?_
    rwa [List.append_nil, written_code]

/-- The query id is written the way the second pattern has it. -/
def Plain : Prop :=
  (∀ ch ∈ c.queryId, IdChar ch) ∧
    match c.args with
    | .positional q _ => Quotable "kill_query" c.killQuery.text ∧ Spaces c.beforeArgs.text ∧
        Spaces q.before.text
    | .named q _ | .messageFirst _ q => q.name.text = "query_id".toList ∧
        Spaces q.beforeArrow.text ∧ Spaces q.value.before.text

/-- **The call's own place** quotes its query id exactly in plain writing. -/
theorem idAt_argument : IdAt c.argument c.queryId ↔ c.Plain := by
  unfold argument name onward queryId Plain queryId
  cases c.args with
  | positional q m =>
    simp only [Args.pieces, Args.queryId, written_append, written_code, Gap.written_pieces]
    simpa only [List.append_assoc, List.cons_append, List.nil_append] using idAt_positional
  | named q m =>
    simp only [Args.queryId, written_append, List.append_assoc]
    exact idAt_named
  | messageFirst m q =>
    simp only [Args.queryId, written_append]
    exact idAt_named

/-- No place comes before the call's own. -/
def First : Prop := ∀ t, t <:+ c.text → IdPlace t → t.length ≤ c.argument.length

/-- The leftmost place is in a comment, in the message or in the id, and quotes the same id. -/
def Echoed : Prop :=
  ∃ t, Leftmost IdPlace c.text t ∧ BeginsFree c.pieces [] t ∧ IdAt t c.queryId

theorem reads_iff :
    Reads c.text c.queryId ↔ Mentions c.text ∧ (c.Plain ∧ c.First ∨ c.Echoed) := by
  refine and_congr_right fun _ => ⟨?_, ?_⟩
  · rintro ⟨t, hleft, hat⟩
    by_cases hlen : t.length = c.argument.length
    · have hsuffix : t <:+ c.argument :=
        List.suffix_of_suffix_length_le hleft.1 c.argument_suffix hlen.le
      obtain rfl := hsuffix.eq_of_length hlen
      exact Or.inl ⟨c.idAt_argument.mp hat, hleft.2.2⟩
    · exact Or.inr ⟨t, hleft, c.beginsFree_of_idPlace hleft.1 hleft.2.1 hlen, hat⟩
  · rintro (⟨hplain, hfirst⟩ | ⟨t, hleft, -, hat⟩)
    · have hat := c.idAt_argument.mpr hplain
      exact ⟨c.argument, ⟨c.argument_suffix, ⟨_, hat⟩, hfirst⟩, hat⟩
    · exact ⟨t, hleft, hat⟩

/-- What the call must be like for its query id to be found. -/
def Found : Prop :=
  Mentions c.text ∧ (c.Plain ∧ c.First ∨ c.Echoed) ∨ c.queryId = [] ∧ Silent c.text

end KillCall

end Sql

/-- The query id is extracted from the calls of `kill_query`, and from nothing else. -/
def ExtractsKills (expr : List Char → Prop) (body : String) : Prop :=
  (∀ c : KillCall expr, c.text = body.toList → extractQueryId body = String.ofList c.queryId) ∧
    ((∀ c : KillCall expr, c.text ≠ body.toList) → extractQueryId body = "")

/-- **Where the function keeps its promise.** For a call: the text mentions the procedure the way
the first pattern has it, and its query id is in plain writing, with no other place before it; or
a place in a comment, in the message or in the id happens to quote the same id; or there is no id
to be found. For a text that is no call: it does not mention the procedure so, or the leftmost
place in it quotes nothing. -/
theorem extractsKills_iff (expr : List Char → Prop) (body : String) :
    ExtractsKills expr body ↔
      (∀ c : KillCall expr, c.text = body.toList → c.Found) ∧
        ((∀ c : KillCall expr, c.text ≠ body.toList) →
          ∀ id, Reads body.toList id → id = []) := by
  refine and_congr ?_ (imp_congr_right fun _ => ?_)
  · refine forall_congr' fun c => imp_congr_right fun htext => ?_
    rw [extractQueryId_eq_iff, ← htext, c.reads_iff]
    rfl
  · constructor
    · intro h id hreads
      rw [extractQueryId_of_reads hreads] at h
      exact String.ofList_injective h
    · intro h
      rcases reads_or_silent body.toList with ⟨id, hreads⟩ | hsilent
      · rw [extractQueryId_of_reads hreads, h id hreads]
      · exact extractQueryId_of_silent hsilent

/-- String literals as the only expressions. -/
def IsLiteral (m : List Char) : Prop := ∃ v, m = written (literal v)

/-- With a capital letter, as a sentence begins. -/
def capitalCall : KillCall IsLiteral where
  lead := []
  call := ⟨"Call".toList, by decide⟩
  afterCall := [.white ' ' (by decide)]
  system := .bare "system".toList (by decide)
  separate h := by cases h
  dot₁ := ⟨[], []⟩
  runtime := .bare "runtime".toList (by decide)
  dot₂ := ⟨[], []⟩
  killQuery := .bare "kill_query".toList (by decide)
  beforeArgs := []
  args := .positional ⟨[], "q1".toList, []⟩ none
  trail := []
  remark := none

/-- A text that begins with the letter of another statement is no call, whatever it says in its
comments. -/
theorem select_not_call {rest : List Char} (c : KillCall expr) : c.text ≠ 's' :: rest := by
  intro h
  obtain ⟨rest', hlead⟩ : ∃ rest', c.text = c.lead.text ++ (c.call.1 ++ rest') :=
    ⟨_, by simp only [KillCall.text, KillCall.pieces, KillCall.head, written_append, written_code,
      Gap.written_pieces, List.append_assoc]; rfl⟩
  rw [hlead] at h
  cases hg : c.lead with
  | nil =>
    rw [hg] at h
    exact absurd (bare_head c.call.2 (by decide) h) (by decide)
  | cons b g =>
    rw [hg] at h
    cases b with
    | white d hd =>
      obtain rfl : d = 's' := (List.cons.inj h).1
      simp at hd
    | line body stop hbody hstop => exact absurd (List.cons.inj h).1 (by decide)
    | block body hbody => exact absurd (List.cons.inj h).1 (by decide)

/-- **A call is missed** for its capital letter, and a comment is taken for a call. -/
theorem capitalCall_missed :
    ¬ ExtractsKills IsLiteral "Call system.runtime.kill_query('q1')" ∧
      ¬ ExtractsKills IsLiteral "select 1 -- call system.runtime.kill_query('q1')" := by
  constructor
  · intro h
    have hq1 := h.1 capitalCall (by decide)
    revert hq1
    decide
  · intro h
    have hnone := h.2 fun c => select_not_call c
    revert hnone
    decide

end TrinoGateway
