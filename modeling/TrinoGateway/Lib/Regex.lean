import TrinoGateway.Lib.Text

/-!
# Regular expressions, leftmost-first

A backtracking matcher: `results r s` lists the ways `r` matches a beginning of `s`, in the
order in which a leftmost-first engine prefers them, each with the rest of the text and the
groups it captured.
-/

namespace Interact

inductive Regex
  | eps
  | set (p : Char → Bool)
  | seq (a b : Regex)
  | alt (a b : Regex)
  | star (a : Regex)
  | group (n : ℕ) (a : Regex)

namespace Regex

/-- The groups captured, in the order in which they closed. -/
abbrev Caps := List (ℕ × List Char)

/-- The text of group `n`, empty when the group took no part. -/
def Caps.get (caps : Caps) (n : ℕ) : List Char := (caps.reverse.lookup n).getD []

/-- What is left of the text, and the groups. -/
abbrev Match := List Char × Caps

def chr (c : Char) : Regex := set (· = c)

/-- A literal. -/
def lit (s : String) : Regex := s.toList.foldr (fun c r => seq (chr c) r) eps

/-- Any character but a newline: `.`. -/
def any : Regex := set (· ≠ '\n')

/-- `\w`. -/
def word (c : Char) : Bool := c.isAlphanum || c = '_'

def plus (a : Regex) : Regex := seq a (star a)

def concat : List Regex → Regex
  | [] => eps
  | a :: as => seq a (concat as)

/-- Repeat greedily; each round consumes something. -/
def iterate (f : List Char → List Match) : ℕ → List Char → List Match
  | 0, s => [(s, [])]
  | n + 1, s =>
    ((f s).filter fun m => m.1.length < s.length).flatMap
      (fun m => (iterate f n m.1).map fun m' => (m'.1, m.2 ++ m'.2)) ++ [(s, [])]

/-- The matches of `r` at the beginning of the text, best first. -/
def results : Regex → List Char → List Match
  | eps, s => [(s, [])]
  | set _, [] => []
  | set p, c :: cs => if p c then [(cs, [])] else []
  | seq a b, s =>
    (a.results s).flatMap fun m => (b.results m.1).map fun m' => (m'.1, m.2 ++ m'.2)
  | alt a b, s => a.results s ++ b.results s
  | star a, s => iterate a.results s.length s
  | group n a, s =>
    (a.results s).map fun m => (m.1, m.2 ++ [(n, s.take (s.length - m.1.length))])

/-- The leftmost match: the groups, with the whole match as group `0`. -/
def find (r : Regex) : List Char → Option Caps
  | [] => ((group 0 r).results []).head?.map (·.2)
  | c :: cs =>
    match (group 0 r).results (c :: cs) with
    | m :: _ => some m.2
    | [] => r.find cs

/-- Replace the matches that consume something, from left to right, by what `f` makes of
their groups. -/
def replaceGo (r : Regex) (f : Caps → List Char) : ℕ → List Char → List Char
  | 0, s => s
  | _ + 1, [] => []
  | n + 1, c :: cs =>
    match (r.results (c :: cs)).find? fun m => m.1.length ≤ cs.length with
    | some m => f m.2 ++ replaceGo r f n m.1
    | none => c :: replaceGo r f n cs

def replaceAll (r : Regex) (f : Caps → List Char) (s : String) : String :=
  String.ofList (replaceGo r f s.length s.toList)

/-- `FindStringSubmatch`, as a lookup of the groups. -/
def submatch (r : Regex) (s : String) : Option (ℕ → String) :=
  (r.find s.toList).map fun caps n => String.ofList (caps.get n)

example : (submatch (seq (lit "a") (group 1 (star (set word)))) "(ab_1)").map (· 1) =
    some "b_1" := by decide

end Regex

end Interact
