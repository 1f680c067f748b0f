import Mathlib.Data.Int.Notation
import Mathlib.Data.List.Basic

/-!
# Text

String operations by their characters, so that they evaluate on literals:
ASCII case folding, upper case, substring tests and quoting.
-/

namespace Interact.Text

/-- Whether two strings are equal up to the case of ASCII letters. -/
def eqFold (s t : String) : Bool := s.toList.map Char.toLower = t.toList.map Char.toLower

/-- The upper case of a letter, where that is an ASCII letter: two letters outside of ASCII have
one. -/
def upper (c : Char) : Char :=
  if c = Char.ofNat 0x131 then 'I' else if c = Char.ofNat 0x17F then 'S' else c.toUpper

/-- `strings.ToUpper`, for comparison with ASCII text. -/
def toUpper (s : String) : String := String.ofList (s.toList.map upper)

/-- Whether `pat` occurs in `s`. -/
def isInfix (pat : List Char) : List Char → Bool
  | [] => pat.isEmpty
  | c :: cs => pat.isPrefixOf (c :: cs) || isInfix pat cs

/-- `strings.Contains`. -/
def contains (s pat : String) : Bool := isInfix pat.toList s.toList

/-- `strings.HasPrefix`. -/
def hasPrefix (s pre : String) : Bool := pre.toList.isPrefixOf s.toList

/-- `strings.TrimPrefix`. -/
def trimPrefix (s pre : String) : String :=
  if hasPrefix s pre then String.ofList (s.toList.drop pre.length) else s

example : contains "/v1/info" "v1/info" = true := by decide

/-- The last `n` hexadecimal digits of a number. -/
def hex : ℕ → ℕ → List Char
  | 0, _ => []
  | n + 1, v => hex n (v / 16) ++ [Nat.digitChar (v % 16)]

/-- A character between double quotes. -/
def quoteChar (isPrint : Char → Bool) (c : Char) : List Char :=
  if c = '"' ∨ c = '\\' then ['\\', c]
  else if isPrint c then [c]
  else
    match c.toNat with
    | 7 => ['\\', 'a']
    | 8 => ['\\', 'b']
    | 12 => ['\\', 'f']
    | 10 => ['\\', 'n']
    | 13 => ['\\', 'r']
    | 9 => ['\\', 't']
    | 11 => ['\\', 'v']
    | n =>
      if n < 32 ∨ n = 127 then '\\' :: 'x' :: hex 2 n
      else if n < 65536 then '\\' :: 'u' :: hex 4 n
      else '\\' :: 'U' :: hex 8 n

/-- `strconv.Quote`, where `isPrint` is `strconv.IsPrint`. -/
def quote (isPrint : Char → Bool) (s : String) : String :=
  String.ofList ('"' :: s.toList.flatMap (quoteChar isPrint) ++ ['"'])

/-- The longest beginning of a text in a class of characters, and the rest. -/
theorem span_inj {P : Char → Prop} {u v x y : List Char} (hu : ∀ c ∈ u, P c) (hv : ∀ c ∈ v, P c)
    (hx : ∀ c t, x = c :: t → ¬ P c) (hy : ∀ c t, y = c :: t → ¬ P c) (h : u ++ x = v ++ y) :
    u = v ∧ x = y := by
  induction u generalizing v with
  | nil =>
    cases v with
    | nil => exact ⟨rfl, h⟩
    | cons c v => exact absurd (hv c (List.mem_cons_self ..)) (hx c (v ++ y) h)
  | cons c u ih =>
    cases v with
    | nil => exact absurd (hu c (List.mem_cons_self ..)) (hy c (u ++ x) h.symm)
    | cons c' v =>
      obtain ⟨hc, htail⟩ := List.cons.inj h
      obtain ⟨huv, hxy⟩ := ih (fun b hb => hu b (List.mem_cons_of_mem _ hb))
        (fun b hb => hv b (List.mem_cons_of_mem _ hb)) htail
      exact ⟨by rw [hc, huv], hxy⟩

/-- Where two texts first leave a class of characters, they leave it together. -/
theorem split_inj {P : Char → Prop} {u v x y : List Char} {d e : Char} (hu : ∀ c ∈ u, P c)
    (hv : ∀ c ∈ v, P c) (hd : ¬ P d) (he : ¬ P e) (h : u ++ d :: x = v ++ e :: y) :
    u = v ∧ d = e ∧ x = y := by
  have hhead : ∀ {a b : Char} {l t : List Char}, a :: l = b :: t → ¬ P a → ¬ P b := by
    intro a b l t hab ha
    rw [← (List.cons.inj hab).1]
    exact ha
  obtain ⟨huv, hxy⟩ := span_inj hu hv (fun _ _ hx => hhead hx hd) (fun _ _ hy => hhead hy he) h
  exact ⟨huv, List.cons.inj hxy⟩

/-- What comes before the first delimiter and what comes after it. -/
theorem delim_inj {u v x y : List Char} {d : Char} (hu : d ∉ u) (hv : d ∉ v)
    (h : u ++ d :: x = v ++ d :: y) : u = v ∧ x = y := by
  have hne : ∀ {w : List Char}, d ∉ w → ∀ c ∈ w, c ≠ d := by
    rintro w hw c hc rfl
    exact hw hc
  obtain ⟨huv, -, hxy⟩ :=
    split_inj (hne hu) (hne hv) (not_not_intro rfl) (not_not_intro rfl) h
  exact ⟨huv, hxy⟩

end Interact.Text
