import TrinoGateway.Lib.Text

/-!
# JSON texts

`parse` accepts the JSON texts of a strict reader, with nesting up to `maxNestingDepth`, and
builds the value. Object members keep their order and their repetitions.
-/

namespace Interact

inductive Json
  | null
  | bool (b : Bool)
  | num (text : String)
  | str (s : String)
  | arr (elems : List Json)
  | obj (members : List (String × Json))

namespace Json

def isSpace (c : Char) : Bool := c = ' ' || c = '\t' || c = '\r' || c = '\n'

def skip (cs : List Char) : List Char := cs.dropWhile isSpace

def hexVal (c : Char) : Option ℕ :=
  if c.isDigit then some (c.toNat - 48)
  else if 'a' ≤ c ∧ c ≤ 'f' then some (c.toNat - 87)
  else if 'A' ≤ c ∧ c ≤ 'F' then some (c.toNat - 55)
  else none

def hex4 (a b c d : Char) : Option ℕ := do
  return (((← hexVal a) * 16 + (← hexVal b)) * 16 + (← hexVal c)) * 16 + (← hexVal d)

/-- The character of a one-letter escape. -/
def escapeVal : Char → Option ℕ
  | '"' => some 34
  | '\\' => some 92
  | '/' => some 47
  | 'b' => some 8
  | 'f' => some 12
  | 'n' => some 10
  | 'r' => some 13
  | 't' => some 9
  | _ => none

/-- The code units of a string, from after its opening quote to its closing one, and the
text after that. -/
def units : List Char → Option (List ℕ × List Char)
  | [] => none
  | '"' :: rest => some ([], rest)
  | '\\' :: 'u' :: a :: b :: c :: d :: rest => do
    let u ← hex4 a b c d
    let (us, rest') ← units rest
    return (u :: us, rest')
  | '\\' :: e :: rest => do
    let u ← escapeVal e
    let (us, rest') ← units rest
    return (u :: us, rest')
  | c :: rest =>
    if c.toNat < 32 ∨ c = '\\' then none
    else do
      let (us, rest') ← units rest
      return (c.toNat :: us, rest')

def replacement : Char := Char.ofNat 0xFFFD

/-- A unit that stands alone: half a surrogate pair becomes the replacement character. -/
def lone (u : ℕ) : Char := if 0xD800 ≤ u ∧ u ≤ 0xDFFF then replacement else Char.ofNat u

/-- The characters of the code units, with surrogate pairs joined. -/
def joinUnits : List ℕ → List Char
  | [] => []
  | [u] => [lone u]
  | u :: v :: rest =>
    if 0xD800 ≤ u ∧ u ≤ 0xDBFF ∧ 0xDC00 ≤ v ∧ v ≤ 0xDFFF then
      Char.ofNat (0x10000 + (u - 0xD800) * 1024 + (v - 0xDC00)) :: joinUnits rest
    else lone u :: joinUnits (v :: rest)

/-- A string, after its opening quote. -/
def parseString (cs : List Char) : Option (String × List Char) := do
  let (us, rest) ← units cs
  return (String.ofList (joinUnits us), rest)

/-- At least one digit, and the text after the digits. -/
def digits1 (cs : List Char) : Option (List Char) :=
  match cs with
  | c :: rest => if c.isDigit then some (rest.dropWhile Char.isDigit) else none
  | [] => none

def fraction : List Char → Option (List Char)
  | '.' :: rest => digits1 rest
  | cs => some cs

def exponent : List Char → Option (List Char)
  | e :: rest =>
    if e = 'e' ∨ e = 'E' then
      match rest with
      | '+' :: rest' => digits1 rest'
      | '-' :: rest' => digits1 rest'
      | _ => digits1 rest
    else some (e :: rest)
  | [] => some []

def integer : List Char → Option (List Char)
  | '0' :: rest => some rest
  | cs => digits1 cs

/-- A number, as its text. -/
def parseNumber (cs : List Char) : Option (String × List Char) := do
  let rest ← exponent (← fraction (← integer (if cs.head? = some '-' then cs.tail else cs)))
  return (String.ofList (cs.take (cs.length - rest.length)), rest)

/-- The elements of an array, up to its closing bracket. -/
def elements (value : List Char → Option (Json × List Char)) :
    ℕ → List Char → Option (List Json × List Char)
  | 0, _ => none
  | n + 1, cs => do
    let (v, rest) ← value (skip cs)
    match skip rest with
    | ']' :: rest' => return ([v], rest')
    | ',' :: rest' =>
      let (vs, rest'') ← elements value n rest'
      return (v :: vs, rest'')
    | _ => none

/-- The members of an object, up to its closing brace. -/
def members (value : List Char → Option (Json × List Char)) :
    ℕ → List Char → Option (List (String × Json) × List Char)
  | 0, _ => none
  | n + 1, cs =>
    match skip cs with
    | '"' :: rest => do
      let (k, rest) ← parseString rest
      match skip rest with
      | ':' :: rest =>
        let (v, rest) ← value (skip rest)
        match skip rest with
        | '\x7d' :: rest' => return ([(k, v)], rest')
        | ',' :: rest' =>
          let (ms, rest'') ← members value n rest'
          return ((k, v) :: ms, rest'')
        | _ => none
      | _ => none
    | _ => none

/-- A value, nested at most `depth` deep, at the beginning of the text. -/
def value : (depth : ℕ) → List Char → Option (Json × List Char)
  | _, 'n' :: 'u' :: 'l' :: 'l' :: rest => some (null, rest)
  | _, 't' :: 'r' :: 'u' :: 'e' :: rest => some (bool true, rest)
  | _, 'f' :: 'a' :: 'l' :: 's' :: 'e' :: rest => some (bool false, rest)
  | _, '"' :: rest => do
    let (s, rest') ← parseString rest
    return (str s, rest')
  | 0, '[' :: _ => none
  | 0, '\x7b' :: _ => none
  | d + 1, '[' :: rest =>
    match skip rest with
    | ']' :: rest' => some (arr [], rest')
    | rest' => do
      let (vs, rest'') ← elements (value d) rest'.length rest'
      return (arr vs, rest'')
  | d + 1, '\x7b' :: rest =>
    match skip rest with
    | '\x7d' :: rest' => some (obj [], rest')
    | rest' => do
      let (ms, rest'') ← members (value d) rest'.length rest'
      return (obj ms, rest'')
  -- nothing else begins with a digit or a minus
  | _, cs => do
    let (t, rest) ← parseNumber cs
    return (num t, rest)

def maxNestingDepth : ℕ := 10000

/-- The value of a JSON text: nothing but space stands around it. -/
def parse (s : String) : Option Json :=
  match value maxNestingDepth (skip s.toList) with
  | some (v, rest) => if skip rest = [] then some v else none
  | none => none

/-- A key's character up to case. Two characters beyond ASCII fold to an ASCII letter. -/
def foldChar (c : Char) : Char :=
  if c = Char.ofNat 0x212A then 'k' else if c = Char.ofNat 0x17F then 's' else c.toLower

/-- The values of the members whose key is `name` up to case, in order. -/
def fieldsNamed (name : String) : Json → List Json
  | obj ms =>
    ms.filterMap fun m =>
      if m.1.toList.map foldChar = name.toList.map foldChar then some m.2 else none
  | _ => []

/-- The string that the last string-valued member named `name` holds. -/
def stringField (name : String) (j : Json) : String :=
  (j.fieldsNamed name).foldl (fun acc v => match v with | str s => s | _ => acc) ""

/-- The boolean that the last member named `name` holds, `null` ones aside. `none` when the
value is no object or such a member has another type. -/
def boolField (name : String) : Json → Option Bool
  | null => some false
  | obj ms =>
    ((obj ms).fieldsNamed name).foldlM (fun acc v =>
      match v with
      | bool b => some b
      | null => some acc
      | _ => none) false
  | _ => none

end Json

end Interact
