import Mathlib.Data.List.Infix
import TrinoGateway.Lib.Text

/-!
# Calls of `kill_query`

What `extractQueryId` looks for: the statements that Trino reads as a call of the procedure
`system.runtime.kill_query`. Trino's grammar is not part of the repository. A call is given by its
tokens, by what stands between them and by its arguments, so that each value is a call, and
`KillCall.text` writes it out.

The name of the procedure has all three parts, and the query id is a string literal. The message,
which a call may leave out, is any expression: `expr` are the texts that Trino reads as one. As
Trino wants it, the arguments are all positional or all named, and no name is there twice.
-/

namespace TrinoGateway.Sql

/-- A piece of a text: what the grammar prescribes, or what it leaves to the writer of a comment, a
literal or an expression. -/
inductive Piece
  | code (cs : List Char)
  | free (cs : List Char)

def Piece.text : Piece → List Char
  | code cs | free cs => cs

/-- The text that pieces make up. -/
def written (ps : List Piece) : List Char := ps.flatMap Piece.text

@[simp] theorem written_nil : written [] = [] := rfl

@[simp] theorem written_code {cs : List Char} {ps : List Piece} :
    written (.code cs :: ps) = cs ++ written ps := rfl

@[simp] theorem written_free {cs : List Char} {ps : List Piece} :
    written (.free cs :: ps) = cs ++ written ps := rfl

@[simp] theorem written_append {ps qs : List Piece} :
    written (ps ++ qs) = written ps ++ written qs :=
  List.flatMap_append

/-- One of the things that may stand between two tokens: white space, a comment to the end of its
line, a comment in brackets. -/
inductive Blank
  | white (c : Char) (h : c = ' ' ∨ c = '\t' ∨ c = '\n' ∨ c = '\r')
  | line (body : List Char) (stop : Char) (hbody : ∀ c ∈ body, c ≠ '\n' ∧ c ≠ '\r')
      (hstop : stop = '\n' ∨ stop = '\r')
  | block (body : List Char) (h : ¬ ['*', '/'] <:+: body)

def Blank.pieces : Blank → List Piece
  | white c _ => [.code [c]]
  | line body stop _ _ => [.code ['-', '-'], .free body, .code [stop]]
  | block body _ => [.code ['/', '*'], .free body, .code ['*', '/']]

/-- What stands between two tokens. -/
abbrev Gap := List Blank

def Gap.pieces (g : Gap) : List Piece := g.flatMap Blank.pieces

def Gap.text (g : Gap) : List Char := written g.pieces

@[simp] theorem Gap.written_pieces (g : Gap) : written g.pieces = g.text := rfl

theorem Gap.text_cons (b : Blank) (g : Gap) :
    Gap.text (b :: g) = written b.pieces ++ Gap.text g :=
  written_append

/-- The identifier `w`: bare, in any letter case, or in double quotes. -/
inductive Ident (w : String)
  | bare (cs : List Char) (h : cs.map Char.toLower = w.toList)
  | quoted

def Ident.text {w : String} : Ident w → List Char
  | bare cs _ => cs
  | quoted => '"' :: w.toList ++ ['"']

/-- A value in a string literal, where quotes are doubled. -/
def doubled (v : List Char) : List Char := v.flatMap fun c => if c = '\'' then ['\'', '\''] else [c]

/-- The string literal of a value. -/
def literal (v : List Char) : List Piece := [.code ['\''], .free (doubled v), .code ['\'']]

/-- A value with what stands around it. -/
structure Value (α : Type) where
  before : Gap
  value : α
  after : Gap

def Value.pieces {α : Type} (write : α → List Piece) (v : Value α) : List Piece :=
  v.before.pieces ++ write v.value ++ v.after.pieces

/-- An argument by the name `w`. -/
structure Named (w : String) (α : Type) where
  before : Gap
  name : Ident w
  beforeArrow : Gap
  value : Value α

/-- An argument after its name. -/
def Named.tail {w : String} {α : Type} (write : α → List Piece) (a : Named w α) : List Piece :=
  a.beforeArrow.pieces ++ .code ['=', '>'] :: a.value.pieces write

def Named.pieces {w : String} {α : Type} (write : α → List Piece) (a : Named w α) : List Piece :=
  a.before.pieces ++ .code a.name.text :: a.tail write

variable (expr : List Char → Prop)

/-- The message of a kill. -/
abbrev Message := {m : List Char // expr m}

variable {expr} in
def Message.pieces (m : Message expr) : List Piece := [.free m.1]

inductive Args
  | positional (queryId : Value (List Char)) (message : Option (Value (Message expr)))
  | named (queryId : Named "query_id" (List Char))
      (message : Option (Named "message" (Message expr)))
  | messageFirst (message : Named "message" (Message expr))
      (queryId : Named "query_id" (List Char))

namespace Args

variable {expr}

def queryId : Args expr → List Char
  | positional q _ => q.value
  | named q _ | messageFirst _ q => q.value.value

/-- What follows the first argument. -/
def rest {α : Type} (write : α → List Piece) : Option α → List Piece
  | none => []
  | some a => .code [','] :: write a

def pieces : Args expr → List Piece
  | positional q m => q.pieces literal ++ rest (Value.pieces Message.pieces) m
  | named q m => q.pieces literal ++ rest (Named.pieces Message.pieces) m
  | messageFirst m q => m.pieces Message.pieces ++ .code [','] :: q.pieces literal

end Args

/-- A dot between two names. -/
structure Dot where
  before : Gap
  after : Gap

def Dot.pieces (d : Dot) : List Piece := d.before.pieces ++ .code ['.'] :: d.after.pieces

structure KillCall where
  lead : Gap
  call : {w : List Char // w.map Char.toLower = "call".toList}
  afterCall : Gap
  system : Ident "system"
  /-- A bare name does not follow the keyword directly. -/
  separate : afterCall = [] → system = Ident.quoted
  dot₁ : Dot
  runtime : Ident "runtime"
  dot₂ : Dot
  killQuery : Ident "kill_query"
  beforeArgs : Gap
  args : Args expr
  trail : Gap
  /-- A comment in the last line, which nothing ends. -/
  remark : Option {body : List Char // ∀ c ∈ body, c ≠ '\n' ∧ c ≠ '\r'}

namespace KillCall

variable {expr} (c : KillCall expr)

def queryId : List Char := c.args.queryId

/-- The call up to the name of the procedure in its schema. -/
def head : List Piece :=
  c.lead.pieces ++ .code c.call.1 :: c.afterCall.pieces ++ .code c.system.text :: c.dot₁.pieces ++
    .code c.runtime.text :: c.dot₂.pieces

/-- The call from the closing parenthesis on. -/
def close : List Piece :=
  .code [')'] :: c.trail.pieces ++ match c.remark with
    | none => []
    | some body => [.code ['-', '-'], .free body.1]

def pieces : List Piece :=
  c.head ++ .code c.killQuery.text :: c.beforeArgs.pieces ++ .code ['('] :: c.args.pieces ++ c.close

def text : List Char := written c.pieces

end KillCall

end TrinoGateway.Sql
