import TrinoGateway.Spec.Http

/-!
# Parsing a payload

`ParseHttpPayloadBody` reads a body to its end and puts the bytes back for the next reader. It puts
nothing back when the read fails, and goes on with a nil reader when the gzip header is bad.

`leavesReadable_iff`: **a body is decoded and left as it was exactly when it can be read to its
end, or fails before its first byte, and is not taken for gzip without being it**.
-/

namespace TrinoGateway

open Interact

variable (gunzip : Gunzip) (body : Body) (encoding : String)

/-- The content of a body: none if it cannot be read or decoded. An encoding other than gzip stands
for the bytes themselves. -/
def Body.content : Option String :=
  if body.err ≠ none then none
  else if encoding = "gzip" then
    match gunzip body.bytes with
    | .ok bytes => some (Bytes.text bytes)
    | .badHeader _ => none
    | .corrupt _ => none
  else some (Bytes.text body.bytes)

/-- The call returns, with the content or an error, and leaves the body as it was: whoever reads it
next gets the same bytes. -/
def LeavesReadable : Prop :=
  ∃ res, parseHttpPayloadBody gunzip body encoding = some (res, body) ∧
    res.toOption = body.content gunzip encoding

/-- A call that leaves the body as it was can be made again, with the same result. -/
theorem LeavesReadable.idempotent {gunzip : Gunzip} {body : Body} {encoding : String}
    (h : LeavesReadable gunzip body encoding) {res : Result String} {body' : Body}
    (hcall : parseHttpPayloadBody gunzip body encoding = some (res, body')) :
    parseHttpPayloadBody gunzip body' encoding = some (res, body') := by
  obtain ⟨res', hres, -⟩ := h
  obtain ⟨rfl, rfl⟩ := Prod.mk.inj (Option.some.inj (hres.symm.trans hcall))
  exact hres

/-- The body is taken for gzip and does not begin like it, as with no byte at all. -/
def BadGzip : Prop :=
  body.err = none ∧ encoding = "gzip" ∧ ∃ err, gunzip body.bytes = .badHeader err

/-- **When a payload is parsed and left readable.** -/
theorem leavesReadable_iff :
    LeavesReadable gunzip body encoding ↔
      (body.err = none ∨ body.bytes = []) ∧ ¬ BadGzip gunzip body encoding := by
  obtain ⟨bytes, err⟩ := body
  unfold LeavesReadable BadGzip parseHttpPayloadBody Body.content
  cases err with
  | some e =>
    -- what was read before the error is gone
    cases bytes with
    | nil => exact iff_of_true ⟨_, rfl, rfl⟩ (by simp)
    | cons b bytes => simp
  | none =>
    by_cases hgzip : encoding = "gzip"
    · cases gunzip bytes with
      | badHeader err => simp [hgzip]
      | corrupt err => simp [hgzip, Except.toOption]
      | ok content => simp [hgzip, Except.toOption]
    · simp [hgzip, Except.toOption]

/-- A decompressor of what is no gzip data. -/
def notGzip : Gunzip := fun bytes =>
  .badHeader (if bytes = [] then "EOF" else "gzip: invalid header")

/-- An empty body that is said to be gzip is a panic, and a connection that breaks takes with it the
bytes that were read. -/
theorem notGzip_panics :
    ¬ LeavesReadable notGzip {} "gzip" ∧
      ¬ LeavesReadable notGzip { bytes := [83, 69, 76], err := some "unexpected EOF" } "" := by
  constructor
  · rintro ⟨res, hres, -⟩
    cases hres
  · rintro ⟨res, hres, -⟩
    cases hres

end TrinoGateway
