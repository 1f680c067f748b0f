import Mathlib.Logic.Function.Basic
import TrinoGateway.Lib.Text

/-!
# Log entries, `pkg/logger`

`Entry.withFields` makes a new entry with more fields. A range over the map of the fields has no
order of its own: the fields come as a list, in the order of the range. The result is the new entry
with the receiver as it is left behind, and `none` is a panic.
-/

namespace TrinoGateway

open Interact

/-- A type, as far as `reflect` is asked about it. -/
inductive GoType
  | func
  | ptr (elem : GoType)
  | other (name : String)
deriving DecidableEq, Repr

/-- A value in an `interface{}`. -/
inductive Any
  | nil
  | of (type : GoType) (value : String)
deriving DecidableEq, Repr

namespace Any

/-- An error, by its text. -/
def error (text : String) : Any := of (.ptr (.other "errors.errorString")) text

def string (value : String) : Any := of (.other "string") value

end Any

/-- A map of fields. -/
abbrev Fields := String → Option Any

/-- A log entry; the `data` of an entry is `none` for the nil map. -/
structure Entry where
  logger : String
  data : Option Fields := some fun _ => none
  level : String := ""
  message : String := ""
  err : Option String := none

/-- Whether a field is a function or a pointer to one. -/
def isErrField : Any → Bool
  | .nil => false
  | .of t _ =>
    match t with
    | .func => true
    | .ptr elem => elem = .func
    | .other _ => false

namespace Entry

/-- The package's `ErrorKey`, and the runes that `%q` prints as they are. -/
structure Settings where
  errorKey : String := "error"
  isPrint : Char → Bool

variable (cfg : Settings)

/-- The text about a field that is not added. -/
def canNotAdd (k : String) : String := "can not add field " ++ Text.quote cfg.isPrint k

/-- The loop over the fields: the new data, and `fieldErr`. -/
def addFields (err : Option String) :
    Fields × Option String → List (String × Any) → Option (Fields × Option String)
  | acc, [] => some acc
  | (data, fieldErr), (k, v) :: fields =>
    if isErrField v then
      match fieldErr with
      | none => addFields err (data, some (canNotAdd cfg k)) fields
      | some _ =>
        -- the error of the entry is read here, not the one found last
        match err with
        | none => none
        | some e => addFields err (data, some (e ++ ", " ++ canNotAdd cfg k)) fields
    else addFields err (Function.update data k (some v), fieldErr) fields

def withFields (entry : Entry) (fields : List (String × Any)) : Option (Entry × Entry) :=
  match addFields cfg entry.err (entry.data.getD fun _ => none, entry.err) fields with
  | none => none
  | some (data, fieldErr) =>
    let res : Entry := { logger := entry.logger, data := some data, err := entry.err }
    if entry.err = none then some (res, entry)
    else
      match entry.data with
      -- an assignment to the nil map
      | none => none
      | some d =>
        let v := (fieldErr.map Any.error).getD .nil
        some (res, { entry with data := some (Function.update d cfg.errorKey (some v)) })

def withField (entry : Entry) (key : String) (value : Any) : Option (Entry × Entry) :=
  entry.withFields cfg [(key, value)]

/-- The text of a nil error is a nil dereference. -/
def withError (entry : Entry) (err : Option String) : Option (Entry × Entry) :=
  err.bind fun e => entry.withField cfg cfg.errorKey (.string e)

end Entry

end TrinoGateway
