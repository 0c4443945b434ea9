import TagLedger.Number.Binary64
import TagLedger.Table

/-!
# JSON values

Numbers written as integers keep their digits while they fit in 64 bits, signed or unsigned; every
other number is a double.  An object keeps one field per name, in the order of the names.
-/

namespace TagLedger

namespace Json

inductive Number where
  | integer (value : Int)
  | real (value : Binary64)
  deriving DecidableEq, Repr

end Json

inductive Json where
  | null
  | bool (value : Bool)
  | number (value : Json.Number)
  | string (value : String)
  | array (items : List Json)
  | object (fields : List (String × Json))
  deriving Inhabited

namespace Json

def setField (name : String) (value : Json) (fields : List (String × Json)) : List (String × Json) :=
  Table.insertRow name value fields

def ofFields (fields : List (String × Json)) : Json :=
  .object (fields.foldl (fun kept field => setField field.1 field.2 kept) [])

def field? (name : String) : Json → Option Json
  | .object fields => fields.lookup name
  | _ => none

def string? : Json → Option String
  | .string value => some value
  | _ => none

def array? : Json → Option (List Json)
  | .array items => some items
  | _ => none

def object? : Json → Option (List (String × Json))
  | .object fields => some fields
  | _ => none

def stringField? (name : String) (value : Json) : Option String :=
  (value.field? name).bind string?

def ofNat (value : Nat) : Json :=
  .number (.integer value)

end Json

end TagLedger
