import TagLedger.Json.Lexer

/-!
# Reading JSON

The tokens of a text drive a machine whose stack holds the arrays and objects that are still open.
At most 127 of them may be open at a time.
-/

namespace TagLedger.Json

/-- A container part way through: the items of an array, last first, or the fields of an object and
the name that waits for its value. -/
inductive Frame where
  | items (done : List Json)
  | fields (done : List (String × Json)) (name : String)

inductive Position where
  | beforeValue
  | afterOpenArray
  | afterOpenObject
  | beforeName (done : List (String × Json))
  | afterName (done : List (String × Json)) (name : String)
  | afterValue (value : Json)

structure Reading where
  open_ : List Frame
  position : Position

def deepest : Nat := 127

def Reading.descend (reading : Reading) (position : Position) : Option Reading :=
  if reading.open_.length < deepest then some { reading with position } else none

def Reading.begin (reading : Reading) : Token → Option Reading
  | .openArray => reading.descend .afterOpenArray
  | .openObject => reading.descend .afterOpenObject
  | .scalar value => some { reading with position := .afterValue value }
  | _ => none

def Reading.continue (value : Json) : List Frame → Token → Option Reading
  | .items done :: rest, .comma => some ⟨.items (value :: done) :: rest, .beforeValue⟩
  | .items done :: rest, .closeArray =>
      some ⟨rest, .afterValue (.array (value :: done).reverse)⟩
  | .fields done name :: rest, .comma => some ⟨rest, .beforeName (setField name value done)⟩
  | .fields done name :: rest, .closeObject =>
      some ⟨rest, .afterValue (.object (setField name value done))⟩
  | _, _ => none

def Reading.step (reading : Reading) (token : Token) : Option Reading :=
  match reading.position, token with
  | .beforeValue, token => reading.begin token
  | .afterOpenArray, .closeArray => some { reading with position := .afterValue (.array []) }
  | .afterOpenArray, token =>
      Reading.begin ⟨.items [] :: reading.open_, .beforeValue⟩ token
  | .afterOpenObject, .closeObject => some { reading with position := .afterValue (.object []) }
  | .afterOpenObject, .scalar (.string name) => some { reading with position := .afterName [] name }
  | .beforeName done, .scalar (.string name) => some { reading with position := .afterName done name }
  | .afterName done name, .colon => some ⟨.fields done name :: reading.open_, .beforeValue⟩
  | .afterValue value, token => Reading.continue value reading.open_ token
  | _, _ => none

def Reading.result? (reading : Reading) : Option Json :=
  match reading.open_, reading.position with
  | [], .afterValue value => some value
  | _, _ => none

def ofTokens (tokens : List Token) : Option Json := do
  let reading ← tokens.foldlM Reading.step ⟨[], .beforeValue⟩
  reading.result?

def read (text : String) : Option Json :=
  (lex text).bind ofTokens

end TagLedger.Json
