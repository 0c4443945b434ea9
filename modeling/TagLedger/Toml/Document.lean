import TagLedger.Toml.Scalar

/-!
# TOML documents

A document is read line by line: an assignment goes to the table of the last header, a header opens
a table or a new element of an array of tables.  Values nest to a fixed depth.
-/

namespace TagLedger.Toml

/-! `steps` bounds the parts that are read, of which the length of the text is enough, and `levels`
the nesting. -/

mutual

def valueWithin : Nat → Nat → List Char → Option (Toml × List Char)
  | 0, _, _ => none
  | steps + 1, levels, '[' :: rest =>
      match levels with
      | 0 => none
      | levels + 1 => do
          let (items, rest) ← itemsWithin steps levels rest
          return (.array items, rest)
  | steps + 1, levels, '\x7b' :: rest =>
      match levels with
      | 0 => none
      | levels + 1 =>
          match skipSpace rest with
          | '\x7d' :: rest => some (.inline [], rest)
          | rest => do
              let (entries, rest) ← entriesWithin steps levels [] rest
              return (.inline entries, rest)
  | _ + 1, _, text => scalarValue? text

def itemsWithin : Nat → Nat → List Char → Option (List Toml × List Char)
  | 0, _, _ => none
  | steps + 1, levels, text =>
      match skipBlank false text with
      | ']' :: rest => some ([], rest)
      | text => do
          let (item, rest) ← valueWithin steps levels text
          match skipBlank false rest with
          | ',' :: rest => do
              let (items, rest) ← itemsWithin steps levels rest
              return (item :: items, rest)
          | ']' :: rest => return ([item], rest)
          | _ => none

def entriesWithin : Nat → Nat → Entries → List Char → Option (Entries × List Char)
  | 0, _, _, _ => none
  | steps + 1, levels, entries, text => do
      let (path, key, rest) ← key? text
      let rest ← expect? '=' rest
      let (value, rest) ← valueWithin steps levels (skipSpace rest)
      let entries ← assign path key value entries
      match skipSpace rest with
      | ',' :: rest => entriesWithin steps levels entries rest
      | '\x7d' :: rest => return (entries, rest)
      | _ => none

end

def value? (text : List Char) : Option (Toml × List Char) :=
  valueWithin (2 * text.length + 2) (depthLimit - 1) text

structure Reading where
  root : Entries
  header : List String

def Reading.assignment? (reading : Reading) (text : List Char) :
    Option (Reading × List Char) := do
  let (path, key, rest) ← key? text
  let rest ← expect? '=' rest
  let (value, rest) ← value? (skipSpace rest)
  let rest ← endLine? rest
  let root ← assignUnder reading.header path key value reading.root
  return ({ reading with root }, rest)

def Reading.header? (reading : Reading) (text : List Char) : Option (Reading × List Char) := do
  let (path, key, rest) ← key? text
  let rest ← endLine? (← expect? ']' rest)
  let root ← openTable path key reading.root
  return (⟨root, path ++ [key]⟩, rest)

def Reading.elementHeader? (reading : Reading) (text : List Char) :
    Option (Reading × List Char) := do
  let (path, key, rest) ← key? text
  let rest ← endLine? (← expect? ']' (← expect? ']' rest))
  let root ← openElement path key reading.root
  return (⟨root, path ++ [key]⟩, rest)

def Reading.line? (reading : Reading) (text : List Char) : Option (Reading × List Char) :=
  match skipSpace text with
  | '[' :: '[' :: rest => reading.elementHeader? rest
  | '[' :: rest => reading.header? rest
  | '#' :: rest => (endLine? ('#' :: rest)).map (reading, ·)
  | '\n' :: rest => some (reading, rest)
  | '\r' :: '\n' :: rest => some (reading, rest)
  | [] => some (reading, [])
  | text => reading.assignment? text

def linesWithin : Nat → Reading → List Char → Option Entries
  | _, reading, [] => some reading.root
  | 0, _, _ => none
  | limit + 1, reading, text => do
      let (reading, rest) ← reading.line? text
      linesWithin limit reading rest

def read (text : String) : Option Entries :=
  let characters :=
    match text.toList with
    | '\ufeff' :: rest => rest
    | characters => characters
  linesWithin characters.length ⟨[], []⟩ characters

end TagLedger.Toml
