import TagLedger.Store.Basic
import TagLedger.Tag.Canonical

/-!
# Tag colors

A display color for each tag, under the tag's canonical form.
-/

namespace TagLedger

abbrev ColorTable : Type :=
  Table String

def ColorTable.colorFor (colors : ColorTable) (tag fallback : String) : String :=
  match Tag.canonicalize tag with
  | some canonical => (colors.find? canonical).getD fallback
  | none => fallback

namespace Store

def writeColor (now tag color : String) (table : Table ColorRow) :
    Except StoreFault (Table ColorRow) :=
  match requireNotEmpty "tag" tag with
  | .error fault => .error fault
  | .ok () =>
      match requireNotEmpty "color" color with
      | .error fault => .error fault
      | .ok () => .ok (table.insert tag ⟨color, now⟩)

def setColor (now tag color : String) (store : Store) : Outcome String :=
  match Tag.canonicalize tag with
  | none => (.error (.invalidTag tag), store)
  | some canonical =>
      let color := Text.trim color
      if color.isEmpty then (.error (.missingParameter "color"), store)
      else
        match (require .colors store.colors).bind fun table =>
            store.attempt (writeColor now canonical color table) with
        | .error fault => (.error (.store fault), store)
        | .ok table => (.ok canonical, { store with colors := some table })

def loadColors (store : Store) : Except LedgerError ColorTable :=
  match require .colors store.colors with
  | .error fault => .error (.store fault)
  | .ok table => .ok (.ofList (table.rows.map fun row => (row.1, row.2.color)))

end Store

end TagLedger
