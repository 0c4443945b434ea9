import TagLedger.Json.Printer
import TagLedger.Store.Basic
import TagLedger.Text.Blank

/-!
# Document collections

A collection stores JSON objects as text, one per row.  A document's id is the first of the
collection's id fields that holds a string which is not blank, trimmed, or a number, as it is
written; a document without one is given a fresh identifier in the first of these fields.
-/

namespace TagLedger

inductive Collection where
  | projects
  | charts
  deriving DecidableEq, Repr

namespace Collection

def table : Collection → TableName
  | .projects => .projects
  | .charts => .charts

def idColumn : Collection → String
  | .projects => "project_id"
  | .charts => "chart_id"

def firstIdField : Collection → String
  | .projects => "_id"
  | .charts => "chartId"

def idFields : Collection → List String
  | .projects => ["_id", "id", "projectId"]
  | .charts => ["chartId", "_id", "id"]

end Collection

structure StoredDocument where
  id : String
  body : String
  deriving DecidableEq, Repr

def usableId : Json → Option String
  | .string text =>
      let trimmed := Text.trim text
      if trimmed.isEmpty then none else some trimmed
  | .number value => some value.toText
  | _ => none

def documentId (collection : Collection) (fields : List (String × Json)) : Option String :=
  collection.idFields.findSome? fun name => (fields.lookup name).bind usableId

def identify (collection : Collection) (candidate : String) (fields : List (String × Json)) :
    String × Json :=
  match documentId collection fields with
  | some id => (id, .object fields)
  | none =>
      (candidate, .object (Json.setField collection.firstIdField (.string candidate) fields))

def prepareDocument (collection : Collection) (candidates : Nat → String)
    (document : Json × Nat) : Except LedgerError StoredDocument :=
  match document with
  | (.object fields, index) =>
      let (id, stored) := identify collection (candidates index) fields
      .ok ⟨id, stored.compact⟩
  | (_, index) => .error (.invalidDocument index "expected a JSON object")

/-- Writes one document over the one with its id, which keeps its time of creation. -/
def writeDocument (collection : Collection) (now : String) (table : Table DocumentRow)
    (document : StoredDocument) : Except StoreFault (Table DocumentRow) :=
  match requireNotEmpty collection.idColumn document.id with
  | .error fault => .error fault
  | .ok () =>
      let createdAt := ((table.find? document.id).map (·.createdAt)).getD now
      .ok (table.insert document.id ⟨.text document.body, createdAt, now⟩)

namespace Store

def documents (store : Store) : Collection → Option (Table DocumentRow)
  | .projects => store.projects
  | .charts => store.charts

def withDocuments (store : Store) (collection : Collection) (table : Table DocumentRow) : Store :=
  match collection with
  | .projects => { store with projects := some table }
  | .charts => { store with charts := some table }

def writeDocuments (collection : Collection) (now : String) (documents : List StoredDocument)
    (table : Table DocumentRow) (store : Store) : Except StoreFault (Table DocumentRow) :=
  if documents.isEmpty then .ok table
  else store.attempt (documents.foldlM (writeDocument collection now) table)

/-- Writes a batch of documents, all of them or none.  The document at an index draws its fresh
identifier, if it needs one, from `candidates` at that index. -/
def upsertDocuments (candidates : Nat → String) (now : String) (collection : Collection)
    (documents : List Json) (store : Store) : Outcome (List String) :=
  match documents.zipIdx.mapM (prepareDocument collection candidates) with
  | .error error => (.error error, store)
  | .ok prepared =>
      match require collection.table (store.documents collection) with
      | .error fault => (.error (.store fault), store)
      | .ok table =>
          match store.writeDocuments collection now prepared table with
          | .error fault => (.error (.store fault), store)
          | .ok table => (.ok (prepared.map (·.id)), store.withDocuments collection table)

def readDocument (row : String × DocumentRow) : Except StoreFault StoredDocument :=
  match row.2.body.read 1 "doc_json" with
  | .ok body => .ok ⟨row.1, body⟩
  | .error fault => .error fault

def scanDocuments (collection : Collection) (store : Store) :
    Except StoreFault (List StoredDocument) :=
  match require collection.table (store.documents collection) with
  | .error fault => .error fault
  | .ok table => table.rows.mapM readDocument

def countDocuments (collection : Collection) (store : Store) : Except StoreFault Nat :=
  match require collection.table (store.documents collection) with
  | .error fault => .error fault
  | .ok table => .ok table.size

end Store

end TagLedger
