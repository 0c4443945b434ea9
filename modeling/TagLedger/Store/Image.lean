import TagLedger.Store.Basic

/-!
# Images of stores

What the bytes of a file say of the store in it.  They begin with a header of a hundred bytes, which
names their form, the size of a page, and the version; the rest of the first page lists what has been
created.  Only a store in which nothing has been created is read from its bytes.

A position beyond the end of the file counts as zero.
-/

namespace TagLedger

inductive Defect where
  | notADatabase
  | malformed
  | unsupportedFormat
  deriving DecidableEq, Repr

def Defect.text : Defect → String
  | .notADatabase =>
      "file is not a database: " ++ errorCode 26 "File opened that is not a database file"
  | .malformed => StoreFault.malformed.report
  | .unsupportedFormat =>
      "unsupported file format: " ++ errorCode 1 "SQL error or missing database"

/-- The store that a file holds, unless that is defective, and whether the file says that changes to
the store are kept in a log. -/
structure Image where
  logged : Bool
  content : Except Defect Store

namespace Image

def byte (bytes : ByteArray) (position : Nat) : Nat :=
  (bytes.data[position]?.map (·.toNat)).getD 0

def number (bytes : ByteArray) (position count : Nat) : Nat :=
  (List.range count).foldl (fun value index => value * 256 + byte bytes (position + index)) 0

/-! ## The header -/

def signature : ByteArray :=
  "SQLite format 3\x00".toUTF8

/-- Whether the file is said to be of a form that is known: with a journal, or with a log. -/
def hasSignature (bytes : ByteArray) : Bool :=
  bytes.extract 0 signature.size == signature && byte bytes 19 ≤ 2

def isLogged (bytes : ByteArray) : Bool :=
  hasSignature bytes && byte bytes 19 == 2

/-- The size of a page; the greatest one does not fit into its two bytes. -/
def pageSize (bytes : ByteArray) : Nat :=
  if number bytes 16 2 = 1 then 65536 else number bytes 16 2

def pageSizes : List Nat :=
  [512, 1024, 2048, 4096, 8192, 16384, 32768, 65536]

def reserved (bytes : ByteArray) : Nat :=
  byte bytes 20

def usableSize (bytes : ByteArray) : Nat :=
  pageSize bytes - reserved bytes

def leastUsableSize : Nat := 480

/-- The parts of a page that may be filled, which are the same in every store. -/
def hasShares (bytes : ByteArray) : Bool :=
  byte bytes 21 == 64 && byte bytes 22 == 32 && byte bytes 23 == 32

def pagesOfFile (bytes : ByteArray) : Nat :=
  (bytes.size + pageSize bytes - 1) / pageSize bytes

/-- The number of pages: the one in the header, if that has been kept up with the changes. -/
def pageCount (bytes : ByteArray) : Nat :=
  let stated := number bytes 28 4
  if stated = 0 ∨ number bytes 24 4 ≠ number bytes 92 4 then pagesOfFile bytes else stated

def freePages (bytes : ByteArray) : Nat :=
  number bytes 36 4

def latestFormat : Nat := 4

def format (bytes : ByteArray) : Nat :=
  byte bytes 47

def lastRoot (bytes : ByteArray) : Nat :=
  number bytes 52 4

def version (bytes : ByteArray) : Int :=
  Int.bmod (number bytes 60 4) 0x100000000

/-! ## The first page -/

def isEmptyList (bytes : ByteArray) : Bool :=
  byte bytes 100 == 13 && number bytes 103 2 == 0

/-- Where the entries of the page begin; the greatest value does not fit into its two bytes. -/
def entriesStart (bytes : ByteArray) : Nat :=
  if number bytes 105 2 = 0 then 65536 else number bytes 105 2

def leastEntriesStart (bytes : ByteArray) : Nat :=
  match pageSize bytes with
  | 512 => 248 - reserved bytes
  | 1024 => 437 - reserved bytes
  | 2048 => 950
  | _ => 1919

def hasRoom (bytes : ByteArray) : Bool :=
  let start := entriesStart bytes
  number bytes 101 2 == 0 && leastEntriesStart bytes ≤ start
    && start + byte bytes 107 ≤ usableSize bytes

/-! ## Reading -/

def defect? (bytes : ByteArray) : Option Defect :=
  if !hasSignature bytes || !hasShares bytes || !pageSizes.contains (pageSize bytes) then
    some .notADatabase
  else if pagesOfFile bytes < pageCount bytes then some .malformed
  else if usableSize bytes < leastUsableSize then some .notADatabase
  else if latestFormat < format bytes then some .unsupportedFormat
  else if !isEmptyList bytes then some .malformed
  else none

/-- The fault that writing meets: the file forbids it, or new pages cannot be placed. -/
def refusal? (bytes : ByteArray) : Option StoreFault :=
  if 2 < byte bytes 18 then some .readOnly
  else if hasRoom bytes && freePages bytes < pageCount bytes && lastRoot bytes ≤ pageCount bytes then
    none
  else some .malformed

def ofBytes (bytes : ByteArray) : Image :=
  ⟨isLogged bytes,
    match defect? bytes with
    | some defect => .error defect
    | none => .ok { Store.blank with version := version bytes, refusal := refusal? bytes }⟩

end Image

end TagLedger
