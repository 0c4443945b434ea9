import TagLedger.Cache.Bus
import TagLedger.Cache.Derived
import TagLedger.Store.Color
import TagLedger.Store.Opening

/-!
# Cached tag colors

The color table as a derived dataset.  A fetch opens the store anew and reads the table; a color
that is set through the board is announced on the bus, so that every mounted consumer fetches again
before it next renders.
-/

namespace TagLedger

open Cache

def colorDataset : String := "hashtag-colors"

def colorFailure (message : String) : FetchFailure :=
  ⟨colorDataset, message⟩

def fetchColors (now path : String) (file : StoreFile) : FetchEnd ColorTable × StoreFile :=
  match file.tryOpenStore now with
  | (none, file) => (.failed (colorFailure ("store not found at " ++ path)), file)
  | (some store, file) =>
      match store.loadColors with
      | .error error => (.failed (colorFailure error.text), file)
      | .ok colors => (.succeeded colors, file)

structure Board where
  path : String
  store : Store
  bus : Bus
  cachePath : String
  cache : Derived ColorTable

namespace Board

def new (path cachePath : String) (store : Store) : Board :=
  ⟨path, store, .empty, cachePath, .new colorDataset⟩

def withFile (board : Board) : StoreFile → Board
  | .store store _ => { board with store }
  | _ => board

def fetch (now : String) (board : Board) : FetchEnd ColorTable × Board :=
  if board.cachePath = board.path then
    let (fetchEnd, file) := fetchColors now board.path (.store board.store true)
    (fetchEnd, board.withFile file)
  else ((fetchColors now board.cachePath .absent).1, board)

def lead (now : String) (flight : Nat) (board : Board) : Fetched ColorTable × Board :=
  let (fetchEnd, board) := board.fetch now
  let (fetched, cache) := board.cache.lead flight fetchEnd
  (fetched, { board with cache })

def refetch (now : String) (board : Board) : Fetched ColorTable × Board :=
  let (flight, cache) := board.cache.supersede
  { board with cache }.lead now flight

/-- The cached table.  Every call here runs to its end before the next, so that a flight in the
slot would be one that no one leads; it is superseded. -/
def get (now : String) (board : Board) : Fetched ColorTable × Board :=
  match board.cache.enter with
  | (.served colors, cache) => (.ok colors, { board with cache })
  | (.leader flight, cache) => { board with cache }.lead now flight
  | (.waiter _, _) => board.refetch now

def mount (board : Board) : Nat × Board :=
  let (consumer, bus) := board.bus.subscribe
  (consumer, { board with bus })

def unmount (consumer : Nat) (board : Board) : Board :=
  { board with bus := board.bus.unsubscribe consumer }

def render (now : String) (consumer : Nat) (board : Board) : Fetched ColorTable × Board :=
  let (invalidated, bus) := board.bus.take consumer colorDataset
  let board := { board with bus }
  if invalidated then board.refetch now else board.get now

def publish (dataset : String) (board : Board) : Nat × Board :=
  let (reached, bus) := board.bus.publish dataset
  (reached, { board with bus })

/-- Sets a color and announces it; a color that was not set is not announced. -/
def setColorAndInvalidate (now tag color : String) (board : Board) :
    Except LedgerError String × Board :=
  match board.store.setColor now tag color with
  | (.error error, store) => (.error error, { board with store })
  | (.ok canonical, store) => (.ok canonical, ({ board with store }.publish colorDataset).2)

end Board

end TagLedger
