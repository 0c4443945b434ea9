import TagLedger.Store.Fault

/-!
# Errors

Every operation fails with one of these causes.  A cause belongs to a code, and the code fixes the
status, a general message and, mostly, a hint on what to do.
-/

namespace TagLedger

namespace Cache

structure FetchFailure where
  dataset : String
  message : String
  deriving DecidableEq, Repr, Inhabited

def FetchFailure.text (failure : FetchFailure) : String :=
  s!"fetch of \x60{failure.dataset}\x60 failed: {failure.message}"

end Cache

inductive ErrorCode where
  | notInitialized
  | configParseError
  | missingParameter
  | invalidTag
  | invalidDocument
  | slugNotFound
  | assetNotFound
  | assetInUse
  | storeUnavailable
  | corruptStore
  | cacheFetchFailed
  | internalUnexpected
  deriving DecidableEq, Repr

namespace ErrorCode

def all : List ErrorCode :=
  [.notInitialized, .configParseError, .missingParameter, .invalidTag, .invalidDocument,
    .slugNotFound, .assetNotFound, .assetInUse, .storeUnavailable, .corruptStore,
    .cacheFetchFailed, .internalUnexpected]

def text : ErrorCode → String
  | .notInitialized => "E1001"
  | .configParseError => "E1002"
  | .missingParameter => "E2001"
  | .invalidTag => "E2002"
  | .invalidDocument => "E2003"
  | .slugNotFound => "E4001"
  | .assetNotFound => "E4002"
  | .assetInUse => "E4091"
  | .storeUnavailable => "E5001"
  | .corruptStore => "E5002"
  | .cacheFetchFailed => "E5003"
  | .internalUnexpected => "E9001"

def message : ErrorCode → String
  | .notInitialized => "Project not initialized"
  | .configParseError => "Config file parse error"
  | .missingParameter => "Required parameter missing"
  | .invalidTag => "Tag is empty after normalization"
  | .invalidDocument => "Document is not a JSON object"
  | .slugNotFound => "Slug not found"
  | .assetNotFound => "Content asset not found"
  | .assetInUse => "Content asset is still referenced"
  | .storeUnavailable => "Document store unavailable"
  | .corruptStore => "Corrupt document store"
  | .cacheFetchFailed => "Cached dataset fetch failed"
  | .internalUnexpected => "Internal unexpected error"

def hint : ErrorCode → Option String
  | .notInitialized => some "Run \x60tb init\x60 to initialize this directory."
  | .configParseError => some "Fix syntax in .tagboard/config.toml and retry."
  | .missingParameter => some "Pass the required key argument."
  | .invalidTag => some "Use a tag with at least one non-whitespace character."
  | .invalidDocument => some "Load an array of JSON objects."
  | .slugNotFound | .assetNotFound => none
  | .assetInUse => some "Remove the references listed by \x60tb refs <key>\x60 or pass --force."
  | .storeUnavailable => some "Retry later; the store may be locked or missing."
  | .corruptStore => some "Restore .tagboard/tagboard.db from a backup."
  | .cacheFetchFailed => some "Retry; the next consumer will issue a fresh fetch."
  | .internalUnexpected => some "Retry once. If persistent, report a bug with logs."

def status : ErrorCode → Nat
  | .missingParameter | .invalidTag | .invalidDocument => 400
  | .slugNotFound | .assetNotFound => 404
  | .assetInUse => 409
  | .notInitialized | .configParseError | .storeUnavailable | .corruptStore
  | .cacheFetchFailed | .internalUnexpected => 500

end ErrorCode

inductive LedgerError where
  | missingParameter (name : String)
  | invalidTag (tag : String)
  | invalidDocument (index : Nat) (reason : String)
  | slugNotFound (slug : String)
  | assetNotFound (key : String)
  | assetInUse (key : String) (usageCount : Nat)
  | notInitialized (path : String)
  | corruptStore (path : String)
  | config (detail : String)
  | cacheFetch (failure : Cache.FetchFailure)
  | store (fault : StoreFault)
  | serialize
  deriving DecidableEq, Repr

namespace LedgerError

def code : LedgerError → ErrorCode
  | .missingParameter _ => .missingParameter
  | .invalidTag _ => .invalidTag
  | .invalidDocument .. => .invalidDocument
  | .slugNotFound _ => .slugNotFound
  | .assetNotFound _ => .assetNotFound
  | .assetInUse .. => .assetInUse
  | .notInitialized _ => .notInitialized
  | .corruptStore _ => .corruptStore
  | .config _ => .configParseError
  | .cacheFetch _ => .cacheFetchFailed
  | .store _ => .storeUnavailable
  | .serialize => .internalUnexpected

def text : LedgerError → String
  | .missingParameter name => s!"missing required parameter \x60{name}\x60"
  | .invalidTag tag => s!"invalid tag {Text.quoted tag}: empty after normalization"
  | .invalidDocument index reason => s!"invalid document at index {index}: {reason}"
  | .slugNotFound slug => "slug not found: " ++ slug
  | .assetNotFound key => "content asset not found: " ++ key
  | .assetInUse key usageCount =>
      s!"content asset \x60{key}\x60 is referenced by {usageCount} chart element(s)"
  | .notInitialized path => "store not found at " ++ path
  | .corruptStore path => s!"store at {path} is unreadable or corrupt"
  | .config detail => "invalid configuration: " ++ detail
  | .cacheFetch failure => failure.text
  | .store fault => "document store unavailable: " ++ fault.text
  | .serialize => "failed to serialize document"

def suggestion (error : LedgerError) : String :=
  error.code.hint.getD error.code.message

def isClientError (error : LedgerError) : Bool :=
  400 ≤ error.code.status && error.code.status < 500

end LedgerError

end TagLedger
