import OpendalMbt.Bridge.Exports
import OpendalMbt.Browser.Facade

/-!
# Requests to an instance

The `start` functions of `class BrowserOperator` in `wasm/browser-runtime/index.mjs`, once their
arguments have passed their checks, over the state of the bridge itself: each puts its texts and
its data into buffers, calls one export with their handles, and releases the buffers. A text that
`textValue` lets through is `exactText` of one string.
-/

namespace OpendalMbt.Browser

open Codec Bridge Transition

/-- The arguments of the operations and the openings. -/
inductive Request where
  | createDir (path : String)
  | write (path : String) (data : List UInt8) (options : Bridge.WriteOptions)
  | read (path : String) (range : ByteRange) (conditions : ReadConditions)
  | stat (path : String) (conditions : ReadConditions)
  | delete (path : String) (options : Bridge.DeleteOptions)
  | list (path : String) (recursive : Bool) (limit : Option UInt64) (startAfter : Option String)
  | copy (source destination : String)
  | rename (source destination : String)
  | openReadStream (path : String) (chunkSize : UInt32) (range : ByteRange)
      (conditions : ReadConditions)
  | openWriter (path : String) (options : Bridge.WriteOptions)
  | openLister (path : String) (recursive : Bool) (limit : Option UInt64)
      (startAfter : Option String)

namespace Request

/-- `putText`. -/
def text (value : String) : Option (List UInt8) := some (textEncode (exactText value))

/-- `putOptionalText`. -/
def optionalText (value : Option String) : Option (List UInt8) := value.bind text

def writeTexts (options : Bridge.WriteOptions) : List (Option (List UInt8)) :=
  [optionalText options.contentType, optionalText options.contentDisposition,
    optionalText options.contentEncoding, optionalText options.cacheControl,
    optionalText options.ifMatch, optionalText options.ifNoneMatch]

def conditionTexts (conditions : ReadConditions) : List (Option (List UInt8)) :=
  [optionalText conditions.version, optionalText conditions.ifMatch,
    optionalText conditions.ifNoneMatch]

/-- What is put into buffers, in order; an optional text may be absent. -/
def inputs : Request → List (Option (List UInt8))
  | createDir path => [text path]
  | write path data options => text path :: some data :: writeTexts options
  | read path _ conditions => text path :: conditionTexts conditions
  | stat path conditions => text path :: conditionTexts conditions
  | delete path options => [text path, optionalText options.version]
  | list path _ _ startAfter => [text path, optionalText startAfter]
  | copy source destination => [text source, text destination]
  | rename source destination => [text source, text destination]
  | openReadStream path _ _ conditions => text path :: conditionTexts conditions
  | openWriter path options => text path :: writeTexts options
  | openLister path _ _ startAfter => [text path, optionalText startAfter]

/-- A flag as it crosses. -/
def flag (value : Bool) : UInt32 := if value then 1 else 0

def writeScalars (append : Bool) (handles : List UInt32) : WriteScalars where
  append := flag append
  contentType := handles.getD 0 0
  contentDisposition := handles.getD 1 0
  contentEncoding := handles.getD 2 0
  cacheControl := handles.getD 3 0
  ifMatch := handles.getD 4 0
  ifNoneMatch := handles.getD 5 0

def readTexts (handles : List UInt32) : ReadTexts where
  version := handles.getD 0 0
  ifMatch := handles.getD 1 0
  ifNoneMatch := handles.getD 2 0

def listScalars (recursive : Bool) (limit : Option UInt64) (startAfter : UInt32) :
    ListScalars where
  recursive := flag recursive
  hasLimit := flag limit.isSome
  limit := limit.getD 0
  startAfter := startAfter

/-- The export that is called with the handles of the inputs, 0 for an absent text. -/
def call (request : Request) (operator : UInt32) (handles : List UInt32) : Export :=
  let first := handles.getD 0 0
  let second := handles.getD 1 0
  match request with
  | createDir _ => .operatorCreateDirStart operator first
  | write _ _ options =>
    .operatorWriteOptionsStart operator first second
      (writeScalars options.append (handles.drop 2))
  | read _ range _ =>
    .operatorReadOptionsStart operator first range.encode (readTexts (handles.drop 1))
  | stat _ _ => .operatorStatOptionsStart operator first (readTexts (handles.drop 1))
  | delete _ options => .operatorDeleteStart operator first second (flag options.recursive)
  | list _ recursive limit _ =>
    .operatorListStart operator first (listScalars recursive limit second)
  | copy _ _ => .operatorCopyStart operator first second
  | rename _ _ => .operatorRenameStart operator first second
  | openReadStream _ chunkSize range _ =>
    .operatorReadStreamStart operator first chunkSize range.encode (readTexts (handles.drop 1))
  | openWriter _ options =>
    .operatorWriterStart operator first (writeScalars options.append (handles.drop 1))
  | openLister _ recursive limit _ =>
    .operatorListerStart operator first (listScalars recursive limit second)

def fallbackMessage : Request → String
  | createDir _ => "could not start create-dir"
  | write .. => "could not start write"
  | read .. => "could not start read"
  | stat .. => "could not start stat"
  | delete .. => "could not start delete"
  | list .. => "could not start list"
  | copy .. => "could not start copy"
  | rename .. => "could not start rename"
  | openReadStream .. => "could not open an OpenDAL read stream"
  | openWriter .. => "could not open an OpenDAL writer"
  | openLister .. => "could not open an OpenDAL lister"

def expectedKind : Request → CompletionKind
  | createDir _ => .createDir
  | write .. => .write
  | read .. => .read
  | stat .. => .stat
  | delete .. => .delete
  | list .. => .list
  | copy .. => .copy
  | rename .. => .rename
  | openReadStream .. => .openReader
  | openWriter .. => .openWriter
  | openLister .. => .openLister

/-- What OpenDAL is to be asked for. -/
def future {O S W L : Type} (operator : O) : Request → Future O S W L
  | createDir path => .createDir operator path
  | write path data options => .write operator path data options
  | read path range conditions =>
    .read operator path ⟨conditions, range.meaning BytesRange.api⟩
  | stat path conditions => .stat operator path conditions
  | delete path options => .delete operator path options
  | list path recursive limit startAfter =>
    .list operator path { recursive, limit := limit.map UInt64.toNat, startAfter }
  | copy source destination => .copy operator source destination
  | rename source destination => .rename operator source destination
  | openReadStream path chunkSize range conditions =>
    .openReadStream operator path ⟨⟨conditions, range.meaning BytesRange.api⟩, chunkSize.toNat⟩
  | openWriter path options => .openWriter operator path options
  | openLister path recursive limit startAfter =>
    .openLister operator path { recursive, limit := limit.map UInt64.toNat, startAfter }

end Request

section Start

variable {O S W L : Type} {α : Type}

/-- A helper that touches the store only. -/
def inStore (x : FacadeCall O S W L α) : Call (BridgeState O S W L) Failure α := fun s =>
  ((x s.toStore).1, { s with toStore := (x s.toStore).2 })

variable (host : Host) (context : Context)

/-- Put the inputs into buffers, whose handles are there also when one cannot be put. -/
def putInputs : List (Option (List UInt8)) → List UInt32 → Store O S W L →
    (Except Failure Unit × List UInt32) × Store O S W L
  | [], handles, s => ((.ok (), handles), s)
  | none :: rest, handles, s => putInputs rest (handles ++ [0]) s
  | some bytes :: rest, handles, s =>
    match putBytes host bytes context s with
    | (.error failure, s) => ((.error failure, handles), s)
    | (.ok handle, s) => putInputs rest (handles ++ [handle]) s

def releaseInputs (handles : List UInt32) (s : Store O S W L) : Store O S W L :=
  (handles.filter (· ≠ 0)).foldl (fun s handle => (Store.bufferRelease handle s).2) s

/-- Call an export for a handle. -/
def callHandle (lib : Library O) (called : Export) (fallbackMessage : String) :
    Call (BridgeState O S W L) Failure UInt32 := fun s =>
  match called.run s lib with
  | (.handle handle, s) =>
    if handle = 0 then
      inStore
        (do
          let error ← takeLastError host context fallbackMessage
          Call.throw (.outcome error)) s
    else (.ok handle, s)
  | (_, s) => (.error .trap, s)

def Request.start (request : Request) (lib : Library O) (operator : UInt32) :
    Call (BridgeState O S W L) Failure UInt32 := fun s =>
  match putInputs host context request.inputs [] s.toStore with
  | ((.error failure, handles), store) =>
    (.error failure, { s with toStore := releaseInputs handles store })
  | ((.ok (), handles), store) =>
    let (result, s) :=
      (do
        inStore clearLastError
        callHandle host context lib (request.call operator handles) request.fallbackMessage)
        { s with toStore := store }
    (result, { s with toStore := releaseInputs handles s.toStore })

end Start

end OpendalMbt.Browser
