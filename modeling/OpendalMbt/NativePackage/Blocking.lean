import OpendalMbt.NativePackage.Metadata
import OpendalMbt.RangeCodec
import OpendalMbt.Stub.Result
import OpendalMbt.Transition.Call

/-!
# The blocking functions of the native package

`src/operator.mbt`, `src/reader.mbt`, `src/read_stream.mbt`, `src/writer.mbt`, `src/copier.mbt`,
`src/listing.mbt` and `src/layers.mbt`, over the external objects of the stub. What a function
passes on of its options is a carrier of the stub, and is left out here; what the library and the
getters answer is arbitrary.

* `BlockingFunction.run`: the bodies that the functions share;
* `Operator.check` and the others: the functions;
* `Operator.list`: the listing loop.
-/

namespace OpendalMbt.NativePackage.Blocking

open Codec Native Stub Transition

/-! ## Sessions -/

/-- The objects of the stub, and those that were closed through `native_*_close`. -/
structure Session where
  world : World
  closed : List Nat

def Session.start : Session := ⟨.start, []⟩

abbrev PackageCall (α : Type) : Type := Call Session OpenDalError α

/-- What the getters of a result read of its error. -/
structure ErrorParts where
  kindCode : UInt32
  statusCode : UInt32
  kindName : List UInt8
  message : List UInt8

/-- What the getters of an entry read; `result_take_entry` has validated it. -/
structure EntryTexts where
  path : List UInt8
  name : List UInt8
  valid : (utf8Decode path).isSome ∧ (utf8Decode name).isSome

/-- What one call is answered: by the checks of its arguments, by the library, by the validation
of what it takes, and by the getters. -/
structure Answers where
  arguments : Arguments := {}
  reply : Reply
  entries : BufferEntries
  valid : Bool
  error : ErrorParts
  entry : EntryTexts
  metadata : NativeMetadata

/-- What a function returns. `none` of an optional result is `.end`. -/
inductive Given where
  | unit
  | bool (value : Bool)
  | uint64 (value : UInt64)
  | bytes (value : List UInt8)
  | metadata (value : Metadata)
  | entry (path name : String) (metadata : Metadata)
  /-- An external object, by its number. -/
  | object (number : Nat)
  | «end»

/-- What a take returns, an object with the given number; a take that has failed returns the
default of its type. -/
def Given.ofTaken (take : Take) (number : Nat) : Option Taken → Given
  | some (.bool value) => .bool value
  | some (.uint64 value) => .uint64 value
  | some (.bytes value) => .bytes value
  | some (.object _) => .object number
  | none =>
    match take with
    | .bool => .bool false
    | .uint64 => .uint64 0
    | .bytes _ => .bytes []
    | _ => .object number

section Calls

variable (lib : Library)

def act (action : Action) (s : Session) : Session :=
  { s with world := (s.world.step lib action).getD s.world }

def Session.close (number : Nat) (s : Session) : Session :=
  { s with closed := s.closed ++ [number] }

variable (answers : Answers)

/-- A function of the stub; the number of its result. -/
def nativeCall (call : ResultCall) (receiver : Option Nat) : PackageCall Nat := fun s =>
  (.ok s.world.objects.length, act lib (.call call receiver answers.arguments answers.reply) s)

def statusAt (result : Nat) (s : Session) : Status :=
  match s.world.objects[result]? with
  | some (.result r) => r.status
  | _ => .abiMismatch

def nativeResultStatus (result : Nat) : PackageCall Status := fun s => (.ok (statusAt result s), s)

def nativeResultTake (result : Nat) (take : Take) : PackageCall Given := fun s =>
  match s.world.objects[result]? with
  | some (.result r) =>
    (.ok (.ofTaken take s.world.objects.length (take.run lib r s.world.handles).1),
      act lib (.take result take) s)
  | _ => (.ok (.ofTaken take s.world.objects.length none), s)

def nativeResultRelease (result : Nat) : PackageCall Unit := Call.modify (act lib (.release result))

def errorFromNativeResult (result : Nat) (subject : Subject) : PackageCall OpenDalError := do
  nativeResultRelease lib result
  let kindName ← Call.lift (decodeAbiText answers.error.kindName subject)
  let message ← Call.lift (decodeAbiText answers.error.message subject)
  pure {
    subject with
    kind := nativeErrorKind answers.error.kindCode kindName
    status := nativeErrorStatus answers.error.statusCode
    message }

/-- `raise error_from_native_result(...)`. -/
def raiseNative {α : Type} (result : Nat) (subject : Subject) : PackageCall α := do
  let error ← errorFromNativeResult lib answers result subject
  Call.throw error

/-- Everything is read before the release, and decoded after it. -/
def takeMetadata (metadata : Nat) (subject : Subject) : PackageCall Metadata := do
  Call.modify (act lib (.release metadata))
  Call.lift (metadataFromNative answers.metadata subject)

/-- `native_entry_take_metadata`; the number of the new object. -/
def nativeEntryTakeMetadata (entry : Nat) : PackageCall Nat := fun s =>
  (.ok s.world.objects.length, act lib (.entryTakeMetadata entry) s)

def entryFromNative (entry : Nat) (listingPath : Option String) : PackageCall Given := do
  let metadata ← nativeEntryTakeMetadata lib entry
  Call.modify (act lib (.release entry))
  let path ← Call.lift (decodeAbiText answers.entry.path ⟨.list, listingPath, none⟩)
  let name ← Call.lift (decodeAbiText answers.entry.name ⟨.list, listingPath, none⟩)
  let metadata ← takeMetadata lib answers metadata ⟨.list, some path, none⟩
  pure (.entry path name metadata)

end Calls

/-! ## Bodies -/

/-- How a function goes on with its result. -/
inductive Body where
  | unit
  | value (take : Answers → Take)
  | metadata
  /-- `END` is `None`; a failure closes the receiver, unless that is a copier. -/
  | next (take : Answers → Take) (closes : Bool)
  | nextEntry

structure BlockingFunction where
  call : ResultCall
  receiver : Option Nat
  subject : Subject
  body : Body
  /-- What is checked before the call. -/
  check : Except OpenDalError Unit := .ok ()

namespace BlockingFunction

variable (lib : Library) (f : BlockingFunction) (answers : Answers)

/-- The payload of a result that is `OK`. -/
def payload (take : Take) : PackageCall Given := do
  let result ← nativeCall lib answers f.call f.receiver
  let status ← nativeResultStatus result
  if status ≠ .ok then raiseNative lib answers result f.subject
  else do
    let given ← nativeResultTake lib result take
    let status ← nativeResultStatus result
    if status ≠ .ok then raiseNative lib answers result f.subject
    else do
      nativeResultRelease lib result
      pure given

def unit : PackageCall Given := do
  let result ← nativeCall lib answers f.call f.receiver
  let status ← nativeResultStatus result
  if status ≠ .ok then raiseNative lib answers result f.subject
  else do
    nativeResultRelease lib result
    pure .unit

def metadata : PackageCall Given := do
  let given ← f.payload lib answers (.metadata answers.valid)
  match given with
  | .object number => do
    let metadata ← takeMetadata lib answers number f.subject
    pure (.metadata metadata)
  | given => pure given

/-- `self.close()`. -/
def closeSelf (closes : Bool) (s : Session) : Session :=
  match closes, f.receiver with
  | true, some number => s.close number
  | _, _ => s

def next (take : Take) (closes : Bool) (convert : Given → PackageCall Given) :
    PackageCall Given := do
  let result ← nativeCall lib answers f.call f.receiver
  let status ← nativeResultStatus result
  if status = .ok then do
    let given ← nativeResultTake lib result take
    let status ← nativeResultStatus result
    if status ≠ .ok then do
      Call.modify (f.closeSelf closes)
      raiseNative lib answers result f.subject
    else do
      nativeResultRelease lib result
      Call.onError (convert given) (f.closeSelf closes)
  else if status = .end then do
    nativeResultRelease lib result
    pure .end
  else do
    Call.modify (f.closeSelf closes)
    raiseNative lib answers result f.subject

/-- `entry_from_native` of what was taken. -/
def convertEntry : Given → PackageCall Given
  | .object number => entryFromNative lib answers number f.subject.path
  | given => pure given

def run : PackageCall Given := do
  Call.lift f.check
  match f.body with
  | .unit => f.unit lib answers
  | .value take => f.payload lib answers (take answers)
  | .metadata => f.metadata lib answers
  | .next take closes => f.next lib answers (take answers) closes pure
  | .nextEntry =>
    f.next lib answers (.entry answers.valid) true (f.convertEntry lib answers)

end BlockingFunction

/-! ## The functions -/

/-- `ByteRange::native_parts`. -/
def nativeParts (path : String) : ByteRange → Except OpenDalError RangeScalars
  | .full => .ok ⟨0, 0, 0⟩
  | .from offset => .ok ⟨1, offset, 0⟩
  | .range offset length =>
    if length > 18446744073709551615 - offset then
      .error (bindingError .invalidArgument "byte range offset plus length exceeds UInt64"
        ⟨.read, some path, none⟩)
    else .ok ⟨2, offset, length⟩
  | .suffix length => .ok ⟨3, 0, length⟩

def checkRange (path : String) (range : ByteRange) : Except OpenDalError Unit := do
  let _ ← nativeParts path range
  .ok ()

def checkChunkSize (path : String) (chunkSize : Int) : Except OpenDalError Unit :=
  if chunkSize ≤ 0 then
    .error (bindingError .invalidArgument "read stream chunk_size must be positive"
      ⟨.read, some path, none⟩)
  else .ok ()

def invalidLayerArgument (message : String) : OpenDalError :=
  bindingError .invalidArgument message { operation := .newOperator }

def validateTimeoutLayer (operationTimeoutMillis ioTimeoutMillis : UInt64) :
    Except OpenDalError Unit :=
  if operationTimeoutMillis = 0 then
    .error (invalidLayerArgument "operation_timeout_millis must be greater than zero")
  else if ioTimeoutMillis = 0 then
    .error (invalidLayerArgument "io_timeout_millis must be greater than zero")
  else .ok ()

def validateRetryLayer (maxRetries : UInt32) (minDelayMillis maxDelayMillis : UInt64) :
    Except OpenDalError Unit :=
  if maxRetries = 0 then
    .error (invalidLayerArgument "max_retries must be greater than zero")
  else if minDelayMillis = 0 then
    .error (invalidLayerArgument "min_delay_millis must be greater than zero")
  else if maxDelayMillis = 0 then
    .error (invalidLayerArgument "max_delay_millis must be greater than zero")
  else if minDelayMillis > maxDelayMillis then
    .error (invalidLayerArgument "min_delay_millis must not exceed max_delay_millis")
  else .ok ()

def validateConcurrencyLimitLayer (operationLimit : UInt32) (httpRequestLimit : Option UInt32) :
    Except OpenDalError Unit :=
  if operationLimit = 0 then
    .error (invalidLayerArgument "operation_limit must be greater than zero")
  else if httpRequestLimit = some 0 then
    .error (invalidLayerArgument "http_request_limit must be greater than zero when provided")
  else .ok ()

namespace Operator

variable (operator : Nat) (path source destination : String)

def new : BlockingFunction where
  call := .operatorNew
  receiver := none
  subject := { operation := .newOperator }
  body := .value fun _ => .operator

/-- `take_layered_operator`. -/
def layered (call : ResultCall) (check : Except OpenDalError Unit) : BlockingFunction where
  call
  receiver := some operator
  subject := { operation := .newOperator }
  body := .value fun _ => .operator
  check

def withTimeout (operationTimeoutMillis ioTimeoutMillis : UInt64) : BlockingFunction :=
  layered operator .operatorWithTimeout
    (validateTimeoutLayer operationTimeoutMillis ioTimeoutMillis)

def withRetry (maxRetries : UInt32) (minDelayMillis maxDelayMillis : UInt64) : BlockingFunction :=
  layered operator .operatorWithRetry
    (validateRetryLayer maxRetries minDelayMillis maxDelayMillis)

def withConcurrencyLimit (operationLimit : UInt32) (httpRequestLimit : Option UInt32) :
    BlockingFunction :=
  layered operator .operatorWithConcurrencyLimit
    (validateConcurrencyLimitLayer operationLimit httpRequestLimit)

def check : BlockingFunction where
  call := .operatorCheck
  receiver := some operator
  subject := { operation := .check }
  body := .unit

def «exists» : BlockingFunction where
  call := .operatorExists
  receiver := some operator
  subject := ⟨.exists, some path, none⟩
  body := .value fun _ => .bool

def stat : BlockingFunction where
  call := .operatorStat
  receiver := some operator
  subject := ⟨.stat, some path, none⟩
  body := .metadata

def read (range : ByteRange) : BlockingFunction where
  call := .operatorRead
  receiver := some operator
  subject := ⟨.read, some path, none⟩
  body := .value fun answers => .bytes answers.entries
  check := checkRange path range

def write : BlockingFunction where
  call := .operatorWrite
  receiver := some operator
  subject := ⟨.write, some path, none⟩
  body := .metadata

def createDir : BlockingFunction where
  call := .operatorCreateDir
  receiver := some operator
  subject := ⟨.createDir, some path, none⟩
  body := .unit

def delete : BlockingFunction where
  call := .operatorDelete
  receiver := some operator
  subject := ⟨.delete, some path, none⟩
  body := .unit

/-- The call for paths that `prepare_delete_many_paths` has passed. -/
def deleteMany : BlockingFunction where
  call := .operatorDeleteMany
  receiver := some operator
  subject := { operation := .delete }
  body := .unit

def copy : BlockingFunction where
  call := .operatorCopy
  receiver := some operator
  subject := ⟨.copy, some source, some destination⟩
  body := .metadata

def rename : BlockingFunction where
  call := .operatorRename
  receiver := some operator
  subject := ⟨.rename, some source, some destination⟩
  body := .unit

def openReader : BlockingFunction where
  call := .operatorReader
  receiver := some operator
  subject := ⟨.read, some path, none⟩
  body := .value fun _ => .reader

def openReadStream (range : ByteRange) (chunkSize : Int) : BlockingFunction where
  call := .operatorReadStream
  receiver := some operator
  subject := ⟨.read, some path, none⟩
  body := .value fun _ => .readStream
  check := do
    checkChunkSize path chunkSize
    checkRange path range

def openWriter : BlockingFunction where
  call := .operatorWriter
  receiver := some operator
  subject := ⟨.write, some path, none⟩
  body := .value fun _ => .writer

def openCopier : BlockingFunction where
  call := .operatorCopier
  receiver := some operator
  subject := ⟨.copy, some source, some destination⟩
  body := .value fun _ => .copier

def openLister : BlockingFunction where
  call := .operatorLister
  receiver := some operator
  subject := ⟨.list, some path, none⟩
  body := .value fun _ => .lister

end Operator

def Reader.read (reader : Nat) (path : String) (range : ByteRange) : BlockingFunction where
  call := .readerRead
  receiver := some reader
  subject := ⟨.read, some path, none⟩
  body := .value fun answers => .bytes answers.entries
  check := checkRange path range

def ReadStream.next (stream : Nat) (path : String) : BlockingFunction where
  call := .readStreamNext
  receiver := some stream
  subject := ⟨.read, some path, none⟩
  body := .next (fun answers => .bytes answers.entries) true

def Lister.next (lister : Nat) (path : String) : BlockingFunction where
  call := .listerNext
  receiver := some lister
  subject := ⟨.list, some path, none⟩
  body := .nextEntry

namespace Writer

variable (writer : Nat) (path : String)

def write : BlockingFunction where
  call := .writerWrite
  receiver := some writer
  subject := ⟨.write, some path, none⟩
  body := .unit

def finish : BlockingFunction where
  call := .writerClose
  receiver := some writer
  subject := ⟨.write, some path, none⟩
  body := .metadata

def abort : BlockingFunction where
  call := .writerAbort
  receiver := some writer
  subject := ⟨.write, some path, none⟩
  body := .unit

end Writer

namespace Copier

variable (copier : Nat) (source destination : String)

def next : BlockingFunction where
  call := .copierNext
  receiver := some copier
  subject := ⟨.copy, some source, some destination⟩
  body := .next (fun _ => .uint64) false

def finish : BlockingFunction where
  call := .copierFinish
  receiver := some copier
  subject := ⟨.copy, some source, some destination⟩
  body := .metadata

def abort : BlockingFunction where
  call := .copierAbort
  receiver := some copier
  subject := ⟨.copy, some source, some destination⟩
  body := .unit

end Copier

/-! ## Listing -/

section List

variable (lib : Library) (path : String)

def tooManyEntries : OpenDalError :=
  bindingError .bufferTooLarge "list has too many entries to materialize in a MoonBit Array"
    ⟨.list, some path, none⟩

/-- The loop, with the entries so far; `none` when it has not come to an end. -/
def listLoop (lister : Nat) : List Answers → List Given → PackageCall (Option (List Given))
  | [], _ => pure none
  | answers :: rest, entries => do
    let next ← (Lister.next lister path).run lib answers
    match next with
    | .end => pure (some entries)
    | entry =>
      if entries.length = 2147483647 then Call.throw (tooManyEntries path)
      else listLoop lister rest (entries ++ [entry])

/-- The listing, with what the lister is answered. -/
def Operator.list (operator : Nat) (opening : Answers) (answers : List Answers) :
    PackageCall (Option (List Given)) := do
  let opened ← (Operator.openLister operator path).run lib opening
  match opened with
  | .object lister =>
    Call.onError (do
      let entries ← listLoop lib path lister answers []
      Call.modify fun s => if entries.isSome then s.close lister else s
      pure entries) (Session.close lister)
  | _ => pure none

end List

end OpendalMbt.NativePackage.Blocking
