import OpendalMbt.Native.MetadataView
import OpendalMbt.Native.Outputs
import OpendalMbt.Native.Presign
import OpendalMbt.Native.S3

/-!
# The entries of an operator

The synchronous entries of `native/rust/src/lib.rs` that take an operator or make one. Each looks
at its inputs and works in a closure without access to the outputs, and publishes what the
closure returns. What OpenDAL answers is a parameter, and so is the end of the closure's locals.

* `atomic_returning`, `atomic_returningPair`, `atomic_returningUnit`: all of them are atomic.
-/

namespace OpendalMbt.Native.Entry

open Transition

/-! ## Publishing what a closure returns -/

section Returning

variable {R V O I : Type} (locals : Destructor)

def returning (work : Work V) : Step R (fun _ : Unit => V) Status :=
  orFinish (closure locals work) fun value => publish [()] (fun _ => value) .ok

def returningPair (work : Work (O × I)) : Step R (OperatorOutput.Value O I) Status :=
  orFinish (closure locals work) fun (operator, info) =>
    publish OperatorOutput.all (fun
      | .operator => operator
      | .info => info) .ok

def returningUnit (work : Work Unit) : Step R (fun _ : Empty => Unit) Status :=
  orFinish (closure locals work) fun () => pure .ok

theorem disciplined_publish_single {given : Frame R (fun _ : Unit => V) ErrorV1}
    (hvalid : given.Valid) (value : V) {status : Status}
    (hstatus : status = .ok ∨ status = .bufferTooSmall) :
    Disciplined given (publish [()] (fun _ => value) status) := by
  apply disciplined_publish hvalid
  · decide
  · exact fun _ => List.mem_singleton.mpr rfl
  · exact hstatus

theorem disciplined_returning {given : Frame R (fun _ : Unit => V) ErrorV1} (hvalid : given.Valid)
    (work : Work V) : Disciplined given (returning locals work) := by
  apply Leaves.orFinish hvalid (leaves_closure locals work)
  intro value
  exact disciplined_publish_single hvalid value (.inl rfl)

theorem atomic_returning (output : Slot R V) (outError : Slot Misplaced ErrorV1) (work : Work V) :
    (Invocation.single output outError (returning locals work)).Atomic := by
  apply Invocation.atomic_run
  intro hvalid
  exact disciplined_returning locals hvalid work

theorem atomic_returningPair (outOperator : Slot Misplaced O) (outInfo : Slot Misplaced I)
    (outError : Slot Misplaced ErrorV1) (work : Work (O × I)) :
    (Invocation.operatorPair outOperator outInfo outError (returningPair locals work)).Atomic := by
  apply Invocation.atomic_run
  intro hvalid
  apply Leaves.orFinish hvalid (leaves_closure locals work)
  intro value
  apply disciplined_publish hvalid OperatorOutput.nodup_all OperatorOutput.mem_all
  exact .inl rfl

theorem atomic_returningUnit (outError : Slot Misplaced ErrorV1) (work : Work Unit) :
    (Invocation.onlyError outError (returningUnit locals work)).Atomic := by
  apply Invocation.atomic_run
  intro hvalid
  apply Leaves.orFinish hvalid (leaves_closure locals work)
  intro value
  exact disciplined_ok

end Returning

/-! ## Operators and their inputs -/

/-- Of an operator, what the entries look at themselves. -/
structure OperatorV1 where
  layerBits : UInt32
  readWithSuffix : Bool
  deriving DecidableEq, Repr

structure OperatorInfoV1 where
  scheme : String
  root : String
  name : String
  capability : UInt64
  deriving DecidableEq, Repr

/-- What OpenDAL says of a new operator; of the capability words, the first. -/
structure OpenedOperator where
  nativeSuffix : Bool
  info : OperatorInfoV1
  deriving DecidableEq, Repr

def OPERATOR_LAYER_TIMEOUT : UInt32 := 1
def OPERATOR_LAYER_RETRY : UInt32 := 2
def OPERATOR_LAYER_CONCURRENCY_LIMIT : UInt32 := 4
def CAP_READ_SUFFIX : UInt64 := 256

def operatorHandlesWithLayers (opened : StepResult OpenedOperator) (layerBits : UInt32) :
    Work (OperatorV1 × OperatorInfoV1) := do
  let opened ← Work.upstream opened
  let info := opened.info
  if [info.scheme, info.root, info.name].any fun value => value.utf8ByteSize > maxOutputBytes then
    Work.check (.error (bufferTooLarge "operator information exceeds the binding output limit"))
  else
    let capability :=
      if opened.nativeSuffix then info.capability else info.capability &&& ~~~CAP_READ_SUFFIX
    pure ({ layerBits, readWithSuffix := opened.nativeSuffix }, { info with capability })

structure KvV1 where
  key : BytesViewV1
  value : BytesViewV1
  deriving DecidableEq, Repr

def sizeOfKvV1 : Nat := 32
def sizeOfBytesViewV1 : Nat := 16

/-- The elements of an array of the caller, of which `length` are readable. -/
def readArray {T : Type} (size : Nat) (array : Pointer (List T)) (length : Nat) :
    CallResult (List T) := do
  let length ← checkedLen length
  if isizeMax < length * size then .error .abiMismatch
  else if length = 0 then .ok []
  else
    match array with
    | .null | .misaligned => .error .abiMismatch
    | .valid items => .ok (items.take length)

/-- `keys` are the keys before, in lower case. -/
def readConfigItems (keys : List String) : List KvV1 → CallResult (List (String × String))
  | [] => .ok []
  | item :: items => do
    let key ← readTextValue item.key "config key"
    if key.toLower ∈ keys then .error (invalidArgument "duplicate config key")
    else
      let value ← readTextValue item.value "config value"
      let output ← readConfigItems (key.toLower :: keys) items
      .ok ((key, value) :: output)

def readConfig (config : Pointer (List KvV1)) (configLen : Nat) :
    CallResult (List (String × String)) := do
  let items ← readArray sizeOfKvV1 config configLen
  readConfigItems [] items

/-- Every view is looked at before a text is copied. -/
def validateTextArray (label : String) (totalBytes : Nat) : List BytesViewV1 → CallResult Unit
  | [] => .ok ()
  | value :: values => do
    let _ ← readTextValue value label
    let totalBytes := totalBytes + value.len
    if maxOutputBytes < totalBytes then
      .error (bufferTooLarge "batch delete paths exceed the negotiated byte limit")
    else validateTextArray label totalBytes values

def readTextArray (values : Pointer (List BytesViewV1)) (valuesLen : Nat) (label : String) :
    CallResult (List String) := do
  let items ← readArray sizeOfBytesViewV1 values valuesLen
  let totalBytes := items.length * sizeOfBytesViewV1
  if maxOutputBytes < totalBytes then
    .error (bufferTooLarge "batch delete path carriers exceed the negotiated byte limit")
  else
    validateTextArray label totalBytes items
    items.mapM fun value => readTextValue value label

def readBinary (pointer : Pointer BytesViewV1) : CallResult (List UInt8) := do
  let view ← readRequired pointer
  borrowedBytes view

/-- The length of the duration. -/
def positiveMillis (value : UInt64) (label : String) : CallResult UInt64 :=
  if value = 0 then .error (invalidArgument s!"{label} must be greater than zero") else .ok value

def retryCount (value : UInt32) : CallResult UInt32 :=
  if value = 0 then .error (invalidArgument "max_retries must be greater than zero") else .ok value

def positiveConcurrencyLimit (value : UInt64) (label : String) : CallResult UInt64 :=
  if value = 0 then .error (invalidArgument s!"{label} must be greater than zero") else .ok value

/-- Refuse a call on a condition. -/
def rejectIf (condition : Bool) (failure : CallFailure) : Work Unit :=
  if condition then Work.check (.error failure) else pure ()

def hasLayer (operator : OperatorV1) (layer : UInt32) : Bool := operator.layerBits &&& layer != 0

section Entries

variable (locals : Destructor) (runtime : CallResult Unit)

/-! ## Operators -/

section Build

variable (outOperator : Slot Misplaced OperatorV1) (outInfo : Slot Misplaced OperatorInfoV1)
  (outError : Slot Misplaced ErrorV1)

def operatorNew (scheme : Pointer BytesViewV1) (config : Pointer (List KvV1)) (configLen : Nat)
    (viaIter : String → List (String × String) → StepResult Unit)
    (opened : StepResult OpenedOperator) : Invocation :=
  .operatorPair outOperator outInfo outError <| returningPair locals do
    let scheme ← Work.input (readText scheme "scheme")
    let config ← Work.input (readConfig config configLen)
    Work.check runtime
    Work.upstream (viaIter scheme config)
    operatorHandlesWithLayers opened 0

def operatorS3 (options : Pointer S3OptionsV1) (build : S3Builder → StepResult Unit)
    (opened : StepResult OpenedOperator) : Invocation :=
  .operatorPair outOperator outInfo outError <| returningPair locals do
    let options ← Work.input (parseS3Options options)
    Work.check runtime
    Work.upstream (build (buildS3Builder options))
    operatorHandlesWithLayers opened 0

/-- `rebuild_layered_operator`. -/
def rebuildLayeredOperator (opened : StepResult OpenedOperator) (layerBits : UInt32) :
    Work (OperatorV1 × OperatorInfoV1) := do
  Work.check runtime
  operatorHandlesWithLayers opened layerBits

def operatorWithTimeout (operator : Pointer OperatorV1)
    (operationTimeoutMillis ioTimeoutMillis : UInt64)
    (layered : UInt64 → UInt64 → StepResult OpenedOperator) : Invocation :=
  .operatorPair outOperator outInfo outError <| returningPair locals do
    let operator ← Work.input (borrowRequired operator)
    let operationTimeout ←
      Work.check (positiveMillis operationTimeoutMillis "operation_timeout_millis")
    let ioTimeout ← Work.check (positiveMillis ioTimeoutMillis "io_timeout_millis")
    rejectIf (hasLayer operator OPERATOR_LAYER_TIMEOUT)
      (invalidArgument "timeout layer is already installed")
    rejectIf (hasLayer operator OPERATOR_LAYER_CONCURRENCY_LIMIT)
      (invalidArgument "timeout layer must be installed before concurrency limit layer")
    rejectIf (hasLayer operator OPERATOR_LAYER_RETRY)
      (invalidArgument "timeout layer must be installed before retry layer")
    rebuildLayeredOperator runtime (layered operationTimeout ioTimeout)
      (operator.layerBits ||| OPERATOR_LAYER_TIMEOUT)

def operatorWithRetry (operator : Pointer OperatorV1) (maxRetries : UInt32)
    (minDelayMillis maxDelayMillis : UInt64) (jitter : UInt32)
    (layered : UInt32 → UInt64 → UInt64 → Bool → StepResult OpenedOperator) : Invocation :=
  .operatorPair outOperator outInfo outError <| returningPair locals do
    let operator ← Work.input (borrowRequired operator)
    rejectIf (jitter > 1) .abiMismatch
    let maxRetries ← Work.check (retryCount maxRetries)
    let minDelay ← Work.check (positiveMillis minDelayMillis "min_delay_millis")
    let maxDelay ← Work.check (positiveMillis maxDelayMillis "max_delay_millis")
    rejectIf (minDelay > maxDelay)
      (invalidArgument "min_delay_millis must not exceed max_delay_millis")
    rejectIf (hasLayer operator OPERATOR_LAYER_RETRY)
      (invalidArgument "retry layer is already installed")
    rejectIf (hasLayer operator OPERATOR_LAYER_CONCURRENCY_LIMIT)
      (invalidArgument "retry layer must be installed before concurrency limit layer")
    rebuildLayeredOperator runtime (layered maxRetries minDelay maxDelay (jitter != 0))
      (operator.layerBits ||| OPERATOR_LAYER_RETRY)

def operatorWithConcurrencyLimit (operator : Pointer OperatorV1) (operationLimit : UInt64)
    (hasHttpRequestLimit : UInt32) (httpRequestLimit : UInt64)
    (layered : UInt64 → Option UInt64 → StepResult OpenedOperator) : Invocation :=
  .operatorPair outOperator outInfo outError <| returningPair locals do
    let operator ← Work.input (borrowRequired operator)
    rejectIf (hasHttpRequestLimit > 1) .abiMismatch
    rejectIf (hasHttpRequestLimit == 0 && httpRequestLimit != 0)
      (invalidArgument "http_request_limit must be zero when it is absent")
    rejectIf (hasLayer operator OPERATOR_LAYER_CONCURRENCY_LIMIT)
      (invalidArgument "concurrency limit layer is already installed")
    let operationLimit ← Work.check (positiveConcurrencyLimit operationLimit "operation_limit")
    let httpLimit ←
      if hasHttpRequestLimit != 0 then do
        let limit ← Work.check (positiveConcurrencyLimit httpRequestLimit "http_request_limit")
        pure (some limit)
      else pure none
    rebuildLayeredOperator runtime (layered operationLimit httpLimit)
      (operator.layerBits ||| OPERATOR_LAYER_CONCURRENCY_LIMIT)

end Build

/-! ## Operations -/

section Operations

variable (operator : Pointer OperatorV1) (outError : Slot Misplaced ErrorV1)

/-- The borrow and the check are not in a closure. -/
def operatorCheck (check : StepResult Unit) : Invocation :=
  .onlyError outError <|
    orFinish (closure .quiet (Work.input (borrowRequired operator))) fun _ =>
      returningUnit .quiet (Work.upstream check)

def operatorExists (path : Pointer BytesViewV1) (existsAt : String → StepResult Bool)
    (outExists : Slot Misplaced UInt32) : Invocation :=
  .single outExists outError <| returning locals do
    let _ ← Work.input (borrowRequired operator)
    let path ← Work.input (readText path "path")
    let found ← Work.upstream (existsAt path)
    pure (if found then 1 else 0)

def operatorStat (path : Pointer BytesViewV1) (options : Pointer StatOptionsV1)
    (stat : String → ReadConditions → StepResult Metadata) (outMetadata : Slot Misplaced Metadata) :
    Invocation :=
  .single outMetadata outError <| returning locals do
    let _ ← Work.input (borrowRequired operator)
    let path ← Work.input (readText path "path")
    let options ← Work.input (parseStatOptions options)
    let metadata ← Work.upstream (stat path options)
    Work.check (checkedMetadata metadata)

/-- `read` is what OpenDAL gives for a plan, and the loop over it. -/
def operatorReadWork (path : Pointer BytesViewV1) (options : Pointer ReadOptionsV1)
    (maxOutputLen : UInt64) (read : String → WholeReadPlan → StepResult (List UInt8)) :
    Work (List UInt8) := do
  let operator ← Work.input (borrowRequired operator)
  let path ← Work.input (readText path "path")
  let options ← Work.input (parseReadOptions BytesRange.api options)
  let plan ← Work.check (wholeReadPlan options maxOutputLen)
  Work.check (ensureSuffixIsNative plan.range operator.readWithSuffix)
  Work.upstream (read path plan)

def operatorRead (path : Pointer BytesViewV1) (options : Pointer ReadOptionsV1)
    (maxOutputLen : UInt64) (read : String → WholeReadPlan → StepResult (List UInt8))
    (outBuffer : Slot Misplaced (List UInt8)) : Invocation :=
  .single outBuffer outError <| returning locals <|
    operatorReadWork operator path options maxOutputLen read

def operatorWrite (path data : Pointer BytesViewV1) (options : Pointer WriteOptionsV1)
    (write : String → List UInt8 → WriteOptions → StepResult Metadata)
    (outMetadata : Slot Misplaced Metadata) : Invocation :=
  .single outMetadata outError <| returning locals do
    let _ ← Work.input (borrowRequired operator)
    let path ← Work.input (readText path "path")
    let data ← Work.input (readBinary data)
    let options ← Work.input (parseWriteOptions options)
    let metadata ← Work.upstream (write path data options)
    Work.check (checkedMetadata metadata)

def operatorCreateDir (path : Pointer BytesViewV1) (createDir : String → StepResult Unit) :
    Invocation :=
  .onlyError outError <| returningUnit locals do
    let _ ← Work.input (borrowRequired operator)
    let path ← Work.input (readText path "path")
    Work.upstream (createDir path)

def operatorDelete (path : Pointer BytesViewV1) (options : Pointer DeleteOptionsV1)
    (delete : String → DeleteOptions → StepResult Unit) : Invocation :=
  .onlyError outError <| returningUnit locals do
    let _ ← Work.input (borrowRequired operator)
    let path ← Work.input (readText path "path")
    let options ← Work.input (parseDeleteOptions options)
    Work.upstream (delete path options)

def operatorDeleteMany (paths : Pointer (List BytesViewV1)) (pathsLen : Nat)
    (deleteIter : List String → StepResult Unit) : Invocation :=
  .onlyError outError <| returningUnit locals do
    let _ ← Work.input (borrowRequired operator)
    let paths ← Work.input (readTextArray paths pathsLen "batch delete path")
    Work.upstream (deleteIter paths)

def operatorCopy (source destination : Pointer BytesViewV1)
    (copy : String → String → StepResult Metadata) (outMetadata : Slot Misplaced Metadata) :
    Invocation :=
  .single outMetadata outError <| returning locals do
    let _ ← Work.input (borrowRequired operator)
    let source ← Work.input (readText source "source path")
    let destination ← Work.input (readText destination "destination path")
    let metadata ← Work.upstream (copy source destination)
    Work.check (checkedMetadata metadata)

def operatorRename (source destination : Pointer BytesViewV1)
    (rename : String → String → StepResult Unit) : Invocation :=
  .onlyError outError <| returningUnit locals do
    let _ ← Work.input (borrowRequired operator)
    let source ← Work.input (readText source "source path")
    let destination ← Work.input (readText destination "destination path")
    Work.upstream (rename source destination)

/-! ## Resources -/

variable {H : Type}

def operatorLister (path : Pointer BytesViewV1) (options : Pointer ListOptionsV1)
    (lister : String → ListOptions → StepResult H) (outLister : Slot Misplaced H) : Invocation :=
  .single outLister outError <| returning locals do
    let _ ← Work.input (borrowRequired operator)
    let path ← Work.input (readText path "path")
    let options ← Work.input (parseListOptions options)
    Work.upstream (lister path options)

/-- `defaults` is `ReaderOptions::default()`. -/
def operatorReader (defaults : ReaderOptions) (path : Pointer BytesViewV1)
    (options : Pointer ReaderOptionsV1) (reader : String → ReaderOptions → StepResult H)
    (outReader : Slot Misplaced H) : Invocation :=
  .single outReader outError <| returning locals do
    let _ ← Work.input (borrowRequired operator)
    let path ← Work.input (readText path "path")
    let options ← Work.input (parseReaderOptions defaults options)
    Work.upstream (reader path options)

/-- `stream` opens the reader and makes the iterator. -/
def operatorReadStreamWork (defaults : ReaderOptions) (path : Pointer BytesViewV1)
    (options : Pointer ReadStreamOptionsV1)
    (stream : String → ParsedReadStreamOptions BytesRange → StepResult H) : Work H := do
  let operator ← Work.input (borrowRequired operator)
  let path ← Work.input (readText path "path")
  let parsed ← Work.input (parseReadStreamOptions BytesRange.api defaults options)
  Work.check (ensureSuffixIsNative parsed.range operator.readWithSuffix)
  Work.upstream (stream path parsed)

def operatorReadStream (defaults : ReaderOptions) (path : Pointer BytesViewV1)
    (options : Pointer ReadStreamOptionsV1)
    (stream : String → ParsedReadStreamOptions BytesRange → StepResult H)
    (outStream : Slot Misplaced H) : Invocation :=
  .single outStream outError <| returning locals <|
    operatorReadStreamWork operator defaults path options stream

def operatorWriter (path : Pointer BytesViewV1) (options : Pointer WriteOptionsV1)
    (writer : String → WriteOptions → StepResult H) (outWriter : Slot Misplaced H) : Invocation :=
  .single outWriter outError <| returning locals do
    let _ ← Work.input (borrowRequired operator)
    let path ← Work.input (readText path "path")
    let options ← Work.input (parseWriteOptions options)
    Work.check runtime
    Work.upstream (writer path options)

def operatorCopier (source destination : Pointer BytesViewV1)
    (copier : String → String → StepResult H) (outCopier : Slot Misplaced H) : Invocation :=
  .single outCopier outError <| returning locals do
    let _ ← Work.input (borrowRequired operator)
    let source ← Work.input (readText source "source path")
    let destination ← Work.input (readText destination "destination path")
    Work.check runtime
    Work.upstream (copier source destination)

/-! ## Presigned requests -/

section Presign

variable {O : Type} (path : Pointer BytesViewV1) (expiresInSeconds : UInt64)
  (outRequest : Slot Misplaced PresignedRequestV1)

/-- What the three entries share: the handle, the path, the options and the expiry in turn. -/
def presigned (options : CallResult O)
    (sign : String → UInt64 → O → StepResult PresignedRequest) : Invocation :=
  .single outRequest outError <| returning locals do
    let _ ← Work.input (borrowRequired operator)
    let path ← Work.input (readText path "path")
    let options ← Work.input options
    let expiry ← Work.check (presignExpiry expiresInSeconds)
    let request ← Work.upstream (sign path expiry options)
    Work.check (checkedPresignedRequest request)

def operatorPresignRead (options : Pointer ReadOptionsV1)
    (sign : String → UInt64 → ReadOptions BytesRange → StepResult PresignedRequest) : Invocation :=
  presigned locals operator outError path expiresInSeconds outRequest
    (parseReadOptions BytesRange.api options) sign

def operatorPresignWrite (options : Pointer WriteOptionsV1)
    (sign : String → UInt64 → WriteOptions → StepResult PresignedRequest) : Invocation :=
  presigned locals operator outError path expiresInSeconds outRequest (parseWriteOptions options)
    sign

def operatorPresignStat (options : Pointer StatOptionsV1)
    (sign : String → UInt64 → ReadConditions → StepResult PresignedRequest) : Invocation :=
  presigned locals operator outError path expiresInSeconds outRequest (parseStatOptions options)
    sign

end Presign

theorem atomic_operatorCheck (check : StepResult Unit) :
    (operatorCheck operator outError check).Atomic := by
  apply Invocation.atomic_run
  intro hvalid
  apply Leaves.orFinish hvalid (leaves_closure .quiet _)
  intro operator
  apply Leaves.orFinish hvalid (leaves_closure .quiet _)
  intro value
  exact disciplined_ok

end Operations

end Entries

end OpendalMbt.Native.Entry
