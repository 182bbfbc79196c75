import OpendalMbt.Stub.Presign

/-!
# Loading the API in the C stub

`load_api` and the `load_*_api` functions of `src/opendal_stub.c`. Each asks the library for its
table anew, and the library gives the same table every time.
-/

namespace OpendalMbt.Stub

open Native

/-- What `opendal_mbt_get_api` answers. -/
structure Library where
  status : Status
  table : LoadedApi

/-- The feature bit is set, and `API_HAS` holds for each of the entry points. -/
def LoadedApi.offers (api : LoadedApi) (feature : UInt64) (entries : List ApiField) : Bool :=
  api.featureBits &&& feature != 0 && entries.all api.has

def OPENDAL_MBT_FEATURE_BASE : UInt64 := (1 : UInt64) <<< 0
def OPENDAL_MBT_FEATURE_WHOLE_OBJECT : UInt64 := (1 : UInt64) <<< 1
def OPENDAL_MBT_FEATURE_LISTING : UInt64 := (1 : UInt64) <<< 2
def OPENDAL_MBT_FEATURE_RANDOM_READER : UInt64 := (1 : UInt64) <<< 3
def OPENDAL_MBT_FEATURE_CHUNKED_WRITER : UInt64 := (1 : UInt64) <<< 4
def OPENDAL_MBT_FEATURE_READ_STREAM : UInt64 := (1 : UInt64) <<< 5
def OPENDAL_MBT_FEATURE_WRITER_ABORT : UInt64 := (1 : UInt64) <<< 6
def OPENDAL_MBT_FEATURE_S3 : UInt64 := (1 : UInt64) <<< 7
def OPENDAL_MBT_FEATURE_LAYERS : UInt64 := (1 : UInt64) <<< 9
def OPENDAL_MBT_FEATURE_CONCURRENCY_LIMIT : UInt64 := (1 : UInt64) <<< 10
def OPENDAL_MBT_FEATURE_BATCH_DELETE : UInt64 := (1 : UInt64) <<< 11
def OPENDAL_MBT_FEATURE_COPIER : UInt64 := (1 : UInt64) <<< 12
def OPENDAL_MBT_FEATURE_ASYNC : UInt64 := (1 : UInt64) <<< 13

/-- A library with every entry point. -/
def wholeLibrary : Library where
  status := .ok
  table := { maxOutputBytes := 1024, featureBits := 0x3FFF, has := fun _ => true }

namespace Library

variable (lib : Library)

def loadApi (requireWholeObject : Bool) : Except Status LoadedApi :=
  if lib.status ≠ .ok then .error lib.status
  else if !lib.table.offers OPENDAL_MBT_FEATURE_BASE
      [.errorView, .errorFree, .bufferLen, .bufferCopy, .bufferFree, .metadataView, .metadataFree,
        .entryView, .entryMetadataView, .entryFree, .operatorInfoView, .operatorInfoFree,
        .operatorNew, .operatorFree] then .error .abiMismatch
  else if requireWholeObject && !lib.table.offers OPENDAL_MBT_FEATURE_WHOLE_OBJECT
      [.operatorCheck, .operatorExists, .operatorStat, .operatorRead, .operatorWrite,
        .operatorCreateDir, .operatorDelete, .operatorCopy, .operatorRename] then
    .error .abiMismatch
  else .ok lib.table

/-- What the functions for a feature share; some of them want an output limit too. -/
def loadFeature (limited : Bool) (feature : UInt64) (entries : List ApiField)
    (loaded : Except Status LoadedApi) : Except Status LoadedApi :=
  match loaded with
  | .error status => .error status
  | .ok api =>
    if limited && api.maxOutputBytes == 0 || !api.offers feature entries then .error .abiMismatch
    else .ok api

def loadListingApi : Except Status LoadedApi :=
  loadFeature false OPENDAL_MBT_FEATURE_LISTING
    [.operatorLister, .listerNext, .listerClose, .listerFree] (lib.loadApi false)

def loadReaderApi : Except Status LoadedApi :=
  loadFeature false OPENDAL_MBT_FEATURE_RANDOM_READER
    [.operatorReader, .readerRead, .readerClose, .readerFree] (lib.loadApi false)

def loadReadStreamApi : Except Status LoadedApi :=
  loadFeature true OPENDAL_MBT_FEATURE_READ_STREAM
    [.operatorReadStream, .readStreamNext, .readStreamClose, .readStreamFree] (lib.loadApi false)

def loadWriterApi : Except Status LoadedApi :=
  loadFeature false OPENDAL_MBT_FEATURE_CHUNKED_WRITER
    [.operatorWriter, .writerWrite, .writerClose, .writerFree] (lib.loadApi false)

def loadWriterAbortApi : Except Status LoadedApi :=
  loadFeature false OPENDAL_MBT_FEATURE_WRITER_ABORT [.writerAbort] lib.loadWriterApi

def loadS3Api : Except Status LoadedApi :=
  loadFeature true OPENDAL_MBT_FEATURE_S3 [.operatorS3] (lib.loadApi false)

def loadPresignApi : Except Status LoadedApi :=
  loadFeature true OPENDAL_MBT_FEATURE_PRESIGN
    [.operatorPresignRead, .operatorPresignWrite, .operatorPresignStat, .presignedRequestView,
      .presignedRequestHeaderView, .presignedRequestFree] (lib.loadApi false)

def loadLayersApi : Except Status LoadedApi :=
  loadFeature false OPENDAL_MBT_FEATURE_LAYERS [.operatorWithTimeout, .operatorWithRetry]
    (lib.loadApi false)

def loadConcurrencyLimitApi : Except Status LoadedApi :=
  loadFeature false OPENDAL_MBT_FEATURE_CONCURRENCY_LIMIT [.operatorWithConcurrencyLimit]
    (lib.loadApi false)

def loadBatchDeleteApi : Except Status LoadedApi :=
  loadFeature true OPENDAL_MBT_FEATURE_BATCH_DELETE [.operatorDeleteMany] (lib.loadApi false)

def loadCopierApi : Except Status LoadedApi :=
  loadFeature true OPENDAL_MBT_FEATURE_COPIER
    [.operatorCopier, .copierNext, .copierFinish, .copierAbort, .copierFree] (lib.loadApi false)

def loadAsyncApi : Except Status LoadedApi :=
  loadFeature true OPENDAL_MBT_FEATURE_ASYNC
    [.asyncOperatorReadStart, .asyncOperatorReadStreamStart, .asyncReadStreamNextStart,
      .asyncReadStreamClose, .asyncReadStreamFree, .asyncOperatorWriterStart,
      .asyncWriterWriteStart, .asyncWriterFinishStart, .asyncWriterAbortStart, .asyncWriterFree,
      .asyncTaskCancel, .asyncTaskTakeBuffer, .asyncTaskTakeMetadata, .asyncTaskTakeReadStream,
      .asyncTaskTakeWriter, .asyncTaskTakeUnit, .asyncTaskFree] (lib.loadApi false)

/-! ## What a loaded library offers -/

variable {lib} {api : LoadedApi} {limited : Bool} {feature : UInt64} {entries : List ApiField}
  {loaded : Except Status LoadedApi}

theorem loadApi_false_of_loadApi {required : Bool} (h : lib.loadApi required = .ok api) :
    lib.loadApi false = .ok api := by
  unfold loadApi at h ⊢
  split_ifs at h with hstatus hbase hwhole
  rw [if_neg hstatus, if_neg hbase, if_neg (by simp)]
  exact h

/-- A library that does not load says so with a status. -/
theorem loadApi_error_ne {required : Bool} {status : Status}
    (h : lib.loadApi required = .error status) : status ≠ .ok := by
  unfold loadApi at h
  split_ifs at h with hstatus
  · cases h
    exact hstatus
  · cases h
    decide
  · cases h
    decide

theorem loadFeature_ok (h : loadFeature limited feature entries loaded = .ok api) :
    loaded = .ok api ∧ api.offers feature entries = true := by
  unfold loadFeature at h
  cases loaded with
  | error status => cases h
  | ok found =>
    dsimp only at h
    split_ifs at h with hrefused
    cases h
    simp only [Bool.or_eq_true, not_or, Bool.not_eq_true', Bool.not_eq_false] at hrefused
    exact ⟨rfl, hrefused.2⟩

theorem loadWriterApi_of_loadWriterAbortApi (h : lib.loadWriterAbortApi = .ok api) :
    lib.loadWriterApi = .ok api := (loadFeature_ok h).1

end Library

theorem LoadedApi.offers_of_mem {api : LoadedApi} {feature : UInt64} {entries : List ApiField}
    {entry : ApiField} (h : api.offers feature entries = true) (hentry : entry ∈ entries) :
    api.offers feature [entry] = true := by
  unfold offers at h ⊢
  rw [Bool.and_eq_true] at h ⊢
  refine ⟨h.1, ?_⟩
  rw [List.all_cons, List.all_nil, Bool.and_true]
  exact List.all_eq_true.mp h.2 entry hentry

theorem LoadedApi.has_of_offers {api : LoadedApi} {feature : UInt64} {entry : ApiField}
    (h : api.offers feature [entry] = true) : api.has entry = true := by
  unfold offers at h
  rw [Bool.and_eq_true, List.all_cons, List.all_nil, Bool.and_true] at h
  exact h.2

end OpendalMbt.Stub
