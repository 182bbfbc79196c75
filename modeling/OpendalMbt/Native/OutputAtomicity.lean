import OpendalMbt.Native.ViewEntries

/-!
# The outputs of every entry

The entries of `native/rust/src/lib.rs` that have an output, with any arguments. One call of them
all can leave its outputs otherwise than its status says: `read_stream_next` writes an error
before the cursor of the stream goes out of scope, and a destructor that panics then makes the
status `STATUS_PANIC`. Every other entry lets go of what it holds first, or contains it.

* `Exported`: the calls of the entries;
* `atomic_iff`: when a call leaves its outputs as its status says.
-/

namespace OpendalMbt.Native.Entry

open Transition

/-- A call of an entry that has an output. -/
inductive Exported : Invocation → Prop where
  | operatorNew (locals runtime outOperator outInfo outError scheme config configLen viaIter opened) :
      Exported (operatorNew locals runtime outOperator outInfo outError scheme config configLen
        viaIter opened)
  | operatorS3 (locals runtime outOperator outInfo outError options build opened) :
      Exported (operatorS3 locals runtime outOperator outInfo outError options build opened)
  | operatorWithTimeout (locals runtime outOperator outInfo outError operator
      operationTimeoutMillis ioTimeoutMillis layered) :
      Exported (operatorWithTimeout locals runtime outOperator outInfo outError operator
        operationTimeoutMillis ioTimeoutMillis layered)
  | operatorWithRetry (locals runtime outOperator outInfo outError operator maxRetries
      minDelayMillis maxDelayMillis jitter layered) :
      Exported (operatorWithRetry locals runtime outOperator outInfo outError operator maxRetries
        minDelayMillis maxDelayMillis jitter layered)
  | operatorWithConcurrencyLimit (locals runtime outOperator outInfo outError operator
      operationLimit hasHttpRequestLimit httpRequestLimit layered) :
      Exported (operatorWithConcurrencyLimit locals runtime outOperator outInfo outError operator
        operationLimit hasHttpRequestLimit httpRequestLimit layered)
  | operatorCheck (operator outError check) : Exported (operatorCheck operator outError check)
  | operatorExists (locals operator outError path existsAt outExists) :
      Exported (operatorExists locals operator outError path existsAt outExists)
  | operatorStat (locals operator outError path options stat outMetadata) :
      Exported (operatorStat locals operator outError path options stat outMetadata)
  | operatorRead (locals operator outError path options maxOutputLen read outBuffer) :
      Exported (operatorRead locals operator outError path options maxOutputLen read outBuffer)
  | operatorWrite (locals operator outError path data options write outMetadata) :
      Exported (operatorWrite locals operator outError path data options write outMetadata)
  | operatorCreateDir (locals operator outError path createDir) :
      Exported (operatorCreateDir locals operator outError path createDir)
  | operatorDelete (locals operator outError path options delete) :
      Exported (operatorDelete locals operator outError path options delete)
  | operatorDeleteMany (locals operator outError paths pathsLen deleteIter) :
      Exported (operatorDeleteMany locals operator outError paths pathsLen deleteIter)
  | operatorCopy (locals operator outError source destination copy outMetadata) :
      Exported (operatorCopy locals operator outError source destination copy outMetadata)
  | operatorRename (locals operator outError source destination rename) :
      Exported (operatorRename locals operator outError source destination rename)
  | operatorLister {H : Type} (locals operator outError path options)
      (lister : String → ListOptions → StepResult H) (outLister) :
      Exported (operatorLister locals operator outError path options lister outLister)
  | operatorReader {H : Type} (locals operator outError defaults path options)
      (reader : String → ReaderOptions → StepResult H) (outReader) :
      Exported (operatorReader locals operator outError defaults path options reader outReader)
  | operatorReadStream {H : Type} (locals operator outError defaults path options)
      (stream : String → ParsedReadStreamOptions BytesRange → StepResult H) (outStream) :
      Exported (operatorReadStream locals operator outError defaults path options stream outStream)
  | operatorWriter {H : Type} (locals runtime operator outError path options)
      (writer : String → WriteOptions → StepResult H) (outWriter) :
      Exported (operatorWriter locals runtime operator outError path options writer outWriter)
  | operatorCopier {H : Type} (locals runtime operator outError source destination)
      (copier : String → String → StepResult H) (outCopier) :
      Exported (operatorCopier locals runtime operator outError source destination copier outCopier)
  | operatorPresignRead (locals operator outError path expiresInSeconds outRequest options sign) :
      Exported (operatorPresignRead locals operator outError path expiresInSeconds outRequest
        options sign)
  | operatorPresignWrite (locals operator outError path expiresInSeconds outRequest options sign) :
      Exported (operatorPresignWrite locals operator outError path expiresInSeconds outRequest
        options sign)
  | operatorPresignStat (locals operator outError path expiresInSeconds outRequest options sign) :
      Exported (operatorPresignStat locals operator outError path expiresInSeconds outRequest
        options sign)
  | listerNext {I : Type} (lister) (next : I → StepResult (Option EntryV1)) (inner outEntry outError) :
      Exported (listerNext lister next inner outEntry outError)
  | readerRead (locals reader range maxOutputLen read outBuffer outError) :
      Exported (readerRead locals reader range maxOutputLen read outBuffer outError)
  | readStreamNext (usizeMax cursorEnd stream maxOutputLen outBuffer outError) :
      Exported (readStreamNext usizeMax cursorEnd stream maxOutputLen outBuffer outError)
  | writerWrite {W : Type} (inner runtime taken stored) (writer : Pointer W)
      (outError data write) :
      Exported (writerWrite inner runtime taken stored writer outError data write)
  | writerClose {W : Type} (inner runtime taken stored) (writer : Pointer W)
      (outError close outMetadata) :
      Exported (writerClose inner runtime taken stored writer outError close outMetadata)
  | writerAbort {W : Type} (inner runtime taken stored) (writer : Pointer W) (outError abort) :
      Exported (writerAbort inner runtime taken stored writer outError abort)
  | copierNext {W : Type} (inner runtime taken stored) (copier : Pointer W)
      (outError next outBytes) :
      Exported (copierNext inner runtime taken stored copier outError next outBytes)
  | copierFinish {W : Type} (inner runtime taken stored) (copier : Pointer W)
      (outError close outMetadata) :
      Exported (copierFinish inner runtime taken stored copier outError close outMetadata)
  | copierAbort {W : Type} (inner runtime taken stored) (copier : Pointer W) (outError abort) :
      Exported (copierAbort inner runtime taken stored copier outError abort)
  | asyncOperatorReadStart {T : Type} (locals launch) (task : T)
      (outTask outError operator path options maxOutputLen) :
      Exported (asyncOperatorReadStart locals launch task outTask outError operator path options
        maxOutputLen)
  | asyncOperatorReadStreamStart {T : Type} (locals launch) (task : T)
      (outTask outError defaults operator path options) :
      Exported (asyncOperatorReadStreamStart locals launch task outTask outError defaults operator
        path options)
  | asyncReadStreamNextStart {T S : Type} (locals launch) (task : T) (outTask outError)
      (stream : Pointer S) (start installAbort) :
      Exported (asyncReadStreamNextStart locals launch task outTask outError stream start
        installAbort)
  | asyncOperatorWriterStart {T : Type} (locals launch) (task : T)
      (outTask outError operator path options) :
      Exported (asyncOperatorWriterStart locals launch task outTask outError operator path options)
  | asyncWriterWriteStart {T W : Type} (locals launch) (task : T) (outTask outError)
      (writer : Pointer W) (data taken installAbort) :
      Exported (asyncWriterWriteStart locals launch task outTask outError writer data taken
        installAbort)
  | asyncWriterFinishStart {T W : Type} (locals launch) (task : T) (outTask outError)
      (writer : Pointer W) (taken installAbort) :
      Exported (asyncWriterFinishStart locals launch task outTask outError writer taken
        installAbort)
  | asyncWriterAbortStart {T W : Type} (locals launch) (task : T) (outTask outError)
      (writer : Pointer W) (taken installAbort) :
      Exported (asyncWriterAbortStart locals launch task outTask outError writer taken installAbort)
  | asyncTaskTakeBuffer {H : Type} (object) (task : Pointer (TaskCell H)) (outValue outError) :
      Exported (asyncTaskTakeBuffer object task outValue outError)
  | asyncTaskTakeMetadata {H : Type} (object) (task : Pointer (TaskCell H)) (outValue outError) :
      Exported (asyncTaskTakeMetadata object task outValue outError)
  | asyncTaskTakeReadStream {H : Type} (object) (task : Pointer (TaskCell H)) (outValue outError) :
      Exported (asyncTaskTakeReadStream object task outValue outError)
  | asyncTaskTakeWriter {H : Type} (object) (task : Pointer (TaskCell H)) (outValue outError) :
      Exported (asyncTaskTakeWriter object task outValue outError)
  | asyncTaskTakeUnit {H : Type} (object) (task : Pointer (TaskCell H)) (outError) :
      Exported (asyncTaskTakeUnit object task outError)
  | libraryInfo (output texts) : Exported (libraryInfo output texts)
  | errorView (output error) : Exported (errorView output error)
  | metadataView (output metadata) : Exported (metadataView output metadata)
  | entryView (output entry) : Exported (entryView output entry)
  | entryMetadataView (output entry) : Exported (entryMetadataView output entry)
  | operatorInfoView (output info) : Exported (operatorInfoView output info)
  | presignedRequestView (output request) : Exported (presignedRequestView output request)
  | presignedRequestHeaderView (output request index) :
      Exported (presignedRequestHeaderView output request index)
  | bufferLen (buffer outRequired) : Exported (bufferLen buffer outRequired)
  | bufferCopy (buffer outRequired destination capacity) :
      Exported (bufferCopy buffer outRequired destination capacity)

/-- A step of a read stream that returns an error while the end of its cursor panics. -/
def PanicsAfterError (call : Invocation) : Prop :=
  ∃ usizeMax cursorEnd stream maxOutputLen outBuffer outError,
    call = readStreamNext usizeMax cursorEnd stream maxOutputLen outBuffer outError ∧
      Endangered usizeMax cursorEnd stream maxOutputLen outBuffer outError

theorem not_atomic_of_panicsAfterError {call : Invocation} (h : PanicsAfterError call) :
    ¬ call.Atomic := by
  obtain ⟨usizeMax, cursorEnd, stream, maxOutputLen, outBuffer, outError, rfl, hendangered⟩ := h
  intro hatomic
  exact readStreamNext_atomic_iff.mp hatomic hendangered

theorem atomic_of_exported {call : Invocation} (h : Exported call)
    (hquiet : ¬ PanicsAfterError call) : call.Atomic := by
  cases h with
  | operatorNew => exact atomic_returningPair _ _ _ _ _
  | operatorS3 => exact atomic_returningPair _ _ _ _ _
  | operatorWithTimeout => exact atomic_returningPair _ _ _ _ _
  | operatorWithRetry => exact atomic_returningPair _ _ _ _ _
  | operatorWithConcurrencyLimit => exact atomic_returningPair _ _ _ _ _
  | operatorCheck => exact atomic_operatorCheck _ _ _
  | operatorExists => exact atomic_returning _ _ _ _
  | operatorStat => exact atomic_returning _ _ _ _
  | operatorRead => exact atomic_returning _ _ _ _
  | operatorWrite => exact atomic_returning _ _ _ _
  | operatorCreateDir => exact atomic_returningUnit _ _ _
  | operatorDelete => exact atomic_returningUnit _ _ _
  | operatorDeleteMany => exact atomic_returningUnit _ _ _
  | operatorCopy => exact atomic_returning _ _ _ _
  | operatorRename => exact atomic_returningUnit _ _ _
  | operatorLister => exact atomic_returning _ _ _ _
  | operatorReader => exact atomic_returning _ _ _ _
  | operatorReadStream => exact atomic_returning _ _ _ _
  | operatorWriter => exact atomic_returning _ _ _ _
  | operatorCopier => exact atomic_returning _ _ _ _
  | operatorPresignRead => exact atomic_returning _ _ _ _
  | operatorPresignWrite => exact atomic_returning _ _ _ _
  | operatorPresignStat => exact atomic_returning _ _ _ _
  | listerNext => exact atomic_listerNext _ _ _ _ _
  | readerRead => exact atomic_readerRead _ _ _ _ _ _ _
  | readStreamNext =>
    apply atomic_readStreamNext
    intro hendangered
    exact hquiet ⟨_, _, _, _, _, _, rfl, hendangered⟩
  | writerWrite => exact atomic_writerWrite _ _ _ _ _ _ _ _
  | writerClose => exact atomic_finishing _ _ _ _ _ _ _ _
  | writerAbort => exact atomic_aborting _ _ _ _ _ _ _
  | copierNext => exact atomic_copierNext _ _ _ _ _ _ _ _
  | copierFinish => exact atomic_finishing _ _ _ _ _ _ _ _
  | copierAbort => exact atomic_aborting _ _ _ _ _ _ _
  | asyncOperatorReadStart => exact atomic_returning _ _ _ _
  | asyncOperatorReadStreamStart => exact atomic_returning _ _ _ _
  | asyncReadStreamNextStart => exact atomic_returning _ _ _ _
  | asyncOperatorWriterStart => exact atomic_returning _ _ _ _
  | asyncWriterWriteStart => exact atomic_returning _ _ _ _
  | asyncWriterFinishStart => exact atomic_returning _ _ _ _
  | asyncWriterAbortStart => exact atomic_returning _ _ _ _
  | asyncTaskTakeBuffer => exact atomic_finishAsyncPayloadTake _ _
  | asyncTaskTakeMetadata => exact atomic_finishAsyncPayloadTake _ _
  | asyncTaskTakeReadStream => exact atomic_finishAsyncPayloadTake _ _
  | asyncTaskTakeWriter => exact atomic_finishAsyncPayloadTake _ _
  | asyncTaskTakeUnit => exact atomic_asyncTaskTakeUnit
  | libraryInfo => exact atomic_libraryInfo _
  | errorView => exact atomic_viewOf _ _ _
  | metadataView => exact atomic_viewOf _ _ _
  | entryView => exact atomic_viewOf _ _ _
  | entryMetadataView => exact atomic_viewOf _ _ _
  | operatorInfoView => exact atomic_viewOf _ _ _
  | presignedRequestView => exact atomic_presignedRequestView _
  | presignedRequestHeaderView => exact atomic_presignedRequestHeaderView _ _
  | bufferLen => exact atomic_bufferLen _ _
  | bufferCopy => exact atomic_bufferCopy _ _ _ _

theorem atomic_iff {call : Invocation} (h : Exported call) :
    call.Atomic ↔ ¬ PanicsAfterError call :=
  ⟨fun hatomic hpanics => not_atomic_of_panicsAfterError hpanics hatomic, atomic_of_exported h⟩

/-- What OpenDAL answered to a stream that has lost its connection. -/
def connectionLost : ErrorV1 where
  kind := 1
  status := 1
  kindName := "Unexpected"
  message := "connection lost"

/-- The iterator of an open stream yields an error. -/
def failingStream : ReadStreamV1 :=
  .opened { buffers := [], ending := .error (.error connectionLost) } 2

def failingStreamNext (cursorEnd : Destructor) : Invocation :=
  readStreamNext isizeMax cursorEnd (.valid ⟨failingStream, false⟩) 2 (.storage .stale)
    (.storage .stale)

/-- With a destructor that returns, the error is what the caller gets. -/
theorem failingStreamNext_quiet_atomic :
    (failingStreamNext .quiet).Atomic ∧ ¬ PanicsAfterError (failingStreamNext .quiet) := by
  have hatomic : (failingStreamNext .quiet).Atomic := by
    apply atomic_readStreamNext
    intro hendangered
    cases hendangered.1
  exact ⟨hatomic, (atomic_iff (.readStreamNext ..)).mp hatomic⟩

/-- With one that panics, the caller gets `STATUS_PANIC` and an error. -/
theorem failingStreamNext_panics_not_atomic :
    Exported (failingStreamNext .panics) ∧ (failingStreamNext .panics).run.1 = .panic ∧
      ¬ (failingStreamNext .panics).Atomic := by
  have hendangered : Endangered isizeMax .panics (.valid ⟨failingStream, false⟩) 2
      (.storage .stale) (.storage .stale) :=
    ⟨rfl, rfl, rfl, failingStream, _, rfl, rfl, connectionLost, .inl rfl⟩
  exact ⟨.readStreamNext .., rfl, fun hatomic => readStreamNext_atomic_iff.mp hatomic hendangered⟩

end OpendalMbt.Native.Entry
