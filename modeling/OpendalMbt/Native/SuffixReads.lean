import OpendalMbt.Native.AsyncEntries

/-!
# Suffix reads without native support

The five entries of `native/rust/src/lib.rs` that read a range, asked for a suffix of a backend
that has no native suffix ranges. Each checks the capability before it calls OpenDAL. The two
whole reads check the size against the output limit first, so that a suffix over the limit is
`BufferTooLarge` there and `Unsupported` everywhere else.

* `reports_returning`: what the caller of an entry sees of a failure before the upstream;
* `SuffixRead.failsEarly_iff`: when a suffix read is `Unsupported`.
-/

namespace OpendalMbt.Native.Entry

open Transition

/-! ## Failures before the upstream -/

/-- Work that ends in an error of this kind without a call of OpenDAL. -/
structure FailsEarly {V : Type} (work : Work V) (kind : UInt32) : Prop where
  fails : ∃ error : ErrorV1, (work {}).1 = .error (.failure (.error error)) ∧ error.kind = kind
  early : (work {}).2.upstream = 0

/-- A call whose caller gets an error of this kind, if it wants one. -/
structure Reports (call : Invocation) (kind : UInt32) : Prop where
  status : call.run.1 = .error
  error : call.given.error.Formed →
    ∃ error : ErrorV1, call.run.2.error = .storage (.value error) ∧ error.kind = kind

section Failures

variable {R ι V : Type} {W : ι → Type} {work : Work V} {kind kind' : UInt32}
  {given f : Frame R W ErrorV1}

theorem failsEarly_of_eq {name message : String} {inputs : Nat}
    (h : work {} = (.error (.failure (bindingError kind name message)), ⟨inputs, 0⟩)) :
    FailsEarly work kind where
  fails := by
    rw [h]
    exact ⟨_, rfl, rfl⟩
  early := by rw [h]

theorem FailsEarly.kind_eq (h : FailsEarly work kind) (h' : FailsEarly work kind') :
    kind = kind' := by
  obtain ⟨error, hresult, rfl⟩ := h.fails
  obtain ⟨error', hresult', rfl⟩ := h'.fails
  rw [hresult] at hresult'
  cases hresult'
  rfl

/-- From a swept frame the error of the closure is what is written. -/
theorem finish_failsEarly (h : FailsEarly work kind) (hf : Frame.Swept given f)
    (next : V → Step R W Status) :
    ∃ error : ErrorV1, error.kind = kind ∧ ∃ inspected, Frame.Swept given inspected ∧
      orFinish (closure .quiet work) next f = (.ok .error, inspected.writeError error) := by
  obtain ⟨error, hresult, hkind⟩ := h.fails
  refine ⟨error, hkind, _, swept_inspected hf (work {}).2.inputs, ?_⟩
  have hclosure : closure .quiet work f =
      (.ok (.error (.error error)), (Frame.inspect)^[(work {}).2.inputs] f) := by
    unfold closure
    cases hwork : work {} with
    | mk result effects =>
      rw [hwork] at hresult
      cases hresult
      rfl
  exact Call.bind_apply_ok hclosure

/-- The error slot after a failure, where the caller wants the error. -/
theorem writeError_of_swept (hf : Frame.Swept given f) (hformed : given.error.Formed)
    (error : ErrorV1) : (f.writeError error).error = .storage (.value error) := by
  have hempty : f.error = .storage .empty := by
    apply hf.emptyError
    rw [Slot.Formed, hf.keptError]
    exact hformed
  rw [Frame.writeError, hempty]

/-- An entry whose body ends in the failure of its closure. -/
theorem reports_of_body {call : Invocation} (hvalid : call.given.Valid)
    (h : ∀ f, Frame.Swept call.given f → ∃ error : ErrorV1, error.kind = kind ∧
      ∃ inspected, Frame.Swept call.given inspected ∧
        call.body f = (.ok .error, inspected.writeError error)) : Reports call kind := by
  rcases call.run_cases with ⟨swept, hswept, -, hrun⟩ | ⟨swept, -, hinvalid, -⟩
  · obtain ⟨error, hkind, inspected, hinspected, hbody⟩ := h swept hswept
    have hstatus : call.run = (.error, inspected.writeError error) := by
      rw [hrun, catchStatus, hbody]
    constructor
    · rw [hstatus]
    · intro hformed
      refine ⟨error, ?_, hkind⟩
      rw [hstatus]
      exact writeError_of_swept hinspected hformed error
  · exact absurd hvalid hinvalid

theorem reports_returning {output : Slot R V} {outError : Slot Misplaced ErrorV1}
    (hvalid : (Invocation.single output outError (returning .quiet work)).given.Valid)
    (h : FailsEarly work kind) :
    Reports (.single output outError (returning .quiet work)) kind :=
  reports_of_body hvalid fun _ hf => finish_failsEarly h hf _

end Failures

/-! ## The five reads -/

/-- The arguments of a whole read of a suffix, which are all accepted. -/
structure WholeSuffix (size : UInt64) where
  path : Pointer BytesViewV1
  options : Pointer ReadOptionsV1
  maxOutputLen : UInt64
  text : String
  parsed : ReadOptions BytesRange
  readable : readText path "path" = .ok text
  accepted : parseReadOptions BytesRange.api options = .ok parsed
  suffix : parsed.range = .suffix size

/-- The arguments of a stream over a suffix, which are all accepted. -/
structure StreamSuffix (defaults : ReaderOptions) (size : UInt64) where
  path : Pointer BytesViewV1
  options : Pointer ReadStreamOptionsV1
  text : String
  parsed : ParsedReadStreamOptions BytesRange
  readable : readText path "path" = .ok text
  accepted : parseReadStreamOptions BytesRange.api defaults options = .ok parsed
  suffix : parsed.range = .suffix size

/-- The arguments of a read of a suffix through a reader, which are all accepted. -/
structure ReaderSuffix (size : UInt64) where
  range : Pointer ByteRangeV1
  maxOutputLen : UInt64
  carrier : ByteRangeV1
  readable : readRequired range = .ok carrier
  accepted : parseRange BytesRange.api carrier = .ok (.suffix size)

/-- A read of a suffix of this size, with what OpenDAL, or the runtime, would answer. `H` are the
streams, and `T` the tasks. -/
inductive SuffixRead (H T : Type) (defaults : ReaderOptions) (size : UInt64) where
  | operatorRead (arguments : WholeSuffix size)
      (read : String → WholeReadPlan → StepResult (List UInt8))
  | asyncOperatorReadStart (arguments : WholeSuffix size) (launch : CallResult Unit) (task : T)
  | readerRead (arguments : ReaderSuffix size) (guard : ReaderGuard)
      (read : BytesRange → UInt64 → StepResult (List UInt8))
  | operatorReadStream (arguments : StreamSuffix defaults size)
      (stream : String → ParsedReadStreamOptions BytesRange → StepResult H)
  | asyncOperatorReadStreamStart (arguments : StreamSuffix defaults size)
      (launch : CallResult Unit) (task : T)

namespace SuffixRead

variable {H T : Type} {defaults : ReaderOptions} {size : UInt64}

/-- What the read returns. -/
abbrev Value : SuffixRead H T defaults size → Type
  | operatorRead .. | readerRead .. => List UInt8
  | operatorReadStream .. => H
  | asyncOperatorReadStart .. | asyncOperatorReadStreamStart .. => T

section Base

variable (layerBits : UInt32)

/-- An operator whose base service has no suffix ranges. -/
def base : OperatorV1 where
  layerBits := layerBits
  readWithSuffix := false

/-- The closure of the entry. -/
def work : (read : SuffixRead H T defaults size) → Work read.Value
  | operatorRead arguments read =>
    operatorReadWork (.valid (base layerBits)) arguments.path arguments.options
      arguments.maxOutputLen read
  | asyncOperatorReadStart arguments launch task =>
    asyncOperatorReadStartWork launch task (.valid (base layerBits)) arguments.path
      arguments.options arguments.maxOutputLen
  | readerRead arguments guard read =>
    readerReadWork ⟨guard, (base layerBits).readWithSuffix⟩ arguments.range arguments.maxOutputLen
      read
  | operatorReadStream arguments stream =>
    operatorReadStreamWork (.valid (base layerBits)) defaults arguments.path arguments.options
      stream
  | asyncOperatorReadStreamStart arguments launch task =>
    asyncOperatorReadStreamStartWork launch task defaults (.valid (base layerBits)) arguments.path
      arguments.options

/-- The entry; until it calls OpenDAL the closure has only plain locals. -/
def call : (read : SuffixRead H T defaults size) → Slot Misplaced read.Value →
    Slot Misplaced ErrorV1 → Invocation
  | operatorRead arguments read, output, outError =>
    Entry.operatorRead .quiet (.valid (base layerBits)) outError arguments.path arguments.options
      arguments.maxOutputLen read output
  | asyncOperatorReadStart arguments launch task, output, outError =>
    Entry.asyncOperatorReadStart .quiet launch task output outError (.valid (base layerBits))
      arguments.path arguments.options arguments.maxOutputLen
  | readerRead arguments guard read, output, outError =>
    Entry.readerRead .quiet (.valid ⟨guard, (base layerBits).readWithSuffix⟩) arguments.range
      arguments.maxOutputLen read output outError
  | operatorReadStream arguments stream, output, outError =>
    Entry.operatorReadStream .quiet (.valid (base layerBits)) outError defaults arguments.path
      arguments.options stream output
  | asyncOperatorReadStreamStart arguments launch task, output, outError =>
    Entry.asyncOperatorReadStreamStart .quiet launch task output outError defaults
      (.valid (base layerBits)) arguments.path arguments.options

end Base

/-- A whole read asks for no more than may be returned. -/
def WithinLimit : SuffixRead H T defaults size → Prop
  | operatorRead arguments _ | asyncOperatorReadStart arguments _ _ =>
    size ≤ negotiatedLimit arguments.maxOutputLen
  | readerRead .. | operatorReadStream .. | asyncOperatorReadStreamStart .. => True

/-! ## What the checks say -/

section Checks

variable {V : Type} {effects : Effects}

theorem suffix_unsupported {range : BytesRange} (h : range = .suffix size) (next : Work V) :
    (Work.check (ensureSuffixIsNative range false) >>= fun _ => next) effects =
      (.error (.failure (unsupported "suffix reads require native backend range support")),
        effects) := by
  rw [h]
  rfl

variable {options : ReadOptions BytesRange} {maxOutputLen : UInt64}

theorem plan_withinLimit (h : options.range = .suffix size)
    (hsize : size ≤ negotiatedLimit maxOutputLen) (next : WholeReadPlan → Work V) :
    (do
      let plan ← Work.check (wholeReadPlan options maxOutputLen)
      Work.check (ensureSuffixIsNative plan.range false)
      next plan) effects =
      (.error (.failure (unsupported "suffix reads require native backend range support")),
        effects) := by
  have hfits : ¬ min maxOutputLen (UInt64.ofNat maxOutputBytes) < size := UInt64.not_lt.mpr hsize
  obtain ⟨plan, hplan, hrange⟩ :
      ∃ plan, wholeReadPlan options maxOutputLen = .ok plan ∧ plan.range = .suffix size := by
    unfold wholeReadPlan
    rw [h]
    exact ⟨_, if_neg hfits, rfl⟩
  rw [hplan]
  exact suffix_unsupported hrange (next plan)

theorem plan_tooLarge (h : options.range = .suffix size)
    (hsize : ¬ size ≤ negotiatedLimit maxOutputLen) (next : WholeReadPlan → Work V) :
    (do
      let plan ← Work.check (wholeReadPlan options maxOutputLen)
      Work.check (ensureSuffixIsNative plan.range false)
      next plan) effects =
      (.error (.failure (bufferTooLarge "read result exceeds the negotiated output limit")),
        effects) := by
  have hexceeds : min maxOutputLen (UInt64.ofNat maxOutputBytes) < size := UInt64.not_le.mp hsize
  have hplan : wholeReadPlan options maxOutputLen =
      .error (bufferTooLarge "read result exceeds the negotiated output limit") := by
    unfold wholeReadPlan
    rw [h]
    exact if_pos hexceeds
  rw [hplan]
  rfl

end Checks

variable (layerBits : UInt32)

/-- After the arguments, a whole read makes its plan and checks the capability. -/
theorem operatorRead_work (arguments : WholeSuffix size)
    (read : String → WholeReadPlan → StepResult (List UInt8)) :
    (operatorRead arguments read : SuffixRead H T defaults size).work layerBits {} = (do
      let plan ← Work.check (wholeReadPlan arguments.parsed arguments.maxOutputLen)
      Work.check (ensureSuffixIsNative plan.range false)
      Work.upstream (read arguments.text plan)) ⟨3, 0⟩ := by
  show operatorReadWork _ _ _ _ _ _ = _
  rw [operatorReadWork, arguments.readable, arguments.accepted]
  rfl

theorem asyncOperatorReadStart_work (arguments : WholeSuffix size) (launch : CallResult Unit)
    (task : T) :
    (asyncOperatorReadStart arguments launch task : SuffixRead H T defaults size).work layerBits {} =
      (do
        let plan ← Work.check (wholeReadPlan arguments.parsed arguments.maxOutputLen)
        Work.check (ensureSuffixIsNative plan.range false)
        Work.input launch
        spawn task) ⟨3, 0⟩ := by
  show asyncOperatorReadStartWork _ _ _ _ _ _ _ = _
  rw [asyncOperatorReadStartWork, arguments.readable, arguments.accepted]
  rfl

theorem readerRead_work (arguments : ReaderSuffix size) (guard : ReaderGuard)
    (read : BytesRange → UInt64 → StepResult (List UInt8)) :
    (readerRead arguments guard read : SuffixRead H T defaults size).work layerBits {} =
      (.error (.failure (unsupported "suffix reads require native backend range support")),
        ⟨1, 0⟩) := by
  have hrange : readerRange false arguments.range arguments.maxOutputLen {} =
      (.error (.failure (unsupported "suffix reads require native backend range support")),
        ⟨1, 0⟩) := by
    rw [readerRange, arguments.readable]
    show (Work.check (parseRange BytesRange.api arguments.carrier) >>= _) ⟨1, 0⟩ = _
    rw [arguments.accepted]
    rfl
  exact Call.bind_apply_error hrange

theorem operatorReadStream_work (arguments : StreamSuffix defaults size)
    (stream : String → ParsedReadStreamOptions BytesRange → StepResult H) :
    (operatorReadStream arguments stream : SuffixRead H T defaults size).work layerBits {} =
      (.error (.failure (unsupported "suffix reads require native backend range support")),
        ⟨3, 0⟩) := by
  show operatorReadStreamWork _ _ _ _ _ _ = _
  rw [operatorReadStreamWork, arguments.readable, arguments.accepted]
  exact suffix_unsupported arguments.suffix _

theorem asyncOperatorReadStreamStart_work (arguments : StreamSuffix defaults size)
    (launch : CallResult Unit) (task : T) :
    (asyncOperatorReadStreamStart arguments launch task : SuffixRead H T defaults size).work
        layerBits {} =
      (.error (.failure (unsupported "suffix reads require native backend range support")),
        ⟨3, 0⟩) := by
  show asyncOperatorReadStreamStartWork _ _ _ _ _ _ _ = _
  rw [asyncOperatorReadStreamStartWork, arguments.readable, arguments.accepted]
  exact suffix_unsupported arguments.suffix _

/-- A size within the limit leaves the capability to be checked. -/
theorem failsEarly_of_withinLimit (read : SuffixRead H T defaults size) (h : read.WithinLimit) :
    FailsEarly (read.work layerBits) ERROR_UNSUPPORTED := by
  cases read with
  | operatorRead arguments read =>
    apply failsEarly_of_eq
    rw [operatorRead_work]
    exact plan_withinLimit arguments.suffix h _
  | asyncOperatorReadStart arguments launch task =>
    apply failsEarly_of_eq
    rw [asyncOperatorReadStart_work]
    exact plan_withinLimit arguments.suffix h _
  | readerRead arguments guard read => exact failsEarly_of_eq (readerRead_work _ _ _ _)
  | operatorReadStream arguments stream => exact failsEarly_of_eq (operatorReadStream_work _ _ _)
  | asyncOperatorReadStreamStart arguments launch task =>
    exact failsEarly_of_eq (asyncOperatorReadStreamStart_work _ _ _ _)

/-- The size is checked first, also where there is no suffix to be had. -/
theorem failsEarly_of_not_withinLimit (read : SuffixRead H T defaults size)
    (h : ¬ read.WithinLimit) : FailsEarly (read.work layerBits) ERROR_BUFFER_TOO_LARGE := by
  cases read with
  | operatorRead arguments read =>
    apply failsEarly_of_eq
    rw [operatorRead_work]
    exact plan_tooLarge arguments.suffix h _
  | asyncOperatorReadStart arguments launch task =>
    apply failsEarly_of_eq
    rw [asyncOperatorReadStart_work]
    exact plan_tooLarge arguments.suffix h _
  | readerRead arguments guard read => exact absurd trivial h
  | operatorReadStream arguments stream => exact absurd trivial h
  | asyncOperatorReadStreamStart arguments launch task => exact absurd trivial h

theorem reports_of_failsEarly (read : SuffixRead H T defaults size) {kind : UInt32}
    (h : FailsEarly (read.work layerBits) kind) {output : Slot Misplaced read.Value}
    {outError : Slot Misplaced ErrorV1}
    (hvalid : (read.call layerBits output outError).given.Valid) :
    Reports (read.call layerBits output outError) kind := by
  cases read with
  | operatorRead arguments read => exact reports_returning hvalid h
  | asyncOperatorReadStart arguments launch task => exact reports_returning hvalid h
  | readerRead arguments guard read =>
    apply reports_of_body hvalid
    intro f hf
    exact finish_failsEarly h hf.inspect _
  | operatorReadStream arguments stream => exact reports_returning hvalid h
  | asyncOperatorReadStreamStart arguments launch task => exact reports_returning hvalid h

/-- A suffix read is `Unsupported` unless it is a whole read of more than may be returned. -/
theorem failsEarly_iff (read : SuffixRead H T defaults size) :
    (FailsEarly (read.work layerBits) ERROR_UNSUPPORTED ∧
      ∀ output outError, (read.call layerBits output outError).given.Valid →
        Reports (read.call layerBits output outError) ERROR_UNSUPPORTED) ↔ read.WithinLimit := by
  constructor
  · intro h
    by_contra hexceeds
    have hkind := h.1.kind_eq (failsEarly_of_not_withinLimit layerBits read hexceeds)
    revert hkind
    decide
  · intro h
    have hfails := failsEarly_of_withinLimit layerBits read h
    exact ⟨hfails, fun output outError => reports_of_failsEarly layerBits read hfails⟩

/-- The options for the last three bytes of an object. -/
def lastThreeOptions : ReadOptionsV1 where
  structSize := 96
  structVersion := STRUCT_VERSION
  presentBits := 0
  version := .absent
  ifMatch := .absent
  ifNoneMatch := .absent
  range := {
    structSize := 32
    structVersion := STRUCT_VERSION
    kind := RANGE_SUFFIX
    reserved0 := 0
    offset := 0
    length := 3 }

/-- The last three bytes, for a caller that takes two. -/
def lastThree : WholeSuffix 3 where
  path := .valid (stringView "a")
  options := .valid lastThreeOptions
  maxOutputLen := 2
  text := "a"
  parsed := { noConditions with range := .suffix 3 }
  readable := readTextValue_stringView "path" (by decide : "a".utf8ByteSize ≤ isizeMax)
  accepted := rfl
  suffix := rfl

def plainReader : ReaderOptions where
  toReadConditions := noConditions
  concurrent := 1
  chunk := none
  gap := none
  prefetch := 0

/-- The whole read of a suffix over the limit is `BufferTooLarge`, on a backend where the same
suffix through a reader is `Unsupported`. -/
theorem operatorRead_lastThree_tooLarge :
    let read : SuffixRead Unit Unit plainReader 3 := operatorRead lastThree fun _ _ => .ok []
    FailsEarly (read.work 0) ERROR_BUFFER_TOO_LARGE ∧
      ¬ FailsEarly (read.work 0) ERROR_UNSUPPORTED := by
  intro read
  have hexceeds : ¬ (3 : UInt64) ≤ negotiatedLimit 2 := by decide
  have htooLarge : FailsEarly (read.work 0) ERROR_BUFFER_TOO_LARGE :=
    failsEarly_of_not_withinLimit 0 read hexceeds
  refine ⟨htooLarge, fun hunsupported => ?_⟩
  have hkind := hunsupported.kind_eq htooLarge
  revert hkind
  decide

end SuffixRead

end OpendalMbt.Native.Entry
