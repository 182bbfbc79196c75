import Mathlib.Data.List.Sublists
import OpendalMbt.Native.OperatorEntries

/-!
# Layers

`operator_with_timeout`, `operator_with_retry` and `operator_with_concurrency_limit` of
`native/rust/src/lib.rs` with the operator of OpenDAL that they put a layer on, and
`operator_handles_with_layers` below them. What OpenDAL answers about an operator is a parameter.

* `operatorWithTimeout_eq`, `operatorWithRetry_eq`, `operatorWithConcurrencyLimit_eq`: without the
  operator of OpenDAL these are the entries of the operator;
* `Composed`: the layers of an operator are those of its record, each once and in order;
* `work_eq_ok`: an accepted call adds its layer outside of the others;
* `layer_composition`: what holds of the operators of every run.
-/

namespace OpendalMbt.Native.Entry

open Transition

inductive LayerKind where
  | timeout | retry | concurrencyLimit
  deriving DecidableEq, Repr

namespace LayerKind

/-- From the inside out. -/
def all : List LayerKind := [timeout, retry, concurrencyLimit]

def bit : LayerKind → UInt32
  | timeout => OPERATOR_LAYER_TIMEOUT
  | retry => OPERATOR_LAYER_RETRY
  | concurrencyLimit => OPERATOR_LAYER_CONCURRENCY_LIMIT

/-- The kinds that may not be there yet when a layer is added. -/
def outward (kind : LayerKind) : List LayerKind := all.dropWhile (· != kind)

theorem mem_all (kind : LayerKind) : kind ∈ all := by
  cases kind with
  | timeout => decide
  | retry => decide
  | concurrencyLimit => decide

theorem mem_outward (kind : LayerKind) : kind ∈ kind.outward := by
  cases kind with
  | timeout => decide
  | retry => decide
  | concurrencyLimit => decide

end LayerKind

/-- A layer of OpenDAL with its settings. -/
inductive Layer where
  | timeout (operationTimeout ioTimeout : UInt64)
  | retry (maxTimes : UInt32) (minDelay maxDelay : UInt64) (jitter : Bool)
  | concurrencyLimit (limit : UInt64) (httpLimit : Option UInt64)
  deriving DecidableEq, Repr

def Layer.kind : Layer → LayerKind
  | timeout .. => .timeout
  | retry .. => .retry
  | concurrencyLimit .. => .concurrencyLimit

/-- An operator of OpenDAL: a service and the layers around it, the innermost first. -/
structure AsyncOperator (B : Type) where
  service : B
  layers : List Layer

def AsyncOperator.layer {B : Type} (operator : AsyncOperator B) (layer : Layer) :
    AsyncOperator B :=
  { operator with layers := operator.layers ++ [layer] }

structure LayeredOperator (B : Type) extends OperatorV1 where
  asyncInner : AsyncOperator B

section Works

variable {B : Type} (runtime : CallResult Unit)
  (answer : AsyncOperator B → StepResult OpenedOperator)

/-- `operator_handles_with_layers`. -/
def handlesWithLayers (asyncOperator : AsyncOperator B) (layerBits : UInt32) :
    Work (LayeredOperator B × OperatorInfoV1) := do
  let (operator, info) ← operatorHandlesWithLayers (answer asyncOperator) layerBits
  pure ({ toOperatorV1 := operator, asyncInner := asyncOperator }, info)

/-- `operator_handles`. -/
def operatorHandles (service : B) : Work (LayeredOperator B × OperatorInfoV1) :=
  handlesWithLayers answer { service, layers := [] } 0

def rebuildHandles (asyncInner : AsyncOperator B) (layerBits : UInt32) :
    Work (LayeredOperator B × OperatorInfoV1) := do
  Work.check runtime
  handlesWithLayers answer asyncInner layerBits

def withTimeout (operator : Pointer (LayeredOperator B))
    (operationTimeoutMillis ioTimeoutMillis : UInt64) :
    Work (LayeredOperator B × OperatorInfoV1) := do
  let operator ← Work.input (borrowRequired operator)
  let operationTimeout ←
    Work.check (positiveMillis operationTimeoutMillis "operation_timeout_millis")
  let ioTimeout ← Work.check (positiveMillis ioTimeoutMillis "io_timeout_millis")
  rejectIf (hasLayer operator.toOperatorV1 OPERATOR_LAYER_TIMEOUT)
    (invalidArgument "timeout layer is already installed")
  rejectIf (hasLayer operator.toOperatorV1 OPERATOR_LAYER_CONCURRENCY_LIMIT)
    (invalidArgument "timeout layer must be installed before concurrency limit layer")
  rejectIf (hasLayer operator.toOperatorV1 OPERATOR_LAYER_RETRY)
    (invalidArgument "timeout layer must be installed before retry layer")
  rebuildHandles runtime answer (operator.asyncInner.layer (.timeout operationTimeout ioTimeout))
    (operator.layerBits ||| OPERATOR_LAYER_TIMEOUT)

def withRetry (operator : Pointer (LayeredOperator B)) (maxRetries : UInt32)
    (minDelayMillis maxDelayMillis : UInt64) (jitter : UInt32) :
    Work (LayeredOperator B × OperatorInfoV1) := do
  let operator ← Work.input (borrowRequired operator)
  rejectIf (jitter > 1) .abiMismatch
  let maxRetries ← Work.check (retryCount maxRetries)
  let minDelay ← Work.check (positiveMillis minDelayMillis "min_delay_millis")
  let maxDelay ← Work.check (positiveMillis maxDelayMillis "max_delay_millis")
  rejectIf (minDelay > maxDelay)
    (invalidArgument "min_delay_millis must not exceed max_delay_millis")
  rejectIf (hasLayer operator.toOperatorV1 OPERATOR_LAYER_RETRY)
    (invalidArgument "retry layer is already installed")
  rejectIf (hasLayer operator.toOperatorV1 OPERATOR_LAYER_CONCURRENCY_LIMIT)
    (invalidArgument "retry layer must be installed before concurrency limit layer")
  rebuildHandles runtime answer
    (operator.asyncInner.layer (.retry maxRetries minDelay maxDelay (jitter != 0)))
    (operator.layerBits ||| OPERATOR_LAYER_RETRY)

def withConcurrencyLimit (operator : Pointer (LayeredOperator B)) (operationLimit : UInt64)
    (hasHttpRequestLimit : UInt32) (httpRequestLimit : UInt64) :
    Work (LayeredOperator B × OperatorInfoV1) := do
  let operator ← Work.input (borrowRequired operator)
  rejectIf (hasHttpRequestLimit > 1) .abiMismatch
  rejectIf (hasHttpRequestLimit == 0 && httpRequestLimit != 0)
    (invalidArgument "http_request_limit must be zero when it is absent")
  rejectIf (hasLayer operator.toOperatorV1 OPERATOR_LAYER_CONCURRENCY_LIMIT)
    (invalidArgument "concurrency limit layer is already installed")
  let operationLimit ← Work.check (positiveConcurrencyLimit operationLimit "operation_limit")
  let httpLimit ←
    if hasHttpRequestLimit != 0 then do
      let limit ← Work.check (positiveConcurrencyLimit httpRequestLimit "http_request_limit")
      pure (some limit)
    else pure none
  rebuildHandles runtime answer
    (operator.asyncInner.layer (.concurrencyLimit operationLimit httpLimit))
    (operator.layerBits ||| OPERATOR_LAYER_CONCURRENCY_LIMIT)

end Works

/-- A call of one of the three entries, without its pointers. -/
inductive LayerCall where
  | timeout (operationTimeoutMillis ioTimeoutMillis : UInt64)
  | retry (maxRetries : UInt32) (minDelayMillis maxDelayMillis : UInt64) (jitter : UInt32)
  | concurrencyLimit (operationLimit : UInt64) (hasHttpRequestLimit : UInt32)
      (httpRequestLimit : UInt64)
  deriving DecidableEq, Repr

namespace LayerCall

def work {B : Type} (runtime : CallResult Unit)
    (answer : AsyncOperator B → StepResult OpenedOperator)
    (operator : Pointer (LayeredOperator B)) :
    LayerCall → Work (LayeredOperator B × OperatorInfoV1)
  | timeout operationTimeoutMillis ioTimeoutMillis =>
    withTimeout runtime answer operator operationTimeoutMillis ioTimeoutMillis
  | retry maxRetries minDelayMillis maxDelayMillis jitter =>
    withRetry runtime answer operator maxRetries minDelayMillis maxDelayMillis jitter
  | concurrencyLimit operationLimit hasHttpRequestLimit httpRequestLimit =>
    withConcurrencyLimit runtime answer operator operationLimit hasHttpRequestLimit
      httpRequestLimit

/-- The layer that a call is for. -/
def layer : LayerCall → Layer
  | timeout operationTimeoutMillis ioTimeoutMillis =>
    .timeout operationTimeoutMillis ioTimeoutMillis
  | retry maxRetries minDelayMillis maxDelayMillis jitter =>
    .retry maxRetries minDelayMillis maxDelayMillis (jitter != 0)
  | concurrencyLimit operationLimit hasHttpRequestLimit httpRequestLimit =>
    .concurrencyLimit operationLimit
      (if hasHttpRequestLimit != 0 then some httpRequestLimit else none)

end LayerCall

/-! ## What an accepted call has made -/

section Accepted

variable {α : Type} {effects effects' : Effects}

theorem check_eq_ok {x : CallResult α} {a : α} :
    Work.check x effects = (.ok a, effects') ↔ x = .ok a ∧ effects' = effects := by
  unfold Work.check Call.lift
  cases x with
  | error failure => simp [Except.mapError]
  | ok b => simp [Except.mapError, eq_comm]

theorem rejectIf_eq_ok {condition : Bool} {failure : CallFailure} {u : Unit} :
    rejectIf condition failure effects = (.ok u, effects') ↔
      condition = false ∧ effects' = effects := by
  unfold rejectIf
  cases condition with
  | true => simp [check_eq_ok]
  | false => simp [eq_comm]

theorem positiveMillis_eq_ok {value millis : UInt64} {label : String}
    (h : positiveMillis value label = .ok millis) : millis = value := by
  unfold positiveMillis at h
  split_ifs at h
  cases h
  rfl

variable {B : Type} {runtime : CallResult Unit}
  {answer : AsyncOperator B → StepResult OpenedOperator}
  {child : LayeredOperator B} {info : OperatorInfoV1}

theorem handlesWithLayers_eq_ok {asyncOperator : AsyncOperator B} {layerBits : UInt32}
    (h : handlesWithLayers answer asyncOperator layerBits effects = (.ok (child, info), effects')) :
    child.asyncInner = asyncOperator ∧ child.layerBits = layerBits := by
  obtain ⟨⟨operator, info'⟩, t, hhandles, hpure⟩ := Call.bind_eq_ok.mp h
  cases hpure
  refine ⟨rfl, ?_⟩
  obtain ⟨opened, u, -, hhandles⟩ := Call.bind_eq_ok.mp hhandles
  dsimp only at hhandles ⊢
  split at hhandles
  · cases (check_eq_ok.mp hhandles).1
  · cases hhandles
    rfl

theorem rebuildHandles_eq_ok {asyncInner : AsyncOperator B} {layerBits : UInt32}
    (h : rebuildHandles runtime answer asyncInner layerBits effects =
      (.ok (child, info), effects')) :
    child.asyncInner = asyncInner ∧ child.layerBits = layerBits := by
  obtain ⟨_, t, -, h⟩ := Call.bind_eq_ok.mp h
  exact handlesWithLayers_eq_ok h

theorem input_eq_ok {x : CallResult α} {a : α} (h : Work.input x effects = (.ok a, effects')) :
    x = .ok a := by
  obtain ⟨_, t, -, h⟩ := Call.bind_eq_ok.mp h
  exact (check_eq_ok.mp h).1

variable {operator : LayeredOperator B}

theorem withTimeout_eq_ok {operationTimeoutMillis ioTimeoutMillis : UInt64}
    (h : withTimeout runtime answer (.valid operator) operationTimeoutMillis ioTimeoutMillis
      effects = (.ok (child, info), effects')) :
    hasLayer operator.toOperatorV1 OPERATOR_LAYER_TIMEOUT = false ∧
      hasLayer operator.toOperatorV1 OPERATOR_LAYER_CONCURRENCY_LIMIT = false ∧
      hasLayer operator.toOperatorV1 OPERATOR_LAYER_RETRY = false ∧
      child.asyncInner =
        operator.asyncInner.layer (.timeout operationTimeoutMillis ioTimeoutMillis) ∧
      child.layerBits = operator.layerBits ||| OPERATOR_LAYER_TIMEOUT := by
  obtain ⟨borrowed, t, hborrow, h⟩ := Call.bind_eq_ok.mp h
  cases input_eq_ok hborrow
  obtain ⟨operationTimeout, t₁, hoperation, h⟩ := Call.bind_eq_ok.mp h
  obtain ⟨ioTimeout, t₂, hio, h⟩ := Call.bind_eq_ok.mp h
  obtain ⟨_, t₃, htimeout, h⟩ := Call.bind_eq_ok.mp h
  obtain ⟨_, t₄, hlimit, h⟩ := Call.bind_eq_ok.mp h
  obtain ⟨_, t₅, hretry, h⟩ := Call.bind_eq_ok.mp h
  obtain ⟨hinner, hbits⟩ := rebuildHandles_eq_ok h
  cases positiveMillis_eq_ok (check_eq_ok.mp hoperation).1
  cases positiveMillis_eq_ok (check_eq_ok.mp hio).1
  exact ⟨(rejectIf_eq_ok.mp htimeout).1, (rejectIf_eq_ok.mp hlimit).1,
    (rejectIf_eq_ok.mp hretry).1, hinner, hbits⟩

theorem retryCount_eq_ok {value count : UInt32} (h : retryCount value = .ok count) :
    count = value := by
  unfold retryCount at h
  split_ifs at h
  cases h
  rfl

theorem withRetry_eq_ok {maxRetries jitter : UInt32} {minDelayMillis maxDelayMillis : UInt64}
    (h : withRetry runtime answer (.valid operator) maxRetries minDelayMillis maxDelayMillis jitter
      effects = (.ok (child, info), effects')) :
    hasLayer operator.toOperatorV1 OPERATOR_LAYER_RETRY = false ∧
      hasLayer operator.toOperatorV1 OPERATOR_LAYER_CONCURRENCY_LIMIT = false ∧
      child.asyncInner = operator.asyncInner.layer
        (.retry maxRetries minDelayMillis maxDelayMillis (jitter != 0)) ∧
      child.layerBits = operator.layerBits ||| OPERATOR_LAYER_RETRY := by
  obtain ⟨borrowed, t, hborrow, h⟩ := Call.bind_eq_ok.mp h
  cases input_eq_ok hborrow
  obtain ⟨_, t₁, -, h⟩ := Call.bind_eq_ok.mp h
  obtain ⟨count, t₂, hcount, h⟩ := Call.bind_eq_ok.mp h
  obtain ⟨minDelay, t₃, hmin, h⟩ := Call.bind_eq_ok.mp h
  obtain ⟨maxDelay, t₄, hmax, h⟩ := Call.bind_eq_ok.mp h
  obtain ⟨_, t₅, -, h⟩ := Call.bind_eq_ok.mp h
  obtain ⟨_, t₆, hretry, h⟩ := Call.bind_eq_ok.mp h
  obtain ⟨_, t₇, hlimit, h⟩ := Call.bind_eq_ok.mp h
  obtain ⟨hinner, hbits⟩ := rebuildHandles_eq_ok h
  cases retryCount_eq_ok (check_eq_ok.mp hcount).1
  cases positiveMillis_eq_ok (check_eq_ok.mp hmin).1
  cases positiveMillis_eq_ok (check_eq_ok.mp hmax).1
  exact ⟨(rejectIf_eq_ok.mp hretry).1, (rejectIf_eq_ok.mp hlimit).1, hinner, hbits⟩

theorem positiveConcurrencyLimit_eq_ok {value limit : UInt64} {label : String}
    (h : positiveConcurrencyLimit value label = .ok limit) : limit = value := by
  unfold positiveConcurrencyLimit at h
  split_ifs at h
  cases h
  rfl

theorem withConcurrencyLimit_eq_ok {operationLimit httpRequestLimit : UInt64}
    {hasHttpRequestLimit : UInt32}
    (h : withConcurrencyLimit runtime answer (.valid operator) operationLimit hasHttpRequestLimit
      httpRequestLimit effects = (.ok (child, info), effects')) :
    hasLayer operator.toOperatorV1 OPERATOR_LAYER_CONCURRENCY_LIMIT = false ∧
      child.asyncInner = operator.asyncInner.layer (.concurrencyLimit operationLimit
        (if hasHttpRequestLimit != 0 then some httpRequestLimit else none)) ∧
      child.layerBits = operator.layerBits ||| OPERATOR_LAYER_CONCURRENCY_LIMIT := by
  obtain ⟨borrowed, t, hborrow, h⟩ := Call.bind_eq_ok.mp h
  cases input_eq_ok hborrow
  obtain ⟨_, t₁, -, h⟩ := Call.bind_eq_ok.mp h
  obtain ⟨_, t₂, -, h⟩ := Call.bind_eq_ok.mp h
  obtain ⟨_, t₃, hinstalled, h⟩ := Call.bind_eq_ok.mp h
  obtain ⟨limit, t₄, hlimit, h⟩ := Call.bind_eq_ok.mp h
  cases positiveConcurrencyLimit_eq_ok (check_eq_ok.mp hlimit).1
  refine ⟨(rejectIf_eq_ok.mp hinstalled).1, ?_⟩
  split at h
  · rename_i hpresent
    obtain ⟨given, t₅, hgiven, h⟩ := Call.bind_eq_ok.mp h
    cases positiveConcurrencyLimit_eq_ok (check_eq_ok.mp hgiven).1
    rw [if_pos hpresent]
    exact rebuildHandles_eq_ok h
  · rename_i habsent
    rw [if_neg habsent]
    exact rebuildHandles_eq_ok h

end Accepted

/-! ## Operators that keep their record -/

/-- The record of a list of layers. -/
def bitsOf : List LayerKind → UInt32
  | [] => 0
  | kind :: kinds => kind.bit ||| bitsOf kinds

namespace LayeredOperator

variable {B : Type} {parent child : LayeredOperator B}

def kinds (operator : LayeredOperator B) : List LayerKind :=
  operator.asyncInner.layers.map Layer.kind

/-- The record is that of the layers, which are in order. -/
structure Composed (operator : LayeredOperator B) : Prop where
  recorded : operator.layerBits = bitsOf operator.kinds
  ordered : operator.kinds.Sublist LayerKind.all

theorem Composed.nodup (h : parent.Composed) : parent.kinds.Nodup :=
  h.ordered.nodup (by decide)

theorem hasLayer_iff_of_sublist {kinds : List LayerKind} (h : kinds.Sublist LayerKind.all)
    (kind : LayerKind) : (bitsOf kinds &&& kind.bit != 0) = true ↔ kind ∈ kinds := by
  have hall : ∀ kinds ∈ LayerKind.all.sublists, ∀ kind ∈ LayerKind.all,
      ((bitsOf kinds &&& kind.bit != 0) = true ↔ kind ∈ kinds) := by decide
  exact hall kinds (List.mem_sublists.mpr h) kind (LayerKind.mem_all kind)

/-- The check of an entry sees the layers. -/
theorem Composed.hasLayer_iff (h : parent.Composed) (kind : LayerKind) :
    hasLayer parent.toOperatorV1 kind.bit = true ↔ kind ∈ parent.kinds := by
  unfold hasLayer
  rw [h.recorded]
  exact hasLayer_iff_of_sublist h.ordered kind

theorem bitsOf_append (kinds : List LayerKind) (kind : LayerKind) :
    bitsOf (kinds ++ [kind]) = bitsOf kinds ||| kind.bit := by
  induction kinds with
  | nil =>
    show kind.bit ||| 0 = 0 ||| kind.bit
    rw [UInt32.or_comm]
  | cons first kinds ih =>
    show first.bit ||| bitsOf (kinds ++ [kind]) = first.bit ||| bitsOf kinds ||| kind.bit
    rw [ih, UInt32.or_assoc]

theorem sublist_append {kinds : List LayerKind} {kind : LayerKind}
    (h : kinds.Sublist LayerKind.all) (houtward : ∀ other ∈ kind.outward, other ∉ kinds) :
    (kinds ++ [kind]).Sublist LayerKind.all := by
  have hall : ∀ kinds ∈ LayerKind.all.sublists, ∀ kind ∈ LayerKind.all,
      (∀ other ∈ kind.outward, other ∉ kinds) → (kinds ++ [kind]).Sublist LayerKind.all := by
    decide
  exact hall kinds (List.mem_sublists.mpr h) kind (LayerKind.mem_all kind) houtward

/-- What an accepted call has made of an operator. -/
structure Added (parent child : LayeredOperator B) (layer : Layer) : Prop where
  fresh : ∀ other ∈ layer.kind.outward, hasLayer parent.toOperatorV1 other.bit = false
  inner : child.asyncInner = parent.asyncInner.layer layer
  bits : child.layerBits = parent.layerBits ||| layer.kind.bit

theorem Added.kinds_eq {layer : Layer} (h : Added parent child layer) :
    child.kinds = parent.kinds ++ [layer.kind] := by
  unfold kinds
  rw [h.inner]
  simp [AsyncOperator.layer]

theorem Added.composed {layer : Layer} (h : Added parent child layer) (hparent : parent.Composed) :
    child.Composed := by
  constructor
  · rw [h.bits, h.kinds_eq, bitsOf_append, hparent.recorded]
  · rw [h.kinds_eq]
    apply sublist_append hparent.ordered
    intro other hother hmem
    have hseen := (hparent.hasLayer_iff other).mpr hmem
    rw [h.fresh other hother] at hseen
    cases hseen

theorem composed_of_handles {answer : AsyncOperator B → StepResult OpenedOperator} {service : B}
    {info : OperatorInfoV1} {effects effects' : Effects}
    (h : operatorHandles answer service effects = (.ok (child, info), effects')) :
    child.Composed := by
  obtain ⟨hinner, hbits⟩ := handlesWithLayers_eq_ok h
  have hkinds : child.kinds = [] := by
    unfold kinds
    rw [hinner]
    rfl
  constructor
  · rw [hbits, hkinds]
    rfl
  · rw [hkinds]
    exact List.nil_sublist _

end LayeredOperator

open LayeredOperator

theorem work_eq_ok {B : Type} {runtime : CallResult Unit}
    {answer : AsyncOperator B → StepResult OpenedOperator} {parent child : LayeredOperator B}
    {info : OperatorInfoV1} {effects effects' : Effects} {call : LayerCall}
    (h : call.work runtime answer (.valid parent) effects = (.ok (child, info), effects')) :
    Added parent child call.layer := by
  cases call with
  | timeout operationTimeoutMillis ioTimeoutMillis =>
    obtain ⟨htimeout, hlimit, hretry, hinner, hbits⟩ := withTimeout_eq_ok h
    refine ⟨?_, hinner, hbits⟩
    intro other _
    cases other with
    | timeout => exact htimeout
    | retry => exact hretry
    | concurrencyLimit => exact hlimit
  | retry maxRetries minDelayMillis maxDelayMillis jitter =>
    obtain ⟨hretry, hlimit, hinner, hbits⟩ := withRetry_eq_ok h
    refine ⟨?_, hinner, hbits⟩
    intro other hother
    cases other with
    | timeout => exact absurd hother (by decide : LayerKind.timeout ∉ LayerKind.retry.outward)
    | retry => exact hretry
    | concurrencyLimit => exact hlimit
  | concurrencyLimit operationLimit hasHttpRequestLimit httpRequestLimit =>
    obtain ⟨hlimit, hinner, hbits⟩ := withConcurrencyLimit_eq_ok h
    refine ⟨?_, hinner, hbits⟩
    intro other hother
    have honly : LayerKind.concurrencyLimit.outward = [.concurrencyLimit] := by decide
    have heq : other ∈ LayerKind.concurrencyLimit.outward := hother
    rw [honly, List.mem_singleton] at heq
    rw [heq]
    exact hlimit

theorem valid_of_work {B : Type} {runtime : CallResult Unit}
    {answer : AsyncOperator B → StepResult OpenedOperator}
    {operator : Pointer (LayeredOperator B)} {value : LayeredOperator B × OperatorInfoV1}
    {effects effects' : Effects} {call : LayerCall}
    (h : call.work runtime answer operator effects = (.ok value, effects')) :
    ∃ parent, operator = .valid parent := by
  have hborrow : ∃ parent, borrowRequired operator = .ok parent := by
    cases call with
    | timeout =>
      obtain ⟨parent, t, hinput, -⟩ := Call.bind_eq_ok.mp h
      exact ⟨parent, input_eq_ok hinput⟩
    | retry =>
      obtain ⟨parent, t, hinput, -⟩ := Call.bind_eq_ok.mp h
      exact ⟨parent, input_eq_ok hinput⟩
    | concurrencyLimit =>
      obtain ⟨parent, t, hinput, -⟩ := Call.bind_eq_ok.mp h
      exact ⟨parent, input_eq_ok hinput⟩
  obtain ⟨parent, hborrow⟩ := hborrow
  cases operator with
  | null => cases hborrow
  | misaligned => cases hborrow
  | valid target => exact ⟨target, rfl⟩

/-! ## Entries -/

section Entries

variable {O I B : Type}

/-- From cleared outputs, two values are published or none. -/
theorem catchStatus_returningPair {given f : Frame Misplaced (OperatorOutput.Value O I) ErrorV1}
    (hswept : Frame.Swept given f) (hvalid : given.Valid) (locals : Destructor)
    (work : Work (O × I)) {out : Status × Frame Misplaced (OperatorOutput.Value O I) ErrorV1}
    (hout : out = catchStatus (returningPair locals work) f) :
    (out.1 = .ok ∧ ∃ operator info effects, work {} = (.ok (operator, info), effects) ∧
        held (out.2.slots .operator) = some operator ∧ held (out.2.slots .info) = some info) ∨
      (out.1 ≠ .ok ∧ ∀ output, held (out.2.slots output) = none) := by
  obtain ⟨n, hclosure⟩ := closure_cases locals work f
  have hinspected := swept_inspected hswept n
  rcases hclosure with ⟨⟨operator, info⟩, effects, hwork, hclosure⟩ | ⟨failure, hclosure⟩ |
      hclosure
  · left
    have hpublish := hout.trans (catchStatus_bind hclosure _)
    obtain ⟨hwritten, -⟩ := Frame.writeAll_eq (E := ErrorV1) (V := OperatorOutput.Value O I)
      (OperatorOutput.rec operator info) OperatorOutput.nodup_all
      fun i _ => hinspected.slots_eq hvalid i
    rw [hpublish]
    exact ⟨rfl, operator, info, effects, hwork,
      congrArg held (hwritten .operator (OperatorOutput.mem_all _)),
      congrArg held (hwritten .info (OperatorOutput.mem_all _))⟩
  · right
    have hfinish := hout.trans (catchStatus_bind hclosure _)
    cases failure with
    | abiMismatch =>
      rw [hfinish]
      refine ⟨?_, fun output => held_of_empty (hinspected.empty output)⟩
      intro hok
      cases hok
    | error error =>
      have hfailed := Frame.failed_writeError hinspected hvalid error
      rw [hfinish]
      refine ⟨?_, fun output => congrArg held (hfailed.empty output)⟩
      intro hok
      cases hok
  · right
    have hpanic : out = (.panic, Frame.inspect^[n] f) := by
      rw [hout]
      unfold catchStatus returningPair orFinish
      rw [Call.bind_apply_error hclosure]
    rw [hpanic]
    refine ⟨?_, fun output => held_of_empty (hinspected.empty output)⟩
    intro hok
    cases hok

/-- What a call meets: its output slots, the runtime, OpenDAL, and the end of its locals. -/
structure Surroundings (B : Type) where
  outOperator : Slot Misplaced (LayeredOperator B)
  outInfo : Slot Misplaced OperatorInfoV1
  outError : Slot Misplaced ErrorV1
  runtime : CallResult Unit
  answer : AsyncOperator B → StepResult OpenedOperator
  locals : Destructor

namespace Surroundings

variable (given : Surroundings B)

def entry (work : Work (LayeredOperator B × OperatorInfoV1)) : Invocation :=
  .operatorPair given.outOperator given.outInfo given.outError (returningPair given.locals work)

/-- The status of an entry and the operator that it returns. -/
def call (work : Work (LayeredOperator B × OperatorInfoV1)) :
    Status × Option (LayeredOperator B) :=
  ((given.entry work).run.1, held ((given.entry work).run.2.slots OperatorOutput.operator))

/-- An entry returns the operator of its work, or nothing at all. -/
theorem call_cases (work : Work (LayeredOperator B × OperatorInfoV1)) :
    (∃ operator info effects, work {} = (.ok (operator, info), effects) ∧
        given.call work = (.ok, some operator)) ∨
      (∃ status, status ≠ .ok ∧ given.call work = (status, none) ∧
        ∀ output, held ((given.entry work).run.2.slots output) = none) := by
  rcases Invocation.run_cases (given.entry work) with ⟨f, hswept, hvalid, hrun⟩ |
      ⟨f, hswept, -, hrun⟩
  · rcases catchStatus_returningPair hswept hvalid given.locals work hrun with
      ⟨hok, operator, info, effects, hwork, hoperator, -⟩ | ⟨hstatus, hnone⟩
    · exact .inl ⟨operator, info, effects, hwork, Prod.ext hok hoperator⟩
    · exact .inr ⟨_, hstatus, Prod.ext rfl (hnone .operator), hnone⟩
  · right
    have hnone : ∀ output, held ((given.entry work).run.2.slots output) = none := by
      intro output
      rw [hrun]
      exact held_of_empty (hswept.empty output)
    refine ⟨.abiMismatch, nofun, Prod.ext ?_ (hnone .operator), hnone⟩
    show (given.entry work).run.1 = _
    rw [hrun]

end Surroundings

/-- Without the operator of OpenDAL. -/
def erased (work : Work (LayeredOperator B × OperatorInfoV1)) :
    Work (OperatorV1 × OperatorInfoV1) := do
  let (operator, info) ← work
  pure (operator.toOperatorV1, info)

variable (given : Surroundings B) (outOperator : Slot Misplaced OperatorV1)
  (operator : LayeredOperator B)

theorem erased_bind {α : Type} (x : Work α) (f : α → Work (LayeredOperator B × OperatorInfoV1)) :
    erased (x >>= f) = x >>= fun a => erased (f a) :=
  Call.bind_assoc x f _

theorem erased_handles (answer : AsyncOperator B → StepResult OpenedOperator)
    (asyncOperator : AsyncOperator B) (layerBits : UInt32) :
    erased (handlesWithLayers answer asyncOperator layerBits) =
      operatorHandlesWithLayers (answer asyncOperator) layerBits := by
  funext effects
  unfold erased handlesWithLayers
  rw [Call.bind_assoc]
  cases h : operatorHandlesWithLayers (answer asyncOperator) layerBits effects with
  | mk result effects' =>
    cases result with
    | error halt => rw [Call.bind_apply_error h]
    | ok value =>
      rw [Call.bind_apply_ok h]
      rfl

theorem operatorWithTimeout_eq (operationTimeoutMillis ioTimeoutMillis : UInt64) :
    operatorWithTimeout given.locals given.runtime outOperator given.outInfo given.outError
        (.valid operator.toOperatorV1) operationTimeoutMillis ioTimeoutMillis
        (fun operationTimeout ioTimeout => given.answer
          (operator.asyncInner.layer (.timeout operationTimeout ioTimeout))) =
      .operatorPair outOperator given.outInfo given.outError
        (returningPair given.locals (erased (withTimeout given.runtime given.answer
          (.valid operator) operationTimeoutMillis ioTimeoutMillis))) := by
  unfold operatorWithTimeout withTimeout
  simp only [erased_bind, rebuildHandles, rebuildLayeredOperator, erased_handles]
  rfl

theorem operatorWithRetry_eq (maxRetries jitter : UInt32) (minDelayMillis maxDelayMillis : UInt64) :
    operatorWithRetry given.locals given.runtime outOperator given.outInfo given.outError
        (.valid operator.toOperatorV1) maxRetries minDelayMillis maxDelayMillis jitter
        (fun maxTimes minDelay maxDelay jitter => given.answer
          (operator.asyncInner.layer (.retry maxTimes minDelay maxDelay jitter))) =
      .operatorPair outOperator given.outInfo given.outError
        (returningPair given.locals (erased (withRetry given.runtime given.answer
          (.valid operator) maxRetries minDelayMillis maxDelayMillis jitter))) := by
  unfold operatorWithRetry withRetry
  simp only [erased_bind, rebuildHandles, rebuildLayeredOperator, erased_handles]
  rfl

theorem operatorWithConcurrencyLimit_eq (operationLimit httpRequestLimit : UInt64)
    (hasHttpRequestLimit : UInt32) :
    operatorWithConcurrencyLimit given.locals given.runtime outOperator given.outInfo
        given.outError (.valid operator.toOperatorV1) operationLimit hasHttpRequestLimit
        httpRequestLimit
        (fun limit httpLimit => given.answer
          (operator.asyncInner.layer (.concurrencyLimit limit httpLimit))) =
      .operatorPair outOperator given.outInfo given.outError
        (returningPair given.locals (erased (withConcurrencyLimit given.runtime given.answer
          (.valid operator) operationLimit hasHttpRequestLimit httpRequestLimit))) := by
  unfold operatorWithConcurrencyLimit withConcurrencyLimit
  by_cases hpresent : (hasHttpRequestLimit != 0) = true
  · simp only [erased_bind, rebuildHandles, rebuildLayeredOperator, erased_handles, hpresent,
      if_true]
    rfl
  · simp only [erased_bind, rebuildHandles, rebuildLayeredOperator, erased_handles, hpresent,
      Bool.false_eq_true, if_false]
    rfl

end Entries

/-! ## Runs -/

section Runs

variable {B : Type}

/-- A call that makes an operator: of a service, or of the operator at a position. -/
inductive OperatorCall (B : Type) where
  | new (source : Work B)
  | layer (parent : Nat) (call : LayerCall)

def parentOf (operators : List (LayeredOperator B)) (parent : Nat) :
    Pointer (LayeredOperator B) :=
  match operators[parent]? with
  | none => .null
  | some operator => .valid operator

/-- The caller keeps the operator that an entry returns. -/
def keep (operators : List (LayeredOperator B)) (out : Status × Option (LayeredOperator B)) :
    Status × List (LayeredOperator B) :=
  (out.1, operators ++ out.2.toList)

/-- The status of a call and the operators there are afterwards. -/
def perform (operators : List (LayeredOperator B)) (given : Surroundings B) :
    OperatorCall B → Status × List (LayeredOperator B)
  | .new source =>
    keep operators <| given.call do
      let service ← source
      operatorHandles given.answer service
  | .layer parent call =>
    keep operators <|
      given.call (call.work given.runtime given.answer (parentOf operators parent))

def run (calls : List (Surroundings B × OperatorCall B)) : List (LayeredOperator B) :=
  calls.foldl (fun operators call => (perform operators call.1 call.2).2) []

open LayeredOperator

/-- A call adds an operator that is in order, or nothing. -/
theorem perform_cases {operators : List (LayeredOperator B)}
    (hall : ∀ operator ∈ operators, operator.Composed) (given : Surroundings B)
    (call : OperatorCall B) :
    (∃ child : LayeredOperator B, child.Composed ∧
        perform operators given call = (.ok, operators ++ [child])) ∨
      ∃ status, status ≠ .ok ∧ perform operators given call = (status, operators) := by
  cases call with
  | new source =>
    dsimp only [perform]
    rcases given.call_cases (do
      let service ← source
      operatorHandles given.answer service) with
      ⟨child, info, effects, hwork, hcall⟩ | ⟨status, hstatus, hcall, -⟩
    · obtain ⟨service, t, -, hhandles⟩ := Call.bind_eq_ok.mp hwork
      rw [hcall]
      exact .inl ⟨child, composed_of_handles hhandles, rfl⟩
    · rw [hcall]
      exact .inr ⟨status, hstatus, by simp [keep]⟩
  | layer parent call =>
    dsimp only [perform]
    rcases given.call_cases (call.work given.runtime given.answer (parentOf operators parent)) with
      ⟨child, info, effects, hwork, hcall⟩ | ⟨status, hstatus, hcall, -⟩
    · rw [hcall]
      obtain ⟨target, hvalid⟩ := valid_of_work hwork
      rw [hvalid] at hwork
      have hmem : target ∈ operators := by
        unfold parentOf at hvalid
        split at hvalid
        · cases hvalid
        · rename_i found
          cases hvalid
          exact List.mem_of_getElem? found
      exact .inl ⟨child, (work_eq_ok hwork).composed (hall target hmem), rfl⟩
    · rw [hcall]
      exact .inr ⟨status, hstatus, by simp [keep]⟩

theorem composed_run (calls : List (Surroundings B × OperatorCall B)) :
    ∀ operator ∈ run calls, operator.Composed := by
  induction calls using List.reverseRecOn with
  | nil => nofun
  | append_singleton calls call ih =>
    unfold run at ih ⊢
    rw [List.foldl_append]
    rcases perform_cases ih call.1 call.2 with ⟨child, hchild, hperform⟩ |
        ⟨status, -, hperform⟩
    · intro operator hmem
      rw [List.foldl_cons, List.foldl_nil, hperform] at hmem
      rcases List.mem_append.mp hmem with hmem | hmem
      · exact ih operator hmem
      · rw [List.mem_singleton.mp hmem]
        exact hchild
    · rw [List.foldl_cons, List.foldl_nil, hperform]
      exact ih

/-- In every run each operator has the layers of its record, in order, and a call adds its layer
or nothing. -/
theorem layer_composition (calls : List (Surroundings B × OperatorCall B)) :
    (∀ operator ∈ run calls,
      operator.kinds.Sublist [.timeout, .retry, .concurrencyLimit] ∧ operator.kinds.Nodup ∧
        operator.layerBits = bitsOf operator.kinds ∧
        ∀ kind : LayerKind,
          hasLayer operator.toOperatorV1 kind.bit = true ↔ kind ∈ operator.kinds) ∧
    (∀ i parent, (run calls)[i]? = some parent → ∀ given call,
      (∃ child, perform (run calls) given (.layer i call) = (.ok, run calls ++ [child]) ∧
          child.asyncInner = parent.asyncInner.layer call.layer ∧
          child.layerBits = parent.layerBits ||| call.layer.kind.bit ∧
          call.layer.kind ∉ parent.kinds) ∨
        (∃ status, status ≠ .ok ∧
          perform (run calls) given (.layer i call) = (status, run calls) ∧
          ∀ output, held ((given.entry (call.work given.runtime given.answer
            (.valid parent))).run.2.slots output) = none)) := by
  constructor
  · intro operator hmem
    have hcomposed := composed_run calls operator hmem
    exact ⟨hcomposed.ordered, hcomposed.nodup, hcomposed.recorded, hcomposed.hasLayer_iff⟩
  · intro i parent hparent given call
    have hpointer : parentOf (run calls) i = .valid parent := by
      unfold parentOf
      rw [hparent]
    have hcomposed := composed_run calls parent (List.mem_of_getElem? hparent)
    dsimp only [perform]
    rw [hpointer]
    rcases given.call_cases (call.work given.runtime given.answer (.valid parent)) with
      ⟨child, info, effects, hwork, hcall⟩ | ⟨status, hstatus, hcall, hnone⟩
    · left
      have hadded := work_eq_ok hwork
      rw [hcall]
      refine ⟨child, rfl, hadded.inner, hadded.bits, ?_⟩
      intro hmem
      have hseen := (hcomposed.hasLayer_iff _).mpr hmem
      rw [hadded.fresh _ (LayerKind.mem_outward _)] at hseen
      cases hseen
    · right
      rw [hcall]
      exact ⟨status, hstatus, by simp [keep], hnone⟩

end Runs

end OpendalMbt.Native.Entry
