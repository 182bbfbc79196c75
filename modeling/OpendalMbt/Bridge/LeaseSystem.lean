import OpendalMbt.Bridge.LeaseFrame
import OpendalMbt.Transition.Run

/-!
# The bridge and its operations in flight

A `LeaseSystem` is the state of the bridge, the operations whose futures have not been
published yet, and two histories: every lease issued and every object put into a resource.
An event is one exported call, or the publication of one operation; a list of events is an
interleaving. A publication may come at any time after its start, and in any order.

`Move` lists the changes that the calls are made of, each with the condition under which
it is made, and `step_moves` takes every event apart into moves. An invariant is therefore
checked move by move.
-/

namespace OpendalMbt.Bridge

open Transition Arena

variable {I M X : Type}

/-- A started operation that has not been published: its future owns the object. -/
structure Flight (I : Type) where
  task : UInt32
  lease : ResourceLease
  inner : I
  deriving DecidableEq, Repr

/-- `I` names the inner objects; what they contain is not modelled. -/
structure LeaseSystem (I M X : Type) where
  state : State I M X := {}
  flights : List (Flight I) := []
  issued : List ResourceLease := []
  opened : List (UInt32 × I) := []

/-- The resources that lend nothing: plain ones, completions, and a task without a lease. -/
def Resource.idle : Resource I M X → Bool
  | .plain _ | .completion _ | .task (.pending none) => true
  | .task _ | .readStream _ | .writer _ | .lister _ => false

inductive LeaseEvent (I M X : Type) where
  | insert (r : Resource I M X)
  | openReadStream (inner : I)
  | openWriter (inner : I)
  | openLister (inner : I)
  | publishTask (handle : UInt32) (completion : X)
  | readStreamNext (handle : UInt32)
  | writerCall (handle : UInt32)
  | listerNext (handle : UInt32)
  /-- The `i`-th operation in flight ends; an open update gives its own object back. -/
  | publish (i : Nat) (update : ResourceUpdate Unit M) (completion : X)
  | taskTake (handle : UInt32)
  | taskCancel (handle : UInt32)
  | taskRelease (handle : UInt32)
  | release (handle : UInt32) (expected : ResourceKind)

def LeasedUpdate.withInner {T : Type} (inner : I) : LeasedUpdate Unit T → LeasedUpdate I T
  | .open () => .open inner
  | .terminal outcome => .terminal outcome

def ResourceUpdate.withInner (inner : I) : ResourceUpdate Unit M → ResourceUpdate I M
  | .readStream update => .readStream (update.withInner inner)
  | .writer update => .writer (update.withInner inner)
  | .lister update => .lister (update.withInner inner)

namespace LeaseSystem

def get? (b : LeaseSystem I M X) (handle : UInt32) : Option (Resource I M X) :=
  b.state.arena.get? handle

/-- The leased state behind a handle, its outcome apart. -/
def leasedAt (b : LeaseSystem I M X) (handle : UInt32) : Option (LeasedState I Unit) :=
  (b.get? handle).bind Resource.leased

/-- An exported function that inserts a leased resource. -/
def insertOpened (b : LeaseSystem I M X) (inner : I) (r : Resource I M X) : LeaseSystem I M X :=
  match insertResource r b.state with
  | (.ok handle, state) => { b with state, opened := b.opened ++ [(handle, inner)] }
  | (.error e, state) => { b with state := { state with lastError := some e } }

/-- An exported function that starts an operation: its future is spawned. -/
def begun (b : LeaseSystem I M X) :
    Except BridgeError (UInt32 × ResourceLease × I) × State I M X → LeaseSystem I M X
  | (.ok (task, lease, inner), state) =>
    { b with
      state
      flights := b.flights ++ [{ task, lease, inner }]
      issued := b.issued ++ [lease] }
  | (.error e, state) => { b with state := { state with lastError := some e } }

def step (b : LeaseSystem I M X) : LeaseEvent I M X → Option (LeaseSystem I M X)
  | .insert r =>
    if r.idle then some { b with state := (recorded (insertResource r b.state)).2 } else none
  | .openReadStream inner => some (b.insertOpened inner (.readStream (.open inner 0)))
  | .openWriter inner => some (b.insertOpened inner (.writer (.open inner 0)))
  | .openLister inner => some (b.insertOpened inner (.lister (.open inner 0)))
  | .publishTask handle completion =>
    some { b with state := Bridge.publishTask handle completion b.state }
  | .readStreamNext handle => some (b.begun (reserveReadStreamNext handle b.state))
  | .writerCall handle => some (b.begun (reserveWriterCall handle b.state))
  | .listerNext handle => some (b.begun (reserveListerNext handle b.state))
  | .publish i update completion =>
    match b.flights[i]? with
    | none => none
    | some f =>
      -- the futures end with an update of their own kind
      if update.kind = f.lease.kind then
        some { b with
          state := publishResourceTask f.task f.lease (update.withInner f.inner) completion b.state
          flights := b.flights.eraseIdx i }
      else none
  | .taskTake handle => some { b with state := (Bridge.taskTake handle b.state).2 }
  | .taskCancel handle => some { b with state := (Bridge.taskCancel handle b.state).2 }
  | .taskRelease handle => some { b with state := (Bridge.taskRelease handle b.state).2 }
  | .release handle expected =>
    -- tasks are released by `task_release` alone
    if expected = .task then none
    else some { b with state := (releaseResource handle expected b.state).2 }

/-! ## Moves -/

/-- The task is not the pending one of an operation that still has its resource. -/
def Idle (b : LeaseSystem I M X) (r : Resource I M X) : Prop :=
  ∀ lease, r = .task (.pending (some lease)) →
    b.leasedAt lease.handle ≠ some (.busy lease.operation)

inductive Move : LeaseSystem I M X → LeaseSystem I M X → Prop where
  | count {b} (operation : UInt64) (e : Option BridgeError)
      (hle : b.state.nextResourceOperation ≤ operation) :
      Move b { b with
        state := { b.state with nextResourceOperation := operation, lastError := e } }
  | insert {b r k arena} (hins : b.state.arena.insert r = (.ok k, arena))
      (hidle : r.idle = true) :
      Move b { b with state := { b.state with arena } }
  | «open» {b r k arena inner} (hins : b.state.arena.insert r = (.ok k, arena))
      (hleased : r.leased = some (.open inner 0)) :
      Move b { b with state := { b.state with arena }, opened := b.opened ++ [(k, inner)] }
  | fail {b handle r r' state} (hget : b.get? handle = some r) (hleased : r.leased = some state)
      (hleased' : r'.leased = some (.terminal ())) :
      Move b { b with state := { b.state with arena := b.state.arena.write handle r' } }
  | settle {b handle task task'} (hget : b.get? handle = some (.task task))
      (hidle : b.Idle (.task task)) (hpending : ∀ lease, task' ≠ .pending lease)
      (hlease : ∀ lease, taskLease task' = some lease → taskLease task = some lease) :
      Move b { b with state := { b.state with arena := b.state.arena.write handle (.task task') } }
  | remove {b handle expected r arena} (hidle : b.Idle r)
      (htake : b.state.arena.take handle expected = (.ok r, arena)) :
      Move b { b with state := { b.state with arena } }
  | lend {b handle r r' inner previous task arena} {lease : ResourceLease}
      (hget : b.get? handle = some r) (hleased : r.leased = some (.open inner previous))
      (hkind' : r'.kind = r.kind) (hleased' : r'.leased = some (.busy lease.operation))
      (hlease : lease.handle = handle ∧ lease.kind = r.kind)
      (hlt : b.state.nextResourceOperation < lease.operation)
      (hins : (b.state.arena.write handle r').insert (.task (.pending (some lease))) =
        (.ok task, arena)) :
      Move b { b with
        state := { b.state with arena, nextResourceOperation := lease.operation }
        flights := b.flights ++ [{ task, lease, inner }]
        issued := b.issued ++ [lease] }
  | giveBack {b i} {f : Flight I} {r r'} (hf : b.flights[i]? = some f)
      (hholding : Holding b.state.arena f.lease r) (hkind' : r'.kind = f.lease.kind)
      (hleased' : r'.leased = some (.open f.inner f.lease.operation) ∨
        r'.leased = some (.terminal ())) :
      Move b { b with
        state := { b.state with arena := b.state.arena.write f.lease.handle r' }
        flights := b.flights.eraseIdx i }
  | discard {b i} {f : Flight I} (hf : b.flights[i]? = some f)
      (hidle : b.leasedAt f.lease.handle ≠ some (.busy f.lease.operation)) :
      Move b { b with flights := b.flights.eraseIdx i }

end LeaseSystem

end OpendalMbt.Bridge
