import OpendalMbt.Bridge.WriterWorld
import OpendalMbt.Browser.CallHistory
import OpendalMbt.Browser.Promises
import OpendalMbt.Browser.RequestFidelity

/-!
# What a start leaves behind

A start that succeeds puts one future on the executor, for a task of its own; a resource that was
lent to it is busy, and nothing else has changed.

* `Launched`: one more future;
* `launched_start`: a resource is lent;
* `request_launches`, `call_launches`: the starts of the operations and of the resources.
-/

namespace OpendalMbt.Browser

open Codec Bridge Transition Function FacadeCall

variable {O S W L : Type}

/-- The future of `f` is on the executor, behind the others, and its task is new. Of the other
handles only the one that it was lent may name something else, of the same kind. -/
structure Launched (names : Naming O S W L) (spawned : List (Spawned O S W L))
    (f : Spawned O S W L) (s : BridgeState O S W L) : Prop where
  valid : s.toStore.Valid
  nonzero : f.task ≠ 0
  fresh : names f.task = none
  pending : s.arena.get? f.task = some (.task (.pending f.lease))
  lent : f.future.lentKind = f.lease.map ResourceLease.kind
  held : ∀ held ∈ f.lease, Lendable held.kind ∧ (names held.handle).map kind = some held.kind
  kinds : ∀ k, k ≠ f.task → (s.arena.get? k).map kind = (names k).map kind
  others : ∀ k, k ≠ f.task → (∀ held ∈ f.lease, k ≠ held.handle) → s.arena.get? k = names k
  spawned : s.spawned = spawned ++ [f]

variable {names : Naming O S W L} {spawned : List (Spawned O S W L)} {forcePending : Bool}

theorem Started.launched {future : Future O S W L} {task : UInt32} {s : BridgeState O S W L}
    (h : Started names spawned forcePending future task s) (hlent : future.lentKind = none) :
    Launched names spawned ⟨task, none, future, forcePending⟩ s where
  valid := h.state.names.valid
  nonzero := h.nonzero
  fresh := h.fresh
  pending := by rw [h.state.names.get?, update_self]
  lent := hlent
  held := by simp
  kinds := by
    intro k hk
    rw [h.state.names.get?, update_of_ne hk]
  others := by
    intro k hk _
    rw [h.state.names.get?, update_of_ne hk]
  spawned := h.state.spawned

theorem lentKind_future (operator : O) (request : Request) :
    (request.future operator : Future O S W L).lentKind = none := by
  cases request <;> rfl

theorem kind_future (operator : O) (request : Request) :
    (request.future operator : Future O S W L).kind = request.expectedKind := by
  cases request <;> rfl

theorem kind_wants {called : ResourceCall} {future : Future O S W L} (h : called.Wants future) :
    future.kind = called.expectedKind := by
  cases called <;> cases future <;> first | rfl | exact h.elim

theorem Wanted.kind_matches {wanted : Wanted O} {future : Future O S W L}
    (h : wanted.Matches future) : future.kind = wanted.expectedKind := by
  cases wanted with
  | operation operator request =>
    rw [h]
    exact kind_future operator request
  | resource handle called => exact kind_wants h

theorem request_launches (host : Host) (context : Context) (request : Request)
    (lib : Library O) {operatorHandle : UInt32} {operator : O} {s : BridgeState O S W L}
    (hs : s.toStore.Valid) (hoperator : s.arena.get? operatorHandle = some (.operator operator)) :
    (∀ task s', request.start host context lib operatorHandle s = (.ok task, s') →
      ∃ f, f.task = task ∧ f.future = request.future operator ∧
        Launched s.arena.get? s.spawned f s') ∧
      ∀ failure s', request.start host context lib operatorHandle s = (.error failure, s') →
        Names s.arena.get? s'.toStore ∧ s'.spawned = s.spawned := by
  obtain ⟨hok, herror⟩ := request_starts_its_future host context request lib hs hoperator
  constructor
  · intro task s' h
    exact ⟨_, rfl, rfl, (hok task s' h).launched (lentKind_future operator request)⟩
  · intro failure s' h
    have hat := herror failure s' h
    exact ⟨hat.names, hat.spawned⟩

/-! ## Loans -/

section Loans

variable {I T : Type} {F : Lender O S W L I T} {handle : UInt32} {future : I → Future O S W L}

/-- A future of `wants` is launched for the task that is returned. -/
def Launches (names : Naming O S W L) (spawned : List (Spawned O S W L))
    (wants : Future O S W L → Prop) (task : UInt32) (s : BridgeState O S W L) : Prop :=
  ∃ f, f.task = task ∧ wants f.future ∧ Launched names spawned f s

theorem Launches.nonzero {wants : Future O S W L → Prop} {task : UInt32} {s : BridgeState O S W L}
    (h : Launches names spawned wants task s) : task ≠ 0 := by
  obtain ⟨f, rfl, -, hlaunched⟩ := h
  exact hlaunched.nonzero

theorem reserve_refusal (hF : F.Lawful) (handle : UInt32) (s : BridgeState O S W L) :
    (∃ e s', F.reserve handle s = (.error e, s') ∧ s'.toStore = s.toStore ∧
        s'.spawned = s.spawned ∧ s'.forcePendingForCanary = s.forcePendingForCanary) ∨
      ∃ inner previous, s.arena.get? handle = some (F.wrap (.open inner previous)) ∧
        leaseRefusal s = none := by
  cases hrefusal : leaseRefusal s with
  | some e => exact Or.inl ⟨e, s, reserve_refused hrefusal, rfl, rfl, rfl⟩
  | none =>
    cases hlookup : F.lookup s.arena handle with
    | error e => exact Or.inl ⟨e, _, reserve_missing hrefusal hlookup, rfl, rfl, rfl⟩
    | ok state =>
      cases state with
      | «open» inner previous =>
        exact Or.inr ⟨inner, previous, hF.lookup_eq_ok.mp hlookup, rfl⟩
      | busy operation =>
        exact Or.inl ⟨_, _, reserve_not_open hrefusal hlookup rfl, rfl, rfl, rfl⟩
      | terminal outcome =>
        exact Or.inl ⟨_, _, reserve_not_open hrefusal hlookup rfl, rfl, rfl, rfl⟩

/-- A resource is lent to a future, or everything stays as it is. -/
theorem launched_start (hF : F.Lawful) (hlendable : Lendable F.kind)
    (hlent : ∀ inner, (future inner).lentKind = some F.kind) :
    Call.Triple (At names spawned forcePending) (F.start handle future)
      (Launches names spawned fun wanted => ∃ inner, wanted = future inner)
      fun _ => At names spawned forcePending := by
  intro s hs
  have harena := hs.names.valid.arena
  unfold Lender.start
  rcases reserve_refusal hF handle s with
    ⟨e, s', hreserve, hstore, hspawned, hforce⟩ | ⟨inner, previous, hget, hrefusal⟩
  · rw [Call.bind_apply_error hreserve]
    exact ⟨hstore ▸ hs.names, hspawned.trans hs.spawned, hforce.trans hs.forcePending⟩
  · obtain ⟨task, arena, hinsert, hreserve⟩ :=
      reserve_open harena hrefusal hget (hF.lookup_eq_ok.mpr hget)
    have htouched := touched_wrap (nextLease F handle s) hF hlendable harena
      (hF.lookup_eq_ok.mpr hget) (.busy (s.nextResourceOperation + 1))
    have hadded := Arena.added_of_insert htouched.valid hinsert
    have hrunning : s.tornDown = false := (leaseRefusal_eq_none.mp hrefusal).1
    rw [Call.bind_apply_ok hreserve]
    refine ⟨⟨task, some (nextLease F handle s), future inner, forcePending⟩, rfl, ⟨inner, rfl⟩,
      ?_⟩
    constructor
    · exact hs.names.valid.update hadded.valid fun htorn => by
        rw [hrunning] at htorn
        cases htorn
    · exact Arena.handle_ne_zero hadded.published
    · have hnone := htouched.kinds task
      rw [hadded.fresh, hs.names.get?] at hnone
      cases hname : names task with
      | none => rfl
      | some r =>
        rw [hname] at hnone
        cases hnone
    · exact hadded.published
    · exact hlent inner
    · intro held hheld
      cases hheld
      refine ⟨hlendable, ?_⟩
      have hname := hs.names.get? handle
      rw [hget] at hname
      show (names handle).map kind = some F.kind
      rw [← hname, Option.map_some, hF.kind_wrap]
    · intro k hk
      rw [← hs.names.get?]
      exact (congrArg (Option.map kind) (hadded.others k hk)).trans (htouched.kinds k)
    · intro k hk hheld
      rw [← hs.names.get?]
      exact (hadded.others k hk).trans (htouched.others k hheld)
    · show s.spawned ++ [_] = spawned ++ [_]
      rw [hs.spawned, ← hs.forcePending]
      rfl

end Loans

/-! ## The calls of a resource -/

section Calls

variable {host : Host} {context : Context} {lib : Library O} {handle dataHandle : UInt32}

theorem Launches.of_imp {P Q : Future O S W L → Prop} {task : UInt32} {s : BridgeState O S W L}
    (h : Launches names spawned P task s) (hPQ : ∀ future, P future → Q future) :
    Launches names spawned Q task s := by
  obtain ⟨f, htask, hwants, hlaunched⟩ := h
  exact ⟨f, htask, hPQ f.future hwants, hlaunched⟩

theorem launches_start (called : ResourceCall) {I T : Type} {F : Lender O S W L I T}
    {future : I → Future O S W L} (hF : F.Lawful) (hlendable : Lendable F.kind)
    (hlent : ∀ inner, (future inner).lentKind = some F.kind)
    (hwants : ∀ inner, called.Wants (future inner)) :
    Call.Triple (At names spawned forcePending) (F.start handle future)
      (Launches names spawned called.Wants) fun _ => At names spawned forcePending := by
  refine (launched_start hF hlendable hlent).of_imp (fun _ h => h) ?_
  intro task s h
  apply h.of_imp
  rintro wanted ⟨inner, rfl⟩
  exact hwants inner

/-- An ending that repeats what the writer came to. -/
theorem launches_repeated (called : ResourceCall) {future : Future O S W L}
    (hlent : future.lentKind = none) (hwants : called.Wants future) :
    Call.Triple (At names spawned forcePending) (startTask future)
      (Launches names spawned called.Wants) fun _ => At names spawned forcePending := by
  refine (triple_startTask future).of_imp (fun _ h => h) ?_
  intro task s h
  exact ⟨_, rfl, hwants, h.launched hlent⟩

theorem launches_writerFinish :
    Call.Triple (At names spawned forcePending) (writerFinishStart handle)
      (Launches names spawned (O := O) (S := S) (W := W) (L := L) ResourceCall.finish.Wants)
      fun _ => At names spawned forcePending := by
  intro s hs
  unfold writerFinishStart
  cases hlookup : Lender.writer.lookup s.arena handle with
  | error e =>
    have hview := view_apply (f := fun s => Lender.writer.lookup s.arena handle) hlookup
    rw [Call.bind_apply_error hview]
    exact hs
  | ok state =>
    have hview := view_apply (f := fun s => Lender.writer.lookup s.arena handle) hlookup
    rw [Call.bind_apply_ok hview]
    cases state with
    | «open» writer previous =>
      exact launches_start .finish lawful_writer (Or.inr (Or.inl rfl)) (fun _ => rfl)
        (fun _ => by trivial) s hs
    | busy operation => exact hs
    | terminal outcome =>
      cases outcome with
      | finished metadata => exact launches_repeated .finish rfl (by trivial) s hs
      | aborted => exact hs
      | failed => exact hs

theorem launches_writerAbort :
    Call.Triple (At names spawned forcePending) (writerAbortStart handle)
      (Launches names spawned (O := O) (S := S) (W := W) (L := L) ResourceCall.abort.Wants)
      fun _ => At names spawned forcePending := by
  intro s hs
  unfold writerAbortStart
  cases hlookup : Lender.writer.lookup s.arena handle with
  | error e =>
    have hview := view_apply (f := fun s => Lender.writer.lookup s.arena handle) hlookup
    rw [Call.bind_apply_error hview]
    exact hs
  | ok state =>
    have hview := view_apply (f := fun s => Lender.writer.lookup s.arena handle) hlookup
    rw [Call.bind_apply_ok hview]
    cases state with
    | «open» writer previous =>
      exact launches_start .abort lawful_writer (Or.inr (Or.inl rfl)) (fun _ => rfl)
        (fun _ => by trivial) s hs
    | busy operation => exact hs
    | terminal outcome =>
      cases outcome with
      | finished metadata => exact hs
      | aborted => exact launches_repeated .abort rfl (by trivial) s hs
      | failed => exact hs

theorem ownedWriterChunk_value {tryReserve : Nat → Bool} {data v : List UInt8}
    {s : BridgeState O S W L} (hdata : s.arena.get? dataHandle = some (.buffer data))
    (h : ownedWriterChunk tryReserve dataHandle s = .ok v) : v = data := by
  unfold ownedWriterChunk Store.tryOwnedBytes at h
  rw [Arena.buffer_eq_ok.mpr hdata] at h
  dsimp only at h
  split_ifs at h
  cases h
  rfl

theorem launches_writerWrite {data : List UInt8}
    (hdata : names dataHandle = some (.buffer data)) :
    Call.Triple (At names spawned forcePending)
      (writerWriteStart lib.tryReserve handle dataHandle)
      (Launches names spawned (O := O) (S := S) (W := W) (L := L) (ResourceCall.write data).Wants)
      fun _ => At names spawned forcePending := by
  apply triple_known (triple_view fun s v hs h =>
    ownedWriterChunk_value ((hs.get? dataHandle).trans hdata) h)
  exact launches_start (.write data) lawful_writer (Or.inr (Or.inl rfl)) (fun _ => rfl) fun _ => rfl

variable (host) (context) (lib) (handle) in
/-- The export of a call, on the data it was given. -/
theorem launches_begin (called : ResourceCall)
    (hdata : ∀ data, called = .write data → names dataHandle = some (.buffer data)) :
    Call.Triple (At names spawned forcePending)
      (called.begin host context lib handle dataHandle)
      (Launches names spawned (O := O) (S := S) (W := W) (L := L) called.Wants)
      fun _ => At names spawned forcePending := by
  apply Call.Triple.bind (Q := fun _ => At names spawned forcePending)
  · intro s hs
    exact ⟨hs.names.withError none, hs.spawned, hs.forcePending⟩
  intro _
  cases called with
  | nextChunk =>
    exact triple_callExport (fun _ => rfl) (fun _ _ h => h.nonzero)
      (launches_start .nextChunk lawful_readStream (Or.inl rfl) (fun _ => rfl)
        fun _ => by trivial) _
  | write data =>
    exact triple_callExport (fun _ => rfl) (fun _ _ h => h.nonzero)
      (launches_writerWrite (hdata data rfl)) _
  | finish =>
    exact triple_callExport (fun _ => rfl) (fun _ _ h => h.nonzero) launches_writerFinish _
  | abort =>
    exact triple_callExport (fun _ => rfl) (fun _ _ h => h.nonzero) launches_writerAbort _
  | nextEntry =>
    exact triple_callExport (fun _ => rfl) (fun _ _ h => h.nonzero)
      (launches_start .nextEntry lawful_lister (Or.inr (Or.inr rfl)) (fun _ => rfl)
        fun _ => by trivial) _

/-- The buffer of a write is released behind it. -/
theorem Launched.release {data : List UInt8} {f : Spawned O S W L} {s t : BridgeState O S W L}
    (hfresh : names dataHandle = none)
    (h : Launched (update names dataHandle (some (.buffer data))) spawned f s)
    (hstore : t.toStore = (Store.bufferRelease dataHandle s.toStore).2)
    (hspawned : t.spawned = s.spawned) : Launched names spawned f t := by
  have hself := update_self dataHandle (some (OwnedResource.buffer data)) names
  have htask : f.task ≠ dataHandle := by
    intro heq
    have hnone := h.fresh
    rw [heq, hself] at hnone
    cases hnone
  have hheld : ∀ held ∈ f.lease, held.handle ≠ dataHandle := by
    intro held hheld heq
    obtain ⟨hlendable, hkind⟩ := h.held held hheld
    rw [heq, hself] at hkind
    have hbuffer : ResourceKind.buffer = held.kind := Option.some.inj hkind
    rw [← hbuffer] at hlendable
    rcases hlendable with h | h | h <;> cases h
  have hbuffer : s.arena.get? dataHandle = some (.buffer data) := by
    rw [h.others dataHandle htask.symm fun held hmem => (hheld held hmem).symm, hself]
  have hreleased : Names (update s.arena.get? dataHandle none) t.toStore := by
    rw [hstore]
    exact ((Names.of_valid h.valid).release hbuffer rfl).2
  constructor
  · exact hreleased.valid
  · exact h.nonzero
  · rw [← h.fresh, update_of_ne htask]
  · rw [hreleased.get?, update_of_ne htask]
    exact h.pending
  · exact h.lent
  · intro held hmem
    rw [← update_of_ne (hheld held hmem) (some (OwnedResource.buffer data)) names]
    exact h.held held hmem
  · intro k hk
    rw [hreleased.get?]
    by_cases hdata : k = dataHandle
    · rw [hdata, update_self, hfresh]
    · rw [update_of_ne hdata, h.kinds k hk, update_of_ne hdata]
  · intro k hk hlease
    rw [hreleased.get?]
    by_cases hdata : k = dataHandle
    · rw [hdata, update_self, hfresh]
    · rw [update_of_ne hdata, h.others k hk hlease, update_of_ne hdata]
  · exact hspawned.trans h.spawned

/-- A call of a resource starts one future of its own, or nothing. -/
theorem call_launches (host : Host) (context : Context) (lib : Library O) (handle : UInt32)
    (called : ResourceCall) {s : BridgeState O S W L} (hs : s.toStore.Valid) :
    (∀ task s', called.start host context lib handle s = (.ok task, s') →
      Launches s.arena.get? s.spawned called.Wants task s') ∧
      ∀ failure s', called.start host context lib handle s = (.error failure, s') →
        Names s.arena.get? s'.toStore ∧ s'.spawned = s.spawned := by
  have hat : At s.arena.get? s.spawned s.forcePendingForCanary s :=
    ⟨Names.of_valid hs, rfl, rfl⟩
  have hstart : Call.Triple (At s.arena.get? s.spawned s.forcePendingForCanary)
      (called.start host context lib handle) (Launches s.arena.get? s.spawned called.Wants)
      fun _ => At s.arena.get? s.spawned s.forcePendingForCanary := by
    cases called with
    | write data =>
      apply Call.Triple.bind (Q := fun dataHandle t => s.arena.get? dataHandle = none ∧
        At (update s.arena.get? dataHandle (some (.buffer data))) s.spawned
          s.forcePendingForCanary t)
      · intro t ht
        have hput := triple_putBytes host context data t.toStore ht.names
        unfold inStore
        cases hran : putBytes host data context t.toStore with
        | mk result store =>
          rw [hran] at hput
          cases result with
          | ok dataHandle => exact ⟨hput.1, hput.2, ht.spawned, ht.forcePending⟩
          | error failure => exact ⟨hput, ht.spawned, ht.forcePending⟩
      intro dataHandle t ht
      obtain ⟨hfresh, ht⟩ := ht
      have hdata : ∀ data', ResourceCall.write data = .write data' →
          update s.arena.get? dataHandle (some (.buffer data)) dataHandle =
            some (.buffer data') := by
        intro data' heq
        cases heq
        exact update_self dataHandle (some (.buffer data)) s.arena.get?
      have hbegin := launches_begin host context lib handle (.write data) hdata t ht
      unfold Call.tryFinally
      cases hran : (ResourceCall.write data).begin host context lib handle dataHandle t with
      | mk result t' =>
        rw [hran] at hbegin
        cases result with
        | ok task =>
          obtain ⟨f, htask, hwants, hlaunched⟩ := hbegin
          exact ⟨f, htask, hwants, hlaunched.release hfresh rfl rfl⟩
        | error failure =>
          have hreleased := (hbegin.names.release (update_self _ _ _) rfl).2
          rw [update_update_none hfresh] at hreleased
          exact ⟨hreleased, hbegin.spawned, hbegin.forcePending⟩
    | nextChunk | finish | abort | nextEntry => exact launches_begin host context lib handle _ (fun _ h => by cases h)
  have hran := hstart s hat
  constructor
  · intro task s' h
    rw [h] at hran
    exact hran
  · intro failure s' h
    rw [h] at hran
    exact ⟨hran.names, hran.spawned⟩

/-! ### Handles -/

theorem lasting_writerFinishStart (handle : UInt32) :
    Lasting (writerFinishStart handle : BridgeCall O S W L UInt32) := by
  unfold writerFinishStart
  apply (lasting_view _).bind
  intro state
  cases state with
  | «open» writer previous => exact lasting_start lawful_writer _ _
  | busy operation => exact lasting_throw _
  | terminal outcome =>
    cases outcome with
    | finished metadata => exact lasting_startTask _
    | aborted => exact lasting_throw _
    | failed => exact lasting_throw _

theorem lasting_writerAbortStart (handle : UInt32) :
    Lasting (writerAbortStart handle : BridgeCall O S W L UInt32) := by
  unfold writerAbortStart
  apply (lasting_view _).bind
  intro state
  cases state with
  | «open» writer previous => exact lasting_start lawful_writer _ _
  | busy operation => exact lasting_throw _
  | terminal outcome =>
    cases outcome with
    | finished metadata => exact lasting_throw _
    | aborted => exact lasting_startTask _
    | failed => exact lasting_throw _

theorem older_begin (host : Host) (context : Context) (lib : Library O)
    (handle dataHandle : UInt32) (called : ResourceCall) (s : BridgeState O S W L) :
    Older s.toStore (called.begin host context lib handle dataHandle s).2.toStore := by
  have hrun : ∀ t : BridgeState O S W L,
      Older t.toStore ((called.call handle dataHandle).run t lib).2.toStore := by
    intro t
    cases called with
    | nextChunk => exact older_handleReply (lasting_start lawful_readStream handle _) t
    | nextEntry => exact older_handleReply (lasting_start lawful_lister handle _) t
    | write data =>
      exact older_handleReply ((lasting_view _).bind fun _ => lasting_start lawful_writer handle _) t
    | finish => exact older_handleReply (lasting_writerFinishStart handle) t
    | abort => exact older_handleReply (lasting_writerAbortStart handle) t
  exact older_callHandle lib host context
    (hrun { s with toStore := s.toStore.lastErrorClear }) called.fallbackMessage

theorem older_call (host : Host) (context : Context) (lib : Library O) (handle : UInt32)
    (called : ResourceCall) (s : BridgeState O S W L) :
    Older s.toStore (called.start host context lib handle s).2.toStore := by
  cases called with
  | write data =>
    have hput := aging_putBytes host data context s.toStore
    unfold ResourceCall.start
    dsimp only
    cases hran : putBytes host data context s.toStore with
    | mk result store =>
      rw [hran] at hput
      cases result with
      | error failure =>
        have hin : inStore (putBytes host data context) s =
            (.error failure, { s with toStore := store }) := by
          unfold inStore
          rw [hran]
        rw [Call.bind_apply_error hin]
        exact hput
      | ok dataHandle =>
        have hin : inStore (putBytes host data context) s =
            (.ok dataHandle, { s with toStore := store }) := by
          unfold inStore
          rw [hran]
        rw [Call.bind_apply_ok hin]
        have hbegin := older_begin host context lib handle dataHandle (.write data)
          { s with toStore := store }
        exact (hput.trans _ _ _ hbegin).trans _ _ _ (ages_releaseResource dataHandle .buffer _)
  | nextChunk | finish | abort | nextEntry => exact older_begin host context lib handle 0 _ s

end Calls

end OpendalMbt.Browser
