import OpendalMbt.Bridge.TransferSafety
import OpendalMbt.Transition.Run

/-!
# Transfers in a running bridge

What the calls of a bridge can do to its store, in any order: insert resources while it
runs, change one in place, release one, move the last error out, transfer ownership, and
tear the instance down. Every store reached so is valid, and so every transfer in it is
atomic, in a full arena and at the last generation of a slot too.
-/

namespace OpendalMbt.Bridge

open Arena Transition

variable {O S W L : Type}

inductive StoreEvent (O S W L : Type) where
  | insert (r : OwnedResource O S W L)
  | write (handle : UInt32) (r : OwnedResource O S W L)
  | release (handle : UInt32) (expected : ResourceKind)
  | lastErrorTake
  | lastErrorClear
  | transfer (t : Transfer) (tryReserve : Nat → Bool) (handle : UInt32)
  | teardown

namespace Store

/-- `opendal_mbt_wasm_last_error_take`. -/
def lastErrorTake (s : Store O S W L) : Except BridgeError UInt32 × Store O S W L :=
  recorded <|
    if s.tornDown then (.ok 0, { s with lastError := none })
    else
      match s.lastError with
      | none => (.ok 0, s)
      | some error =>
        match s.arena.insert (.error error) with
        | (.error e, arena) => (.error e, { s with arena })
        | (.ok handle, arena) => (.ok handle, { s with arena, lastError := none })

/-- `opendal_mbt_wasm_teardown`. -/
def teardown (s : Store O S W L) : Store O S W L :=
  { s with tornDown := true, arena := s.arena.clear, lastError := none }

def step (s : Store O S W L) : StoreEvent O S W L → Option (Store O S W L)
  | .insert r => some (recorded (insertResource r s)).2
  | .write handle r =>
    match s.arena.get? handle with
    | some r₀ =>
      if kind r₀ = kind r then some { s with arena := s.arena.write handle r } else none
    | none => none
  | .release handle expected => some (releaseResource handle expected s).2
  | .lastErrorTake => some s.lastErrorTake.2
  | .lastErrorClear => some { s with lastError := none }
  | .transfer t tryReserve handle => some (t.run tryReserve handle s).2
  | .teardown => some s.teardown

end Store

/-! ## Validity is kept -/

namespace Store.Valid

variable {s : Store O S W L}

theorem empty : Store.Valid ({} : Store O S W L) where
  arena := valid_empty
  torn := by
    intro h
    cases h

/-- Neither the last error nor a change of the arena while running matters. -/
theorem update (hs : s.Valid) {arena : Arena (OwnedResource O S W L)} {lastError : Option BridgeError}
    (harena : arena.Valid) (hrunning : s.tornDown = true → arena = s.arena) :
    Store.Valid { s with arena, lastError } where
  arena := harena
  torn := by
    intro htorn
    exact (hrunning htorn).trans (hs.torn htorn)

theorem recorded {α : Type} {out : Except BridgeError α × Store O S W L} (h : out.2.Valid) :
    (Store.recorded out).2.Valid := by
  obtain ⟨result, s⟩ := out
  cases result with
  | error e => exact h.update h.arena (fun _ => rfl)
  | ok value => exact h

theorem insertResource (hs : s.Valid) (r : OwnedResource O S W L) :
    (Store.insertResource r s).2.Valid := by
  unfold Store.insertResource
  split
  · exact hs
  · rename_i hrunning
    exact hs.update (hs.arena.insert rfl) (fun htorn => absurd htorn hrunning)

/-- A torn-down arena has nothing to release. -/
theorem release (hs : s.Valid) (handle : UInt32) (expected : ResourceKind) :
    (Store.releaseResource handle expected s).2.Valid := by
  unfold Store.releaseResource
  apply recorded
  apply hs.update
  · exact hs.arena.take rfl
  · intro htorn
    rcases take_cases s.arena handle expected with ⟨i, g, r, -, hslot, -⟩ | ⟨e, heq⟩
    · rw [hs.torn htorn] at hslot
      cases hslot
    · simp only [Arena.release, heq]

theorem lastErrorTake (hs : s.Valid) : s.lastErrorTake.2.Valid := by
  unfold Store.lastErrorTake
  apply recorded
  split
  · exact hs.update hs.arena (fun _ => rfl)
  rename_i hrunning
  split
  · exact hs
  split <;> rename_i hinsert <;>
    exact hs.update (hs.arena.insert hinsert) (fun htorn => absurd htorn hrunning)

theorem transfer (hs : s.Valid) (t : Transfer) (tryReserve : Nat → Bool) (handle : UInt32) :
    (t.run tryReserve handle s).2.Valid := by
  have hatomic : Atomic (t.moves tryReserve) s handle (t.run tryReserve handle s) :=
    Transfer.run_atomic hs t
  rcases hatomic with
    ⟨e, hout⟩ | ⟨r, left, payload, target, arena, hget, -, hout, hreplaced⟩ |
      ⟨r, arena, hget, -, hout, herased⟩
  · rw [hout]
    exact hs.update hs.arena (fun _ => rfl)
  · rw [hout]
    exact hs.update hreplaced.valid (fun htorn => by simp [hs.running hget] at htorn)
  · rw [hout]
    exact hs.update herased.valid (fun htorn => by simp [hs.running hget] at htorn)

theorem step : Preserves (@Store.step O S W L) Store.Valid := by
  intro s event s' hstep hs
  cases event with
  | insert r =>
    cases hstep
    exact recorded (hs.insertResource r)
  | write handle r =>
    simp only [Store.step] at hstep
    split at hstep
    · rename_i r₀ hget
      split at hstep
      · cases hstep
        apply hs.update (hs.arena.write (get?_eq_some.mp hget))
        intro htorn
        simp [hs.running hget] at htorn
      · cases hstep
    · cases hstep
  | release handle expected =>
    cases hstep
    exact hs.release handle expected
  | lastErrorTake =>
    cases hstep
    exact hs.lastErrorTake
  | lastErrorClear =>
    cases hstep
    exact hs.update hs.arena (fun _ => rfl)
  | transfer t tryReserve handle =>
    cases hstep
    exact hs.transfer t tryReserve handle
  | teardown =>
    cases hstep
    exact ⟨valid_empty, fun _ => rfl⟩

end Store.Valid

/-- In every store that a bridge can reach, every transfer of every handle either fails with
0 and leaves the arena as it was, or moves the payload to one new handle, or consumes the
end of a stream; none of them traps. -/
theorem transfers_atomic (events : List (StoreEvent O S W L)) (s : Store O S W L)
    (hrun : run Store.step {} events = some s) (t : Transfer) (tryReserve : Nat → Bool)
    (handle : UInt32) :
    Atomic (t.moves tryReserve) s handle (t.run tryReserve handle s) :=
  Transfer.run_atomic (Store.Valid.step.run Store.Valid.empty hrun) t

/-- A read completion becomes a buffer. -/
theorem transfers_atomic_read :
    ∃ s, run (@Store.step Unit Unit Unit Unit) {}
        [.insert (.completion (.read (.ok [1, 2])))] = some s ∧
      Atomic (Transfer.completionTakeBuffer.moves (fun _ => true)) s 65537
        (Transfer.completionTakeBuffer.run (fun _ => true) 65537 s) :=
  ⟨_, rfl, transfers_atomic [.insert (.completion (.read (.ok [1, 2])))] _ rfl
    .completionTakeBuffer (fun _ => true) 65537⟩

end OpendalMbt.Bridge
