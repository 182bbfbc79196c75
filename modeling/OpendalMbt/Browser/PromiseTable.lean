import OpendalMbt.Browser.PromiseChanges
import OpendalMbt.Transition.Table

/-!
# Promises and the table of handles

What holds between the Promises that wait, the futures that run for them and the handles that are
in use, whatever the order of the events.

* `Keeps`: what an event does to the handles of others;
* `Backed`: a future, with the handles it was given;
* `Sound`: the invariant.
-/

namespace OpendalMbt.Browser

open Codec Bridge Transition Function FacadeCall

variable {O S W L : Type} {a b : Arena (OwnedResource O S W L)} {task k : UInt32}
variable {expected : ResourceKind}

/-! ## The handles of others -/

/-- `b` comes after `a`, and what cannot be lent lives on unchanged, the task of the event
apart. -/
structure Keeps (a b : Arena (OwnedResource O S W L)) (task : UInt32) : Prop where
  later : a.Later b
  others : ∀ k r, k ≠ task → a.get? k = some r → ¬ Lendable (kind r) → b.get? k = some r

/-- `k` was issued for a resource of the kind `expected`, and names no other. -/
structure Reserved (a : Arena (OwnedResource O S W L)) (k : UInt32) (expected : ResourceKind) :
    Prop where
  issued : a.Issued k
  kind : ∀ r, a.get? k = some r → Kinded.kind r = expected

theorem Reserved.later (h : Reserved a k expected) (ha : a.Valid) (hlater : a.Later b) :
    Reserved b k expected := by
  obtain ⟨hissued, hkept⟩ := (hlater ha).2 k h.issued
  refine ⟨hissued, ?_⟩
  intro r' hr'
  obtain ⟨r, hr, hkind⟩ := hkept r' hr'
  rw [hkind, h.kind r hr]

theorem Keeps.get?_task (h : Keeps a b task) (hk : k ≠ task) {t : Bridge.Task (Completion S W L)}
    (hget : a.get? k = some (.task t)) : b.get? k = some (.task t) :=
  h.others k _ hk hget fun hlendable => hlendable.ne_task t rfl

theorem Keeps.of_same (hlater : a.Later b) (hsame : ∀ k, b.get? k = a.get? k) : Keeps a b task where
  later := hlater
  others := by
    intro k r _ hr _
    rw [hsame, hr]

/-- What a lease holds is reserved. -/
theorem Changed.keeps {lease : Option ResourceLease} {left : Option (OwnedResource O S W L)}
    {s t : Store O S W L} (h : Changed s.arena.get? task lease left t) (hlater : Older s t)
    (hlease : ∀ held ∈ lease, Lendable held.kind ∧ ∀ r, s.arena.get? held.handle = some r →
      kind r = held.kind) : Keeps s.arena t.arena task where
  later := hlater
  others := by
    intro k r hk hr hnot
    apply h.kept _ hk hr hnot
    intro held hheld
    obtain ⟨hlendable, hkind⟩ := hlease held hheld
    refine ⟨hlendable, ?_⟩
    cases hnamed : s.arena.get? held.handle with
    | none => exact Or.inl rfl
    | some r => exact Or.inr (congrArg some (hkind r hnamed))

/-- The kinds of the handles after a change. -/
theorem Changed.kind_update {names : Naming O S W L} {lease : Option ResourceLease}
    {left : Option (OwnedResource O S W L)} {t : Store O S W L} (h : Changed names task lease left t)
    (k : UInt32) : (t.arena.get? k).map kind =
      update (fun k => (names k).map kind) task (left.map kind) k := by
  by_cases hk : k = task
  · rw [hk, update_self, h.there]
  · rw [update_of_ne hk, h.kinds k hk]

/-! ## Futures -/

/-- The handles that a future was given: its task, and what it was lent. -/
structure Backed (a : Arena (OwnedResource O S W L)) (f : Spawned O S W L) : Prop where
  task : Reserved a f.task .task
  lent : f.future.lentKind = f.lease.map ResourceLease.kind
  held : ∀ held ∈ f.lease, Lendable held.kind ∧ Reserved a held.handle held.kind

theorem Backed.later {f : Spawned O S W L} (h : Backed a f) (ha : a.Valid) (hlater : a.Later b) :
    Backed b f where
  task := h.task.later ha hlater
  lent := h.lent
  held := fun held hheld => ⟨(h.held held hheld).1, (h.held held hheld).2.later ha hlater⟩

theorem Launched.backed {spawned : List (Spawned O S W L)} {f : Spawned O S W L}
    {names : Naming O S W L} {s : BridgeState O S W L} (h : Launched names spawned f s) :
    Backed s.arena f where
  task := by
    refine ⟨h.valid.arena.issued_of_get? h.pending, ?_⟩
    intro r hr
    rw [h.pending] at hr
    cases hr
    rfl
  lent := h.lent
  held := by
    intro held hheld
    obtain ⟨hlendable, hkind⟩ := h.held held hheld
    have hne : held.handle ≠ f.task := by
      intro heq
      rw [heq, h.fresh] at hkind
      cases hkind
    have hstill := h.kinds held.handle hne
    rw [hkind] at hstill
    obtain ⟨r, hr, hrkind⟩ := Option.map_eq_some_iff.mp hstill
    refine ⟨hlendable, h.valid.arena.issued_of_get? hr, ?_⟩
    intro r' hr'
    rw [hr] at hr'
    cases hr'
    exact hrkind

/-! ## The invariant -/

/-- The outcome of a Promise is what its own future made of what OpenDAL answered to it. -/
structure Traced (promise : Pending O) (outcome : Outcome Value) (a : Answered O S W L) :
    Prop where
  task : a.spawned.task = promise.task
  wanted : promise.wanted.Matches a.spawned.future
  ran : a.spawned.future.run a.tryReserve a.answer = some (a.update, a.completion)
  delivers : Delivers a.tryReserve promise.context a.completion outcome

namespace PromiseWorld

variable (w : PromiseWorld O S W L)

abbrev names : Naming O S W L := w.bridge.arena.get?

def futures : List (Spawned O S W L) := w.bridge.spawned ++ w.answered.map Answered.spawned

def promises : List (Pending O) := w.waiting ++ w.settled.map Prod.fst

/-- The handles that somebody holds, and their kinds. -/
def holds : List (UInt32 × ResourceKind) :=
  (w.operators.map fun held => (held.1, ResourceKind.operator)) ++
    (w.resources.map fun held => (held.code, held.kind)) ++
    w.waiting.map fun promise => (promise.task, ResourceKind.task)

structure Sound : Prop where
  valid : w.bridge.toStore.Valid
  /-- Nothing is in use that nobody holds. -/
  table : Tells (fun k => (w.names k).map kind) w.holds
  operators : ∀ held ∈ w.operators, w.names held.1 = some (.operator held.2)
  resources : ∀ held ∈ w.resources, Lendable held.kind
  backed : ∀ f ∈ w.futures, Backed w.bridge.arena f
  /-- Each Promise has a future, and each future a Promise. -/
  tasks : (w.futures.map Spawned.task).Perm (w.promises.map Pending.task)
  distinct : (w.promises.map Pending.task).Nodup
  served : ∀ promise ∈ w.promises, ∀ f ∈ w.futures, f.task = promise.task →
    promise.wanted.Matches f.future
  pending : ∀ promise ∈ w.waiting, ∀ f ∈ w.bridge.spawned, f.task = promise.task →
    w.names promise.task = some (.task (.pending f.lease))
  ready : ∀ promise ∈ w.waiting, ∀ a ∈ w.answered, a.spawned.task = promise.task →
    w.names promise.task = some (.task (.ready a.completion a.spawned.lease))
  ran : ∀ a ∈ w.answered,
    a.spawned.future.run a.tryReserve a.answer = some (a.update, a.completion)
  traced : ∀ promise outcome, (promise, Ending.outcome outcome) ∈ w.settled →
    ∃ a ∈ w.answered, Traced promise outcome a

end PromiseWorld

end OpendalMbt.Browser
