import Mathlib.Data.Finset.Basic
import Mathlib.Logic.Function.Basic

/-!
# Read-write locks

A lock that many may share or that one may have alone. `guard` says what each of them has, and
the operations are updates of it; a holder that panics with the lock to itself poisons it.

* `guard_exclusive`: who has the lock alone is the only one who has it;
* `guard_read`, `guard_write`, `guard_releaseRead`, `guard_releaseWrite`: the operations.
-/

namespace OpendalMbt.Transition

inductive Guard where
  | none
  | shared
  | exclusive
  deriving DecidableEq, Repr

structure RwLock (ι : Type) where
  readers : Finset ι
  writer : Option ι
  poisoned : Bool
  exclusive : writer.isSome → readers = ∅

namespace RwLock

variable {ι : Type}

def fresh : RwLock ι where
  readers := ∅
  writer := none
  poisoned := false
  exclusive := fun _ => rfl

def clearPoison (l : RwLock ι) : RwLock ι := { l with poisoned := false }

def releaseWrite (l : RwLock ι) (panicking : Bool) : RwLock ι where
  readers := l.readers
  writer := none
  poisoned := l.poisoned || panicking
  exclusive := fun h => by cases h

variable [DecidableEq ι]

/-- What `i` has of the lock. -/
def guard (l : RwLock ι) (i : ι) : Guard :=
  if l.writer = some i then .exclusive else if i ∈ l.readers then .shared else .none

def read (i : ι) (l : RwLock ι) : Option (RwLock ι) :=
  if h : l.writer = none then
    some {
      readers := insert i l.readers
      writer := none
      poisoned := l.poisoned
      exclusive := fun hsome => by cases hsome }
  else none

def write (i : ι) (l : RwLock ι) : Option (RwLock ι) :=
  if l.writer = none ∧ l.readers = ∅ then
    some {
      readers := ∅
      writer := some i
      poisoned := l.poisoned
      exclusive := fun _ => rfl }
  else none

def releaseRead (i : ι) (l : RwLock ι) : RwLock ι where
  readers := l.readers.erase i
  writer := l.writer
  poisoned := l.poisoned
  exclusive := fun h => by rw [l.exclusive h, Finset.erase_empty]

variable {l l' : RwLock ι} {i j : ι}

theorem guard_of_writer (h : l.writer = some i) : l.guard i = .exclusive := if_pos h

theorem writer_of_guard (h : l.guard i = .exclusive) : l.writer = some i := by
  unfold guard at h
  split_ifs at h with hwriter hreader
  · exact hwriter

/-- Without a writer the guards are those of the readers. -/
theorem guard_of_no_writer (h : l.writer = none) (i : ι) :
    l.guard i = if i ∈ l.readers then .shared else .none := by
  rw [guard, h]
  exact if_neg nofun

/-- Who has the lock alone is the only one who has it. -/
theorem guard_exclusive (h : l.guard i = .exclusive) (hne : j ≠ i) : l.guard j = .none := by
  have hwriter := writer_of_guard h
  have hreaders : l.readers = ∅ := l.exclusive (by rw [hwriter]; rfl)
  have hother : ¬ l.writer = some j := by
    rw [hwriter]
    intro heq
    exact hne (Option.some.inj heq).symm
  rw [guard, if_neg hother, hreaders]
  exact if_neg (Finset.notMem_empty j)

@[simp] theorem guard_fresh (i : ι) : (fresh : RwLock ι).guard i = .none := rfl

@[simp] theorem guard_clearPoison (l : RwLock ι) : l.clearPoison.guard = l.guard := rfl

theorem guard_read (h : l.read i = some l') :
    l'.guard = Function.update l.guard i .shared ∧ l'.poisoned = l.poisoned := by
  unfold read at h
  split_ifs at h with hwriter
  cases h
  refine ⟨?_, rfl⟩
  ext j
  rw [guard_of_no_writer rfl]
  by_cases hj : j = i
  · subst hj
    rw [Function.update_self]
    exact if_pos (Finset.mem_insert_self j l.readers)
  · rw [Function.update_of_ne hj, guard_of_no_writer hwriter]
    exact if_congr (Finset.mem_insert.trans (or_iff_right hj)) rfl rfl

/-- The lock is to be had alone when nobody has it. -/
theorem guard_write (h : l.write i = some l') :
    l'.guard = Function.update l.guard i .exclusive ∧ l'.poisoned = l.poisoned ∧
      ∀ j, l.guard j = .none := by
  unfold write at h
  split_ifs at h with hfree
  cases h
  have hnone : ∀ j, l.guard j = .none := by
    intro j
    rw [guard_of_no_writer hfree.1, hfree.2]
    exact if_neg (Finset.notMem_empty j)
  refine ⟨?_, rfl, hnone⟩
  ext j
  by_cases hj : j = i
  · subst hj
    rw [Function.update_self]
    exact if_pos rfl
  · rw [Function.update_of_ne hj, hnone]
    have hother : ¬ some i = some j := fun heq => hj (Option.some.inj heq).symm
    rw [guard, if_neg hother]
    exact if_neg (Finset.notMem_empty j)

theorem guard_releaseRead (h : l.guard i = .shared) :
    (l.releaseRead i).guard = Function.update l.guard i .none := by
  have hwriter : l.writer = none := by
    cases hsome : l.writer with
    | none => rfl
    | some w =>
      have hreaders := l.exclusive (by rw [hsome]; rfl)
      unfold guard at h
      rw [hreaders] at h
      split_ifs at h with hheld hempty
      exact absurd hempty (Finset.notMem_empty i)
  ext j
  rw [guard_of_no_writer (l := l.releaseRead i) hwriter]
  by_cases hj : j = i
  · subst hj
    rw [Function.update_self]
    exact if_neg (Finset.notMem_erase j l.readers)
  · rw [Function.update_of_ne hj, guard_of_no_writer hwriter]
    exact if_congr (Finset.mem_erase.trans (and_iff_right hj)) rfl rfl

theorem guard_releaseWrite (h : l.guard i = .exclusive) (panicking : Bool) :
    (l.releaseWrite panicking).guard = Function.update l.guard i .none := by
  have hreaders : l.readers = ∅ := l.exclusive (by rw [writer_of_guard h]; rfl)
  ext j
  have hnone : (l.releaseWrite panicking).guard j = .none := by
    rw [guard_of_no_writer rfl]
    change (if j ∈ l.readers then _ else _) = _
    rw [hreaders]
    exact if_neg (Finset.notMem_empty j)
  by_cases hj : j = i
  · subst hj
    rw [Function.update_self, hnone]
  · rw [Function.update_of_ne hj, hnone, guard_exclusive h hj]

end RwLock

end OpendalMbt.Transition
