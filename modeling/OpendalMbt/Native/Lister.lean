import OpendalMbt.Native.ResourceEntries

/-!
# The lister

`ListerV1` of `native/rust/src/lib.rs` over all calls of `lister_next` and `lister_close`. The
whole of a next runs under the lock, so that the calls on one lister are a sequence. What the
lister of OpenDAL answers, time after time, is a parameter.

* `Kept`: the inner lister was dropped once unless it is stored;
* `run_listerNext`: the entry answers as the model does;
* `lister_states`: what every call answers, and what was dropped.
-/

namespace OpendalMbt.Native

open Entry Transition

/-- What `next` of the lister of OpenDAL answers, time after time; none is the end. -/
abbrev ListerAnswers : Type := Nat → StepResult (Option EntryV1)

/-- A lister, whose inner lister is the number of answers it has given, and how many inner listers
were dropped. -/
structure ListerV1 where
  state : ListerStateV1 Nat
  drops : Nat := 0
  deriving DecidableEq, Repr

namespace ListerV1

/-- What `operator_lister` returns. -/
def fresh : ListerV1 where
  state := .open 0

/-- The state is `Exhausted` while the step runs, and stays so unless the step says more. -/
def next (answers : ListerAnswers) (lister : ListerV1) : Reply EntryV1 × ListerV1 :=
  match lister.state with
  | .exhausted => ({ status := .end }, { lister with state := .exhausted })
  | .closed => (.failure listerClosed, { lister with state := .closed })
  | .open inner =>
    let dropped : ListerV1 := { state := .exhausted, drops := lister.drops + 1 }
    match listerStep answers inner with
    | .ok (some entry) =>
      ({ status := .ok, value := some entry }, { lister with state := .open (inner + 1) })
    | .ok none => ({ status := .end }, dropped)
    | .error failure => (.failure failure, dropped)
    | .panic => ({ status := .panic }, dropped)

/-- `close_lister_state`, of `lister_close` and of `lister_free`. -/
def close (lister : ListerV1) : ListerV1 :=
  match lister.state with
  | .open _ => { state := .closed, drops := lister.drops + 1 }
  | .exhausted | .closed => { lister with state := .closed }

end ListerV1

inductive ListerCall where
  | next
  | close
  deriving DecidableEq, Repr

def ListerV1.call (answers : ListerAnswers) (lister : ListerV1) :
    ListerCall → Option (Reply EntryV1) × ListerV1
  | .next => (some (lister.next answers).1, (lister.next answers).2)
  | .close => (none, lister.close)

/-- The replies of a sequence of calls, and the lister after them. -/
def ListerV1.run (answers : ListerAnswers) :
    List ListerCall → ListerV1 → List (Reply EntryV1) × ListerV1
  | [], lister => ([], lister)
  | call :: calls, lister =>
    let (reply, after) := lister.call answers call
    let (replies, last) := run answers calls after
    (reply.toList ++ replies, last)

/-- An answer that is an entry the binding can return. -/
def IsEntry (answer : StepResult (Option EntryV1)) (entry : EntryV1) : Prop :=
  answer = .ok (some entry) ∧ checkedEntry entry = .ok entry

/-- What an open lister makes of the answer it gets. -/
def replyOf (answer : StepResult (Option EntryV1)) : Reply EntryV1 :=
  match answer with
  | .ok (some entry) =>
    match checkedEntry entry with
    | .ok entry => { status := .ok, value := some entry }
    | .error failure => .failure failure
  | .ok none => { status := .end }
  | .error failure => .failure failure
  | .panic => { status := .panic }

section Next

variable {answers : ListerAnswers} {lister : ListerV1} {inner : Nat} {entry : EntryV1}

theorem checkedMetadata_eq_ok {metadata checked : Metadata}
    (h : checkedMetadata metadata = .ok checked) : checked = metadata := by
  unfold checkedMetadata at h
  obtain ⟨_, -, h⟩ := CallResult.bind_eq_ok.mp h
  obtain ⟨_, -, h⟩ := CallResult.bind_eq_ok.mp h
  obtain ⟨_, -, h⟩ := CallResult.bind_eq_ok.mp h
  obtain ⟨_, -, h⟩ := CallResult.bind_eq_ok.mp h
  obtain ⟨_, -, h⟩ := CallResult.bind_eq_ok.mp h
  obtain ⟨_, -, h⟩ := CallResult.bind_eq_ok.mp h
  obtain ⟨_, -, h⟩ := CallResult.bind_eq_ok.mp h
  cases h
  rfl

theorem checkedEntry_eq_ok {checked : EntryV1} (h : checkedEntry entry = .ok checked) :
    checked = entry := by
  unfold checkedEntry at h
  split_ifs at h
  obtain ⟨metadata, hmetadata, hchecked⟩ := CallResult.bind_eq_ok.mp h
  cases hchecked
  rw [checkedMetadata_eq_ok hmetadata]

theorem listerStep_of_entry (h : IsEntry (answers inner) entry) :
    listerStep answers inner = .ok (some entry) := by
  unfold listerStep checkedStep
  rw [h.1]
  simp only [StepResult.bind, h.2, StepResult.map]

theorem next_of_entry (hstate : lister.state = .open inner) (h : IsEntry (answers inner) entry) :
    lister.next answers =
      ({ status := .ok, value := some entry }, { lister with state := .open (inner + 1) }) := by
  unfold ListerV1.next
  rw [hstate]
  simp only [listerStep_of_entry h]

/-- Whatever else an open lister gets is reported, and the inner lister dropped. -/
theorem next_of_not_entry (hstate : lister.state = .open inner)
    (h : ∀ entry, ¬ IsEntry (answers inner) entry) :
    lister.next answers =
      (replyOf (answers inner), { state := .exhausted, drops := lister.drops + 1 }) := by
  unfold ListerV1.next replyOf listerStep checkedStep
  rw [hstate]
  dsimp only
  cases hanswer : answers inner with
  | error failure => rfl
  | panic => rfl
  | ok answer =>
    cases answer with
    | none => rfl
    | some entry =>
      cases hchecked : checkedEntry entry with
      | error failure => simp only [StepResult.bind, StepResult.map, hchecked]
      | ok checked =>
        cases checkedEntry_eq_ok hchecked
        exact absurd ⟨hanswer, hchecked⟩ (h entry)

end Next

section Run

variable {answers : ListerAnswers} {lister : ListerV1} {inner : Nat}

theorem run_append (calls others : List ListerCall) :
    lister.run answers (calls ++ others) =
      ((lister.run answers calls).1 ++ ((lister.run answers calls).2.run answers others).1,
        ((lister.run answers calls).2.run answers others).2) := by
  induction calls generalizing lister with
  | nil => rfl
  | cons call calls ih =>
    simp only [List.cons_append, ListerV1.run, ih, List.append_assoc]

theorem run_next (calls : List ListerCall) :
    lister.run answers (.next :: calls) =
      ((lister.next answers).1 :: ((lister.next answers).2.run answers calls).1,
        ((lister.next answers).2.run answers calls).2) := rfl

theorem run_close (calls : List ListerCall) :
    lister.run answers (.close :: calls) = lister.close.run answers calls := rfl

/-- Entries are returned one by one. -/
theorem run_entries {entries : Nat → EntryV1} (hstate : lister.state = .open inner) (n : Nat)
    (h : ∀ j, inner ≤ j → j < inner + n → IsEntry (answers j) (entries j)) :
    lister.run answers (List.replicate n .next) =
      ((List.range' inner n).map fun j => { status := .ok, value := some (entries j) },
        { lister with state := .open (inner + n) }) := by
  induction n generalizing lister inner with
  | zero =>
    cases lister
    cases hstate
    rfl
  | succ n ih =>
    have hfirst := next_of_entry hstate (h inner le_rfl (by omega))
    have hrest := @ih { lister with state := .open (inner + 1) } (inner + 1) rfl
      fun j hle hlt => h j (by omega) (by omega)
    rw [List.replicate_succ, run_next, hfirst, hrest, List.range'_succ, List.map_cons,
      Nat.add_right_comm, Nat.add_assoc inner n 1]

theorem run_exhausted (hstate : lister.state = .exhausted) (n : Nat) :
    lister.run answers (List.replicate n .next) =
      (List.replicate n { status := .end }, lister) := by
  have hnext : lister.next answers = ({ status := .end }, lister) := by
    cases lister
    cases hstate
    rfl
  induction n with
  | zero => rfl
  | succ n ih => rw [List.replicate_succ, run_next, hnext, ih, List.replicate_succ]

theorem run_closed (hstate : lister.state = .closed) (calls : List ListerCall) :
    lister.run answers calls =
      (List.replicate (calls.count .next) (.failure listerClosed), lister) := by
  have hnext : lister.next answers = (.failure listerClosed, lister) := by
    cases lister
    cases hstate
    rfl
  have hclose : lister.close = lister := by
    cases lister
    cases hstate
    rfl
  induction calls with
  | nil => rfl
  | cons call calls ih =>
    cases call with
    | next => rw [run_next, hnext, ih, List.count_cons_self, List.replicate_succ]
    | close =>
      rw [run_close, hclose, ih, List.count_cons_of_ne (by decide)]

@[simp] theorem close_state : lister.close.state = .closed := by
  unfold ListerV1.close
  split
  · rfl
  · rfl
  · rfl

theorem close_close : lister.close.close = lister.close := by
  obtain ⟨state, drops⟩ := lister
  cases state with
  | «open» inner => rfl
  | exhausted => rfl
  | closed => rfl

/-- The inner lister was dropped once unless it is stored. -/
def Kept (lister : ListerV1) : Prop :=
  match lister.state with
  | .open _ => lister.drops = 0
  | .exhausted | .closed => lister.drops = 1

theorem Kept.close (h : Kept lister) : lister.close.drops = 1 := by
  obtain ⟨state, drops⟩ := lister
  cases state with
  | «open» inner =>
    have hdrops : drops = 0 := h
    rw [hdrops]
    rfl
  | exhausted => exact h
  | closed => exact h

theorem Kept.next (h : Kept lister) : Kept (lister.next answers).2 := by
  obtain ⟨state, drops⟩ := lister
  cases state with
  | «open» inner =>
    have hdrops : drops = 0 := h
    by_cases hentry : ∃ entry, IsEntry (answers inner) entry
    · obtain ⟨entry, hentry⟩ := hentry
      rw [next_of_entry rfl hentry]
      exact hdrops
    · rw [next_of_not_entry rfl fun entry h => hentry ⟨entry, h⟩, hdrops]
      rfl
  | exhausted => exact h
  | closed => exact h

theorem Kept.run (h : Kept lister) (calls : List ListerCall) :
    Kept (lister.run answers calls).2 := by
  induction calls generalizing lister with
  | nil => exact h
  | cons call calls ih =>
    cases call with
    | next => exact ih h.next
    | close =>
      apply ih
      have hdrops := h.close
      unfold Kept
      rw [close_state]
      exact hdrops

end Run

/-! ## The entry -/

section Entry

variable {V : Type} {given f : Frame Misplaced (fun _ : Unit => V) ErrorV1}

/-- Status, output and error are those of the reply. -/
structure Answered (given : Frame Misplaced (fun _ : Unit => V) ErrorV1) (reply : Reply V)
    (out : Status × Frame Misplaced (fun _ : Unit => V) ErrorV1) : Prop where
  status : out.1 = reply.status
  value : held (out.2.slots ()) = reply.value
  error : given.error.Formed → held out.2.error = reply.error

theorem answered_pure (hswept : Frame.Swept given f) (hvalid : given.Valid) (status : Status) :
    Answered given { status } (catchStatus (pure status) f) where
  status := rfl
  value := congrArg held (hswept.slots_eq hvalid ())
  error := fun _ => held_of_empty hswept.emptyError

theorem answered_publish (hswept : Frame.Swept given f) (hvalid : given.Valid) (value : V) :
    Answered given { status := .ok, value := some value }
      (catchStatus (publish [()] (fun _ => value) .ok) f) := by
  obtain ⟨hwritten, -, herror, -⟩ := Frame.writeAll_eq (E := ErrorV1) (fun _ : Unit => value)
    (show [()].Nodup by decide) (f := f) fun i _ => hswept.slots_eq hvalid i
  exact {
    status := rfl
    value := congrArg held (hwritten () List.mem_cons_self)
    error := fun _ => (congrArg held herror).trans (held_of_empty hswept.emptyError) }

theorem answered_finishFailure (hswept : Frame.Swept given f) (hvalid : given.Valid)
    (failure : CallFailure) :
    Answered given (.failure failure) (catchStatus (Entry.finishFailure failure) f) := by
  cases failure with
  | abiMismatch => exact answered_pure hswept hvalid .abiMismatch
  | error error =>
    have hfailed := Frame.failed_writeError hswept hvalid error
    refine ⟨rfl, congrArg held (hfailed.empty ()), ?_⟩
    intro hformed
    have hempty : f.error = .storage .empty := by
      apply hswept.emptyError
      rw [Slot.Formed, hswept.keptError]
      exact hformed
    show held (f.writeError error).error = some error
    rw [Frame.writeError, hempty]
    rfl

/-- With valid outputs the entry answers as the lister does. -/
theorem run_listerNext {answers : ListerAnswers} {outEntry : Slot Misplaced EntryV1}
    {outError : Slot Misplaced ErrorV1} (hentry : outEntry.Formed)
    (herror : outError.fault ≠ some .misaligned) (lister : ListerV1) (destructor : Destructor) :
    Answered { slots := fun _ => outEntry, error := outError, history := [] }
      (lister.next answers).1
      (listerNext (.valid ⟨lister.state, false⟩) answers destructor outEntry outError).run := by
  have hvalid : Frame.Valid (ι := Unit) (V := fun _ => EntryV1)
      { slots := fun _ => outEntry, error := outError, history := [] } := ⟨fun _ => hentry, herror⟩
  rcases Invocation.run_cases (listerNext (.valid ⟨lister.state, false⟩) answers destructor outEntry
    outError) with ⟨f, hswept, -, hrun⟩ | ⟨f, -, hinvalid, -⟩
  · rw [hrun]
    have hinspected : Frame.Swept _ f.inspect := hswept.inspect
    obtain ⟨state, drops⟩ := lister
    cases state with
    | exhausted => exact answered_pure hinspected hvalid .end
    | closed => exact answered_finishFailure hinspected hvalid listerClosed
    | «open» inner =>
      show Answered _ (ListerV1.next answers ⟨.open inner, drops⟩).1
        (catchStatus (match listerStep answers inner with
          | .ok (some entry) => publish [()] (fun _ => entry) .ok
          | .ok none => do
            dropContained destructor
            pure .end
          | .error failure => failInner destructor failure
          | .panic => panicInner destructor) f.inspect)
      unfold ListerV1.next
      dsimp only
      cases listerStep answers inner with
      | ok answer =>
        cases answer with
        | some entry => exact answered_publish hinspected hvalid entry
        | none =>
          cases destructor with
          | quiet => exact answered_pure hinspected hvalid .end
          | panics => exact answered_pure hinspected hvalid .end
      | error failure =>
        cases destructor with
        | quiet => exact answered_finishFailure hinspected hvalid failure
        | panics => exact answered_finishFailure hinspected hvalid failure
      | panic =>
        cases destructor with
        | quiet => exact answered_pure hinspected hvalid .panic
        | panics => exact answered_pure hinspected hvalid .panic
  · exact absurd hvalid hinvalid

end Entry

/-! ## All sequences of calls -/

theorem calls_cases (calls : List ListerCall) :
    ∃ n, calls = List.replicate n .next ∨
      ∃ others, calls = List.replicate n .next ++ .close :: others := by
  induction calls with
  | nil => exact ⟨0, .inl rfl⟩
  | cons call calls ih =>
    cases call with
    | close => exact ⟨0, .inr ⟨calls, rfl⟩⟩
    | next =>
      obtain ⟨n, hcalls | ⟨others, hcalls⟩⟩ := ih
      · exact ⟨n + 1, .inl (by rw [hcalls, List.replicate_succ])⟩
      · exact ⟨n + 1, .inr ⟨others, by rw [hcalls, List.replicate_succ, List.cons_append]⟩⟩

/-- The first answer that is not an entry, if there is one. -/
theorem answers_cases (answers : ListerAnswers) (n : Nat) :
    (∀ j < n, ∃ entry, IsEntry (answers j) entry) ∨
      ∃ p < n, (∀ j < p, ∃ entry, IsEntry (answers j) entry) ∧
        ∀ entry, ¬ IsEntry (answers p) entry := by
  induction n with
  | zero => exact .inl nofun
  | succ n ih =>
    rcases ih with hall | ⟨p, hp, hentries, hnot⟩
    · by_cases hentry : ∃ entry, IsEntry (answers n) entry
      · left
        intro j hj
        rcases Nat.lt_succ_iff_lt_or_eq.mp hj with hlt | rfl
        · exact hall j hlt
        · exact hentry
      · exact .inr ⟨n, Nat.lt_succ_self n, hall, fun entry h => hentry ⟨entry, h⟩⟩
    · exact .inr ⟨p, by omega, hentries, hnot⟩

/-- What a lister answers, from its first call on, and how often its inner lister is dropped. -/
theorem lister_states (answers : ListerAnswers) :
    -- as long as there are entries
    (∀ n (entries : Nat → EntryV1), (∀ j < n, IsEntry (answers j) (entries j)) →
      ListerV1.fresh.run answers (List.replicate n .next) =
        ((List.range n).map fun j => { status := .ok, value := some (entries j) },
          { state := .open n, drops := 0 })) ∧
    -- the end, an error, an entry that cannot be returned, or a panic, and everything after it
    (∀ p (entries : Nat → EntryV1), (∀ j < p, IsEntry (answers j) (entries j)) →
      (∀ entry, ¬ IsEntry (answers p) entry) → ∀ m,
      ListerV1.fresh.run answers (List.replicate (p + 1 + m) .next) =
        (((List.range p).map fun j => { status := .ok, value := some (entries j) }) ++
            replyOf (answers p) :: List.replicate m { status := .end },
          { state := .exhausted, drops := 1 })) ∧
    -- a close, and everything after it
    (∀ calls others, ListerV1.fresh.run answers (calls ++ .close :: others) =
      ((ListerV1.fresh.run answers calls).1 ++
          List.replicate (others.count .next) (.failure listerClosed),
        { state := .closed, drops := 1 })) ∧
    (∀ lister : ListerV1, lister.close.close = lister.close) ∧
    -- these are all sequences of calls and of answers
    (∀ calls : List ListerCall, ∃ n, calls = List.replicate n .next ∨
      ∃ others, calls = List.replicate n .next ++ .close :: others) ∧
    (∀ n, (∀ j < n, ∃ entry, IsEntry (answers j) entry) ∨
      ∃ p < n, (∀ j < p, ∃ entry, IsEntry (answers j) entry) ∧
        ∀ entry, ¬ IsEntry (answers p) entry) ∧
    -- the entry answers so
    (∀ (outEntry : Slot Misplaced EntryV1) (outError : Slot Misplaced ErrorV1), outEntry.Formed →
      outError.fault ≠ some .misaligned → ∀ (lister : ListerV1) (destructor : Destructor),
      Answered { slots := fun _ => outEntry, error := outError, history := [] }
        (lister.next answers).1
        (listerNext (.valid ⟨lister.state, false⟩) answers destructor outEntry outError).run) := by
  have hentries : ∀ n (entries : Nat → EntryV1), (∀ j < n, IsEntry (answers j) (entries j)) →
      ListerV1.fresh.run answers (List.replicate n .next) =
        ((List.range n).map fun j => { status := .ok, value := some (entries j) },
          { state := .open n, drops := 0 }) := by
    intro n entries h
    have hrun := @run_entries answers .fresh 0 entries rfl n fun j _ hj => h j (by omega)
    rw [hrun, List.range_eq_range', Nat.zero_add]
    rfl
  refine ⟨hentries, ?_, ?_, fun lister => close_close, calls_cases, answers_cases answers,
    fun _ _ hentry herror lister destructor => run_listerNext hentry herror lister destructor⟩
  · intro p entries h hnot m
    rw [Nat.add_assoc, List.replicate_add, run_append, hentries p entries h, Nat.add_comm 1 m,
      List.replicate_succ, run_next, next_of_not_entry rfl hnot, run_exhausted rfl]
  · intro calls others
    have hkept : Kept (ListerV1.fresh.run answers calls).2 :=
      Kept.run (show Kept ListerV1.fresh from rfl) calls
    have hlast : (ListerV1.fresh.run answers calls).2.close =
        { state := .closed, drops := 1 } := by
      have hstate := @close_state (ListerV1.fresh.run answers calls).2
      have hdrops := hkept.close
      cases hclose : (ListerV1.fresh.run answers calls).2.close with
      | mk state drops =>
        rw [hclose] at hstate hdrops
        cases hstate
        cases hdrops
        rfl
    have hclosed := @run_closed answers { state := .closed, drops := 1 } rfl others
    rw [run_append, run_close, hlast, hclosed]

end OpendalMbt.Native
