import OpendalMbt.NativePackage.BlockingOwnership

/-!
# Programs over the blocking functions

A program calls the functions of the package in any order on objects that it still holds, closes
and drops these, and the collector finalizes what is out of reach. However the calls end, no handle
is lost and none is given back twice.

* `Ran.leavesOnly`: what the handles of one call have come to;
* `Client.tidy_step`: what has a handle was handed over or closed;
* `blocking_calls_leak_nothing`: what this says of every program.
-/

namespace OpendalMbt.NativePackage.Blocking

open Codec Native Stub Transition Call

/-! ## One call -/

/-- The objects of what a call returns. -/
def returned : Except OpenDalError Given → Set Nat
  | .ok given => given.objects
  | .error _ => ∅

/-- The objects that were there are as they were, and each handle made since is in one of the given
objects or was given back once. -/
structure LeavesOnly (start : Session) (objects : Set Nat) (s : Session) : Prop where
  frame : ∀ number < start.world.objects.length,
    s.world.objects[number]? = start.world.objects[number]?
  settled : ∀ x ∈ s.world.handles.created, x ∉ start.world.handles.created →
    (x ∉ s.world.handles.gone ∧ ∃ number ∈ objects, s.world.Holds number x) ∨
      s.world.handles.gone.count x = 1

section Call

variable {lib : Library} {start s : Session} {made : Set Nat}

theorem Ran.leavesOnly (h : Ran lib start made s) (hstart : start.world.Sound lib) :
    LeavesOnly start made s where
  frame := h.frame
  settled := by
    intro x hx hnew
    rcases h.sound.balanced.custody hx with ⟨hgone, howned⟩ | ⟨hcount, -⟩
    · obtain ⟨number, object, hobject, hmem⟩ := howned.exists
      refine .inl ⟨hgone, number, ?_, object, hobject, hmem⟩
      by_cases hlt : number < start.world.objects.length
      · -- an object of before has only handles of before
        rw [h.frame number hlt] at hobject
        refine absurd (hstart.balanced.mem_created ?_) hnew
        exact mem_sum_map.mpr ⟨object, List.mem_of_getElem? hobject, hmem⟩
      · apply h.tidy number object (Nat.le_of_not_lt hlt) hobject
        intro hempty
        rw [hempty] at hmem
        cases hmem
    · exact .inr hcount

theorem ran_run (hstart : start.world.Sound lib) (f : BlockingFunction) (answers : Answers) :
    Ran lib start (returned (f.run lib answers start).1) (f.run lib answers start).2 := by
  have hran := f.triple_run answers start (ran_start hstart)
  generalize f.run lib answers start = ran at hran
  obtain ⟨result, t⟩ := ran
  cases result with
  | error error => exact hran
  | ok given => exact hran.mono fun number hnumber => hnumber.resolve_left fun hempty => hempty.elim

theorem leftClosed_list (hstart : start.world.Sound lib) (operator : Nat) (path : String)
    (opening : Answers) (answers : List Answers)
    (hended : (Operator.list lib path operator opening answers start).1 ≠ .ok none) :
    LeftClosed lib start (Operator.list lib path operator opening answers start).2 := by
  have hran := triple_list path operator opening answers start (ran_start hstart)
  generalize Operator.list lib path operator opening answers start = ran at hran hended
  obtain ⟨result, t⟩ := ran
  cases result with
  | error error => exact hran
  | ok entries =>
    apply hran
    cases entries with
    | none => exact absurd rfl hended
    | some entries => rfl

end Call

/-! ## Programs -/

/-- A program with the objects that it was given, and those of them that it still holds. -/
structure Client where
  session : Session
  given : List Nat
  held : List Nat

inductive ClientEvent where
  | call (f : BlockingFunction) (answers : Answers)
  | list (operator : Nat) (path : String) (opening : Answers) (answers : List Answers)
  | operatorClose (operator : Nat)
  | close (number : Nat)
  | drop (number : Nat)
  /-- The collector finalizes an object that is out of reach. -/
  | collect (number : Nat)

namespace Client

def start : Client := ⟨.start, [], []⟩

variable (lib : Library) (c : Client)

/-- The receiver is held, and has the type of the function's receiver. -/
def usable (call : ResultCall) (receiver : Option Nat) : Bool :=
  receiver.all (c.held.contains ·) &&
    (c.session.world.receiver call.function.receiver receiver).isSome

def handed (session : Session) : Except OpenDalError Given → Client
  | .ok (.object number) => ⟨session, c.given ++ [number], c.held ++ [number]⟩
  | _ => { c with session }

def withWorld (world : World) : Client := { c with session := { c.session with world } }

def step : ClientEvent → Option Client
  | .call f answers =>
    let ran := f.run lib answers c.session
    if c.usable f.call f.receiver then some (c.handed ran.2 ran.1) else none
  | .list operator path opening answers =>
    let ran := Operator.list lib path operator opening answers c.session
    if c.usable .operatorLister (some operator) then
      match ran.1 with
      | .ok none => none
      | _ => some { c with session := ran.2 }
    else none
  | .operatorClose operator =>
    if operator ∈ c.held then
      (c.session.world.step lib (.operatorClose operator)).map c.withWorld
    else none
  | .close number =>
    if number ∈ c.held then some { c with session := c.session.close number } else none
  | .drop number => if number ∈ c.held then some { c with held := c.held.erase number } else none
  | .collect number =>
    if number ∈ c.held then none
    else (c.session.world.step lib (.finalize number)).map c.withWorld

/-- What has a handle was handed over, or closed. -/
structure Tidy : Prop where
  sound : c.session.world.Sound lib
  held : ∀ number ∈ c.held, number ∈ c.given
  owned : ∀ number object, c.session.world.objects[number]? = some object → object.contents ≠ 0 →
    number ∈ c.given ∨ number ∈ c.session.closed

variable {lib c} {made : Set Nat} {s : Session}

theorem tidy_start (lib : Library) : Tidy lib start where
  sound := World.sound_start lib
  held := by
    intro number hnumber
    cases hnumber
  owned := by
    intro number object hobject
    cases hobject

/-- What a call leaves is among what it has made, or was there before. -/
theorem Tidy.owned_ran (h : c.Tidy lib) (hran : Ran lib c.session made s) {number : Nat}
    {object : External} (hobject : s.world.objects[number]? = some object)
    (hcontents : object.contents ≠ 0) :
    number ∈ c.given ∨ number ∈ s.closed ∨ number ∈ made := by
  by_cases hlt : number < c.session.world.objects.length
  · rw [hran.frame number hlt] at hobject
    rcases h.owned number object hobject hcontents with hgiven | hclosed
    · exact .inl hgiven
    · exact .inr (.inl (hran.closed number hclosed))
  · exact .inr (.inr (hran.tidy number object (Nat.le_of_not_lt hlt) hobject hcontents))

theorem Tidy.same (h : c.Tidy lib) (hran : Ran lib c.session made s)
    (hmade : ∀ number ∈ made, number ∈ s.closed) : ({ c with session := s } : Client).Tidy lib where
  sound := hran.sound
  held := h.held
  owned := by
    intro number object hobject hcontents
    rcases h.owned_ran hran hobject hcontents with hgiven | hclosed | hnew
    · exact .inl hgiven
    · exact .inr hclosed
    · exact .inr (hmade number hnew)

theorem Tidy.handed (h : c.Tidy lib) {result : Except OpenDalError Given}
    (hran : Ran lib c.session (returned result) s) : (c.handed s result).Tidy lib := by
  have hplain : returned result = ∅ → ({ c with session := s } : Client).Tidy lib := by
    intro hempty
    apply h.same hran
    intro number hnumber
    rw [hempty] at hnumber
    cases hnumber
  cases result with
  | error error => exact hplain rfl
  | ok given =>
    cases given with
    | object number =>
      refine ⟨hran.sound, ?_, ?_⟩
      · intro other hother
        rcases List.mem_append.mp hother with hold | hnew
        · exact List.mem_append_left _ (h.held other hold)
        · exact List.mem_append_right _ hnew
      · intro other object hobject hcontents
        rcases h.owned_ran hran hobject hcontents with hgiven | hclosed | rfl
        · exact .inl (List.mem_append_left _ hgiven)
        · exact .inr hclosed
        · exact .inl (List.mem_append_right _ List.mem_cons_self)
    | unit => exact hplain rfl
    | bool value => exact hplain rfl
    | uint64 value => exact hplain rfl
    | bytes value => exact hplain rfl
    | metadata value => exact hplain rfl
    | entry path name value => exact hplain rfl
    | «end» => exact hplain rfl

/-- An object that was handed over changes, or one that is emptied. -/
theorem Tidy.change (h : c.Tidy lib) {number : Nat} {object : External} {handles : Handles}
    (hsound : (c.session.world.change number object [] handles).Sound lib)
    (hobject : object.contents ≠ 0 → number ∈ c.given) :
    (c.withWorld (c.session.world.change number object [] handles)).Tidy lib where
  sound := hsound
  held := h.held
  owned := by
    intro other object' hchanged hcontents
    have hset : (c.session.world.objects.set number object ++ [])[other]? = some object' := hchanged
    rw [List.append_nil, List.getElem?_set] at hset
    split_ifs at hset with heq hlt
    · cases hset
      exact .inl (heq ▸ hobject hcontents)
    · exact h.owned other object' hset hcontents

theorem tidy_step : Preserves (step lib) (Tidy lib) := by
  intro c event c' hstep h
  cases event with
  | call f answers =>
    simp only [step] at hstep
    split_ifs at hstep
    cases hstep
    exact h.handed (ran_run h.sound f answers)
  | list operator path opening answers =>
    simp only [step] at hstep
    split_ifs at hstep
    have hclosed : (Operator.list lib path operator opening answers c.session).1 ≠ .ok none ∧
        c' = { c with session := (Operator.list lib path operator opening answers c.session).2 } := by
      split at hstep
      · cases hstep
      · next hne =>
        cases hstep
        exact ⟨hne, rfl⟩
    obtain ⟨hended, rfl⟩ := hclosed
    obtain ⟨made, hran, hmade⟩ := leftClosed_list h.sound operator path opening answers hended
    exact h.same hran hmade
  | operatorClose operator =>
    simp only [step] at hstep
    split_ifs at hstep with hheld
    obtain ⟨w, hw, rfl⟩ := Option.map_eq_some_iff.mp hstep
    have hsound := World.sound_step hw h.sound
    rcases World.step_operatorClose hw with rfl | ⟨operator_, info, -, rfl⟩
    · exact h
    · exact h.change hsound fun _ => h.held operator hheld
  | close number =>
    simp only [step] at hstep
    split_ifs at hstep
    cases hstep
    refine ⟨h.sound, h.held, ?_⟩
    intro other object hobject hcontents
    rcases h.owned other object hobject hcontents with hgiven | hclosed
    · exact .inl hgiven
    · exact .inr (List.mem_append_left _ hclosed)
  | drop number =>
    simp only [step] at hstep
    split_ifs at hstep
    cases hstep
    exact ⟨h.sound, fun other hother => h.held other (List.mem_of_mem_erase hother), h.owned⟩
  | collect number =>
    simp only [step] at hstep
    split_ifs at hstep
    obtain ⟨w, hw, rfl⟩ := Option.map_eq_some_iff.mp hstep
    have hsound := World.sound_step hw h.sound
    obtain ⟨object, -, rfl⟩ := World.step_finalize hw
    exact h.change hsound fun hcontents => absurd rfl hcontents

/-- A handle that was not given back is in one object, which was handed over or closed. -/
theorem Tidy.custody (h : c.Tidy lib) {x : NativeHandle}
    (hx : x ∈ c.session.world.handles.created) :
    (x ∉ c.session.world.handles.gone ∧ ∃ number,
        (number ∈ c.given ∨ number ∈ c.session.closed) ∧ c.session.world.Holds number x ∧
        ∀ other, c.session.world.Holds other x → other = number) ∨
      (c.session.world.handles.gone.count x = 1 ∧
        ∀ number, ¬ c.session.world.Holds number x) := by
  rcases h.sound.balanced.custody hx with ⟨hgone, number, hnumber, hunique⟩ | ⟨hcount, hnone⟩
  · obtain ⟨object, hobject, hmem⟩ := hnumber
    refine .inl ⟨hgone, number, ?_, ⟨object, hobject, hmem⟩, hunique⟩
    apply h.owned number object hobject
    intro hempty
    rw [hempty] at hmem
    cases hmem
  · refine .inr ⟨hcount, ?_⟩
    rintro number ⟨object, hobject, hmem⟩
    exact hnone object (List.mem_of_getElem? hobject) hmem

end Client

/-- In every program each handle that the library has made was given back once, or is in exactly one
object, which the package has handed over or closed; with these objects finalized every handle was
given back once. A call of a function, whichever way it ends, leaves only the object that it
returns, and a listing only a lister that it has closed; neither changes another object. -/
theorem blocking_calls_leak_nothing (lib : Library) {events : List ClientEvent} {c : Client}
    (hrun : run (Client.step lib) Client.start events = some c) :
    (∀ x ∈ c.session.world.handles.created,
      (x ∉ c.session.world.handles.gone ∧ ∃ number,
          (number ∈ c.given ∨ number ∈ c.session.closed) ∧ c.session.world.Holds number x ∧
          ∀ other, c.session.world.Holds other x → other = number) ∨
        (c.session.world.handles.gone.count x = 1 ∧
          ∀ number, ¬ c.session.world.Holds number x)) ∧
    ((∀ number, number ∈ c.given ∨ number ∈ c.session.closed →
        c.session.world.objects[number]? = some .collected) →
      ∀ x ∈ c.session.world.handles.created, c.session.world.handles.gone.count x = 1) ∧
    (∀ f answers, LeavesOnly c.session (returned (BlockingFunction.run lib f answers c.session).1)
      (BlockingFunction.run lib f answers c.session).2) ∧
    ∀ operator path opening answers,
      (Operator.list lib path operator opening answers c.session).1 ≠ .ok none →
        ∃ objects, (∀ number ∈ objects,
            number ∈ (Operator.list lib path operator opening answers c.session).2.closed) ∧
          LeavesOnly c.session objects
            (Operator.list lib path operator opening answers c.session).2 := by
  have htidy : c.Tidy lib := Client.tidy_step.run (Client.tidy_start lib) hrun
  refine ⟨fun x hx => htidy.custody hx, ?_, ?_, ?_⟩
  · intro hcollected x hx
    rcases htidy.custody hx with ⟨-, number, hreach, ⟨object, hobject, hmem⟩, -⟩ | ⟨hcount, -⟩
    · rw [hcollected number hreach] at hobject
      cases hobject
      cases hmem
    · exact hcount
  · intro f answers
    exact (ran_run htidy.sound f answers).leavesOnly htidy.sound
  · intro operator path opening answers hended
    obtain ⟨made, hran, hmade⟩ := leftClosed_list htidy.sound operator path opening answers hended
    exact ⟨made, hmade, hran.leavesOnly htidy.sound⟩

/-- The answers of a call that has no arguments to refuse and takes no bytes. -/
def answered (status : Status) (fills : HandleKind → Bool) : Answers where
  reply := { status, fills }
  entries := ⟨(.ok, 0), fun _ _ => ⟨.ok, 0, []⟩⟩
  valid := true
  error := ⟨4, 1, [], []⟩
  entry := ⟨[], [], rfl, rfl⟩
  metadata := .null

/-- An operator is made, its check fails, it lists nothing, and is closed and dropped. -/
def shortProgram : List ClientEvent :=
  [.call Operator.new (answered .ok fun kind => kind != .error),
    .call (Operator.check 1) (answered .error fun kind => kind == .error),
    .list 1 "" (answered .ok fun kind => kind == .lister) [answered .end fun _ => false],
    .operatorClose 1, .drop 1, .collect 1, .collect 4]

theorem blocking_calls_leak_nothing_shortProgram :
    ∃ c, run (Client.step wholeLibrary) Client.start shortProgram = some c ∧
      c.session.world.handles.created =
        [⟨.lister, 2⟩, ⟨.error, 1⟩, ⟨.info, 0⟩, ⟨.operator, 0⟩] ∧
      ∀ x ∈ c.session.world.handles.created, c.session.world.handles.gone.count x = 1 := by
  obtain ⟨c, hrun⟩ : ∃ c, run (Client.step wholeLibrary) Client.start shortProgram = some c :=
    Option.isSome_iff_exists.mp rfl
  have hfacts : (run (Client.step wholeLibrary) Client.start shortProgram).map
      (fun c => (c.given, c.session.closed, c.session.world.objects[1]?,
        c.session.world.objects[4]?, c.session.world.handles.created)) =
      some ([1], [4], some .collected, some .collected,
        [⟨.lister, 2⟩, ⟨.error, 1⟩, ⟨.info, 0⟩, ⟨.operator, 0⟩]) := rfl
  rw [hrun] at hfacts
  simp only [Option.map_some, Option.some.injEq, Prod.mk.injEq] at hfacts
  obtain ⟨hgiven, hclosed, hoperator, hlister, hcreated⟩ := hfacts
  refine ⟨c, hrun, hcreated, (blocking_calls_leak_nothing wholeLibrary hrun).2.1 ?_⟩
  intro number hnumber
  rw [hgiven, hclosed, List.mem_singleton, List.mem_singleton] at hnumber
  rcases hnumber with rfl | rfl
  · exact hoperator
  · exact hlister

end OpendalMbt.NativePackage.Blocking
