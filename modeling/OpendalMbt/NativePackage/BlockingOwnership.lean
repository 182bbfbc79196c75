import OpendalMbt.NativePackage.Blocking
import OpendalMbt.Stub.ResultOwnership
import OpendalMbt.Transition.Loop

/-!
# What a blocking function leaves behind

Whichever way a function of the package ends, the handles that its call has made are given back,
or are in the object that it returns, and no object that was there before has changed.

* `Ran.take`, `Ran.release`, `Ran.entryTakeMetadata`: the functions of the stub;
* `triple_run`: the functions of the package;
* `triple_list`: the listing, which leaves the lister that it has closed.
-/

namespace OpendalMbt.NativePackage.Blocking

open Codec Native Stub Transition Call

variable {lib : Library} {start s : Session} {made made' : Set Nat} {number : Nat}

/-- From a session on, the objects that were there are as they were, and of the new ones all but
those in a set are empty. -/
structure Ran (lib : Library) (start : Session) (made : Set Nat) (s : Session) : Prop where
  sound : s.world.Sound lib
  grown : start.world.objects.length ≤ s.world.objects.length
  frame : ∀ number < start.world.objects.length,
    s.world.objects[number]? = start.world.objects[number]?
  tidy : ∀ number object, start.world.objects.length ≤ number →
    s.world.objects[number]? = some object → object.contents ≠ 0 → number ∈ made
  closed : ∀ number ∈ start.closed, number ∈ s.closed

/-- A new object that the function works with. -/
structure Using (lib : Library) (start : Session) (made : Set Nat) (number : Nat)
    (shape : External → Prop) (s : Session) : Prop extends Ran lib start (insert number made) s where
  new : start.world.objects.length ≤ number
  shaped : ∀ object, s.world.objects[number]? = some object → shape object

def IsResult (object : External) : Prop := ∃ r, object = .result r

def IsEntry (object : External) : Prop := ∃ handle, object = .wrapper .entry handle

def Releasable (object : External) : Prop := object.hasRelease = true

theorem IsResult.releasable {object : External} (h : IsResult object) : Releasable object := by
  obtain ⟨r, rfl⟩ := h
  rfl

theorem IsEntry.releasable {object : External} (h : IsEntry object) : Releasable object := by
  obtain ⟨handle, rfl⟩ := h
  rfl

/-! ## Steps of the stub -/

theorem ran_start (h : start.world.Sound lib) : Ran lib start ∅ start where
  sound := h
  grown := Nat.le_refl _
  frame := fun number hnumber => rfl
  tidy := by
    intro number object hnumber hobject
    rw [List.getElem?_eq_none hnumber] at hobject
    cases hobject
  closed := fun number hnumber => hnumber

theorem Ran.mono (h : Ran lib start made s) (hmade : ∀ number ∈ made, number ∈ made') :
    Ran lib start made' s :=
  { h with
    tidy := fun number object hnumber hobject hcontents =>
      hmade number (h.tidy number object hnumber hobject hcontents) }

theorem Ran.close (h : Ran lib start made s) (number : Nat) : Ran lib start made (s.close number) :=
  { h with closed := fun other hother => List.mem_append_left _ (h.closed other hother) }

theorem Using.mono {shape shape' : External → Prop} (h : Using lib start made number shape s)
    (hmade : ∀ other ∈ made, other ∈ made') (hshape : ∀ object, shape object → shape' object) :
    Using lib start made' number shape' s where
  toRan := by
    apply h.toRan.mono
    rintro other (hother | hother)
    · exact .inl hother
    · exact .inr (hmade other hother)
  new := h.new
  shaped := fun object hobject => hshape object (h.shaped object hobject)

/-- The object is not there, so that it is of no use. -/
theorem Using.gone {shape : External → Prop} (h : Using lib start made number shape s)
    (hgone : s.world.objects[number]? = none) : Ran lib start made s where
  sound := h.sound
  grown := h.grown
  frame := h.frame
  tidy := by
    intro other object hother hobject hcontents
    rcases h.tidy other object hother hobject hcontents with rfl | hmem
    · rw [hgone] at hobject
      cases hobject
    · exact hmem
  closed := h.closed

theorem act_of_some {action : Action} {w : World} (h : s.world.step lib action = some w) :
    act lib action s = { s with world := w } := by
  unfold act
  rw [h]
  rfl

theorem act_of_none {action : Action} (h : s.world.step lib action = none) :
    act lib action s = s := by
  unfold act
  rw [h]
  rfl

/-- A call makes a result. -/
theorem Ran.call (h : Ran lib start made s) (call : ResultCall) (receiver : Option Nat)
    (arguments : Arguments) (reply : Reply) :
    Using lib start made s.world.objects.length IsResult
      (act lib (.call call receiver arguments reply) s) := by
  have hlast : s.world.objects[s.world.objects.length]? = none :=
    List.getElem?_eq_none (Nat.le_refl _)
  cases hstep : s.world.step lib (.call call receiver arguments reply) with
  | none =>
    rw [act_of_none hstep]
    refine { h.mono fun number hnumber => .inr hnumber with new := h.grown, shaped := ?_ }
    intro object hobject
    rw [hlast] at hobject
    cases hobject
  | some w =>
    have hsound : w.Sound lib := World.sound_step hstep h.sound
    obtain ⟨handle, -, hw⟩ := Option.map_eq_some_iff.mp hstep
    rw [act_of_some hstep]
    have hobjects : ∃ r, w.objects = s.world.objects ++ [.result r] := by
      rw [← hw]
      exact ⟨_, rfl⟩
    obtain ⟨r, hobjects⟩ := hobjects
    refine ⟨⟨hsound, ?_, ?_, ?_, h.closed⟩, h.grown, ?_⟩
    · show start.world.objects.length ≤ w.objects.length
      rw [hobjects, List.length_append]
      exact Nat.le_add_right_of_le h.grown
    · intro number hnumber
      show w.objects[number]? = _
      rw [hobjects, List.getElem?_append_left (Nat.lt_of_lt_of_le hnumber h.grown)]
      exact h.frame number hnumber
    · intro number object hnumber hobject hcontents
      have hobject' : w.objects[number]? = some object := hobject
      rw [hobjects, List.getElem?_append] at hobject'
      split_ifs at hobject' with hlt
      · exact .inr (h.tidy number object hnumber hobject' hcontents)
      · have hindex := (List.getElem?_eq_some_iff.mp hobject').1
        rw [List.length_singleton] at hindex
        exact .inl (by omega)
    · intro object hobject
      have hobject' : w.objects[s.world.objects.length]? = some object := hobject
      rw [hobjects, List.getElem?_concat_length] at hobject'
      cases hobject'
      exact ⟨r, rfl⟩

/-- A new object is changed, and another one may be made. -/
theorem Ran.change (h : Ran lib start made s) {object : External} (last : Option External)
    {handles : Handles} (hnew : start.world.objects.length ≤ number)
    (hsound : (s.world.change number object last.toList handles).Sound lib)
    (hmade : ∀ other ∈ made, other ∈ made' ∨ other = number ∧ object.contents = 0)
    (hself : object.contents ≠ 0 → number ∈ made')
    (hlast : last.elim 0 External.contents ≠ 0 → s.world.objects.length ∈ made') :
    Ran lib start made'
      { s with world := s.world.change number object last.toList handles } where
  sound := hsound
  grown := Nat.le_trans h.grown World.length_change
  frame := by
    intro other hother
    show (s.world.change number object last.toList handles).objects[other]? = _
    rw [World.change_objects (Nat.lt_of_lt_of_le hother h.grown), if_neg (by omega)]
    exact h.frame other hother
  tidy := by
    intro other object' hother hobject hcontents
    by_cases hlt : other < s.world.objects.length
    · have hchanged : (s.world.change number object last.toList handles).objects[other]? =
          some object' := hobject
      rw [World.change_objects hlt] at hchanged
      split_ifs at hchanged with heq
      · cases hchanged
        exact heq ▸ hself hcontents
      · rcases hmade other (h.tidy other object' hother hchanged hcontents) with hmem | ⟨hsame, -⟩
        · exact hmem
        · exact absurd hsame.symm heq
    · have hadded : (s.world.objects.set number object ++ last.toList)[other]? =
          some object' := hobject
      rw [List.getElem?_append_right (by simpa using hlt), List.length_set] at hadded
      cases last with
      | none => cases hadded
      | some added =>
        have hindex := (List.getElem?_eq_some_iff.mp hadded).1
        rw [Option.toList_some, List.length_singleton] at hindex
        have heq : other = s.world.objects.length := by omega
        rw [heq, Nat.sub_self] at hadded
        cases hadded
        exact heq ▸ hlast hcontents
  closed := h.closed

/-- A release empties the object. -/
theorem Using.release {shape : External → Prop} (h : Using lib start made number shape s)
    (hshape : ∀ object, shape object → Releasable object) :
    Ran lib start made (act lib (.release number) s) := by
  cases hobject : s.world.objects[number]? with
  | none =>
    have hstep : s.world.step lib (.release number) = none := by
      simp only [World.step]
      rw [hobject]
    rw [act_of_none hstep]
    exact h.gone hobject
  | some object =>
    have hrelease : object.hasRelease = true := hshape object (h.shaped object hobject)
    have hstep : s.world.step lib (.release number) =
        some (s.world.change number (object.finalize lib s.world.handles).1 []
          (object.finalize lib s.world.handles).2) := by
      simp only [World.step]
      rw [hobject]
      dsimp only
      rw [if_pos hrelease]
    have hempty : (object.finalize lib s.world.handles).1.contents = 0 :=
      contents_finalize fun x hx => h.sound.frees_owned hobject hx
    rw [act_of_some hstep]
    apply h.toRan.change none h.new (World.sound_step hstep h.sound)
    · rintro other (rfl | hother)
      · exact .inr ⟨rfl, hempty⟩
      · exact .inl hother
    · intro hcontents
      exact absurd hempty hcontents
    · intro hnone
      exact absurd rfl hnone

/-- A release leaves the other objects alone. -/
theorem release_objects {other : Nat} (hne : number ≠ other) :
    (act lib (.release number) s).world.objects[other]? = s.world.objects[other]? := by
  cases hstep : s.world.step lib (.release number) with
  | none => rw [act_of_none hstep]
  | some w =>
    obtain ⟨object, hobject, rfl⟩ := World.step_release hstep
    rw [act_of_some hstep]
    show (s.world.objects.set number _ ++ [])[other]? = s.world.objects[other]?
    rw [List.append_nil, List.getElem?_set_ne hne]

/-- The handle of an entry moves into a new object for its metadata. -/
theorem Using.entryTakeMetadata (h : Using lib start made number IsEntry s)
    (hlt : number < s.world.objects.length) :
    Using lib start (insert s.world.objects.length made) number Releasable
        (act lib (.entryTakeMetadata number) s) ∧
      ∃ object, (act lib (.entryTakeMetadata number) s).world.objects[s.world.objects.length]? =
        some object ∧ Releasable object := by
  obtain ⟨object, hobject⟩ : ∃ object, s.world.objects[number]? = some object :=
    ⟨_, List.getElem?_eq_getElem hlt⟩
  obtain ⟨handle, rfl⟩ := h.shaped object hobject
  have hstep : s.world.step lib (.entryTakeMetadata number) =
      some (s.world.change number (.wrapper .entry none) [.metadata none handle]
        s.world.handles) := by
    simp only [World.step]
    rw [hobject]
  rw [act_of_some hstep]
  refine ⟨⟨?_, h.new, ?_⟩, .metadata none handle, ?_, rfl⟩
  · apply h.toRan.change (some (.metadata none handle)) h.new (World.sound_step hstep h.sound)
    · rintro other (rfl | hother)
      · exact .inl (.inl rfl)
      · exact .inl (.inr (.inr hother))
    · exact fun _ => .inl rfl
    · exact fun _ => .inr (.inl rfl)
  · intro object' hobject'
    have hchanged : (s.world.change number (.wrapper .entry none) [.metadata none handle]
        s.world.handles).objects[number]? = some object' := hobject'
    rw [World.change_objects hlt, if_pos rfl] at hchanged
    cases hchanged
    rfl
  · show (s.world.objects.set number _ ++ [External.metadata none handle])[_]? = _
    rw [List.getElem?_append_right (by simp), List.length_set, Nat.sub_self]
    rfl

/-! ## Takes -/

/-- An object that the take can make. -/
def Gives (lib : Library) (take : Take) (object : External) : Prop :=
  ∃ r handles, (take.run lib r handles).1 = some (.object object)

/-- The objects of a returned value. -/
def Given.objects : Given → Set Nat
  | .object number => {number}
  | _ => ∅

/-- After a take: while the result is `OK`, what was taken belongs to the caller. -/
structure AfterTake (lib : Library) (start : Session) (made : Set Nat) (result : Nat) (take : Take)
    (given : Given) (s : Session) : Prop where
  refused : statusAt result s ≠ .ok → Using lib start made result IsResult s
  taken : statusAt result s = .ok → Using lib start (made ∪ given.objects) result IsResult s
  shaped : statusAt result s = .ok → ∀ number, given = .object number →
    start.world.objects.length ≤ number ∧ result ≠ number ∧
      ∃ object, s.world.objects[number]? = some object ∧ Gives lib take object

theorem statusAt_of_result {result : Nat} {r : Result}
    (h : s.world.objects[result]? = some (.result r)) : statusAt result s = r.status := by
  unfold statusAt
  rw [h]

theorem nativeResultTake_result {result : Nat} {r : Result} (take : Take)
    (h : s.world.objects[result]? = some (.result r)) :
    nativeResultTake lib result take s =
      (.ok (.ofTaken take s.world.objects.length (take.run lib r s.world.handles).1),
        act lib (.take result take) s) := by
  unfold nativeResultTake
  rw [h]

theorem step_take_result {result : Nat} {r r' : Result} {take : Take} {taken : Option Taken}
    {handles : Handles} (h : s.world.objects[result]? = some (.result r))
    (hrun : take.run lib r s.world.handles = (taken, r', handles)) :
    s.world.step lib (.take result take) =
      some (s.world.change result (.result r') (take.object taken).toList handles) := by
  simp only [World.step]
  rw [h]
  dsimp only
  rw [hrun]

section Take

variable {result : Nat} {r r' : Result} {take : Take} {handles : Handles}

theorem statusAt_change {added : List External} (h : s.world.objects[result]? = some (.result r)) :
    statusAt result { s with world := s.world.change result (.result r') added handles } =
      r'.status := by
  apply statusAt_of_result
  show (s.world.change result (.result r') added handles).objects[result]? = _
  rw [World.change_objects (List.getElem?_eq_some_iff.mp h).1, if_pos rfl]

theorem isResult_change {added : List External} (h : s.world.objects[result]? = some (.result r)) :
    ∀ object, (s.world.change result (.result r') added handles).objects[result]? = some object →
      IsResult object := by
  intro object hobject
  rw [World.change_objects (List.getElem?_eq_some_iff.mp h).1, if_pos rfl] at hobject
  cases hobject
  exact ⟨r', rfl⟩

/-- Nothing is taken. -/
theorem Using.refuse (h : Using lib start made result IsResult s)
    (hr : s.world.objects[result]? = some (.result r)) {status : Status} (hstatus : status ≠ .ok)
    (hrun : take.run lib r s.world.handles = (none, { r with status }, s.world.handles)) :
    AfterTake lib start made result take (.ofTaken take s.world.objects.length none)
      (act lib (.take result take) s) := by
  have hstep := step_take_result hr hrun
  have hbad : statusAt result (act lib (.take result take) s) ≠ .ok := by
    rw [act_of_some hstep, statusAt_change hr]
    exact hstatus
  refine ⟨fun _ => ?_, fun hok => absurd hok hbad, fun hok => absurd hok hbad⟩
  rw [act_of_some hstep]
  refine ⟨?_, h.new, isResult_change hr⟩
  apply h.toRan.change take.emptyObject h.new (World.sound_step hstep h.sound)
  · exact fun other hother => .inl hother
  · exact fun _ => .inl rfl
  · intro hcontents
    exact absurd (World.contents_emptyObject take) hcontents

/-- A payload is taken. -/
theorem Using.accept (h : Using lib start made result IsResult s)
    (hr : s.world.objects[result]? = some (.result r)) {taken : Taken} (hstatus : r'.status = .ok)
    (hrun : take.run lib r s.world.handles = (some taken, r', handles)) :
    AfterTake lib start made result take (.ofTaken take s.world.objects.length (some taken))
      (act lib (.take result take) s) := by
  have hstep := step_take_result hr hrun
  have hlt : result < s.world.objects.length := (List.getElem?_eq_some_iff.mp hr).1
  have hok : statusAt result (act lib (.take result take) s) = .ok := by
    rw [act_of_some hstep, statusAt_change hr]
    exact hstatus
  refine ⟨fun hbad => absurd hok hbad, fun _ => ?_, fun _ => ?_⟩
  · rw [act_of_some hstep]
    refine ⟨?_, h.new, isResult_change hr⟩
    apply h.toRan.change (take.object (some taken)) h.new (World.sound_step hstep h.sound)
    · rintro other (rfl | hother)
      · exact .inl (.inl rfl)
      · exact .inl (.inr (.inl hother))
    · exact fun _ => .inl rfl
    · intro hcontents
      cases taken with
      | object object => exact .inr (.inr rfl)
      | bool value => exact absurd rfl hcontents
      | uint64 value => exact absurd rfl hcontents
      | bytes bytes => exact absurd rfl hcontents
  · intro number hnumber
    cases taken with
    | object object =>
      cases hnumber
      refine ⟨h.grown, Nat.ne_of_lt hlt, object, ?_, r, s.world.handles, ?_⟩
      · rw [act_of_some hstep]
        show (s.world.objects.set result _ ++ [object])[_]? = _
        rw [List.getElem?_append_right (by simp), List.length_set, Nat.sub_self]
        rfl
      · rw [hrun]
    | bool value => cases hnumber
    | uint64 value => cases hnumber
    | bytes bytes => cases hnumber

end Take

/-! ## Triples -/

section Triples

variable {E : OpenDalError → Session → Prop} {result : Nat} {α : Type}

theorem triple_call (answers : Answers) (call : ResultCall) (receiver : Option Nat) :
    Triple (Ran lib start made) (nativeCall lib answers call receiver)
      (fun result => Using lib start made result IsResult) E :=
  fun _ h => h.call call receiver answers.arguments answers.reply

theorem triple_status (P : Session → Prop) (result : Nat) :
    Triple P (nativeResultStatus result) (fun status s => P s ∧ status = statusAt result s) E :=
  fun _ h => ⟨h, rfl⟩

theorem triple_take (result : Nat) (take : Take) :
    Triple (Using lib start made result IsResult) (nativeResultTake lib result take)
      (AfterTake lib start made result take) E := by
  intro s h
  cases hobject : s.world.objects[result]? with
  | none =>
    have hstatus : statusAt result s = .abiMismatch := by
      unfold statusAt
      rw [hobject]
    have htake : nativeResultTake lib result take s =
        (.ok (.ofTaken take s.world.objects.length none), s) := by
      unfold nativeResultTake
      rw [hobject]
    rw [htake]
    refine ⟨fun _ => h, fun hok => ?_, fun hok => ?_⟩
    · rw [hstatus] at hok
      cases hok
    · rw [hstatus] at hok
      cases hok
  | some object =>
    obtain ⟨r, rfl⟩ := h.shaped object hobject
    rw [nativeResultTake_result take hobject]
    have houtcome := outcome_take lib r s.world.handles take
    generalize hrun : take.run lib r s.world.handles = ran at houtcome
    cases houtcome with
    | refused hstatus => exact h.refuse hobject hstatus hrun
    | taken hstatus hstatus' hmoves => exact h.accept hobject hstatus' hrun

theorem triple_raise (answers : Answers) (result : Nat) (subject : Subject)
    (Q : α → Session → Prop) :
    Triple (Using lib start made result IsResult) (raiseNative lib answers result subject) Q
      (fun _ => Ran lib start made) := by
  refine Triple.bind (Q := fun _ => Ran lib start made) ?_ fun error => Triple.throw fun s h => h
  refine Triple.bind (Q := fun _ => Ran lib start made)
    (Triple.modify fun s h => h.release fun object hobject => hobject.releasable) fun _ => ?_
  refine Triple.bind (Triple.lift (fun _ _ h => h) fun _ _ h => h) fun kindName => ?_
  refine Triple.bind (Triple.lift (fun _ _ h => h) fun _ _ h => h) fun message => ?_
  exact Triple.pure fun s h => h

theorem triple_lift_ok {P : Session → Prop} {x : Except OpenDalError α} {a : α} (h : x = .ok a) :
    Triple P (Call.lift x) (fun _ => P) E := by
  subst h
  exact fun s hs => hs

end Triples

/-! ## Bodies -/

/-- What a function returns is in the hands of the caller. -/
structure Handed (lib : Library) (start : Session) (made : Set Nat) (take : Take) (given : Given)
    (s : Session) : Prop where
  ran : Ran lib start (made ∪ given.objects) s
  shaped : ∀ number, given = .object number → start.world.objects.length ≤ number ∧
    ∃ object, s.world.objects[number]? = some object ∧ Gives lib take object

theorem AfterTake.release {result : Nat} {take : Take} {given : Given}
    (h : AfterTake lib start made result take given s) (hok : statusAt result s = .ok) :
    Handed lib start made take given (act lib (.release result) s) where
  ran := (h.taken hok).release fun object hobject => hobject.releasable
  shaped := by
    intro number hnumber
    obtain ⟨hnew, hne, object, hobject, hgives⟩ := h.shaped hok number hnumber
    exact ⟨hnew, object, (release_objects hne).trans hobject, hgives⟩

theorem Handed.using {take : Take} (h : Handed lib start made take (.object number) s) :
    Using lib start made number (Gives lib take) s ∧ number < s.world.objects.length := by
  obtain ⟨hnew, object, hobject, hgives⟩ := h.shaped number rfl
  refine ⟨⟨?_, hnew, ?_⟩, (List.getElem?_eq_some_iff.mp hobject).1⟩
  · apply h.ran.mono
    rintro other (hother | hother)
    · exact .inr hother
    · exact .inl hother
  · intro object' hobject'
    rw [hobject] at hobject'
    cases hobject'
    exact hgives

theorem gives_metadata {valid : Bool} {object : External} (h : Gives lib (.metadata valid) object) :
    Releasable object := by
  obtain ⟨r, handles, hrun⟩ := h
  obtain ⟨call, -, heq⟩ := Option.map_eq_some_iff.mp hrun
  cases heq
  rfl

theorem gives_entry {valid : Bool} {object : External} (h : Gives lib (.entry valid) object) :
    IsEntry object := by
  obtain ⟨r, handles, hrun⟩ := h
  obtain ⟨call, -, heq⟩ := Option.map_eq_some_iff.mp hrun
  cases heq
  exact ⟨_, rfl⟩

theorem triple_takeMetadata (answers : Answers) (number : Nat) (subject : Subject) :
    Triple (Using lib start made number Releasable) (takeMetadata lib answers number subject)
      (fun _ => Ran lib start made) (fun _ => Ran lib start made) := by
  refine Triple.bind (Q := fun _ => Ran lib start made)
    (Triple.modify fun s h => h.release fun object hobject => hobject) fun _ => ?_
  exact Triple.lift (fun _ _ h => h) fun _ _ h => h

/-- The texts of an entry were validated, so that its metadata is always reached. -/
theorem triple_entryFromNative (answers : Answers) (entry : Nat) (listingPath : Option String) :
    Triple
      (fun s => Using lib start made entry IsEntry s ∧ entry < s.world.objects.length)
      (entryFromNative lib answers entry listingPath)
      (fun given s => given.objects = ∅ ∧ Ran lib start made s) (fun _ => Ran lib start made) := by
  obtain ⟨path, hpath⟩ := Option.isSome_iff_exists.mp answers.entry.valid.1
  obtain ⟨name, hname⟩ := Option.isSome_iff_exists.mp answers.entry.valid.2
  refine Triple.bind
    (Q := fun metadata s => Using lib start (insert metadata made) entry Releasable s ∧
      start.world.objects.length ≤ metadata ∧ entry ≠ metadata ∧
        ∃ object, s.world.objects[metadata]? = some object ∧ Releasable object)
    ?_ fun metadata => ?_
  · rintro s ⟨h, hlt⟩
    obtain ⟨hentry, hmetadata⟩ := h.entryTakeMetadata hlt
    exact ⟨hentry, h.grown, Nat.ne_of_lt hlt, hmetadata⟩
  refine Triple.bind (Q := fun _ => Using lib start made metadata Releasable)
    (Triple.modify ?_) fun _ => ?_
  · rintro s ⟨h, hnew, hne, object, hobject, hrelease⟩
    refine ⟨h.release fun object hobject => hobject, hnew, ?_⟩
    intro object' hobject'
    rw [release_objects hne, hobject] at hobject'
    cases hobject'
    exact hrelease
  refine Triple.bind (triple_lift_ok (a := path) ?_) fun path => ?_
  · unfold decodeAbiText
    rw [hpath]
  refine Triple.bind (triple_lift_ok (a := name) ?_) fun name => ?_
  · unfold decodeAbiText
    rw [hname]
  refine Triple.bind (triple_takeMetadata answers metadata _) fun metadata => ?_
  exact Triple.pure fun s h => ⟨rfl, h⟩

namespace BlockingFunction

variable (f : BlockingFunction) (answers : Answers) (take : Take)

theorem triple_payload :
    Triple (Ran lib start made) (f.payload lib answers take) (Handed lib start made take)
      (fun _ => Ran lib start made) := by
  refine Triple.bind (triple_call answers f.call f.receiver) fun result => ?_
  refine Triple.bind (triple_status _ result) fun status => ?_
  refine Triple.ite
    (fun _ => Triple.of_imp (fun s h => h.1) (triple_raise answers result _ _) fun _ _ h => h)
    fun _ => ?_
  refine Triple.bind (Triple.of_imp (fun s h => h.1) (triple_take result take) fun _ _ h => h)
    fun given => ?_
  refine Triple.bind (triple_status _ result) fun status => ?_
  refine Triple.ite (fun hstatus => ?_) fun hstatus => ?_
  · exact Triple.of_imp (fun s h => h.1.refused (h.2 ▸ hstatus)) (triple_raise answers result _ _)
      fun _ _ h => h
  · rw [not_ne_iff] at hstatus
    refine Triple.bind (Q := fun _ => Handed lib start made take given)
      (Triple.modify fun s h => h.1.release (h.2 ▸ hstatus)) fun _ => ?_
    exact Triple.pure fun s h => h

theorem triple_unit :
    Triple (Ran lib start made) (f.unit lib answers)
      (fun given => Ran lib start (made ∪ given.objects)) (fun _ => Ran lib start made) := by
  refine Triple.bind (triple_call answers f.call f.receiver) fun result => ?_
  refine Triple.bind (triple_status _ result) fun status => ?_
  refine Triple.ite
    (fun _ => Triple.of_imp (fun s h => h.1) (triple_raise answers result _ _) fun _ _ h => h)
    fun _ => ?_
  refine Triple.bind (Q := fun _ => Ran lib start made)
    (Triple.modify fun s h => h.1.release fun object hobject => hobject.releasable) fun _ => ?_
  exact Triple.pure fun s h => h.mono fun number hnumber => .inl hnumber

theorem triple_metadata :
    Triple (Ran lib start made) (f.metadata lib answers)
      (fun given => Ran lib start (made ∪ given.objects)) (fun _ => Ran lib start made) := by
  refine Triple.bind (f.triple_payload answers (.metadata answers.valid)) fun given => ?_
  cases given with
  | object number =>
    refine Triple.bind (Q := fun _ => Ran lib start made) ?_ fun metadata => ?_
    · refine Triple.of_imp ?_ (triple_takeMetadata answers number f.subject) fun _ _ h => h
      intro s h
      exact h.using.1.mono (fun other hother => hother) fun object hobject =>
        gives_metadata hobject
    · exact Triple.pure fun s h => h.mono fun number hnumber => .inl hnumber
  | unit => exact Triple.pure fun s h => h.ran
  | bool value => exact Triple.pure fun s h => h.ran
  | uint64 value => exact Triple.pure fun s h => h.ran
  | bytes value => exact Triple.pure fun s h => h.ran
  | metadata value => exact Triple.pure fun s h => h.ran
  | entry path name value => exact Triple.pure fun s h => h.ran
  | «end» => exact Triple.pure fun s h => h.ran

theorem closeSelf_world (closes : Bool) (s : Session) : (f.closeSelf closes s).world = s.world := by
  unfold closeSelf
  split <;> rfl

theorem ran_closeSelf (closes : Bool) (h : Ran lib start made s) :
    Ran lib start made (f.closeSelf closes s) := by
  unfold closeSelf
  split
  · exact h.close _
  · exact h

theorem using_closeSelf (closes : Bool) {shape : External → Prop}
    (h : Using lib start made number shape s) :
    Using lib start made number shape (f.closeSelf closes s) where
  toRan := f.ran_closeSelf closes h.toRan
  new := h.new
  shaped := by
    rw [closeSelf_world]
    exact h.shaped

theorem triple_next (closes : Bool) {convert : Given → PackageCall Given}
    {Q : Given → Session → Prop} (hend : ∀ s, Ran lib start made s → Q .end s)
    (hconvert : ∀ given, Triple (Handed lib start made take given) (convert given) Q
      (fun _ => Ran lib start made)) :
    Triple (Ran lib start made) (f.next lib answers take closes convert) Q
      (fun _ => Ran lib start made) := by
  refine Triple.bind (triple_call answers f.call f.receiver) fun result => ?_
  refine Triple.bind (triple_status _ result) fun status => ?_
  refine Triple.ite (fun _ => ?_) fun _ => Triple.ite (fun _ => ?_) fun _ => ?_
  · -- a payload
    refine Triple.bind (Triple.of_imp (fun s h => h.1) (triple_take result take) fun _ _ h => h)
      fun given => ?_
    refine Triple.bind (triple_status _ result) fun status => ?_
    refine Triple.ite (fun hstatus => ?_) fun hstatus => ?_
    · refine Triple.bind (Q := fun _ => Using lib start made result IsResult)
        (Triple.modify fun s h => ?_) fun _ => triple_raise answers result _ _
      exact f.using_closeSelf closes (h.1.refused (h.2 ▸ hstatus))
    · rw [not_ne_iff] at hstatus
      refine Triple.bind (Q := fun _ => Handed lib start made take given)
        (Triple.modify fun s h => h.1.release (h.2 ▸ hstatus)) fun _ => ?_
      exact Triple.onError (hconvert given) fun _ s h => f.ran_closeSelf closes h
  · -- the end
    refine Triple.bind (Q := fun _ => Ran lib start made)
      (Triple.modify fun s h => h.1.release fun object hobject => hobject.releasable) fun _ => ?_
    exact Triple.pure hend
  · refine Triple.bind (Q := fun _ => Using lib start made result IsResult)
      (Triple.modify fun s h => f.using_closeSelf closes h.1) fun _ => ?_
    exact triple_raise answers result _ _

theorem triple_convertEntry (given : Given) :
    Triple (Handed lib start made (.entry answers.valid) given)
      (f.convertEntry lib answers given)
      (fun given s => given.objects = ∅ ∧ Ran lib start made s) (fun _ => Ran lib start made) := by
  have hplain : ∀ given : Given, given.objects = ∅ → Triple
      (Handed lib start made (.entry answers.valid) given) (Pure.pure given : PackageCall Given)
      (fun given s => given.objects = ∅ ∧ Ran lib start made s) (fun _ => Ran lib start made) := by
    intro given hgiven
    apply Triple.pure
    intro s h
    refine ⟨hgiven, h.ran.mono ?_⟩
    rintro number (hnumber | hnumber)
    · exact hnumber
    · rw [hgiven] at hnumber
      cases hnumber
  cases given with
  | object number =>
    refine Triple.of_imp ?_ (triple_entryFromNative answers number f.subject.path) fun _ _ h => h
    intro s h
    exact ⟨h.using.1.mono (fun other hother => hother) fun object hobject => gives_entry hobject,
      h.using.2⟩
  | unit => exact hplain _ rfl
  | bool value => exact hplain _ rfl
  | uint64 value => exact hplain _ rfl
  | bytes value => exact hplain _ rfl
  | metadata value => exact hplain _ rfl
  | entry path name value => exact hplain _ rfl
  | «end» => exact hplain _ rfl

theorem triple_nextEntry :
    Triple (Ran lib start made)
      (f.next lib answers (.entry answers.valid) true (f.convertEntry lib answers))
      (fun given s => given.objects = ∅ ∧ Ran lib start made s) (fun _ => Ran lib start made) :=
  f.triple_next answers _ true (fun _ h => ⟨rfl, h⟩) (f.triple_convertEntry answers)

/-- Whichever way a function ends, it leaves at most the object that it returns. -/
theorem triple_run :
    Triple (Ran lib start made) (f.run lib answers)
      (fun given => Ran lib start (made ∪ given.objects)) (fun _ => Ran lib start made) := by
  refine Triple.bind (Q := fun _ => Ran lib start made)
    (Triple.lift (fun _ _ h => h) fun _ _ h => h) fun _ => ?_
  cases f.body with
  | unit => exact f.triple_unit answers
  | value take =>
    exact Triple.of_imp (fun _ h => h) (f.triple_payload answers (take answers)) fun _ _ h => h.ran
  | metadata => exact f.triple_metadata answers
  | next take closes =>
    refine f.triple_next answers _ closes ?_ fun given => Triple.pure fun s h => h.ran
    exact fun s h => h.mono fun number hnumber => .inl hnumber
  | nextEntry =>
    refine Triple.of_imp (fun _ h => h) (f.triple_nextEntry answers) ?_
    exact fun given s h => h.2.mono fun number hnumber => .inl hnumber

end BlockingFunction

/-! ## Listing -/

theorem triple_listerNext (lister : Nat) (path : String) (answers : Answers) :
    Triple (Ran lib start made) ((Lister.next lister path).run lib answers)
      (fun _ => Ran lib start made) (fun _ => Ran lib start made) := by
  refine Triple.bind (Q := fun _ => Ran lib start made)
    (Triple.lift (fun _ _ h => h) fun _ _ h => h) fun _ => ?_
  exact Triple.of_imp (fun _ h => h) ((Lister.next lister path).triple_nextEntry answers)
    fun _ _ h => h.2

theorem triple_listLoop (path : String) (lister : Nat) (answers : List Answers)
    (entries : List Given) :
    Triple (Ran lib start made) (listLoop lib path lister answers entries)
      (fun _ => Ran lib start made) (fun _ => Ran lib start made) := by
  induction answers generalizing entries with
  | nil => exact Triple.pure fun s h => h
  | cons answers rest ih =>
    refine Triple.bind (triple_listerNext lister path answers) fun next => ?_
    have hentry : ∀ entry : Given, Triple (Ran lib start made)
        (if entries.length = 2147483647 then Call.throw (tooManyEntries path)
          else listLoop lib path lister rest (entries ++ [entry]))
        (fun _ => Ran lib start made) (fun _ => Ran lib start made) := fun entry =>
      Triple.ite (fun _ => Triple.throw fun s h => h) fun _ => ih _
    cases next with
    | «end» => exact Triple.pure fun s h => h
    | unit => exact hentry _
    | bool value => exact hentry _
    | uint64 value => exact hentry _
    | bytes value => exact hentry _
    | metadata value => exact hentry _
    | entry path name value => exact hentry _
    | object number => exact hentry _

/-- What a call has left behind was closed. -/
def LeftClosed (lib : Library) (start s : Session) : Prop :=
  ∃ made, Ran lib start made s ∧ ∀ number ∈ made, number ∈ s.closed

/-- A listing closes its lister when it comes to its end, and when it fails. -/
theorem triple_list (path : String) (operator : Nat) (opening : Answers) (answers : List Answers) :
    Triple (Ran lib start ∅) (Operator.list lib path operator opening answers)
      (fun entries s => entries.isSome → LeftClosed lib start s)
      (fun _ => LeftClosed lib start) := by
  refine Triple.bind
    (Triple.of_imp_error ((Operator.openLister operator path).triple_run opening) ?_)
    fun opened => ?_
  · intro error s h
    refine ⟨∅, h, ?_⟩
    intro number hnumber
    cases hnumber
  have hclosed : ∀ number s, Ran lib start {number} s → LeftClosed lib start (s.close number) := by
    intro number s h
    refine ⟨{number}, h.close number, ?_⟩
    rintro other rfl
    exact List.mem_append_right _ List.mem_cons_self
  have hnone : ∀ opened : Given, Triple (Ran lib start (∅ ∪ opened.objects))
      (Pure.pure none : PackageCall (Option (List Given)))
      (fun entries s => entries.isSome → LeftClosed lib start s)
      (fun _ => LeftClosed lib start) := by
    intro opened
    apply Triple.pure
    intro s h hsome
    cases hsome
  cases opened with
  | object lister =>
    refine Triple.onError (E := fun _ => Ran lib start {lister}) ?_ fun _ s h => hclosed lister s h
    refine Triple.bind (Q := fun _ => Ran lib start {lister}) ?_ fun entries => ?_
    · refine Triple.of_imp ?_ (triple_listLoop path lister answers []) fun _ _ h => h
      intro s h
      exact h.mono fun number hnumber => hnumber.resolve_left fun hempty => hempty.elim
    · refine Triple.bind (Q := fun _ s => entries.isSome → LeftClosed lib start s)
        (Triple.modify ?_) fun _ => Triple.pure fun s h => h
      intro s h hsome
      rw [if_pos hsome]
      exact hclosed lister s h
  | unit => exact hnone _
  | bool value => exact hnone _
  | uint64 value => exact hnone _
  | bytes value => exact hnone _
  | metadata value => exact hnone _
  | entry path name value => exact hnone _
  | «end» => exact hnone _

end OpendalMbt.NativePackage.Blocking
