import OpendalMbt.Native.Delivery
import OpendalMbt.Native.Stability

/-!
# Every gap-free discipline cancels last

The converse of `no_gap`. `Lineage` is the order in which the cursor went round: an
operation that was lent the cursor comes after operations that all produced a chunk. So a
cancel that does not come last loses a chunk, and `drive_claim` runs the later operation to
the take that hands its own chunk out (`gap_follows`). `stream_delivery` puts the two
directions together.
-/

namespace OpendalMbt.Native

open Transition

variable {C V : Type}

namespace AsyncSystem

section Drive

variable {cell : AsyncCell C V} {s t u : AsyncSystem cell} {i j : AbortHandle}

/-- A run from `s` to `t` that leaves every operation but `j` alone. -/
def Drives (s : AsyncSystem cell) (j : AbortHandle) (t : AsyncSystem cell) : Prop :=
  (∃ es, run step s es = some t) ∧ ∀ (i : AbortHandle) (op : AsyncOp cell), i ≠ j →
    s.ops[i]? = some op → ∃ b, t.ops[i]? = some { op with abortRequested := b }

theorem Drives.refl (s : AsyncSystem cell) (j : AbortHandle) : s.Drives j s :=
  ⟨⟨[], rfl⟩, fun _ op _ hop => ⟨op.abortRequested, hop⟩⟩

theorem Drives.trans (h₁ : s.Drives j t) (h₂ : t.Drives j u) : s.Drives j u := by
  obtain ⟨⟨es, hes⟩, hkept₁⟩ := h₁
  obtain ⟨⟨fs, hfs⟩, hkept₂⟩ := h₂
  refine ⟨⟨es ++ fs, run_append_of hes hfs⟩, fun i op hij hop => ?_⟩
  obtain ⟨b, hop⟩ := hkept₁ i op hij hop
  obtain ⟨b', hop⟩ := hkept₂ i { op with abortRequested := b } hij hop
  exact ⟨b', hop⟩

theorem drives_act {a : OpAction cell} {op op' : AsyncOp cell} {core : cell.State}
    {aborted : Option AbortHandle} (hop : s.ops[j]? = some op)
    (hact : op.act j s.core a = some (core, aborted, op')) :
    ∃ t b, s.Drives j t ∧ t.ops[j]? = some { op' with abortRequested := b } := by
  obtain ⟨t, b, hstep, -, hget⟩ := step_act hop hact
  refine ⟨t, b, ⟨⟨[.op j a], run_cons_eq_some.mpr ⟨t, hstep, rfl⟩⟩, ?_⟩, hget⟩
  intro i op₁ hij hop₁
  simp only [step, hop, hact, Option.bind_eq_bind, Option.bind_some, Option.some.injEq] at hstep
  subst hstep
  obtain ⟨b, hget⟩ := getElem?_requestAbort aborted (s.ops.set j op') i
  refine ⟨b op₁, ?_⟩
  rw [hget, List.getElem?_set_ne (Ne.symm hij), hop₁, Option.map_some]

/-- A start call can always return. -/
theorem drive_returned {op : AsyncOp cell} (hop : s.ops[j]? = some op) :
    ∃ t op', s.Drives j t ∧ t.ops[j]? = some op' ∧ op'.starter = .returned ∧
      op'.work = op.work ∧ op'.task = op.task ∧ op'.supervisor = op.supervisor := by
  have hinstall : ∀ {s : AsyncSystem cell} {op : AsyncOp cell}, s.ops[j]? = some op →
      op.starter = .spawned → ∃ t op', s.Drives j t ∧ t.ops[j]? = some op' ∧
        op'.starter = .returned ∧ op'.work = op.work ∧ op'.task = op.task ∧
        op'.supervisor = op.supervisor := by
    intro s op hop hstarter
    have hact : op.act j s.core .install = some ((cell.installAbort j s.core).2,
        (cell.installAbort j s.core).1, { op with starter := .returned }) := by
      simp only [AsyncOp.act, AsyncOp.install, hstarter]
    obtain ⟨t, b, hdrive, hget⟩ := drives_act hop hact
    exact ⟨t, _, hdrive, hget, rfl, rfl, rfl, rfl⟩
  cases hstarter : op.starter with
  | returned => exact ⟨s, op, .refl s j, hop, hstarter, rfl, rfl, rfl⟩
  | spawned => exact hinstall hop hstarter
  | taken =>
    have hact : op.act j s.core .spawn = some (s.core, none,
        { op with starter := if op.lent then .spawned else .returned }) := by
      simp only [AsyncOp.act, AsyncOp.spawn, hstarter]
    obtain ⟨t, b, hdrive, hget⟩ := drives_act hop hact
    cases hlent : op.lent with
    | false => exact ⟨t, _, hdrive, hget, by simp [hlent], rfl, rfl, rfl⟩
    | true =>
      obtain ⟨u, op', hdrive', hget', h₁, h₂, h₃, h₄⟩ := hinstall hget (by simp [hlent])
      exact ⟨u, op', hdrive.trans hdrive', hget', h₁, h₂, h₃, h₄⟩

end Drive

variable {s t u : AsyncSystem (readStreamCell C V)} {e : AsyncEvent (readStreamCell C V)}
  {i j : AbortHandle}

/-- An operation that can hand out a chunk can be run to the take that does. -/
theorem drive_claim (buffer : V) {op : AsyncOp (readStreamCell C V)} (hop : s.ops[j]? = some op)
    (hs : TaskSound op) (hdel : op.Deliverable) :
    ∃ t op' buffer', s.Drives j t ∧ t.ops[j]? = some op' ∧ op'.starter = .returned ∧
      (op'.task.take .buffer).1 = .ok (chunkOutcome buffer') := by
  -- publish the chunk of a worker that has returned
  have hpublish : ∀ {s : AsyncSystem (readStreamCell C V)} {op : AsyncOp (readStreamCell C V)}
      {abort}, s.ops[j]? = some op → op.starter = .returned →
      op.task.state = .running abort → op.supervisor = .joining →
      ∀ buffer', op.work = .returned (chunkOutcome buffer') →
      ∃ t op', s.Drives j t ∧ t.ops[j]? = some op' ∧ op'.starter = .returned ∧
        (op'.task.take .buffer).1 = .ok (chunkOutcome buffer') := by
    intro s op abort hop hstarter hstate hsup buffer' hwork
    have hact : op.act j s.core .publish = some (s.core, none,
        { op with
          task := { state := .completed (chunkOutcome buffer'), signal := none }
          supervisor := .published }) := by
      simp only [AsyncOp.act, AsyncOp.publish, AsyncOp.joined, hstarter, hsup, hwork,
        Option.map_some, publish_running hstate]
    obtain ⟨t, b, hdrive, hget⟩ := drives_act hop hact
    exact ⟨t, _, hdrive, hget, hstarter, take_eq_ok.mpr ⟨rfl, rfl⟩⟩
  obtain ⟨t, op₁, hdrive, hop₁, hstarter, hwork, htask, hsup⟩ := drive_returned hop
  obtain ⟨htaken, hcancelled, hwork₀⟩ := hdel
  rcases hwork₀ with ⟨cursor, hhold⟩ | ⟨buffer', hproduced⟩
  · have hrunning : ∃ abort, op.task.state = .running abort := by
      cases hstate : op.task.state with
      | running abort => exact ⟨abort, rfl⟩
      | taken => exact absurd hstate htaken
      | cancelled => exact absurd hstate hcancelled
      | completed o =>
        rcases hs.completed o hstate with h | ⟨h, -⟩ <;> rw [hhold] at h <;> cases h
    obtain ⟨abort, hrunning⟩ := hrunning
    have hact : op₁.act j t.core (.complete (ReadStreamResult.chunk buffer) false) =
        some (AsyncReadStreamCore.completeNext cursor .chunk t.core, none,
          { op₁ with work := .returned (chunkOutcome buffer) }) := by
      simp only [AsyncOp.act, AsyncOp.complete, hstarter, hwork, hhold]
      rfl
    obtain ⟨m, b, hdrive', hget⟩ := drives_act hop₁ hact
    obtain ⟨u, op', hdrive'', hget', hret, htake⟩ :=
      hpublish hget hstarter (htask.symm ▸ hrunning) (hsup.trans (hs.holding cursor hhold))
        buffer rfl
    exact ⟨u, op', buffer, (hdrive.trans hdrive').trans hdrive'', hget', hret, htake⟩
  · rcases hs.produced ⟨buffer', hproduced⟩ with h | ⟨buffer'', hwork', hclaim⟩ | h
    · exact absurd h htaken
    · rcases hclaim with hstate | ⟨⟨abort, hstate⟩, hjoining⟩
      · exact ⟨t, op₁, buffer'', hdrive, hop₁, hstarter,
          take_eq_ok.mpr ⟨by rw [htask, hstate], rfl⟩⟩
      · have hrunning : op₁.task.state = .running abort := by rw [htask, hstate]
        obtain ⟨u, op', hdrive', hget', hret, htake⟩ :=
          hpublish hop₁ hstarter hrunning (hsup.trans hjoining) buffer'' (hwork.trans hwork')
        exact ⟨u, op', buffer'', hdrive.trans hdrive', hget', hret, htake⟩
    · exact absurd h hcancelled

/-! ## The order in which the cursor was lent -/

/-- Whoever was lent the cursor comes after operations that gave it back with a chunk. -/
structure Lineage (s : AsyncSystem (readStreamCell C V)) : Prop where
  unlent : ∀ (i : AbortHandle) op, s.ops[i]? = some op → op.lent = false → s.Over
  produced : ∀ (i : AbortHandle) op, s.ops[i]? = some op → op.lent = true → ¬ op.HasTurn →
    ¬ s.Over → op.Produced
  earlier : ∀ (i j : AbortHandle) op op', i < j → s.ops[i]? = some op → s.ops[j]? = some op' →
    op'.lent = true → op.Produced

theorem lineage_opened (cursor : C) : (opened (readStreamCell C V) cursor).Lineage where
  unlent := by simp [opened]
  produced := by simp [opened]
  earlier := by simp [opened]

theorem produced_act {i : AbortHandle} {core core' : (readStreamCell C V).State}
    {op op' : AsyncOp (readStreamCell C V)} {a : OpAction (readStreamCell C V)}
    {aborted : Option AbortHandle} (hact : op.act i core a = some (core', aborted, op'))
    (h : op.Produced) : op'.Produced := by
  obtain ⟨buffer, hreturned⟩ := h
  obtain ⟨-, -, hwork | ⟨⟨cursor, hwork⟩, -⟩⟩ := AsyncOp.act_work hact
  · exact ⟨buffer, hwork.trans hreturned⟩
  · rw [hreturned] at hwork
    cases hwork

/-- A worker that gives the cursor back to a core that is not over has produced a chunk. -/
theorem complete_produced (cursor : C) {core : AsyncReadStreamState C}
    {result : ReadStreamResult V} {a : Option AbortHandle} (hbusy : core.view = .busy a)
    (hview : (AsyncReadStreamCore.completeNext cursor result.next core).view ≠ .settled)
    (hview' : (AsyncReadStreamCore.completeNext cursor result.next core).view ≠ .dead) :
    ∃ buffer, result = .chunk buffer := by
  have hcomplete := (readStreamCell C V).complete_busy () cursor result hbusy
  cases result with
  | chunk buffer => exact ⟨buffer, rfl⟩
  | oversized failure => exact absurd hcomplete hview'
  | «end» => exact absurd hcomplete hview
  | error failure => exact absurd hcomplete hview'

theorem lineage_step (hstep : s.step e = some t) (hR : ∃ c, s.Refines c) (hs : s.Lineage) :
    t.Lineage := by
  obtain ⟨c, hR⟩ := hR
  have hover : s.Over → t.Over := over_step hstep
  refine ⟨?_, ?_, ?_⟩
  · intro i op' hop' hlent
    rcases ops_cases hstep hop' with ⟨op, b, hop, rfl⟩ |
        ⟨a, op, aborted, acted, b, -, hop, hact, rfl⟩ | ⟨call, signal, resource, -, -, hres, rfl⟩
    · exact hover (hs.unlent i op hop hlent)
    · exact hover (hs.unlent i op hop ((AsyncOp.act_work hact).2.1 ▸ hlent))
    · cases resource with
      | none => exact hover (.inl ((readStreamCell C V).take_none call hres))
      | some cursor => cases hlent
  · intro i op' hop' hlent hturn hnot
    have hnot' : ¬ s.Over := fun h => hnot (hover h)
    rcases ops_cases hstep hop' with ⟨op, b, hop, rfl⟩ |
        ⟨a, op, aborted, acted, b, -, hop, hact, rfl⟩ | ⟨call, signal, resource, -, -, hres, rfl⟩
    · exact hs.produced i op hop hlent hturn hnot'
    · by_cases hturn' : op.HasTurn
      · -- the action is the completion that ended the turn
        have hbusy : ∃ a, AsyncReadStreamState.view s.core = .busy a := by
          cases hview : (readStreamCell C V).view s.core with
          | busy a => exact ⟨a, hview⟩
          | stored cursor => exact absurd ⟨op, hop, hturn'⟩ (hR.stored hview)
          | settled => exact absurd (.inl hview) hnot'
          | dead => exact absurd (.inr hview) hnot'
        obtain ⟨b', hbusy⟩ := hbusy
        rcases AsyncOp.act_cases hact with ⟨_, result, unwinds, rfl, -⟩ | ⟨-, hsame⟩
        · obtain ⟨cursor, -, -, hcore, -, hop'⟩ := AsyncOp.complete_eq_some hact
          have hcore' : t.core = AsyncReadStreamCore.completeNext cursor
              (ReadStreamResult.next result) s.core := hcore
          obtain ⟨buffer, rfl⟩ := complete_produced cursor hbusy
            (fun h => hnot (.inl (hcore' ▸ h))) (fun h => hnot (.inr (hcore' ▸ h)))
          rcases hop' with rfl | ⟨rfl, hnone⟩
          · exact ⟨buffer, rfl⟩
          · exact absurd (hcore'.symm ▸ (readStreamCell C V).complete_busy () cursor
              (ReadStreamResult.chunk buffer) hbusy) (hnone cursor)
        · exact absurd (hsame.mpr hturn') hturn
      · have hproduced := hs.produced i op hop ((AsyncOp.act_work hact).2.1 ▸ hlent) hturn' hnot'
        have hproduced' := produced_act hact hproduced
        exact hproduced'
    · cases resource with
      | none => cases hlent
      | some cursor => exact absurd trivial hturn
  · intro i j op₁ op₂ hij hi hj hlent
    have hfirst : ∀ op, s.ops[i]? = some op → op.Produced → op₁.Produced := by
      intro op hop hproduced
      rcases ops_cases hstep hi with ⟨op', b, hop', rfl⟩ |
          ⟨a, op', aborted, acted, b, -, hop', hact, rfl⟩ |
          ⟨call, signal, resource, -, hlen, -, -⟩
      · rw [hop] at hop'
        cases hop'
        exact hproduced
      · rw [hop] at hop'
        cases hop'
        have hproduced' := produced_act hact hproduced
        exact hproduced'
      · exact absurd hlen (Nat.ne_of_lt (List.getElem?_eq_some_iff.mp hop).1)
    have hlater : ∀ op, s.ops[j]? = some op → op.lent = true → op₁.Produced := by
      intro op hop hlent
      have hlt := Nat.lt_trans hij (List.getElem?_eq_some_iff.mp hop).1
      have hop₁ : s.ops[i]? = some s.ops[i] := List.getElem?_eq_getElem hlt
      exact hfirst _ hop₁ (hs.earlier i j _ op hij hop₁ hop hlent)
    rcases ops_cases hstep hj with ⟨op, b, hop, rfl⟩ |
        ⟨a, op, aborted, acted, b, -, hop, hact, rfl⟩ | ⟨call, signal, resource, -, hlen, hres, rfl⟩
    · exact hlater op hop hlent
    · exact hlater op hop ((AsyncOp.act_work hact).2.1 ▸ hlent)
    · -- the cursor was in the core, so everybody before gave it back
      cases resource with
      | none => cases hlent
      | some cursor =>
        have hstored : ∃ c, (readStreamCell C V).view s.core = .stored c := by
          by_contra hne
          exact ((readStreamCell C V).take_else call fun c hc => hne ⟨c, hc⟩).2 cursor hres
        obtain ⟨cursor', hstored⟩ := hstored
        have hnot : ¬ s.Over := by
          intro h
          rcases h with h | h <;> rw [hstored] at h <;> cases h
        have hop₁ : s.ops[i]? = some s.ops[i] := List.getElem?_eq_getElem (hlen ▸ hij)
        have hlent₁ : s.ops[i].lent = true := by
          by_contra hne
          exact hnot (hs.unlent i _ hop₁ (Bool.not_eq_true _ ▸ hne))
        exact hfirst _ hop₁ (hs.produced i _ hop₁ hlent₁
          (fun h => hR.stored hstored ⟨_, hop₁, h⟩) hnot)

/-! ## A cancel that does not come last -/

/-- A produced chunk whose task was cancelled is lost for good. -/
theorem not_claimable_of_cancelled (op : AsyncOp (readStreamCell C V))
    (h : op.task.state = .cancelled) : ¬ (op.HandedOut ∨ op.Claimable) := by
  intro hor
  rcases hor with htaken | ⟨buffer, -, hdone | ⟨⟨abort, hrun⟩, -⟩⟩
  · cases h.symm.trans htaken
  · cases h.symm.trans hdone
  · cases h.symm.trans hrun

theorem gap_of_lost (buffer : V) {op op' : AsyncOp (readStreamCell C V)} (hij : i < j)
    (hop : s.ops[i]? = some op) (hproduced : op.Produced) (hcancelled : op.task.state = .cancelled)
    (hop' : s.ops[j]? = some op') (hs : TaskSound op') (hdel : op'.Deliverable) :
    ∃ es t, run step s es = some t ∧ ¬ t.GapFree := by
  obtain ⟨t, op₁, buffer', ⟨⟨es, hrun⟩, hkept⟩, hop₁, hret, htake⟩ :=
    drive_claim buffer hop' hs hdel
  obtain ⟨b, hop₂⟩ := hkept i op (Nat.ne_of_lt hij) hop
  refine ⟨es, t, hrun, fun hgap => ?_⟩
  exact not_claimable_of_cancelled { op with abortRequested := b } hcancelled
    (hgap j op₁ .buffer buffer' hop₁ hret htake i _ hij hop₂ hproduced)

/-- What holds of every reachable state, whatever was cancelled in it. -/
structure Reached (s : AsyncSystem (readStreamCell C V)) : Prop where
  custody : ∃ c, s.Refines c
  tasks : ∀ (i : AbortHandle) op, s.ops[i]? = some op → TaskSound op
  cancels : ∀ (i : AbortHandle) op, s.ops[i]? = some op → CancelSound s.core op
  repeats : ∀ (i : AbortHandle) op, s.ops[i]? = some op → op.RepeatedSound
  lineage : s.Lineage

theorem reached_step : Preserves (@step _ _ (readStreamCell C V)) Reached := by
  intro s e t hstep hs
  obtain ⟨hR, htasks, hcancels, hrepeats, hlineage⟩ := hs
  exact ⟨simulates_custody.preserves hstep hR, taskSound_step hstep htasks,
    cancelSound_step hstep hcancels, repeatedSound_step hstep hrepeats,
    lineage_step hstep hR hlineage⟩

theorem reached_opened (cursor : C) : (opened (readStreamCell C V) cursor).Reached :=
  ⟨⟨_, refines_opened _ cursor⟩, by simp [opened], by simp [opened], by simp [opened],
    lineage_opened cursor⟩

theorem Reached.lent (hs : s.Reached) {op : AsyncOp (readStreamCell C V)}
    (hop : s.ops[i]? = some op) (hdel : op.Deliverable) : op.lent = true := by
  by_contra hne
  have hwork := (hs.repeats i op hop (Bool.not_eq_true _ ▸ hne)).1
  obtain ⟨-, -, ⟨cursor, h⟩ | ⟨buffer, h⟩⟩ := hdel <;> rw [hwork] at h <;> cases h

/-- A step that does not cancel last can be continued to a take across a gap. -/
theorem gap_follows (buffer : V) (hs : s.Reached) (hstep : s.step e = some t)
    (hC : ¬ s.CancelsLast e) : ∃ es u, run step t es = some u ∧ ¬ u.GapFree := by
  have ht : t.Reached := reached_step hstep hs
  cases e with
  | close => exact absurd trivial hC
  | start call signal =>
    simp only [CancelsLast, Classical.not_imp, not_forall, not_not] at hC
    obtain ⟨⟨cursor, hstored⟩, i, op, hop, hpoisoning⟩ := hC
    rcases step_cases hstep with ⟨rfl, call', signal', f, he, hres⟩ |
        ⟨call', signal', -, -, hview, rfl⟩ | ⟨call', signal', cursor', core, he, -, -, rfl⟩ |
        ⟨i, a, op, core, aborted, op', he, -, -, -⟩ | ⟨he, -⟩
    · cases he
      rw [((readStreamCell C V).take_stored call hstored).1] at hres
      cases hres
    · rw [hstored] at hview
      cases hview
    · cases he
      have hlt := (List.getElem?_eq_some_iff.mp hop).1
      have hnot : ¬ s.Over := by
        intro h
        rcases h with h | h <;> rw [hstored] at h <;> cases h
      have hlent : op.lent = true := by
        by_contra hne
        exact hnot (hs.lineage.unlent i op hop (Bool.not_eq_true _ ▸ hne))
      obtain ⟨c, hR⟩ := hs.custody
      have hproduced := hs.lineage.produced i op hop hlent
        (fun h => hR.stored hstored ⟨op, hop, h⟩) hnot
      have hcancelled : op.task.state = .cancelled :=
        (hs.cancels i op hop).cancelled_iff.mpr (by simp [hpoisoning])
      have hnew : (s.ops ++ [AsyncOp.started call signal s.ops.length (some cursor')])[
          s.ops.length]? = some (.started call signal s.ops.length (some cursor')) := by simp
      exact gap_of_lost buffer hlt ((List.getElem?_append_left hlt).trans hop) hproduced
        hcancelled hnew (ht.tasks _ _ hnew) ⟨by simp [AsyncOp.started], by simp [AsyncOp.started],
          .inl ⟨cursor', rfl⟩⟩
    · cases he
    · cases he
  | op i a =>
    cases a with
    | cancel =>
      simp only [CancelsLast, not_forall, not_not] at hC
      obtain ⟨op, hop, htaken, hcancelled, j, op', hij, hop', hdel⟩ := hC
      have hproduced := hs.lineage.earlier i j op op' hij hop hop' (hs.lent hop' hdel)
      simp only [step, hop, Option.bind_eq_bind, Option.bind_some, Option.bind_eq_some_iff] at hstep
      obtain ⟨⟨core, aborted, acted⟩, hact, heq⟩ := hstep
      cases heq
      obtain ⟨-, rfl, -, hacted⟩ := AsyncOp.cancel_eq_some hact
      obtain ⟨b, hget⟩ := getElem?_requestAbort aborted (s.ops.set i acted) i
      rw [List.getElem?_set_self (List.getElem?_eq_some_iff.mp hop).1, Option.map_some] at hget
      obtain ⟨b', hget'⟩ := getElem?_requestAbort aborted (s.ops.set i acted) j
      rw [List.getElem?_set_ne (Nat.ne_of_lt hij), hop', Option.map_some] at hget'
      refine gap_of_lost buffer hij hget ?_ ?_ hget' (ht.tasks j _ hget') hdel
      · rw [hacted]
        exact hproduced
      · rw [hacted]
        simp only [(cancel_unclaimed htaken hcancelled).1]
    | _ => exact absurd trivial hC

end AsyncSystem

open AsyncSystem

/-- A stream delivers no gap along every run that cancels last, and a step that does not
can be continued to a gap. -/
theorem stream_delivery {cursor : C} (buffer : V) {es : List (AsyncEvent (readStreamCell C V))}
    {s : AsyncSystem (readStreamCell C V)}
    (hrun : run step (opened (readStreamCell C V) cursor) es = some s) :
    (Along step CancelsLast (opened (readStreamCell C V) cursor) es →
      Always step GapFree (opened (readStreamCell C V) cursor) es ∧
      ∀ (i j : AbortHandle) (op op' : AsyncOp (readStreamCell C V)) k buffer, i < j →
        s.ops[i]? = some op → op.task.state = .cancelled → s.ops[j]? = some op' →
        (op'.task.take k).1 ≠ .ok (chunkOutcome buffer)) ∧
    ∀ e t, s.step e = some t → ¬ s.CancelsLast e →
      ∃ fs u, run step t fs = some u ∧ ¬ u.GapFree :=
  ⟨no_gap hrun, fun _ _ hstep hC =>
    gap_follows buffer (reached_step.run (reached_opened cursor) hrun) hstep hC⟩

/-- A chunk is produced and cancelled unclaimed while nothing was started behind it. -/
theorem stream_delivery_cancelled_last :
    ∃ s : AsyncSystem (readStreamCell Unit Nat),
      run step (opened (readStreamCell Unit Nat) ())
        [.start () ⟨3⟩, .op 0 .spawn, .op 0 (.complete (ReadStreamResult.chunk 1) false),
          .op 0 .install, .op 0 .cancel, .op 0 .poison] = some s ∧
      s.core = AsyncReadStreamState.failed ∧
      Always step GapFree (opened (readStreamCell Unit Nat) ())
        [.start () ⟨3⟩, .op 0 .spawn, .op 0 (.complete (ReadStreamResult.chunk 1) false),
          .op 0 .install, .op 0 .cancel, .op 0 .poison] := by
  obtain ⟨s, hrun, hcore⟩ : ∃ s : AsyncSystem (readStreamCell Unit Nat),
      run step (opened (readStreamCell Unit Nat) ())
        [.start () ⟨3⟩, .op 0 .spawn, .op 0 (.complete (ReadStreamResult.chunk 1) false),
          .op 0 .install, .op 0 .cancel, .op 0 .poison] = some s ∧
      s.core = AsyncReadStreamState.failed := ⟨_, rfl, rfl⟩
  refine ⟨s, hrun, hcore, ((stream_delivery 7 hrun).1 ?_).1⟩
  refine ⟨fun _ i op hop => (by simp [opened] at hop), fun _ h => ?_⟩
  cases h
  refine ⟨trivial, fun _ h => ?_⟩
  cases h
  refine ⟨trivial, fun _ h => ?_⟩
  cases h
  refine ⟨trivial, fun _ h => ?_⟩
  cases h
  refine ⟨fun op hop _ _ j op' hj hop' => ?_, fun _ h => ?_⟩
  · -- there is no operation behind the first
    cases j with
    | zero => cases hj
    | succ j => cases hop'
  · cases h
    exact ⟨trivial, fun _ _ => trivial⟩

/-- The second of two chunks is handed out after the first was cancelled unclaimed. -/
theorem chunk_lost_by_cancel :
    ∃ (s : AsyncSystem (readStreamCell Unit Nat)) (op₀ op₁ : AsyncOp (readStreamCell Unit Nat)),
      run step (opened (readStreamCell Unit Nat) ())
        [.start () ⟨3⟩, .op 0 .spawn, .op 0 (.complete (ReadStreamResult.chunk 1) false),
          .op 0 .install, .op 0 .publish, .start () ⟨4⟩, .op 1 .spawn, .op 1 .install,
          .op 1 (.complete (ReadStreamResult.chunk 2) false), .op 1 .publish,
          .op 0 .cancel, .op 0 .poison] = some s ∧
      s.ops[0]? = some op₀ ∧ op₀.work = .returned (chunkOutcome 1) ∧
      op₀.task.state = .cancelled ∧
      s.ops[1]? = some op₁ ∧ op₁.starter = .returned ∧
      (op₁.task.take .buffer).1 = .ok (chunkOutcome 2) ∧ ¬ s.GapFree := by
  refine ⟨_, _, _, rfl, rfl, rfl, rfl, rfl, rfl, rfl, fun hgap => ?_⟩
  exact not_claimable_of_cancelled _ rfl (hgap 1 _ .buffer 2 rfl rfl rfl 0 _ Nat.zero_lt_one rfl
    ⟨1, rfl⟩)

end OpendalMbt.Native
