import Mathlib.Data.List.Basic
import Mathlib.Tactic.Common

/-!
# Cutting buffers into chunks

A chunker takes buffers from a source one at a time and gives out chunks of at most `size`
elements; what it cuts off is kept for the next chunk. `cut` is one cut, `pieces` all cuts
of one buffer, and `remaining` every chunk still to come.

* `flatten_pieces`, `length_of_mem_pieces`: cutting loses nothing and keeps to the size.
* `remaining_of_pending`, `remaining_of_buffer`: a cut takes off the first chunk to come.
* `flatten_remaining`: the chunks to come are what is kept and what is in the source.
* `Serves.replies`: a machine that cuts one chunk a call gives out the remaining ones.
-/

namespace OpendalMbt.Codec

variable {α : Type} {size : Nat} {buffer : List α}

/-- The first chunk, and the rest unless it is empty. -/
def cut (size : Nat) (buffer : List α) : List α × Option (List α) :=
  let rest := buffer.drop (min buffer.length size)
  (buffer.take (min buffer.length size), if rest.isEmpty then none else some rest)

/-- An empty buffer is one empty piece. -/
def pieces (size : Nat) (buffer : List α) : List (List α) :=
  if 0 < size ∧ size < buffer.length then buffer.take size :: pieces size (buffer.drop size)
  else [buffer]
termination_by buffer.length
decreasing_by
  rw [List.length_drop]
  omega

theorem pieces_of_le (h : buffer.length ≤ size) : pieces size buffer = [buffer] := by
  rw [pieces, if_neg (by omega)]

theorem pieces_of_lt (hsize : 0 < size) (h : size < buffer.length) :
    pieces size buffer = buffer.take size :: pieces size (buffer.drop size) := by
  rw [pieces, if_pos ⟨hsize, h⟩]

theorem cut_of_le (h : buffer.length ≤ size) : cut size buffer = (buffer, none) := by
  simp [cut, Nat.min_eq_left h]

theorem cut_of_lt (h : size < buffer.length) :
    cut size buffer = (buffer.take size, some (buffer.drop size)) := by
  simp only [cut, Nat.min_eq_right (Nat.le_of_lt h), List.isEmpty_iff, List.drop_eq_nil_iff]
  rw [if_neg (by omega)]

/-- What a buffer that is cut once leaves is cut into the other pieces. -/
theorem pieces_eq_cut (hsize : 0 < size) :
    pieces size buffer =
      (cut size buffer).1 :: ((cut size buffer).2.map (pieces size)).getD [] := by
  by_cases h : buffer.length ≤ size
  · rw [pieces_of_le h, cut_of_le h]
    rfl
  · rw [pieces_of_lt hsize (by omega), cut_of_lt (by omega)]
    rfl

theorem length_cut_le (size : Nat) (buffer : List α) : (cut size buffer).1.length ≤ size := by
  rw [cut, List.length_take]
  omega

theorem append_cut (size : Nat) (buffer : List α) :
    (cut size buffer).1 ++ (cut size buffer).2.getD [] = buffer := by
  by_cases h : buffer.length ≤ size
  · rw [cut_of_le h]
    simp
  · rw [cut_of_lt (by omega)]
    simp

theorem cut_rest_ne_nil {rest : List α} (h : (cut size buffer).2 = some rest) : rest ≠ [] := by
  by_cases hle : buffer.length ≤ size
  · rw [cut_of_le hle] at h
    cases h
  · rw [cut_of_lt (by omega)] at h
    cases h
    intro hnil
    rw [List.drop_eq_nil_iff] at hnil
    omega

theorem flatten_pieces (hsize : 0 < size) (buffer : List α) :
    (pieces size buffer).flatten = buffer := by
  induction buffer using pieces.induct size with
  | case1 buffer h ih => rw [pieces_of_lt h.1 h.2, List.flatten_cons, ih, List.take_append_drop]
  | case2 buffer h =>
    rw [pieces_of_le (by omega)]
    simp

theorem length_of_mem_pieces (hsize : 0 < size) {buffer piece : List α}
    (h : piece ∈ pieces size buffer) : piece.length ≤ size := by
  induction buffer using pieces.induct size with
  | case1 buffer hlt ih =>
    rw [pieces_of_lt hlt.1 hlt.2] at h
    rcases List.mem_cons.mp h with rfl | h
    · rw [List.length_take]
      omega
    · exact ih h
  | case2 buffer hle =>
    rw [pieces_of_le (by omega)] at h
    rw [List.mem_singleton.mp h]
    omega

/-! ## The chunks to come -/

/-- Every chunk still to come from a kept rest and the buffers of a source. -/
def remaining (size : Nat) (pending : Option (List α)) (buffers : List (List α)) :
    List (List α) :=
  (pending.map (pieces size)).getD [] ++ buffers.flatMap (pieces size)

@[simp] theorem remaining_nil : remaining size (none : Option (List α)) [] = [] := rfl

theorem remaining_of_pending (hsize : 0 < size) (buffers : List (List α)) :
    remaining size (some buffer) buffers =
      (cut size buffer).1 :: remaining size (cut size buffer).2 buffers := by
  rw [remaining, Option.map_some, Option.getD_some, pieces_eq_cut hsize, List.cons_append,
    remaining]

theorem remaining_of_buffer (hsize : 0 < size) (buffers : List (List α)) :
    remaining size none (buffer :: buffers) =
      (cut size buffer).1 :: remaining size (cut size buffer).2 buffers := by
  rw [← remaining_of_pending hsize]
  simp [remaining]

theorem flatten_flatMap_pieces (hsize : 0 < size) (buffers : List (List α)) :
    (buffers.flatMap (pieces size)).flatten = buffers.flatten := by
  induction buffers with
  | nil => rfl
  | cons buffer buffers ih =>
    rw [List.flatMap_cons, List.flatten_append, flatten_pieces hsize, ih, List.flatten_cons]

theorem flatten_remaining (hsize : 0 < size) (pending : Option (List α))
    (buffers : List (List α)) :
    (remaining size pending buffers).flatten = pending.getD [] ++ buffers.flatten := by
  rw [remaining, List.flatten_append, flatten_flatMap_pieces hsize]
  cases pending with
  | none => rfl
  | some rest => rw [Option.map_some, Option.getD_some, flatten_pieces hsize, Option.getD_some]

/-! ## Machines that give out chunks -/

section Serves

variable {ι σ β : Type}

/-- The replies of a machine to a sequence of inputs. -/
def replies (next : ι → σ → β × σ) : σ → List ι → List β
  | _, [] => []
  | s, i :: inputs => (next i s).1 :: replies next (next i s).2 inputs

/-- On every input that is `Good`, the machine in a state that `Holds` a kept rest and the
buffers of a source replies with the next chunk, or with `stop` when there is none. -/
structure Serves (size : Nat) (next : ι → σ → β × σ) (Good : ι → Prop)
    (Holds : σ → Option (List α) → List (List α) → Prop) (chunk : List α → β) (stop : β) :
    Prop where
  pending : ∀ i s buffer buffers, Good i → Holds s (some buffer) buffers →
    (next i s).1 = chunk (cut size buffer).1 ∧ Holds (next i s).2 (cut size buffer).2 buffers
  buffer : ∀ i s buffer buffers, Good i → Holds s none (buffer :: buffers) →
    (next i s).1 = chunk (cut size buffer).1 ∧ Holds (next i s).2 (cut size buffer).2 buffers
  done : ∀ i s, Good i → Holds s none [] → (next i s).1 = stop

/-- The remaining chunks in order, and then `stop`. -/
theorem Serves.replies {next : ι → σ → β × σ} {Good : ι → Prop}
    {Holds : σ → Option (List α) → List (List α) → Prop} {chunk : List α → β} {stop : β}
    (h : Serves size next Good Holds chunk stop) (hsize : 0 < size) {s : σ}
    (pending : Option (List α)) (buffers : List (List α)) (hs : Holds s pending buffers)
    {inputs : List ι} (hgood : ∀ i ∈ inputs, Good i)
    (hlength : inputs.length = (remaining size pending buffers).length + 1) :
    Codec.replies next s inputs = (remaining size pending buffers).map chunk ++ [stop] := by
  induction inputs generalizing s pending buffers with
  | nil => cases hlength
  | cons i inputs ih =>
    have hi : Good i := hgood i List.mem_cons_self
    have hrest : ∀ j ∈ inputs, Good j := fun j hj => hgood j (List.mem_cons_of_mem i hj)
    rw [Codec.replies]
    cases pending with
    | some buffer =>
      obtain ⟨hreply, hnext⟩ := h.pending i s buffer buffers hi hs
      rw [remaining_of_pending hsize] at hlength
      simp only [List.length_cons, Nat.add_right_cancel_iff] at hlength
      rw [hreply, ih _ _ hnext hrest hlength, remaining_of_pending hsize]
      rfl
    | none =>
      cases buffers with
      | cons buffer buffers =>
        obtain ⟨hreply, hnext⟩ := h.buffer i s buffer buffers hi hs
        rw [remaining_of_buffer hsize] at hlength
        simp only [List.length_cons, Nat.add_right_cancel_iff] at hlength
        rw [hreply, ih _ _ hnext hrest hlength, remaining_of_buffer hsize]
        rfl
      | nil =>
        have hnil : inputs = [] := List.length_eq_zero_iff.mp (by simpa using hlength)
        rw [hnil, h.done i s hi hs]
        rfl

end Serves

end OpendalMbt.Codec
