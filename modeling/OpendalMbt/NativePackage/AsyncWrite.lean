import OpendalMbt.NativePackage.Batch
import OpendalMbt.Transition.Loop

/-!
# Whole-object writes through a writer

`AsyncOperator::write` of `src/async.mbt`: the data is cut into chunks for the writer, and a writer
that fails is aborted. An `Int` of MoonBit is an `Int32`. What the writer answers may depend on all
calls so far.

* `toInt_offsetAt`: the offset of a turn, as a number;
* `triple_turn`, `triple_loop`: the chunks that have been written, after a turn and after the loop;
* `async_write_chunking`: the calls that the writer gets, and what comes of them.
-/

namespace OpendalMbt.NativePackage

open Native Transition

/-- A view of bytes, whose length is an `Int`. -/
structure BytesView where
  bytes : List UInt8
  fits : bytes.length < 2 ^ 31

def BytesView.length (data : BytesView) : Int32 := Int32.ofNat data.bytes.length

/-- An error of the binding, or another one such as a cancellation. -/
inductive MoonBitError (ε : Type) where
  | binding (error : PathError)
  | other (error : ε)

/-- What ends a function early; an error may be caught. -/
inductive Stop (ε : Type) where
  | raised (error : MoonBitError ε)
  | panicked

structure WriteOptions where
  append : Bool := false
  contentType : Option Codec.JsString := none
  contentDisposition : Option Codec.JsString := none
  contentEncoding : Option Codec.JsString := none
  cacheControl : Option Codec.JsString := none
  ifMatch : Option Codec.JsString := none
  ifNoneMatch : Option Codec.JsString := none
  deriving DecidableEq, Repr

inductive WriterCall where
  | openWriter (path : Codec.JsString) (options : WriteOptions)
  | write (chunk : List UInt8)
  | finish
  | abort
  deriving DecidableEq, Repr

/-- The answers to the calls so far, the last of which is to be answered. -/
structure WriterAnswers (ε M : Type) where
  openWriter : List WriterCall → Except (MoonBitError ε) Unit
  write : List WriterCall → Except (MoonBitError ε) Unit
  finish : List WriterCall → Except (MoonBitError ε) M
  abort : List WriterCall → Except (MoonBitError ε) Unit

/-- A function that calls the writer, with the calls in their order. -/
abbrev Writing (ε : Type) : Type → Type := Call (List WriterCall) (Stop ε)

section

variable {ε M α : Type}

def ask (call : WriterCall) (answer : List WriterCall → Except (MoonBitError ε) α) :
    Writing ε α := fun calls =>
  ((answer (calls ++ [call])).mapError .raised, calls ++ [call])

/-- `data[start:stop]` panics outside the view. -/
def slice (data : BytesView) (start stop : Int32) : Writing ε (List UInt8) :=
  if 0 ≤ start ∧ start ≤ stop ∧ stop ≤ data.length then
    pure ((data.bytes.take stop.toInt.toNat).drop start.toInt.toNat)
  else Call.throw .panicked

/-- `Int::min(offset + 256 * 1024, data.length())` -/
def nextOffset (data : BytesView) (offset : Int32) : Int32 :=
  if offset + 256 * 1024 ≤ data.length then offset + 256 * 1024 else data.length

def writeTooLarge (path : Codec.JsString) : PathError where
  kind := .bufferTooLarge
  status := .permanent
  message := "portable whole-object write must not exceed 64 MiB"
  operation := .write
  path := path

/-- `write`, which returns `none` when the fuel for its loop is spent. -/
def asyncOperatorWrite (answers : WriterAnswers ε M) (path : Codec.JsString) (data : BytesView)
    (options : WriteOptions) (fuel : Nat) : Writing ε (Option M) :=
  if 64 * 1024 * 1024 < data.length then Call.throw (.raised (.binding (writeTooLarge path)))
  else do
    ask (.openWriter path options) answers.openWriter
    Call.tryCatch
      (do
        let ended ← Call.whileDo (fun offset => offset < data.length)
          (fun offset => do
            let next := nextOffset data offset
            let chunk ← slice data offset next
            ask (.write chunk) answers.write
            pure next) fuel 0
        match ended with
        | none => pure none
        | some _ => do
          let metadata ← ask .finish answers.finish
          pure (some metadata))
      fun
      | .panicked => Call.throw .panicked
      | .raised error => do
        Call.tryCatch (ask .abort answers.abort) fun
          | .panicked => Call.throw .panicked
          | .raised _ => pure ()
        Call.throw (.raised error)

end

/-! ## Offsets -/

section Offsets

variable {data : BytesView} {offset : Int32} {k : Nat}

theorem toInt_length (data : BytesView) : data.length.toInt = data.bytes.length :=
  Int32.toInt_ofNat_of_lt data.fits

theorem not_tooLarge_iff :
    ¬ (64 * 1024 * 1024 : Int32) < data.length ↔ data.bytes.length ≤ 67108864 := by
  have hlimit : (64 * 1024 * 1024 : Int32).toInt = 67108864 := by decide
  rw [Int32.lt_iff_toInt_lt, toInt_length, hlimit]
  omega

/-- Below the limit the addition does not overflow. -/
theorem toInt_add_chunk (hlimit : data.bytes.length ≤ 67108864) (hpos : 0 ≤ offset.toInt)
    (hle : offset.toInt ≤ data.bytes.length) :
    (offset + 256 * 1024).toInt = offset.toInt + 262144 := by
  have hchunk : (256 * 1024 : Int32).toInt = 262144 := by decide
  rw [Int32.toInt_add, hchunk]
  apply Int.bmod_eq_of_le <;> omega

theorem toInt_nextOffset (hlimit : data.bytes.length ≤ 67108864) (hpos : 0 ≤ offset.toInt)
    (hle : offset.toInt ≤ data.bytes.length) :
    (nextOffset data offset).toInt = min (offset.toInt + 262144) data.bytes.length := by
  have hadd := toInt_add_chunk hlimit hpos hle
  unfold nextOffset
  split_ifs with h
  · rw [Int32.le_iff_toInt_le, hadd, toInt_length] at h
    rw [hadd]
    omega
  · rw [Int32.le_iff_toInt_le, hadd, toInt_length] at h
    rw [toInt_length]
    omega

/-- The offset at the start of a turn. -/
def offsetAt (data : BytesView) (k : Nat) : Int32 := (nextOffset data)^[k] 0

theorem toInt_offsetAt (data : BytesView) (hlimit : data.bytes.length ≤ 67108864) (k : Nat) :
    (offsetAt data k).toInt = min (k * 262144) data.bytes.length := by
  induction k with
  | zero =>
    have hzero : (0 : Int32).toInt = 0 := by decide
    unfold offsetAt
    rw [Function.iterate_zero, id, hzero]
    omega
  | succ k ih =>
    have hnext : offsetAt data (k + 1) = nextOffset data (offsetAt data k) :=
      Function.iterate_succ_apply' _ _ _
    rw [hnext, toInt_nextOffset hlimit (by omega) (by omega), ih]
    omega

/-! ### Chunks -/

/-- The chunk of a turn. -/
def chunkAt (bytes : List UInt8) (k : Nat) : List UInt8 := (bytes.drop (k * 262144)).take 262144

def chunksTo (bytes : List UInt8) (k : Nat) : List (List UInt8) := (List.range k).map (chunkAt bytes)

theorem flatten_chunksTo (bytes : List UInt8) (k : Nat) :
    (chunksTo bytes k).flatten = bytes.take (k * 262144) := by
  induction k with
  | zero => simp [chunksTo]
  | succ k ih =>
    unfold chunksTo at ih ⊢
    rw [List.range_succ, List.map_append, List.flatten_append, ih, Nat.succ_mul, List.take_add]
    simp [chunkAt]

theorem chunksTo_succ (bytes : List UInt8) (k : Nat) :
    chunksTo bytes (k + 1) = chunksTo bytes k ++ [chunkAt bytes k] := by
  unfold chunksTo
  rw [List.range_succ, List.map_append, List.map_singleton]

/-- The number of turns. -/
def turns (bytes : List UInt8) : Nat := (bytes.length + 262143) / 262144

/-- The chunks of the data. -/
def chunks (bytes : List UInt8) : List (List UInt8) := chunksTo bytes (turns bytes)

theorem lt_turns_iff {bytes : List UInt8} : k < turns bytes ↔ k * 262144 < bytes.length := by
  unfold turns
  omega

theorem flatten_chunks (bytes : List UInt8) : (chunks bytes).flatten = bytes := by
  unfold chunks
  rw [flatten_chunksTo]
  apply List.take_of_length_le
  unfold turns
  omega

theorem mem_chunks {bytes chunk : List UInt8} (h : chunk ∈ chunks bytes) :
    chunk ≠ [] ∧ chunk.length ≤ 262144 := by
  obtain ⟨k, hk, rfl⟩ := List.mem_map.mp h
  have hlt := lt_turns_iff.mp (List.mem_range.mp hk)
  have hlength : (chunkAt bytes k).length = min 262144 (bytes.length - k * 262144) := by
    unfold chunkAt
    rw [List.length_take, List.length_drop]
  constructor
  · intro hnil
    rw [hnil, List.length_nil] at hlength
    omega
  · omega

theorem length_chunks (bytes : List UInt8) : (chunks bytes).length = turns bytes := by
  simp [chunks, chunksTo]

theorem take_chunks {bytes : List UInt8} (hk : k ≤ turns bytes) :
    (chunks bytes).take k = chunksTo bytes k := by
  unfold chunks chunksTo
  rw [← List.map_take, List.take_range, Nat.min_eq_left hk]

end Offsets

/-! ## Calls -/

section Calls

variable {ε M α : Type} {answers : WriterAnswers ε M} {data : BytesView} {offset : Int32} {k : Nat}
  {opened : WriterCall}

theorem triple_ask (P : List WriterCall → Prop) (call : WriterCall)
    (answer : List WriterCall → Except (MoonBitError ε) α) :
    Call.Triple P (ask call answer)
      (fun a calls => ∃ before, P before ∧ calls = before ++ [call] ∧ answer calls = .ok a)
      (fun stop calls => ∃ before error, P before ∧ calls = before ++ [call] ∧
        answer calls = .error error ∧ stop = .raised error) := by
  intro before hbefore
  unfold ask
  cases hanswer : answer (before ++ [call]) with
  | ok a => exact ⟨before, hbefore, rfl, hanswer⟩
  | error error => exact ⟨before, error, hbefore, rfl, hanswer, rfl⟩

/-- A slice inside the data. -/
theorem slice_eq {start stop : Int32} (hpos : 0 ≤ start.toInt) (hle : start.toInt ≤ stop.toInt)
    (hend : stop.toInt ≤ data.bytes.length) :
    (slice data start stop : Writing ε _) =
      pure ((data.bytes.take stop.toInt.toNat).drop start.toInt.toNat) := by
  have hzero : (0 : Int32).toInt = 0 := by decide
  unfold slice
  apply if_pos
  rw [Int32.le_iff_toInt_le, Int32.le_iff_toInt_le, Int32.le_iff_toInt_le, hzero, toInt_length]
  exact ⟨hpos, hle, hend⟩

/-- The calls when chunks have been written. -/
def writesOf (opened : WriterCall) (chunks : List (List UInt8)) : List WriterCall :=
  opened :: chunks.map .write

theorem writesOf_concat (opened : WriterCall) (chunks : List (List UInt8)) (chunk : List UInt8) :
    writesOf opened chunks ++ [.write chunk] = writesOf opened (chunks ++ [chunk]) := by
  simp [writesOf]

/-- The first writes have succeeded. -/
def Written (answers : WriterAnswers ε M) (opened : WriterCall) (bytes : List UInt8) (k : Nat) : Prop :=
  ∀ j < k, answers.write (writesOf opened (chunksTo bytes (j + 1))) = .ok ()

/-- At the start of a turn. -/
def AtTurn (answers : WriterAnswers ε M) (opened : WriterCall) (data : BytesView) (offset : Int32)
    (calls : List WriterCall) : Prop :=
  ∃ k, k ≤ turns data.bytes ∧ offset = offsetAt data k ∧
    calls = writesOf opened (chunksTo data.bytes k) ∧ Written answers opened data.bytes k

/-- A write has failed. -/
def WriteFailed (answers : WriterAnswers ε M) (opened : WriterCall) (data : BytesView) (stop : Stop ε)
    (calls : List WriterCall) : Prop :=
  ∃ k error, k < turns data.bytes ∧ Written answers opened data.bytes k ∧
    calls = writesOf opened (chunksTo data.bytes (k + 1)) ∧ answers.write calls = .error error ∧
      stop = .raised error

theorem lt_length_iff (hlimit : data.bytes.length ≤ 67108864) :
    offsetAt data k < data.length ↔ k < turns data.bytes := by
  rw [Int32.lt_iff_toInt_lt, toInt_offsetAt data hlimit, toInt_length, lt_turns_iff]
  omega

/-- What the slice of a turn takes. -/
theorem chunkAt_eq (bytes : List UInt8) (k : Nat) :
    (bytes.take (min (k * 262144 + 262144) bytes.length)).drop (k * 262144) = chunkAt bytes k := by
  unfold chunkAt
  rw [List.drop_take, List.take_eq_take_iff, List.length_drop]
  omega

/-- The offsets of a turn as numbers. -/
theorem toNat_offsetAt (hlimit : data.bytes.length ≤ 67108864) (hk : k < turns data.bytes) :
    (offsetAt data k).toInt.toNat = k * 262144 ∧ (offsetAt data (k + 1)).toInt.toNat =
      min (k * 262144 + 262144) data.bytes.length := by
  have hlt := lt_turns_iff.mp hk
  rw [toInt_offsetAt data hlimit, toInt_offsetAt data hlimit]
  constructor <;> omega

theorem slice_turn (hlimit : data.bytes.length ≤ 67108864) (hk : k < turns data.bytes) :
    (slice data (offsetAt data k) (offsetAt data (k + 1)) : Writing ε _) =
      pure (chunkAt data.bytes k) := by
  obtain ⟨hstart, hstop⟩ := toNat_offsetAt hlimit hk
  have hpos : 0 ≤ (offsetAt data k).toInt := by
    rw [toInt_offsetAt data hlimit]
    omega
  have hle : (offsetAt data k).toInt ≤ (offsetAt data (k + 1)).toInt := by
    rw [toInt_offsetAt data hlimit, toInt_offsetAt data hlimit]
    omega
  have hend : (offsetAt data (k + 1)).toInt ≤ data.bytes.length := by
    rw [toInt_offsetAt data hlimit]
    omega
  rw [slice_eq hpos hle hend, hstart, hstop, chunkAt_eq]

/-- One turn writes the next chunk. -/
theorem triple_turn (hlimit : data.bytes.length ≤ 67108864) (answers : WriterAnswers ε M)
    (hturn : offset < data.length) :
    Call.Triple (AtTurn answers opened data offset)
      (do
        let next := nextOffset data offset
        let chunk ← slice data offset next
        ask (.write chunk) answers.write
        pure next)
      (fun next calls => AtTurn answers opened data next calls ∧
        (data.bytes.length - next.toInt.toNat) < (data.bytes.length - offset.toInt.toNat))
      (WriteFailed answers opened data) := by
  intro calls hcalls
  obtain ⟨k, -, rfl, rfl, hwritten⟩ := hcalls
  have hk : k < turns data.bytes := (lt_length_iff hlimit).mp hturn
  have hlt := lt_turns_iff.mp hk
  have hoffset := toInt_offsetAt data hlimit k
  have hstop := toInt_offsetAt data hlimit (k + 1)
  have hnext : nextOffset data (offsetAt data k) = offsetAt data (k + 1) :=
    (Function.iterate_succ_apply' _ _ _).symm
  have hslice : (slice data (offsetAt data k) (offsetAt data (k + 1)) : Writing ε _) =
      pure (chunkAt data.bytes k) := slice_turn hlimit hk
  have hturns : Call.Triple (fun calls => calls = writesOf opened (chunksTo data.bytes k))
      (do
        let next := nextOffset data (offsetAt data k)
        let chunk ← slice data (offsetAt data k) next
        ask (.write chunk) answers.write
        pure next)
      (fun next calls => AtTurn answers opened data next calls ∧
        data.bytes.length - next.toInt.toNat <
          data.bytes.length - (offsetAt data k).toInt.toNat)
      (WriteFailed answers opened data) := by
    dsimp only
    rw [hnext, hslice]
    rintro calls rfl
    rw [Call.bind_apply_ok (Call.pure_apply _ _)]
    have hask := triple_ask (fun calls => calls = writesOf opened (chunksTo data.bytes k))
      (.write (chunkAt data.bytes k)) answers.write _ rfl
    cases hrun : ask (.write (chunkAt data.bytes k)) answers.write
        (writesOf opened (chunksTo data.bytes k)) with
    | mk result after =>
      rw [hrun] at hask
      cases result with
      | error stop =>
        rw [Call.bind_apply_error hrun]
        obtain ⟨before, error, rfl, rfl, hfailed, rfl⟩ := hask
        rw [writesOf_concat, ← chunksTo_succ] at hfailed ⊢
        exact ⟨k, error, hk, hwritten, rfl, hfailed, rfl⟩
      | ok u =>
        rw [Call.bind_apply_ok hrun]
        obtain ⟨before, rfl, rfl, hok⟩ := hask
        rw [writesOf_concat, ← chunksTo_succ] at hok ⊢
        refine ⟨⟨k + 1, hk, rfl, rfl, ?_⟩, by omega⟩
        intro j hj
        rcases Nat.lt_succ_iff_lt_or_eq.mp hj with hj | rfl
        · exact hwritten j hj
        · exact hok
  exact hturns _ rfl

/-- The loop ends after the last chunk, or with a write that has failed. -/
theorem triple_loop (hlimit : data.bytes.length ≤ 67108864) (answers : WriterAnswers ε M)
    {fuel : Nat} (hfuel : data.bytes.length < fuel) :
    Call.Triple (fun calls => calls = [opened])
      (Call.whileDo (fun offset => offset < data.length)
        (fun offset => do
          let next := nextOffset data offset
          let chunk ← slice data offset next
          ask (.write chunk) answers.write
          pure next) fuel 0)
      (fun ended calls => ended.isSome ∧ calls = writesOf opened (chunks data.bytes) ∧
        Written answers opened data.bytes (turns data.bytes))
      (WriteFailed answers opened data) := by
  have hloop := Call.Triple.whileDo (I := AtTurn answers opened data) (a := 0)
    (fun offset => data.bytes.length - offset.toInt.toNat)
    (fun offset hturn => triple_turn hlimit answers (of_decide_eq_true hturn))
    (Nat.lt_of_le_of_lt (Nat.sub_le _ _) hfuel)
  apply hloop.of_imp
  · rintro calls rfl
    exact ⟨0, Nat.zero_le _, rfl, rfl, fun j hj => absurd hj (Nat.not_lt_zero j)⟩
  · rintro ended calls ⟨offset, rfl, hend, k, hk, rfl, rfl, hwritten⟩
    have hlast : k = turns data.bytes := by
      have hnot : ¬ k < turns data.bytes := by
        rw [← lt_length_iff hlimit]
        exact of_decide_eq_false hend
      omega
    subst hlast
    exact ⟨rfl, rfl, hwritten⟩

/-- How `write` ends on an open writer that is given the chunks. -/
inductive WriteEnd (answers : WriterAnswers ε M) (opened : WriterCall) (bytes : List UInt8) :
    Except (Stop ε) (Option M) × List WriterCall → Prop where
  | finished {m : M} (hwritten : Written answers opened bytes (turns bytes))
      (hfinish : answers.finish (writesOf opened (chunks bytes) ++ [.finish]) = .ok m) :
      WriteEnd answers opened bytes (.ok (some m), writesOf opened (chunks bytes) ++ [.finish])
  | finishFailed {error : MoonBitError ε} (hwritten : Written answers opened bytes (turns bytes))
      (hfinish : answers.finish (writesOf opened (chunks bytes) ++ [.finish]) = .error error) :
      WriteEnd answers opened bytes
        (.error (.raised error), writesOf opened (chunks bytes) ++ [.finish, .abort])
  | writeFailed {k : Nat} {error : MoonBitError ε} (hk : k < turns bytes)
      (hwritten : Written answers opened bytes k)
      (hfailed : answers.write (writesOf opened (chunksTo bytes (k + 1))) = .error error) :
      WriteEnd answers opened bytes
        (.error (.raised error), writesOf opened (chunksTo bytes (k + 1)) ++ [.abort])

/-- The handler aborts, whatever comes of it, and raises the error again. -/
theorem handler_apply (error : MoonBitError ε) (calls : List WriterCall) :
    (do
      Call.tryCatch (ask .abort answers.abort) fun
        | .panicked => Call.throw .panicked
        | .raised _ => pure ()
      Call.throw (.raised error) : Writing ε (Option M)) calls =
        (.error (.raised error), calls ++ [.abort]) := by
  have habort : (Call.tryCatch (ask .abort answers.abort) fun
      | .panicked => Call.throw .panicked
      | .raised _ => pure () : Writing ε Unit) calls = (.ok (), calls ++ [.abort]) := by
    unfold Call.tryCatch ask
    cases answers.abort (calls ++ [.abort]) <;> rfl
  rw [Call.bind_apply_ok habort]
  rfl

/-- A body with a failing write, or with a failing `finish`. -/
def BodyFailed (answers : WriterAnswers ε M) (opened : WriterCall) (data : BytesView) (stop : Stop ε)
    (calls : List WriterCall) : Prop :=
  WriteFailed answers opened data stop calls ∨
    ∃ error, Written answers opened data.bytes (turns data.bytes) ∧
      calls = writesOf opened (chunks data.bytes) ++ [.finish] ∧ answers.finish calls = .error error ∧
        stop = .raised error

theorem triple_finish (answers : WriterAnswers ε M) (data : BytesView) (ended : Option Int32) :
    Call.Triple
      (fun calls => ended.isSome ∧ calls = writesOf opened (chunks data.bytes) ∧
        Written answers opened data.bytes (turns data.bytes))
      (match ended with
        | none => pure none
        | some _ => do
          let metadata ← ask .finish answers.finish
          pure (some metadata))
      (fun r calls => ∃ m, r = some m ∧ Written answers opened data.bytes (turns data.bytes) ∧
        calls = writesOf opened (chunks data.bytes) ++ [.finish] ∧ answers.finish calls = .ok m)
      (BodyFailed answers opened data) := by
  rintro calls ⟨hended, rfl, hwritten⟩
  obtain ⟨offset, rfl⟩ := Option.isSome_iff_exists.mp hended
  have hask := triple_ask (fun calls => calls = writesOf opened (chunks data.bytes)) .finish
    answers.finish _ rfl
  dsimp only
  cases hrun : ask .finish answers.finish (writesOf opened (chunks data.bytes)) with
  | mk result after =>
    rw [hrun] at hask
    cases result with
    | error stop =>
      rw [Call.bind_apply_error hrun]
      obtain ⟨before, error, rfl, rfl, hfailed, rfl⟩ := hask
      exact .inr ⟨error, hwritten, rfl, hfailed, rfl⟩
    | ok m =>
      rw [Call.bind_apply_ok hrun]
      obtain ⟨before, rfl, rfl, hok⟩ := hask
      exact ⟨m, rfl, hwritten, rfl, hok⟩

theorem triple_handler (answers : WriterAnswers ε M) (data : BytesView) (stop : Stop ε) :
    Call.Triple (BodyFailed answers opened data stop)
      (match stop with
        | .panicked => Call.throw .panicked
        | .raised error => do
          Call.tryCatch (ask .abort answers.abort) fun
            | .panicked => Call.throw .panicked
            | .raised _ => pure ()
          Call.throw (.raised error) : Writing ε (Option M))
      (fun r calls => WriteEnd answers opened data.bytes (.ok r, calls))
      (fun stop calls => WriteEnd answers opened data.bytes (.error stop, calls)) := by
  intro calls hcalls
  rcases hcalls with ⟨k, error, hk, hwritten, rfl, hfailed, rfl⟩ | ⟨error, hwritten, rfl, hfailed, rfl⟩
  · dsimp only
    rw [handler_apply]
    exact .writeFailed hk hwritten hfailed
  · dsimp only
    rw [handler_apply, List.append_assoc]
    exact .finishFailed hwritten hfailed

theorem ask_eq_error {call : WriterCall} {answer : List WriterCall → Except (MoonBitError ε) α}
    {error : MoonBitError ε} {calls : List WriterCall}
    (h : answer (calls ++ [call]) = .error error) :
    ask call answer calls = (.error (.raised error), calls ++ [call]) := by
  unfold ask
  rw [h]
  rfl

theorem ask_eq_ok {call : WriterCall} {answer : List WriterCall → Except (MoonBitError ε) α}
    {a : α} {calls : List WriterCall} (h : answer (calls ++ [call]) = .ok a) :
    ask call answer calls = (.ok a, calls ++ [call]) := by
  unfold ask
  rw [h]
  rfl

theorem writeEnd_asyncOperatorWrite (answers : WriterAnswers ε M) (path : Codec.JsString)
    (options : WriteOptions) (hlimit : data.bytes.length ≤ 67108864)
    (hopen : answers.openWriter [.openWriter path options] = .ok ()) {fuel : Nat}
    (hfuel : data.bytes.length < fuel) :
    WriteEnd answers (.openWriter path options) data.bytes
      (asyncOperatorWrite answers path data options fuel []) := by
  have hloop : Call.Triple (fun calls => calls = [.openWriter path options]) _ _
      (WriteFailed answers (.openWriter path options) data) := triple_loop hlimit answers hfuel
  have hbody := (hloop.of_imp_error fun stop calls hfailed =>
    (.inl hfailed : BodyFailed answers (.openWriter path options) data stop calls)).bind
      (triple_finish answers data)
  unfold asyncOperatorWrite
  rw [if_neg (not_tooLarge_iff.mpr hlimit), Call.bind_apply_ok (ask_eq_ok hopen)]
  apply (hbody.of_imp (fun calls hcalls => hcalls) ?_).tryCatch (triple_handler answers data)
    |>.run (fun _ _ hend => hend) (fun _ _ hend => hend) rfl
  rintro r calls ⟨m, rfl, hwritten, rfl, hfinish⟩
  exact .finished hwritten hfinish

/-- Data above the limit opens no writer. Other data is cut into chunks without an overflow; when
the writer opens, the chunks are written up to the first failure and then nothing is finished. -/
theorem async_write_chunking (answers : WriterAnswers ε M) (path : Codec.JsString)
    (data : BytesView) (options : WriteOptions) :
    (67108864 < data.bytes.length → ∀ fuel, asyncOperatorWrite answers path data options fuel [] =
        (.error (.raised (.binding (writeTooLarge path))), [])) ∧
      (data.bytes.length ≤ 67108864 →
        (∀ k, 0 ≤ (offsetAt data k).toInt ∧ (offsetAt data k).toInt ≤ data.bytes.length ∧
          (offsetAt data k + 256 * 1024).toInt = (offsetAt data k).toInt + 262144) ∧
        ((chunks data.bytes).flatten = data.bytes ∧
          ∀ chunk ∈ chunks data.bytes, chunk ≠ [] ∧ chunk.length ≤ 262144) ∧
        (∀ k ≤ turns data.bytes, chunksTo data.bytes k = (chunks data.bytes).take k) ∧
        (∀ error, answers.openWriter [.openWriter path options] = .error error →
          ∀ fuel, asyncOperatorWrite answers path data options fuel [] =
            (.error (.raised error), [.openWriter path options])) ∧
        (answers.openWriter [.openWriter path options] = .ok () →
          ∀ fuel, data.bytes.length < fuel →
            WriteEnd answers (.openWriter path options) data.bytes
              (asyncOperatorWrite answers path data options fuel []))) := by
  constructor
  · intro hlarge fuel
    have hlimit : (64 * 1024 * 1024 : Int32) < data.length := by
      by_contra hle
      have hsmall := not_tooLarge_iff.mp hle
      omega
    unfold asyncOperatorWrite
    rw [if_pos hlimit]
    rfl
  · intro hlimit
    refine ⟨?_, ⟨flatten_chunks _, fun chunk => mem_chunks⟩, fun k hk => (take_chunks hk).symm,
      ?_, ?_⟩
    · intro k
      have hoffset := toInt_offsetAt data hlimit k
      have hpos : 0 ≤ (offsetAt data k).toInt := by omega
      have hle : (offsetAt data k).toInt ≤ data.bytes.length := by omega
      exact ⟨hpos, hle, toInt_add_chunk hlimit hpos hle⟩
    · intro error hopen fuel
      unfold asyncOperatorWrite
      rw [if_neg (not_tooLarge_iff.mpr hlimit), Call.bind_apply_error (ask_eq_error hopen)]
      rfl
    · intro hopen fuel hfuel
      exact writeEnd_asyncOperatorWrite answers path options hlimit hopen hfuel

end Calls

end OpendalMbt.NativePackage
