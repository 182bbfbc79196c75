import OpendalMbt.Codec.Chunking

/-!
# The upstream of a read stream

What OpenDAL hands to a read stream: buffers one at a time, then the end, an error `E` or a
panic. Nothing is asked of it after that.
-/

namespace OpendalMbt

/-- How an upstream ends. -/
inductive Ending (E : Type) where
  | eof
  | error (failure : E)
  | panic
  deriving DecidableEq, Repr

structure Upstream (E : Type) where
  buffers : List (List UInt8)
  ending : Ending E
  deriving DecidableEq, Repr

inductive Poll (E : Type) where
  | buffer (buffer : List UInt8)
  | «end»
  | error (failure : E)
  | panic
  deriving DecidableEq, Repr

variable {E : Type}

def Ending.poll : Ending E → Poll E
  | .eof => .end
  | .error failure => .error failure
  | .panic => .panic

def Upstream.poll (u : Upstream E) : Poll E × Upstream E :=
  match u.buffers with
  | [] => (u.ending.poll, u)
  | buffer :: buffers => (.buffer buffer, { u with buffers })

end OpendalMbt
