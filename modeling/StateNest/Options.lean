/-!
# Options

How a machine treats the symbols that it buffers.
-/

set_option autoImplicit false

namespace StateNest

/-- What happens to an ignored symbol: it is buffered, so that callbacks still see it, or it is
dropped. -/
inductive IgnorePolicy where
  | bufferThenSkip
  | skipUnbuffered
  deriving DecidableEq, Repr

/-- What happens to the rest of a miss once its handler has set a state: it is dropped, or the
handler of the new state gets it. -/
inductive HardsetReplay where
  | stop
  | continue
  deriving DecidableEq, Repr

structure Options where
  ignorePolicy : IgnorePolicy := .bufferThenSkip
  hardsetReplay : HardsetReplay := .stop
  deriving DecidableEq, Repr

end StateNest
