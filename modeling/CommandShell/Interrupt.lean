import CommandShell.Program

/-!
# Signals to an interactive shell

Once its handlers are installed, a shell remembers an interrupt until it asks for it, and ignores
a quit signal. A shell without handlers would be ended by either, which is left out.
-/

namespace CommandShell

structure SignalState where
  handled : Bool := false
  pending : Option Signal := none
  deriving DecidableEq, Repr

namespace SignalState

def install (state : SignalState) : SignalState :=
  { state with handled := true }

def receive (state : SignalState) (signal : Signal) : SignalState :=
  if state.handled && signal = .interrupt then { state with pending := some signal } else state

/-- Whether an interrupt came, which is then forgotten. -/
def takeInterrupt (state : SignalState) : Bool × SignalState :=
  (state.pending = some .interrupt, { state with pending := none })

end SignalState

end CommandShell
