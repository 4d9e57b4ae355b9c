/-!
The lock that lets one tick run at a time. Nobody waits for it: an attempt succeeds at once or not at
all.
-/
namespace Workflow

structure Lock where
  held : Bool
deriving DecidableEq, Repr

namespace Lock

def free : Lock := ⟨false⟩

instance : Inhabited Lock := ⟨free⟩

/-- Takes the lock unless it is held; the answer is whether it was taken. -/
def tryLock (l : Lock) : Bool × Lock := (!l.held, ⟨true⟩)

/-- Gives the lock back, whoever holds it. -/
def unlock (_ : Lock) : Lock := free

/-- An attempt to take the lock along with a guard that gives it back when dropped. The guard is made
before the answer is looked at, so a refused attempt drops one too, and with it the lock. -/
def acquire (l : Lock) : Bool × Lock :=
  let (taken, l) := l.tryLock
  (taken, if taken then l else l.unlock)

end Lock

end Workflow
