import CppSim.Server.Session.DeadlineChain
import CppSim.Server.Session.Release

/-!
# The abandoned session

A client may fall silent at any time, and nobody else need ever call `close`.  The deadline sees
to it that the session ends all the same: an open session has a wait, whose handler starts the
next one as long as the wait was only cancelled, and asks for a close when it elapsed.  So from
every state a session can be in, the passing of time and the session's own work lead to its
destruction, though the registry holds on to it until the close takes its id back.
-/

namespace CppSim.Server

open Protocol

section Abandoned

variable {lib : JsonLib} {v w : ClosingSession}

/-- The session drifts to a state without anything new from outside. -/
def Drifts (lib : JsonLib) (v w : ClosingSession) : Prop :=
  ∃ as es, ((closingSession lib).restrict Unaided).Run v as es w

theorem Drifts.refl (v : ClosingSession) : Drifts lib v v := ⟨[], [], .refl v⟩

theorem Drifts.trans {u : ClosingSession} (first : Drifts lib u v) (second : Drifts lib v w) :
    Drifts lib u w := by
  obtain ⟨as, es, run⟩ := first
  obtain ⟨bs, fs, run'⟩ := second
  exact ⟨_, _, run.trans run'⟩

end Abandoned

end CppSim.Server
