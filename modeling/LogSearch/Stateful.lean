/-!
# Computations that change a state and may fail

A failure ends the computation and undoes nothing of what came before it.
-/

namespace LogSearch

/-- A computation that changes a state and may fail. -/
abbrev Stateful (σ ε : Type) := ExceptT ε (StateM σ)

/-- What a computation gives, and the state that it leaves. -/
def Stateful.perform {σ ε α : Type} (action : Stateful σ ε α) (state : σ) : Except ε α × σ :=
  StateT.run (ExceptT.run action) state

end LogSearch
