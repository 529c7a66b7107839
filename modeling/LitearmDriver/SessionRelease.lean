import LitearmDriver.Bench
import LitearmDriver.Steps

/-!
# No session in the unconfigured state

A node that is unconfigured is meant to hold no session, and with it no lock on the port. Two
exits of a transition break this: an ENABLE that is refused on activation, and an entity that
cannot be created. Both lead through `on_error`, which closes nothing.
-/

namespace LitearmDriver

open Interaction Program

variable {σ : Type} {env : Environment σ} {g : World σ}

end LitearmDriver
