import CallGuard.Proofs.Acts
import CallGuard.Service.Call

/-!
# How services run

A service that is called writes down that it was, and moves on in its script. An errand waits until
its time has come and then hands its reply over.
-/

namespace CallGuard

namespace World

/-- The service of that number. -/
def service (w : World) (number : Nat) : Service := (w.services[number]?).getD ⟨"", [], 0⟩

/-- The world when a call has reached the service. -/
def reach (w : World) (number : Nat) (operation : String) (args : Args) : World :=
  { w.append [.called w.now number (w.service number).label operation args] with
    services := w.services.setIfInBounds number (w.service number).advance }

end World

theorem Service.run_take (number : Nat) (operation : String) (args : Args) (w : World) :
    (take number operation args).run w =
      ((w.service number).plan, w.reach number operation args) := by
  simp only [take, Act.run_bind, Act.run_get, Act.run_write, Act.run_modify, Act.run_pure]
  rfl

theorem Errand.run_poll (e : Errand) (w : World) :
    e.poll.run w =
      if e.isOver w then (.done e.reply, w.append [.replied e.service e.reply])
      else (.waiting e, w) := by
  rw [poll, Act.run_get_bind]
  by_cases rung : e.isOver w = true
  · rw [if_pos rung, if_pos rung]
    simp only [Act.run_bind, Act.run_write, Act.run_pure]
  · rw [if_neg rung, if_neg rung, Act.run_pure]

end CallGuard
