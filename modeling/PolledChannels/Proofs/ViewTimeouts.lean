import PolledChannels.Proofs.Actions

/-!
# The timeout that a view keeps

A duration is kept in whole milliseconds, at most the largest that a word holds, and 0 stands for no
timeout. So a duration of less than a millisecond counts as none: an accept through the view then
waits without end though a timeout was asked for.
-/

namespace PolledChannels

open PolledChannels.Action

def View.millisecond : Nat := 1000000

/-- The timeout of the view of a channel, in nanoseconds. -/
def Listener.timeLimit (l : Listener) : Nat := (l.timeout.getD 0).toNat * View.millisecond

theorem View.toNat_timeoutOf (d : Nat) : (timeoutOf d).toNat = min (d / millisecond) longest := by
  have hlt : min (d / millisecond) longest < UInt32.size :=
    Nat.lt_of_le_of_lt (Nat.min_le_right ..) (by decide)
  exact UInt32.toNat_ofNat_of_lt hlt

variable {st : Station} {c : ListenerId} {l : Listener}

/-- An accept through the view of a channel that is bound and blocks waits without end if the view
has no timeout. -/
theorem Step.startView_untimed_iff (hl : st.listeners[c]? = some l) (halive : l.alive = true)
    (hbound : l.isBound = true) (hblocking : l.core.blocking = true) :
    (startView c st).1 = .goto (.accept c .view) ↔ l.timeLimit = 0 := by
  have henter : (enterView c).run st = (.ok (l.timeout.getD 0), st) := by
    simp [enterView, viewed, run_bind, run_listener, hl, halive, hbound, hblocking, run_pure]
  have hzero : l.timeLimit = 0 ↔ l.timeout.getD 0 = 0 := by
    rw [Listener.timeLimit, View.millisecond, ← UInt32.toNat_inj, UInt32.toNat_zero]
    omega
  rw [startView, run_after, henter, hzero]
  dsimp only
  split
  · next h => exact iff_of_true rfl h
  · next h =>
    refine iff_of_false (fun hmove => ?_) h
    rw [run_after] at hmove
    generalize (configureBlocking c false).run st = r at hmove
    obtain ⟨_ | _, st'⟩ := r <;> cases hmove

/-- A view keeps a timeout that differs from the one asked for by less than a millisecond, or is the
largest there is. It has none exactly if less than a millisecond was asked for, so that the rule
that only zero means none holds for zero and from a millisecond on; and an accept waits without end
exactly if the view has none. -/
theorem timeout_off_iff (hl : st.listeners[c]? = some l) (d : Nat) :
    ∃ st' l', (setTimeout c (View.timeoutOf d)).run st = (.ok (), st') ∧
    st'.listeners[c]? = some l' ∧
      (l'.timeLimit = 0 ↔ d < View.millisecond) ∧
      ((l'.timeLimit = 0 ↔ d = 0) ↔ d = 0 ∨ View.millisecond ≤ d) ∧
      (d ≤ View.longest * View.millisecond → l'.timeLimit ≤ d ∧
        d < l'.timeLimit + View.millisecond) ∧
      (View.longest * View.millisecond < d → l'.timeLimit = View.longest * View.millisecond) ∧
      (l.alive = true → l.isBound = true → l.core.blocking = true →
        ((Step.startView c st').1 = .goto (.accept c .view) ↔ l'.timeLimit = 0)) := by
  have hl' :
      (st.modifyListener c fun l => { l with timeout := some (View.timeoutOf d) }).listeners[c]? =
      some { l with timeout := some (View.timeoutOf d) } := by
    simp [Station.modifyListener, hl]
  have hlimit := View.toNat_timeoutOf d
  have hlongest : View.longest = 4294967295 := rfl
  refine ⟨_, _, run_modify _ _, hl', ?_, ?_, ?_, ?_, fun halive hbound hblocking =>
    Step.startView_untimed_iff hl' halive hbound hblocking⟩ <;>
    simp only [Listener.timeLimit, Option.getD_some, View.millisecond, hlimit, hlongest] <;> omega

/-- Half a millisecond is no timeout. -/
theorem half_millisecond_is_no_timeout :
    let st : Station := { listeners := [{
      id := 1, descriptor := { number := 3 }, localAddress := some (.v4 ⟨127, 0, 0, 1⟩ 80) }] }
    ∃ st' l', (setTimeout 0 (View.timeoutOf 500000)).run st = (.ok (), st') ∧
      st'.listeners[0]? = some l' ∧ l'.timeLimit = 0 ∧
      (Step.startView 0 st').1 = .goto (.accept 0 .view) := by
  intro st
  have hl : st.listeners[0]? = some _ := rfl
  obtain ⟨st', l', hrun, hl', hzero, -, -, -, huntimed⟩ := timeout_off_iff hl 500000
  have hoff := hzero.mpr (by decide)
  exact ⟨st', l', hrun, hl', hoff, (huntimed rfl rfl rfl).mpr hoff⟩

end PolledChannels
