import PolledChannels.Proofs.Frames

/-!
# Steps of threads that bind and accept

A thread that binds or accepts goes from point to point, and a step is made of a dozen operations.
What these lead to, from the beginning of an accept to its end and elsewhere, every step leads to.
-/

namespace PolledChannels

open PolledChannels.Action

variable {P R : Station → Prop} {Q : ListenerId → Station → Prop} {me : ThreadId}

/-- What holds when a thread is at a point: `Q` in an accept, and `P` elsewhere. -/
def Point.Ready (P : Station → Prop) (Q : ListenerId → Station → Prop) :
    Point → Station → Prop
  | attempt c _ | inAccept c _ => Q c
  | _ => P

def Move.Ready (P : Station → Prop) (Q : ListenerId → Station → Prop) :
    Move → Station → Prop
  | goto point | wait point => point.Ready P Q
  | done _ => P

/-- What the beginning of an accept leads to; one that an interrupt got ahead of is left at once. -/
def Entered (me : ThreadId) (P : Station → Prop) (Q : ListenerId → Station → Prop)
    (c : ListenerId) :
    Except Failure Bool × Station → Prop
  | (.ok true, st) => Q c st
  | (.ok false, st) => P ((leaveAccept me c .interrupted).run st).2
  | (.error _, st) => P st

/-- What binding and accepting are made of keeps `P`, and `Q` while the thread is in an accept. -/
structure Attends (me : ThreadId) (P : Station → Prop) (Q : ListenerId → Station → Prop) :
    Prop where
  bind : ∀ c address backlog, Keeps P (Action.bind c address backlog).run
  takeTurn : ∀ c, Keeps P (takeTurn me c).run
  giveTurn : ∀ c, Keeps P (giveTurn c).run
  enterAccept : ∀ c st, P st → Entered me P Q c ((enterAccept me c).run st)
  attemptAccept : ∀ c, Keeps (Q c) (attemptAccept c).run
  resumeAccept : ∀ c signalled, Keeps (Q c) (resumeAccept c signalled).run
  leaveAccept : ∀ c a st, Q c st → P ((leaveAccept me c a).run st).2
  configureBlocking : ∀ c block, Keeps P (configureBlocking c block).run
  dropConnection : ∀ i, Keeps P (dropConnection i).run
  acquire : ∀ c, Keeps P (acquire c).run
  release : ∀ c, Keeps P (release c).run
  poll : ∀ number, Keeps P (network (Net.poll number Native.input)).run

/-- Of a view that shows nothing of binding and accepting, only the beginning of an accept
and a change of the mode are to be looked at: an interrupt may close the channel, and the
mode is part of its standing.
-/
theorem Action.HidesAccepts.attends {σ : Type} {view : Station → σ} {P : σ → Prop}
    (hv : HidesAccepts view) (henter : ∀ c, Keeps (fun st => P (view st)) (enterAccept me c).run)
    (hmode : ∀ c block, Keeps (fun st => P (view st)) (configureBlocking c block).run) :
    Attends me (fun st => P (view st)) fun _ st => P (view st) where
  bind c address backlog := (hv.bindListener c address backlog).holds P
  takeTurn c := (hv.takeTurn me c).holds P
  giveTurn c := (hv.giveTurn c).holds P
  enterAccept c st hst := by
    have hentered := henter c st hst
    generalize (enterAccept me c).run st = r at hentered
    obtain ⟨_ | _ | _, st'⟩ := r
    · exact hentered
    · exact (hv.leaveAccept me c .interrupted).holds P st' hentered
    · exact hentered
  attemptAccept c := (hv.attemptAccept c).holds P
  resumeAccept c signalled := (hv.resumeAccept c signalled).holds P
  leaveAccept c a := (hv.leaveAccept me c a).holds P
  configureBlocking := hmode
  dropConnection i := (hv.dropConnection i).holds P
  acquire c := (hv.acquire c).holds P
  release c := (hv.release c).holds P
  poll _ := (hv.network _).holds P

theorem Action.Frames.keeps {α : Type} {a : Action α} (h : Frames (fun st : Station => st) a) :
    Keeps P a.run :=
  h.holds P

namespace Step

variable {α : Type} {a : Action α}

/-- From `R` the step leads to what its move asks for. -/
def Leads (P : Station → Prop) (Q : ListenerId → Station → Prop) (R : Station → Prop)
    (s : Step) : Prop :=
  ∀ st, R st → (s st).1.Ready P Q (s st).2

theorem leads_pure {move : Move} (h : ∀ st, R st → move.Ready P Q st) :
    Leads P Q R (pure move) :=
  h

theorem leads_get {f : Station → Step} (hf : ∀ st, Leads P Q R (f st)) :
    Leads P Q R (get >>= f) :=
  fun st h => hf st st h

theorem leads_after {next : Except Failure α → Step} (ha : Keeps R a.run)
    (hnext : ∀ r, Leads P Q R (next r)) : Leads P Q R (after a next) :=
  fun st h => hnext _ _ (ha st h)

theorem leads_then {next : Step} (ha : Keeps R a.run) (hnext : Leads P Q R next) :
    Leads P Q R (a.run >>= fun _ => next) :=
  fun st h => hnext _ (ha st h)

variable (h : Attends me P Q) (c : ListenerId)
include h

/-- A view that waited for a time makes an open channel block again. -/
theorem leads_finishView (r : Except Failure ConnectionId) : Leads P Q P (finishView c r) := by
  refine leads_after (keeps_bind (keeps_listener c) fun l => ?_) fun _ => leads_pure fun _ h => h
  split
  · refine keeps_bind (keeps_observe (h.configureBlocking c true)) fun x => ?_
    split
    · exact keeps_lift r
    · split
      · exact keeps_bind (h.dropConnection _) fun _ => keeps_throw _
      · exact keeps_throw _
  · exact keeps_lift r

theorem leads_answerTimed (deadline : Nat) (r : AcceptAnswer) :
    Leads P Q P (answerTimed c deadline r) := by
  unfold answerTimed
  split
  · exact leads_finishView h c _
  · exact leads_pure fun _ h => h
  · exact leads_finishView h c _

theorem leads_answer (caller : Caller) (r : AcceptAnswer) :
    Leads P Q P (answer c caller r) := by
  unfold answer
  split
  · exact leads_pure fun _ h => h
  · exact leads_pure fun _ h => h
  · exact leads_get fun _ => leads_answerTimed h c _ r
  · exact leads_answerTimed h c _ r

theorem leads_giveTurn (caller : Caller) (r : AcceptAnswer) :
    Leads P Q P (do let _ ← (giveTurn c).run; answer c caller r) :=
  leads_then (h.giveTurn c) (leads_answer h c caller r)

theorem leads_leave (caller : Caller) (a : Attempt) : Leads P Q (Q c) (leave me c caller a) :=
  fun st hst => leads_giveTurn h c caller _ _ (h.leaveAccept c a st hst)

theorem leads_afterAttempt (caller : Caller) (r : Except Failure (Option Attempt)) :
    Leads P Q (Q c) (afterAttempt me c caller r) := by
  unfold afterAttempt
  split
  · exact leads_pure fun _ h => h
  · refine leads_get fun st => ?_
    split
    · split
      · exact leads_pure fun _ h => h
      · exact leads_leave h c caller _
    · exact leads_leave h c caller _
  · exact leads_leave h c caller _
  · exact leads_leave h c caller _

theorem leads_enter (caller : Caller) : Leads P Q P (enter me c caller) := by
  intro st hst
  have hentered := h.enterAccept c _ (h.takeTurn c st hst)
  have hfirst : (do takeTurn me c; enterAccept me c : Action Bool).run st =
      (enterAccept me c).run ((takeTurn me c).run st).2 := rfl
  rw [enter, run_after, hfirst]
  generalize (enterAccept me c).run ((takeTurn me c).run st).2 = r at hentered
  obtain ⟨_ | _ | _, st'⟩ := r
  · exact leads_giveTurn h c caller _ st' hentered
  · exact leads_giveTurn h c caller _ _ hentered
  · exact hentered

theorem leads_startView : Leads P Q P (startView c) := by
  refine leads_after (frames_enterView c).keeps fun r => ?_
  split
  · exact leads_pure fun _ h => h
  · split
    · exact leads_pure fun _ h => h
    · refine leads_after (h.configureBlocking c false) fun r => ?_
      split <;> exact leads_pure fun _ h => h

theorem leads_pollTimed (deadline : Nat) : Leads P Q P (pollTimed c deadline) := by
  refine leads_get fun st => ?_
  split
  · exact leads_finishView h c _
  split
  · exact leads_finishView h c _
  split
  · exact leads_finishView h c _
  refine leads_after (h.acquire c) fun r => ?_
  split
  · exact leads_finishView h c _
  refine leads_after (h.poll _) fun r => ?_
  split
  · refine leads_then (h.release c) ?_
    split
    · exact leads_pure fun _ h => h
    · exact leads_finishView h c _
  · split
    · exact leads_pure fun _ h => h
    · exact leads_then (h.release c) (leads_pure fun _ h => h)
  · exact leads_finishView h c _

theorem leads_resumePoll (deadline : Nat) (signalled : Bool) :
    Leads P Q P (resumePoll c deadline signalled) := by
  have hrelease {point : Point} (hpoint : ∀ st, P st → point.Ready P Q st) : Leads P Q P (do
      let _ ← (Action.release c).run
      return .goto point : Step) :=
    leads_then (h.release c) (leads_pure hpoint)
  refine leads_get fun st => ?_
  split
  · exact leads_finishView h c _
  split
  · exact hrelease fun _ h => h
  split
  · exact hrelease fun _ h => h
  split
  · exact hrelease fun _ h => h
  · exact leads_pure fun _ h => h

end Step

namespace Attends

/-- A step of a thread that binds or accepts leads to what the point after it asks for. -/
theorem advance (h : Attends me P Q) (signalled : Bool) {p : Point} (hp : p.selector? = none) :
    Step.Leads P Q (p.Ready P Q) (p.advance me signalled) := by
  cases p with
  | bind c address backlog =>
    refine Step.leads_after (frames_turnTaken me c).keeps fun r => ?_
    split
    · exact Step.leads_pure fun _ h => h
    · exact Step.leads_after (h.bind c address backlog) fun _ => Step.leads_pure fun _ h => h
  | accept c caller =>
    refine Step.leads_after (frames_turnTaken me c).keeps fun r => ?_
    split
    · exact Step.leads_pure fun _ h => h
    · exact Step.leads_enter h c caller
  | attempt c caller =>
    exact Step.leads_after (h.attemptAccept c) fun r => Step.leads_afterAttempt h c caller r
  | inAccept c caller =>
    refine Step.leads_after (h.resumeAccept c signalled) fun r => ?_
    split
    · exact Step.leads_pure fun _ h => h
    · exact Step.leads_afterAttempt h c caller _
  | view c => exact Step.leads_startView h c
  | timed c deadline => exact Step.leads_pollTimed h c deadline
  | inPoll c deadline => exact Step.leads_resumePoll h c deadline signalled
  | select s timeout | inSelect s polled deadline => simp [Point.selector?] at hp

/-- What holds in an accept and elsewhere is kept by every step. -/
theorem keeps_advance (h : Attends me P fun _ => P) (signalled : Bool) {p : Point}
    (hp : p.selector? = none) : Keeps P (p.advance me signalled) := by
  have hsame (p : Point) : p.Ready P (fun _ => P) = P := by
    cases p <;> rfl
  intro st hst
  have hled := h.advance signalled hp st (by rwa [hsame])
  generalize p.advance me signalled st = r at hled
  obtain ⟨point | point | outcome, st'⟩ := r
  · rwa [← hsame point]
  · rwa [← hsame point]
  · exact hled

end Attends
end PolledChannels
