import PolledChannels.Proofs.GuardRaces
import PolledChannels.Proofs.SoloCalls

/-!
# Calls that enact operations

The accesses into which a call is cut are those of the operation: a call that nobody gets in the way
of comes to where the answer of the operation leads, and leaves the station that the operation
leaves. There is one rule for every way in which an access and a part of the operation belong
together. By these rules a cancellation, a deregistration and a close of a channel are followed
from their first access to their last.
-/

namespace PolledChannels

open PolledChannels.Action

/-! ## Rules -/

/-- From a point on, the accesses of a call do what is done at once. `V` holds of the stations that
it is about, and `R` of the answer, the station and the point that they come to. -/
def Enacts {ρ P : Type} (step : P → Action P) (V : Station → Prop) (p : P)
    (m : StateM Station ρ) (R : ρ → Station → P → Prop) : Prop :=
  ∀ st, V st → ∃ p', R (m st).1 (m st).2 p' ∧ Solo step st p (m st).2 p'

/-- The operation succeeds, and its answer leads to a point. -/
def Succeeds {α P : Type} (next : α → P) (W : α → Station → Prop) :
    Except Failure α → Station → P → Prop
  | .ok v, st, p => p = next v ∧ W v st
  | .error _, _, _ => False

/-- The outcome leads to a point, be it a failure of the system or none. -/
def ComesTo {P : Type} (next : IoResult → P) (W : Station → Prop) (r : Except Failure Unit)
    (st : Station) (p : P) : Prop :=
  ∃ outcome, r = outcome.mapError Failure.io ∧ p = next outcome ∧ W st

/-- The answer leads to a point, be it a failure or not. -/
def Replies {ρ P : Type} (next : ρ → P) (W : Station → Prop) (r : ρ) (st : Station) (p : P) :
    Prop :=
  p = next r ∧ W st

section Map

variable {α P Q : Type} (f : P → Q) {st : Station} {p : P}

theorem Succeeds.map {next : α → P} {W : α → Station → Prop} {r : Except Failure α}
    (h : Succeeds next W r st p) : Succeeds (fun v => f (next v)) W r st (f p) := by
  cases r with
  | ok v => exact ⟨congrArg f h.1, h.2⟩
  | error e => exact h

theorem ComesTo.map {next : IoResult → P} {W : Station → Prop} {r : Except Failure Unit}
    (h : ComesTo next W r st p) : ComesTo (fun outcome => f (next outcome)) W r st (f p) := by
  obtain ⟨outcome, hr, rfl, hst⟩ := h
  exact ⟨outcome, hr, rfl, hst⟩

end Map

def Lists (c : ListenerId) (l : Listener) (st : Station) : Prop :=
  st.listeners[c]? = some l

def Listed (c : ListenerId) (st : Station) : Prop :=
  ∃ l, st.listeners[c]? = some l

namespace Enacts

variable {ρ σ α β P P' : Type} {step : P → Action P} {V U : Station → Prop} {p p₁ : P}
  {m m' : StateM Station ρ} {R : ρ → Station → P → Prop} {S : σ → Station → P → Prop}

theorem done {r : ρ} (h : ∀ st, V st → R r st p) : Enacts step V p (pure r) R :=
  fun st hst => ⟨p, h st hst, .refl⟩

theorem weaken (h : Enacts step U p m R) (hV : ∀ st, V st → U st) : Enacts step V p m R :=
  fun st hst => h st (hV st hst)

theorem of_eq (h : ∀ st, V st → m st = m' st) (hm : Enacts step V p m' R) :
    Enacts step V p m R := by
  intro st hst
  rw [h st hst]
  exact hm st hst

/-- An access does a part of what is done. -/
theorem via {st st₁ : Station} (hrest : Enacts step U p₁ m' R)
    (hstep : (step p).run st = (.ok p₁, st₁))
    (hm : m st = m' st₁) (hst₁ : U st₁) : ∃ p', R (m st).1 (m st).2 p' ∧
    Solo step st p (m st).2 p' := by
  obtain ⟨p', hp', hsolo⟩ := hrest st₁ hst₁
  rw [hm]
  exact ⟨p', hp', .head hstep hsolo⟩

theorem access (h : ∀ st, V st → ∃ st₁, (step p).run st = (.ok p₁, st₁) ∧
    m st = m' st₁ ∧ U st₁) (hrest : Enacts step U p₁ m' R) : Enacts step V p m R := by
  intro st hst
  obtain ⟨st₁, hstep, hm, hst₁⟩ := h st hst
  exact hrest.via hstep hm hst₁

theorem look (h : ∀ st, V st → (step p).run st = (.ok p₁, st))
    (hrest : Enacts step V p₁ m R) :
    Enacts step V p m R :=
  hrest.access fun st hst => ⟨st, h st hst, rfl, hst⟩

theorem seq {f : ρ → StateM Station σ} (hm : Enacts step V p m R)
    (hf : ∀ r p', Enacts step (R r · p') p' (f r) S) : Enacts step V p (m >>= f) S := by
  intro st hst
  obtain ⟨p', hp', hsolo⟩ := hm st hst
  obtain ⟨p'', hp'', hrest⟩ := hf _ p' _ hp'
  exact ⟨p'', hp'', hsolo.trans hrest⟩

/-- A call inside another one. Where the inner call is over, it stays where it is. -/
theorem within {step' : P' → Action P'} {isOver : P → Bool} (f : P → P')
    {R' : ρ → Station → P' → Prop} (hover : ∀ q, isOver q = true → step q = pure q)
    (hbusy : ∀ q, isOver q = false → step' (f q) = (do return f (← step q)))
    (h : Enacts step V p m R) (hR : ∀ r st p', R r st p' → R' r st (f p')) :
    Enacts step' V (f p) m R' := by
  intro st hst
  obtain ⟨p', hp', hsolo⟩ := h st hst
  refine ⟨f p', hR _ _ _ hp', ?_⟩
  refine Relation.ReflTransGen.lift' (fun x : Station × P => (x.1, f x.2)) ?_ _ _ hsolo
  rintro ⟨st, q⟩ ⟨st', q'⟩ hq
  cases hend : isOver q with
  | false => exact .single ((congrArg (·.run st) (hbusy q hend)).trans (run_bind_ok hq))
  | true =>
    rw [hover q hend] at hq
    cases hq
    exact .refl

section Operations

variable {R : Except Failure α → Station → P → Prop}
  {S : Except Failure β → Station → P → Prop} {a : Action α} {next : IoResult → P}

theorem of_observe {f : Except Failure α → Action β}
    (h : Enacts step V p (a.run >>= fun r => (f r).run) S) :
      Enacts step V p (observe a >>= f).run S :=
  h.of_eq fun st _ => run_bind_ok (run_observe st a)

/-- What a first part leads to goes on, whatever its outcome. -/
theorem regardless {a : Action Unit} {f : Except Failure Unit → Action β}
    {W : Station → Prop} (ha : Enacts step V p a.run (ComesTo next W))
    (hf : ∀ outcome, Enacts step W (next outcome) (f (outcome.mapError Failure.io)).run S) :
    Enacts step V p (observe a >>= f).run S :=
  .of_observe (ha.seq fun _ _ st ⟨outcome, hr, hp', hst⟩ => hr ▸ hp' ▸ hf outcome st hst)

/-- What a first part that succeeds leads to goes on. -/
theorem andThen {f : α → Action β} {next : α → P} {W : α → Station → Prop}
    (ha : Enacts step V p a.run (Succeeds next W))
    (hf : ∀ v, Enacts step (W v) (next v) (f v).run S) : Enacts step V p (a >>= f).run S := by
  intro st hst
  obtain ⟨p', hp', hsolo⟩ := ha st hst
  rw [run_bind]
  generalize a.run st = first at hp' hsolo
  obtain ⟨e | v, st₁⟩ := first
  · exact hp'.elim
  · obtain ⟨rfl, hst₁⟩ := hp'
    obtain ⟨p'', hp'', hrest⟩ := hf v st₁ hst₁
    exact ⟨p'', hp'', hsolo.trans hrest⟩

/-- An access is a part of the operation. -/
theorem both {x : Action β} {k : β → Action P} {f : β → Action α}
    {W : β → Station → Prop} (hp : step p = x >>= k)
    (hx : ∀ st, V st → ∃ v st₁, x.run st = (.ok v, st₁) ∧ W v st₁)
    (h : ∀ v, ∃ p₁, k v = pure p₁ ∧ Enacts step (W v) p₁ (f v).run R) :
    Enacts step V p (x >>= f).run R := by
  intro st hst
  obtain ⟨v, st₁, hrun, hst₁⟩ := hx st hst
  obtain ⟨p₁, hk, hrest⟩ := h v
  obtain ⟨p', hp', hsolo⟩ := hrest st₁ hst₁
  rw [run_bind_ok hrun]
  exact ⟨p', hp', .head (by rw [hp, run_bind_ok hrun, hk]; rfl) hsolo⟩

/-- An access does the first half of a change. -/
theorem half {h f k : Station → Station} {g : Unit → Action α}
    (hp : ∀ st, V st → (step p).run st = (.ok p₁, f st))
    (hh : ∀ st, V st → h st = k (f st))
    (hU : ∀ st, V st → U (f st)) (hrest : Enacts step U p₁ (modify k >>= g).run R) :
    Enacts step V p (modify h >>= g).run R := by
  have hrun (h : Station → Station) (st : Station) :
      (modify h >>= g).run st = (g ()).run (h st) :=
    run_bind_ok (run_modify st h)
  exact hrest.access fun st hst => ⟨f st, hp st hst, by rw [hrun, hrun, hh st hst], hU st hst⟩

theorem demand (outcome : IoResult) :
    Enacts step V (next outcome) (Action.demand outcome).run (ComesTo next V) := by
  intro st hst
  refine ⟨_, ⟨outcome, ?_, rfl, ?_⟩, ?_⟩
  all_goals cases outcome
  exacts [rfl, rfl, hst, hst, .refl, .refl]

end Operations

section Channels

variable {c : ListenerId} {l : Listener} {S : Except Failure α → Station → P → Prop}
    {g : Unit → Action α}

theorem of_listed (h : ∀ l, Enacts step (Lists c l) p m R) : Enacts step (Listed c) p m R :=
  fun st ⟨l, hl⟩ => h l st hl

/-- The operation looks at the channel. -/
theorem read {f : Listener → Action α} (h : Enacts step (Lists c l) p (f l).run S) :
    Enacts step (Lists c l) p (listener c >>= f).run S :=
  h.of_eq fun _ hl => run_listener_bind hl f

/-- The call looks at the channel. -/
theorem see {k : Listener → Action P} (hp : step p = listener c >>= k) (hk : k l = pure p₁)
    (h : Enacts step (Lists c l) p₁ m R) : Enacts step (Lists c l) p m R :=
  h.look fun st hl => by rw [hp, run_listener_bind hl, hk]; rfl

/-- The call looks at the channel and decides. -/
theorem ask {yes no : P} {test : Listener → Bool}
    (hp : step p = (do if test (← listener c) then return yes else return no))
    (h : Enacts step (Lists c l) (if test l then yes else no) m R) :
      Enacts step (Lists c l) p m R :=
  h.see hp (by cases test l <;> rfl)

/-- Both change the channel. -/
theorem touch {f f' : Listener → Listener}
    (hp : ∀ st, Lists c l st → (step p).run st = (.ok p₁, st.modifyListener c f))
    (hf : f' l = f l) (h : Enacts step (Lists c (f l)) p₁ (g ()).run S) :
    Enacts step (Lists c l) p (modify (fun st => st.modifyListener c f') >>= g).run S :=
  h.access fun st hl => ⟨st.modifyListener c f, hp st hl,
    congrArg (fun st => (g ()).run st) (Station.modifyListener_congr hl hf),
    Station.listener_modifyListener hl f⟩

/-- The operation writes what is there. -/
theorem still {f : Listener → Listener} (hf : f l = l)
    (h : Enacts step (Lists c l) p (g ()).run S) :
    Enacts step (Lists c l) p (modify (fun st => st.modifyListener c f) >>= g).run S :=
  h.of_eq fun _ hl => congrArg (fun st => (g ()).run st) (Station.modifyListener_self hl hf)

/-- Both make a call of the network. -/
theorem net {call : Net β} {k : Except IoError β → Action P}
    {f : Except IoError β → Action α}
    (hp : ∀ st, V st → (step p).run st = (network call >>= k).run st)
    (hV : ∀ st, V st → Lists c l st)
    (h : ∀ r, ∃ p₁, k r = pure p₁ ∧ Enacts step (Lists c l) p₁ (f r).run S) :
    Enacts step V p (network call >>= f).run S := by
  intro st hst
  obtain ⟨p₁, hk, hrest⟩ := h (call.run st.network).1
  obtain ⟨p', hp', hsolo⟩ := hrest { st with network := (call.run st.network).2 } (hV st hst)
  rw [run_network_bind]
  exact ⟨p', hp', .head (by rw [hp st hst, run_network_bind, hk]; rfl) hsolo⟩

/-- Both tell of an event, which changes no channel. -/
theorem tell {event : Event} {k : Unit → Action P}
    (hp : step p = emit (some c) event >>= k) (hk : k () = pure p₁)
    (h : Enacts step (Listed c) p₁ (g ()).run S) :
    Enacts step (Listed c) p (emit (some c) event >>= g).run S :=
  .both hp (fun st hl => ⟨(), st.tell c event, rfl, by rwa [Listed, Station.listeners_tell]⟩)
    fun _ => ⟨p₁, hk, h⟩

end Channels
end Enacts

/-! ## Descriptors -/

section Descriptors

variable {st : Station} {c : ListenerId} {l : Listener}

/-- A close of a descriptor sets the bit, and does to the number what it then owes. -/
theorem run_closeDescriptor_marked (hl : st.listeners[c]? = some l) :
    (closeDescriptor c).run st =
      match Guard.afterMark l.descriptor.word with
      | .act effect =>
        (applyEffect l.descriptor.number (some effect)).run (st.modifyListener c Listener.marked)
      | _ => (.ok (.ok ()), st.modifyListener c Listener.marked) := by
  have hmarked : st.modifyListener c Listener.marked = st.modifyListener c fun l' =>
      { l' with descriptor :=
        { l.descriptor with word := l.descriptor.word ||| Guard.closedBit } } :=
    Station.modifyListener_congr hl rfl
  rw [closeDescriptor, run_listener_bind hl, hmarked]
  simp only [Descriptor.close, Descriptor.alone, Guard.step, run_bind, run_modify]
  rcases Guard.afterMark_cases l.descriptor.word with ⟨hnext, -⟩ | ⟨hnext, -⟩ |
    ⟨hnext, -⟩ <;>
    simp only [hnext]
  rfl

/-- A call that closes the descriptor in two accesses and then goes on with the outcome. -/
theorem enacts_closeDescriptor {P : Type} {step : P → Action P} {mark : P}
    (act : GuardEffect → P) {next : IoResult → P}
    (hmark : step mark = (do
      match ← accessDescriptor c .mark with
      | (.act effect, _) => return act effect
      | (_, released) => return next released))
    (hact : ∀ effect, step (act effect) = (do
      let r ← accessDescriptor c (.act effect)
      return next r.2)) :
    Enacts step (Lists c l) mark (closeDescriptor c).run
      (Succeeds next fun _ => Lists c l.marked) := by
  intro st hl
  have hl' := Station.listener_modifyListener hl Listener.marked
  have hfirst : (step mark).run st =
      (.ok (match Guard.afterMark l.descriptor.word with
        | .act effect => act effect
        | _ => next (.ok ())), st.modifyListener c Listener.marked) := by
    rw [hmark, run_bind, run_accessDescriptor_mark hl]
    dsimp only
    cases Guard.afterMark l.descriptor.word <;> rfl
  rw [run_closeDescriptor_marked hl]
  cases hcall : Guard.afterMark l.descriptor.word with
  | act effect =>
    rw [hcall] at hfirst
    obtain ⟨released, network, happly, haccess⟩ := run_accessDescriptor_act hl' effect
    dsimp only
    rw [show (applyEffect l.descriptor.number (some effect)).run _ = _ from happly]
    exact ⟨_, ⟨rfl, hl'⟩, .head hfirst (.one (by rw [hact]; exact run_bind_ok haccess))⟩
  | _ =>
    rw [hcall] at hfirst
    exact ⟨_, ⟨rfl, hl'⟩, .one hfirst⟩

end Descriptors

/-! ## Uses of the descriptor -/

section Uses

variable {P : Type} {step : P → Action P} {c : ListenerId} {l : Listener}

/-- A use more of the channel's descriptor. -/
def Listener.used (l : Listener) : Listener :=
  { l with descriptor := { l.descriptor with word := l.descriptor.word + Guard.oneUse } }

/-- A call that takes a use by looking at the word and putting the use into what it saw. -/
theorem Enacts.taking {ρ : Type} {take next : Guard.Call → P} {call : Guard.Call}
    {f : Except Failure FileNumber → StateM Station ρ} {R : ρ → Station → P → Prop}
    (hcall : call = .look ∨ ∃ seen, call = .claim seen ∧ Guard.isClosed seen = false)
    (hstep : ∀ call, step (take call) = (do return next (← accessDescriptor c call).1))
    (hclaim : ∀ seen, next (.claim seen) = take (.claim seen))
    (hrefused : Enacts step (Lists c l) (next .refused) (f (.error (.io .socketClosed))) R)
    (hheld : Enacts step (Lists c l.used) (next .held) (f (.ok l.descriptor.number)) R) :
    Enacts step (Lists c l) (take call) ((acquire c).run >>= f) R := by
  have hrun (st : Station) (hl : Lists c l st) : ((acquire c).run >>= f) st =
      if Guard.isClosed l.descriptor.word then f (.error (.io .socketClosed)) st
      else f (.ok l.descriptor.number) (st.putWord c (l.descriptor.word + Guard.oneUse)) := by
    show f ((acquire c).run st).1 ((acquire c).run st).2 = _
    rw [run_acquire hl]
    split <;> rfl
  have haccess {st : Station} (hl : Lists c l st) {call : Guard.Call}
      (hquiet : (Guard.step l.descriptor.word call).2.2 = none) : (step (take call)).run st =
        (.ok (next (Guard.step l.descriptor.word call).2.1),
          st.putWord c (Guard.step l.descriptor.word call).1) := by
    rw [hstep]
    exact run_bind_ok (run_accessDescriptor hl hquiet)
  have hsame {st : Station} (hl : Lists c l st) : st.putWord c l.descriptor.word = st :=
    Station.modifyListener_self hl rfl
  have hseen (hlive : Guard.isClosed l.descriptor.word = false) :
      Enacts step (Lists c l) (take (.claim l.descriptor.word)) ((acquire c).run >>= f) R := by
    refine .access (fun st hl => ⟨_, ?_, ?_, Station.listener_putWord hl _⟩) hheld
    · exact (haccess hl (by simp [Guard.step])).trans (by simp only [Guard.step, if_true])
    · rw [hrun st hl, hlive, if_neg Bool.false_ne_true]
  have hweighed : Enacts step (Lists c l) (next (Guard.weigh l.descriptor.word))
      ((acquire c).run >>= f) R := by
    rw [Guard.weigh]
    cases hclosed : Guard.isClosed l.descriptor.word with
    | true => exact hrefused.of_eq fun st hl => by rw [hrun st hl, hclosed, if_pos rfl]
    | false =>
      rw [if_neg Bool.false_ne_true, hclaim]
      exact hseen hclosed
  rcases hcall with rfl | ⟨seen, rfl, hlive⟩
  · exact .look (fun st hl => (haccess hl rfl).trans (by rw [Guard.step, hsame hl])) hweighed
  · by_cases hword : l.descriptor.word = seen
    · subst hword
      exact hseen hlive
    · -- the word has changed, and the call goes by what it sees now
      refine .look (fun st hl => (haccess hl ?_).trans ?_) hweighed
      · simp [Guard.step, hword]
      · simp only [Guard.step, hword, if_false, hsame hl]

/-- A call that ends its use in one access, and gives the number back in another if it has to. -/
theorem enacts_release {leave next : P} (give : P) {left : Guard.Call → P}
    (hleave : step leave = (do return left (← accessDescriptor c .leave).1))
    (hact : left (.act .release) = give) (hdone : left .done = next)
    (hgive : step give = (do
      let _ ← accessDescriptor c (.act .release)
      return next)) :
    Enacts step (Lists c l) leave (release c).run (Succeeds (fun _ => next) fun _ => Listed c) := by
  intro st hl
  have hl' := Station.listener_putWord hl (l.descriptor.word - Guard.oneUse)
  have hfirst : (step leave).run st = (.ok (left (Guard.afterLeave l.descriptor.word)),
      st.putWord c (l.descriptor.word - Guard.oneUse)) := by
    rw [hleave]
    exact run_bind_ok (run_accessDescriptor hl rfl)
  rw [run_release hl]
  by_cases hlast : l.descriptor.word = Guard.closedBit + Guard.oneUse
  · rw [Guard.afterLeave, if_pos hlast, hact] at hfirst
    obtain ⟨released, network, happly, haccess⟩ := run_accessDescriptor_act hl' .release
    rw [if_pos hlast, run_bind_ok happly]
    exact ⟨_, ⟨rfl, _, hl'⟩, .head hfirst (.one (by rw [hgive]; exact run_bind_ok haccess))⟩
  · rw [Guard.afterLeave, if_neg hlast, hdone] at hfirst
    rw [if_neg hlast]
    exact ⟨_, ⟨rfl, _, hl'⟩, .one hfirst⟩

end Uses

/-! ## Kills -/

namespace KillPoint

variable {c : ListenerId}

theorem step_over {p : KillPoint} (hover : p.isOver = true) : p.step c = pure p := by
  cases p with
  | ended event released => rfl
  | _ => cases hover

/-- A kill that runs alone is a kill. -/
theorem enacts (l : Listener) :
    Enacts (step c) (Lists c l) .weigh (killLocked c).run
      (Succeeds (fun r => .ended r.1 r.2) fun _ => Listed c) := by
  refine .read ?_
  dsimp only
  cases hlife : l.lifecycle with
  | killed => exact .see rfl (by rw [hlife]; rfl) (.done fun _ hl => ⟨rfl, l, hl⟩)
  | uninitialized =>
    exact .touch (fun st hl => by rw [step, run_listener_bind hl, hlife]; rfl) rfl
      (.done fun _ hl => ⟨rfl, _, hl⟩)
  | inUse =>
    refine .see rfl (by rw [hlife]; rfl) (.see rfl rfl (.ask rfl ?_))
    rw [hlife]
    show Enacts _ _ _ (if _ then _ else _) _
    cases Lifecycle.inUse.killPermitted l.core.isOpen l.core.registered with
    | false => exact .done fun _ hl => ⟨rfl, l, hl⟩
    | true =>
      refine (enacts_closeDescriptor .act rfl fun _ => rfl).andThen fun released => ?_
      exact .touch (fun st hl => run_listener_bind hl _) rfl (.done fun _ hl => ⟨rfl, _, hl⟩)

end KillPoint

/-! ## Deregistrations -/

theorem demand_demand (x y : IoResult) :
    (do demand x; demand y : Action Unit) = demand (firstFailure x y) := by
  cases x <;> rfl

namespace LeavePoint

variable {c : ListenerId}

/-- A kill of its own, with the event told. -/
theorem enacts_kill (k : KeyId) (l : Listener) :
    Enacts (step c k) (Lists c l) (.kill .weigh) (Action.kill c).run
      (ComesTo .ended (Listed c)) := by
  refine ((KillPoint.enacts l).within LeavePoint.kill (fun _ => KillPoint.step_over)
    (fun _ => step_kill k)
    fun _ _ _ => Succeeds.map _).andThen fun r => ?_
  obtain ⟨_ | event, released⟩ := r
  · exact .look (fun _ _ => rfl) (.demand released)
  · exact .look (fun _ _ => rfl) (.tell rfl rfl (.demand released))

theorem enacts_removeKey (k : KeyId) (l : Listener) :
    Enacts (step c k) (Lists c l) .strike (removeKey c k).run
      (Succeeds (fun last => if last then .kill .weigh else .ended (.ok ())) fun _ =>
        Listed c) := by
  refine .read (.touch (fun st hl => run_listener_bind hl _) rfl (.both rfl
    (W := fun _ => Lists c { l with core := (l.core.dropKey k).1 })
      (fun st hl => ⟨(), _, rfl, ?_⟩)
    fun _ => ⟨_, rfl, .ask rfl (.done fun _ hl => ⟨rfl, _, hl⟩)⟩))
  rw [Lists, Station.listeners_modifyKey]
  exact hl

/-- A deregistration that runs alone is a deregistration. -/
theorem enacts (k : KeyId) (l : Listener) :
    Enacts (step c k) (Lists c l) .strike (deregister c k).run (ComesTo .ended (Listed c)) := by
  refine (enacts_removeKey k l).andThen fun last => .of_listed fun l => ?_
  cases last with
  | false => exact .done fun _ hl => ⟨.ok (), rfl, rfl, l, hl⟩
  | true => exact enacts_kill k l

end LeavePoint

/-! ## Closes of a channel -/

namespace CancelPoint

theorem step_over {p : CancelPoint} (hover : p.isOver = true) : p.step = pure p := by
  cases p with
  | ended => rfl
  | _ => cases hover

theorem solo_find (s : SelectorId) (k : KeyId) (st : Station) :
    ∃ st', (if st.selectorAlive s then queueCancelled s k else pure () : Action Unit).run st =
        (.ok (), st') ∧
      Solo step st (.find s k) st' .ended := by
  cases hx : st.selectors[s]? with
  | none =>
    refine ⟨st, by simp [Station.selectorAlive, hx, run_pure], .one ?_⟩
    simp only [step, run_bind, run_get, hx, run_pure]
  | some x =>
    have hfind : (step (.find s k)).run st =
        (.ok (if st.selectorAlive s && x.keys.contains k then .queue s k else .ended), st) := by
      simp only [step, run_bind, run_get, hx]
      split <;> rfl
    cases halive : st.selectorAlive s with
    | false =>
      rw [halive] at hfind
      exact ⟨st, rfl, .one hfind⟩
    | true =>
      simp only [if_true, queueCancelled, run_bind, run_get, hx]
      rw [halive] at hfind
      cases hk : x.keys.contains k with
      | false =>
        rw [hk] at hfind
        exact ⟨st, rfl, .one hfind⟩
      | true =>
        rw [hk] at hfind
        exact ⟨_, rfl, .head hfind (.head rfl (.one rfl))⟩

/-- A cancellation that runs alone is a cancellation. -/
theorem solo (k : KeyId) (st : Station) :
    ∃ st', (cancelKey k).run st = (.ok (), st') ∧ Solo step st (.swap k) st' .ended := by
  simp only [cancelKey, run_bind, run_get]
  cases hk : st.key? k with
  | none =>
    refine ⟨st, rfl, .one ?_⟩
    simp only [step, run_bind, run_get, hk, run_pure]
  | some key =>
    let voided := st.modifyKey k fun key => { key with valid := false }
    cases hvalid : key.valid with
    | false =>
      refine ⟨st, by simp only [hvalid]; rfl, .one ?_⟩
      simp only [step, run_bind, run_get, hk, hvalid]
      rfl
    | true =>
      have halive : st.selectorAlive key.selector = voided.selectorAlive key.selector := by
        simp only [Station.selectorAlive, voided, Station.selectors_modifyKey]
      have hswap : (step (.swap k)).run st = (.ok (.find key.selector k), voided) := by
        simp only [step, run_bind, run_get, hk, hvalid]
        rfl
      obtain ⟨st', hrun, hsolo⟩ := solo_find key.selector k voided
      refine ⟨st', ?_, .head hswap hsolo⟩
      simp only [hvalid, if_true, run_bind, invalidate, run_modify, halive]
      exact hrun

theorem enacts (k : KeyId) :
    Enacts step (fun _ => True) (.swap k) (cancelKey k).run
      (Succeeds (fun _ => .ended) fun _ _ => True) := by
  intro st _
  obtain ⟨st', hrun, hsolo⟩ := solo k st
  rw [hrun]
  exact ⟨_, ⟨rfl, trivial⟩, hsolo⟩

end CancelPoint

namespace ClosePoint

variable {c : ListenerId}

/-- A thread that waits in accept is signalled. -/
theorem enacts_sample (l : Listener) (released : IoResult) :
    Enacts (step c) (Lists c l) (.sample released)
      (match l.acceptor with
        | none => return ({ eventOf l .closed with fd := shownNumber l.descriptor }, released)
        | some t => do
          let event := { eventOf l .closed with fd := shownNumber l.descriptor }
          return notified (event, released) (← signalThread t) :
        Action (Event × IoResult)).run
      (Succeeds .count fun _ => Listed c) := by
  cases hwaits : l.acceptor with
  | none => exact .see rfl (by simp only [hwaits]) (.done fun _ hl => ⟨rfl, l, hl⟩)
  | some t =>
    refine .see rfl (by simp only [hwaits]; rfl) (.both rfl (fun st hl => ?_) fun _ =>
      ⟨_, rfl, .done fun _ hl => ⟨rfl, hl⟩⟩)
    obtain ⟨sent, threads, hrun⟩ := run_signalThread t st
    exact ⟨sent, _, hrun, ⟨l, hl⟩⟩

/-- The descriptor is given up, unless the channel is killed. -/
theorem enacts_surrender (l : Listener) :
    Enacts (step c) (Lists c l) .look (surrender c).run (Succeeds .count fun _ => Listed c) := by
  refine .read ?_
  dsimp only
  by_cases hkilled : l.lifecycle = .killed
  · rw [if_pos hkilled]
    exact .see rfl (if_pos hkilled) (enacts_sample l (.ok ()))
  · rw [if_neg hkilled]
    exact .see rfl (if_neg hkilled) ((enacts_closeDescriptor .act rfl fun _ => rfl).andThen
      fun released => enacts_sample l.marked released)

theorem enacts_report (closing : Event × IoResult) (killing : Option Event × IoResult) :
    Enacts (step c) (Listed c) (.tell closing killing) (reportClose c closing killing).run
      (ComesTo .sweep (Listed c)) := by
  have hfirst : Enacts (step c) (Listed c) (.sweep (firstFailure closing.2 killing.2))
      (do demand closing.2; demand killing.2 : Action Unit).run (ComesTo .sweep (Listed c)) := by
    rw [demand_demand]
    exact .demand _
  obtain ⟨_ | event, released⟩ := killing
  · exact .tell rfl rfl hfirst
  · exact .tell rfl rfl (.tell rfl rfl hfirst)

theorem enacts_finish (l : Listener) :
    Enacts (step c) (Lists c l) .look (finishClose c).run (ComesTo .sweep (Listed c)) := by
  refine (enacts_surrender l).andThen fun closing => .of_listed fun l => .read (.ask rfl ?_)
  cases l.core.registered with
  | true => exact (enacts_report closing (none, .ok ())).weaken fun _ hl => ⟨l, hl⟩
  | false =>
    exact ((KillPoint.enacts l).within (ClosePoint.kill closing) (fun _ => KillPoint.step_over)
      (fun _ => step_kill closing) fun _ _ _ => Succeeds.map _).andThen fun killing =>
        .look (fun _ _ => rfl) (enacts_report closing killing)

/-- The keys are cancelled one after the other. -/
theorem enacts_cancel (outcome : IoResult) (ks : List KeyId) :
    Enacts (step c) (fun _ => True) (cancelling outcome ks)
      (forIn ks PUnit.unit fun k _ => do cancelKey k; return ForInStep.yield PUnit.unit :
        Action PUnit).run
      (Succeeds (fun _ => .ended outcome) fun _ _ => True) := by
  induction ks with
  | nil => exact .done fun _ _ => ⟨rfl, trivial⟩
  | cons k ks ih =>
    rw [List.forIn_cons]
    simp only [bind_assoc, pure_bind]
    exact ((CancelPoint.enacts k).within (ClosePoint.cancel · ks outcome)
      (fun _ => CancelPoint.step_over)
      (fun _ => step_cancel ks outcome) fun _ _ _ => Succeeds.map _).andThen fun _ =>
        .look (fun _ _ => rfl) ih

/-- What is left of a close once the channel is flipped. -/
theorem enacts_rest (l : Listener) :
    Enacts (step c) (Lists c l) .look
      (do
        let outcome ← observe (finishClose c)
        for k in (← listener c).core.keys do cancelKey k
        outcome : Action Unit).run
      (ComesTo .ended fun _ => True) := by
  refine (enacts_finish l).regardless fun outcome => .of_listed fun l => .read (.see rfl rfl ?_)
  refine ((enacts_cancel outcome l.core.keys).weaken fun _ _ => trivial).andThen fun _ => ?_
  cases outcome <;> exact .demand _

/-- A close that runs alone is a close. -/
theorem enacts (l : Listener) :
    Enacts (step c) (Lists c l) .shut (Action.close c).run (ComesTo .ended fun _ => True) := by
  refine .read ?_
  cases hshut : l.core.shut? none with
  | none => exact .see rfl (by rw [hshut]) (.done fun _ _ => ⟨.ok (), rfl, rfl, trivial⟩)
  | some core =>
    exact .touch (fun st hl => by rw [step, run_listener_bind hl, hshut]; rfl) rfl (enacts_rest _)

end ClosePoint
end PolledChannels
