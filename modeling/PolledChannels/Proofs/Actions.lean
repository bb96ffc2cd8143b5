import PolledChannels.Session.Threads

/-!
# Running operations

An operation on a station answers with a value or a failure and leaves a station behind. This
module opens operations part by part: what each part answers and leaves, and what it takes for a
property of the station to survive an operation.
-/

namespace PolledChannels

variable {c : ListenerId} {s : SelectorId}

variable {α β : Type}

/-- The property holds after the computation if it held before. -/
def Keeps (P : Station → Prop) (m : StateM Station α) : Prop :=
  ∀ st, P st → P (m st).2

section Keeps

variable {P : Station → Prop}

theorem Keeps.pure (a : α) : Keeps P (pure a : StateM Station α) :=
  fun _ h => h

theorem Keeps.bind {m : StateM Station α} {f : α → StateM Station β}
    (hm : Keeps P m) (hf : ∀ a, Keeps P (f a)) : Keeps P (m >>= f) := by
  intro st h
  exact hf _ _ (hm st h)

theorem Step.run_get (f : Station → Step) (st : Station) :
    ((get : StateM Station Station) >>= f) st = f st st :=
  rfl

theorem Step.run_after (a : Action α) (next : Except Failure α → Step) (st : Station) :
    Step.after a next st = next (a.run st).1 (a.run st).2 :=
  rfl

end Keeps

namespace Action

section Run

variable (st : Station) {f : α → Action β} {a : Action α} {v : β}

theorem run_bind (a : Action α) (f : α → Action β) :
    (a >>= f).run st =
      match a.run st with
      | (.ok v, st') => (f v).run st'
      | (.error e, st') => (.error e, st') := by
  show (ExceptT.bind a f) st = _
  simp only [ExceptT.run]
  show ExceptT.bindCont f (a st).1 (a st).2 = _
  rcases a st with ⟨_ | _, st'⟩ <;> rfl

theorem run_bind_ok {st st' : Station} {v : α}
    (h : a.run st = (.ok v, st')) : (a >>= f).run st = (f v).run st' := by
  rw [run_bind, h]

theorem of_run_bind {st st' : Station} (h : (a >>= f).run st = (.ok v, st')) :
    ∃ u st₁, a.run st = (.ok u, st₁) ∧ (f u).run st₁ = (.ok v, st') := by
  rw [run_bind] at h
  generalize hfirst : a.run st = first at h
  obtain ⟨_ | u, st₁⟩ := first
  · cases h
  · exact ⟨u, st₁, rfl, h⟩

theorem of_run_map {st st' : Station} {f : α → β}
    (h : (a >>= fun u => pure (f u)).run st = (.ok v, st')) :
    ∃ u, a.run st = (.ok u, st') ∧ f u = v := by
  obtain ⟨u, st₁, ha, h⟩ := of_run_bind h
  cases h
  exact ⟨u, ha, rfl⟩

theorem run_pure (v : α) : (pure v : Action α).run st = (.ok v, st) :=
  rfl

theorem run_get : (get : Action Station).run st = (.ok st, st) :=
  rfl

theorem run_set (st' : Station) : (set st' : Action Unit).run st = (.ok (), st') :=
  rfl

theorem run_modify (f : Station → Station) :
    (modify f : Action Unit).run st = (.ok (), f st) :=
  rfl

theorem run_lift (x : Except Failure α) : (liftM x : Action α).run st = (x, st) :=
  rfl

theorem run_observe (a : Action α) :
    (observe a).run st = (.ok (a.run st).1, (a.run st).2) := by
  have hobserve : (observe a).run st =
      match (a >>= fun v => pure (Except.ok v : Except Failure α)).run st with
      | (.ok v, st') => (.ok v, st')
      | (.error f, st') => (.ok (.error f), st') := by
    unfold observe
    simp only [tryCatch, tryCatchThe, MonadExceptOf.tryCatch, ExceptT.tryCatch, ExceptT.mk,
      ExceptT.run]
    show StateT.bind _ _ st = _
    simp only [StateT.bind]
    split <;> simp_all <;> rfl
  rw [hobserve, run_bind]
  rcases a.run st with ⟨_ | _, st'⟩ <;> rfl

/-- A call of the network never fails, though its answer may be a failure. -/
theorem run_network (a : Net α) :
    (network a).run st = (.ok (a.run st.network).1, { st with network := (a.run st.network).2 }) :=
  rfl

/-- A listening channel that is there is handed out; one that is not there counts as closed. -/
theorem run_listener (c : ListenerId) :
    (listener c).run st =
      match st.listeners[c]? with
      | some l => (.ok l, st)
      | none => (.error .closed, st) := by
  simp only [listener, run_bind, run_get]
  cases st.listeners[c]? <;> rfl

theorem run_listener_bind {st : Station} {l : Listener} (hl : st.listeners[c]? = some l)
    (f : Listener → Action α) : (listener c >>= f).run st = (f l).run st := by
  simp only [run_bind, run_listener, hl]

theorem run_listener_bind_none {st : Station} (hl : st.listeners[c]? = none)
    (f : Listener → Action α) :
    (listener c >>= f).run st = (.error .closed, st) := by
  simp only [run_bind, run_listener, hl]

theorem run_selector (s : SelectorId) :
    (selector s).run st =
      match st.selectors[s]? with
      | some x => (.ok x, st)
      | none => (.error .illegalSelector, st) := by
  simp only [selector, run_bind, run_get]
  cases st.selectors[s]? <;> rfl

theorem run_selector_bind {st : Station} {x : Selector} (hx : st.selectors[s]? = some x)
    (f : Selector → Action α) : (selector s >>= f).run st = (f x).run st := by
  simp only [run_bind, run_selector, hx]

theorem run_selector_bind_none {st : Station} (hx : st.selectors[s]? = none)
    (f : Selector → Action α) :
    (selector s >>= f).run st = (.error .illegalSelector, st) := by
  simp only [run_bind, run_selector, hx]

end Run

section Inversion

variable {st st' : Station} {v : α}

theorem of_run_listener_bind {f : Listener → Action α}
    (h : (listener c >>= f).run st = (.ok v, st')) :
    ∃ l, st.listeners[c]? = some l ∧ (f l).run st = (.ok v, st') := by
  cases hl : st.listeners[c]? with
  | none =>
    rw [run_listener_bind_none hl] at h
    cases h
  | some l =>
    rw [run_listener_bind hl] at h
    exact ⟨l, rfl, h⟩

theorem of_run_selector_bind {f : Selector → Action α}
    (h : (selector s >>= f).run st = (.ok v, st')) :
    ∃ x, st.selectors[s]? = some x ∧ (f x).run st = (.ok v, st') := by
  cases hx : st.selectors[s]? with
  | none =>
    rw [run_selector_bind_none hx] at h
    cases h
  | some x =>
    rw [run_selector_bind hx] at h
    exact ⟨x, rfl, h⟩

theorem of_run_ask {test : Listener → Bool} {yes no : α}
    (h : (do if test (← listener c) then return yes else return no : Action α).run st =
      (.ok v, st')) :
    ∃ l, st.listeners[c]? = some l ∧ st' = st ∧
    (test l = true ∧ v = yes ∨ test l = false ∧ v = no) := by
  obtain ⟨l, hl, h⟩ := of_run_listener_bind h
  cases htest : test l with
  | true | false =>
    rw [htest] at h
    cases h
    exact ⟨l, hl, rfl, by simp [htest]⟩

end Inversion

/-- A signal changes nothing but the threads. -/
theorem run_signalThread (t : ThreadId) (st : Station) :
    ∃ sent threads, (signalThread t).run st = (.ok sent, { st with threads }) := by
  rw [signalThread, run_bind, run_get]
  dsimp only
  split
  · exact ⟨_, st.threads, rfl⟩
  · exact ⟨_, _, rfl⟩

section Keeps

variable {P : Station → Prop} {a : Action α}

theorem keeps_pure (v : α) : Keeps P (pure v : Action α).run :=
  fun _ h => h

theorem keeps_throw (e : Failure) : Keeps P (throw e : Action α).run :=
  fun _ h => h

theorem keeps_get : Keeps P (get : Action Station).run :=
  fun _ h => h

theorem keeps_lift (x : Except Failure α) : Keeps P (liftM x : Action α).run :=
  fun _ h => h

theorem keeps_modify {f : Station → Station} (hf : ∀ st, P st → P (f st)) :
    Keeps P (modify f : Action Unit).run :=
  hf

theorem keeps_bind {f : α → Action β}
    (ha : Keeps P a.run) (hf : ∀ v, Keeps P (f v).run) : Keeps P (a >>= f).run := by
  intro st h
  have hst := ha st h
  rw [run_bind]
  generalize a.run st = r at hst
  obtain ⟨_ | v, st'⟩ := r
  · exact hst
  · exact hf v st' hst

theorem keeps_observe (ha : Keeps P a.run) : Keeps P (observe a).run := by
  intro st h
  rw [run_observe]
  exact ha st h

theorem keeps_listener (c : ListenerId) : Keeps P (listener c).run := by
  refine keeps_bind keeps_get fun st => ?_
  split
  · exact keeps_pure _
  · exact keeps_throw _

theorem keeps_selector (s : SelectorId) : Keeps P (selector s).run := by
  refine keeps_bind keeps_get fun st => ?_
  split
  · exact keeps_pure _
  · exact keeps_throw _

theorem keeps_listener_bind {f : Listener → Action α}
    (hf : ∀ l st, st.listeners[c]? = some l → P st → P ((f l).run st).2) :
    Keeps P (listener c >>= f).run := by
  intro st h
  cases hl : st.listeners[c]? with
  | none =>
    rw [run_listener_bind_none hl]
    exact h
  | some l =>
    rw [run_listener_bind hl]
    exact hf l st hl h

theorem keeps_selector_bind {f : Selector → Action α}
    (hf : ∀ x st, st.selectors[s]? = some x → P st → P ((f x).run st).2) :
    Keeps P (selector s >>= f).run := by
  intro st h
  cases hx : st.selectors[s]? with
  | none =>
    rw [run_selector_bind_none hx]
    exact h
  | some x =>
    rw [run_selector_bind hx]
    exact hf x st hx h

end Keeps
end Action
end PolledChannels
