import PolledChannels.Proofs.FileModes
import PolledChannels.Proofs.GuardRaces
import PolledChannels.Proofs.TimedAccepts

/-!
# What accesses keep of a channel and its mode

Calls at work on a channel touch many things, and few of them matter to the blocking mode: the flag
and the open flag of the channel, the valid keys it lists, the bit of its descriptor, and the mode
of the descriptor in the kernel. A hold says what these may be. Every access keeps a hold that
suits it, and only a few accesses ask for anything: those that write the flag or the list of keys,
set the mode, set the bit, or give a number back to the kernel.
-/

namespace PolledChannels

open PolledChannels.Action

/-- What is held of a channel while calls are at work on it. -/
structure Hold where
  number : FileNumber
  /-- What the blocking flag may be. -/
  blocking : Bool → Prop
  /-- Which keys may be listed and valid. -/
  live : KeyId → Prop
  /-- The channel may be open. -/
  opened : Prop
  /-- The bit of the descriptor may be set. -/
  marked : Prop
  /-- The number was not given back to the kernel. -/
  kept : Prop
  /-- What the mode of the descriptor may be. -/
  mode : Option Bool → Prop

/-- The channel is as the hold says. -/
structure Listener.Fits (l : Listener) (h : Hold) : Prop where
  number : l.descriptor.number = h.number
  blocking : h.blocking l.core.blocking
  opened : l.core.isOpen = true → h.opened
  marked : Guard.isClosed l.descriptor.word = true → h.marked

/-- The network and the connections leave the number to the channel. -/
structure Station.Leaves (st : Station) (h : Hold) : Prop where
  network : st.network.Spares h.number h.mode
  connections : ∀ x ∈ st.connections, x.descriptor.number ≠ h.number

/-- The station is as the hold says. -/
structure Station.Meets (c : ListenerId) (h : Hold) (st : Station) : Prop where
  channel : ∃ l, st.listeners[c]? = some l ∧ l.Fits h ∧
    ∀ k ∈ l.core.keys, st.keyValid k = true → h.live k
  number : h.kept → st.Leaves h

section Meets

variable {c : ListenerId} {h : Hold} {st st' : Station}

theorem Station.keyValid_modifyKey (k : KeyId) {f : Key → Key}
    (hf : ∀ key, (f key).valid = true → key.valid = true) {j : KeyId}
    (hj : (st.modifyKey k f).keyValid j = true) : st.keyValid j = true := by
  unfold modifyKey at hj
  split at hj
  · exact hj
  · next hk =>
    unfold keyValid key? at hj ⊢
    by_cases hj0 : j = 0
    · simp [hj0] at hj
    · simp only [hj0, if_false] at hj ⊢
      by_cases hsame : k - 1 = j - 1
      · rw [hsame] at hj
        cases hkey : st.keys[j - 1]? with
        | none => simp [hkey] at hj
        | some key =>
          simp only [List.getElem?_modify_eq, hkey] at hj
          exact hf key hj
      · rwa [List.getElem?_modify_ne f _ hsame] at hj

namespace Station.Meets

/-- Only the channels, the keys, the network and the connections matter. -/
theorem of_same (hm : st.Meets c h) (hlisteners : st'.listeners = st.listeners)
    (hkeys : st'.keys = st.keys) (hnetwork : st'.network = st.network)
    (hconnections : st'.connections = st.connections) : st'.Meets c h := by
  have hvalid (k : KeyId) : st'.keyValid k = st.keyValid k := by
    rw [keyValid, keyValid, key?, key?, hkeys]
  obtain ⟨l, hl, hfits, hlive⟩ := hm.channel
  refine ⟨⟨l, by rw [hlisteners]; exact hl, hfits, ?_⟩, fun hkept => ?_⟩
  · exact fun k hk hv => hlive k hk (by rwa [← hvalid])
  obtain ⟨hspares, hothers⟩ := hm.number hkept
  exact ⟨by rw [hnetwork]; exact hspares, by rw [hconnections]; exact hothers⟩

theorem modifyListener (hm : st.Meets c h) {f : Listener → Listener}
    (hf : ∀ l, st.listeners[c]? = some l → l.Fits h → (f l).Fits h)
    (hkeys : ∀ l, st.listeners[c]? = some l → ∀ k ∈ (f l).core.keys, k ∈ l.core.keys ∨
      h.live k) :
    (st.modifyListener c f).Meets c h := by
  obtain ⟨l, hl, hfits, hlive⟩ := hm.channel
  refine ⟨⟨f l, Station.listener_modifyListener hl f, hf l hl hfits, fun k hk hv => ?_⟩, ?_⟩
  · rcases hkeys l hl k hk with hold | hnew
    · exact hlive k hold hv
    · exact hnew
  · intro hkept
    exact ⟨(hm.number hkept).network, (hm.number hkept).connections⟩

theorem modifyKey (hm : st.Meets c h) (k : KeyId) {f : Key → Key}
    (hf : ∀ key, (f key).valid = true → key.valid = true) : (st.modifyKey k f).Meets c h := by
  have hsame : (st.modifyKey k f).listeners = st.listeners ∧
      (st.modifyKey k f).network = st.network ∧
      (st.modifyKey k f).connections = st.connections := by
    unfold Station.modifyKey
    split <;> exact ⟨rfl, rfl, rfl⟩
  obtain ⟨hlisteners, hnetwork, hconnections⟩ := hsame
  obtain ⟨l, hl, hfits, hlive⟩ := hm.channel
  refine ⟨⟨l, by rw [hlisteners]; exact hl, hfits, fun j hj hv =>
    hlive j hj (keyValid_modifyKey k hf hv)⟩, fun hkept => ?_⟩
  obtain ⟨hspares, hothers⟩ := hm.number hkept
  exact ⟨by rw [hnetwork]; exact hspares, by rw [hconnections]; exact hothers⟩

end Station.Meets

/-! ## Parts of accesses -/

namespace Action

variable {α β : Type}

/-- The operation keeps what is held of the channel. -/
def Upholds (c : ListenerId) (h : Hold) (a : Action α) : Prop :=
  Keeps (Station.Meets c h) a.run

theorem upholds_pure (v : α) : Upholds c h (pure v : Action α) :=
  keeps_pure v

theorem upholds_throw (e : Failure) : Upholds c h (throw e : Action α) :=
  keeps_throw e

theorem upholds_bind {a : Action α} {f : α → Action β} (ha : Upholds c h a)
    (hf : ∀ v, Upholds c h (f v)) : Upholds c h (a >>= f) :=
  keeps_bind ha hf

theorem upholds_get_bind {f : Station → Action α}
    (hf : ∀ st, st.Meets c h → ((f st).run st).2.Meets c h) : Upholds c h (get >>= f) :=
  fun st hst => hf st hst

theorem upholds_get : Upholds c h (get : Action Station) :=
  keeps_get

theorem upholds_listener : Upholds c h (listener c) :=
  keeps_listener c

theorem upholds_observe {a : Action α} (ha : Upholds c h a) : Upholds c h (observe a) :=
  keeps_observe ha

theorem upholds_modify {f : Station → Station} (hf : ∀ st, st.Meets c h → (f st).Meets c h) :
    Upholds c h (modify f : Action Unit) :=
  hf

/-- A call of the network is harmless if it spares the number, or the number is given back. -/
theorem upholds_network {a : Net α}
    (ha : h.kept → Net.Keeps (Network.Spares h.number h.mode) a) :
    Upholds c h (network a) := by
  intro st hm
  refine ⟨hm.channel, fun hkept => ⟨?_, (hm.number hkept).connections⟩⟩
  exact ha hkept st.network (hm.number hkept).network

theorem upholds_emit (seen : Option ListenerId) (event : Event) :
    Upholds c h (emit seen event) := by
  refine upholds_modify fun st hm => ?_
  split
  · exact hm.of_same rfl rfl rfl rfl
  · exact hm

theorem upholds_selectors (s : SelectorId) (f : Selector → Selector) :
    Upholds c h (modify fun st => st.modifySelector s f : Action Unit) :=
  upholds_modify fun _ hm => hm.of_same rfl rfl rfl rfl

theorem upholds_invalidate (k : KeyId) : Upholds c h (invalidate k) :=
  upholds_modify fun _ hm => hm.modifyKey k fun _ hv => by cases hv

end Action

/-- What an access to the descriptor asks for. -/
def Guard.Call.Suits (h : Hold) : Guard.Call → Prop
  | .mark => h.marked
  | .act .release => ¬ h.kept
  | _ => True

/-- The access sets the bit only where that is allowed. -/
theorem Guard.Call.Suits.marked {call : Guard.Call} (hcall : call.Suits h) {word : UInt64}
    (hword : Guard.isClosed word = true → h.marked)
    (hclosed : Guard.isClosed (Guard.step word call).1 = true) : h.marked := by
  cases call with
  | mark => exact hcall
  | leave =>
    have hleft : Guard.isClosed (word - Guard.oneUse) = true := hclosed
    rw [Guard.isClosed_left] at hleft
    exact hword hleft
  | claim seen =>
    rw [Guard.step] at hclosed
    split at hclosed
    · have htaken : Guard.isClosed (word + Guard.oneUse) = true := hclosed
      rw [Guard.isClosed_taken] at htaken
      exact hword htaken
    · exact hword hclosed
  | _ => exact hword hclosed

namespace Action

theorem upholds_applyEffect {number : FileNumber} {effect : Option GuardEffect}
    (heffect : h.kept → effect = some .release → number ≠ h.number) :
    Upholds c h (applyEffect number effect) := by
  cases effect with
  | none => exact upholds_pure _
  | some effect =>
    cases effect with
    | release => exact upholds_network fun hkept => Net.spares_close (heffect hkept rfl)
    | shutDown =>
      exact upholds_bind (upholds_network fun _ => Net.spares_settled.shutdown 2) fun _ =>
        upholds_pure _

theorem upholds_accessDescriptor {call : Guard.Call} (hcall : call.Suits h) :
    Upholds c h (accessDescriptor c call) := by
  refine keeps_listener_bind fun l st hl hm => ?_
  have hword : (st.modifyListener c fun l' =>
      { l' with descriptor :=
        { l'.descriptor with word := (Guard.step l.descriptor.word call).1 } }).Meets
        c h := by
    refine hm.modifyListener (fun l' hl' hfits => ?_) fun _ _ _ hk => .inl hk
    cases hl.symm.trans hl'
    exact ⟨hfits.number, hfits.blocking, hfits.opened, hcall.marked hfits.marked⟩
  have heffect : h.kept → (Guard.step l.descriptor.word call).2.2 = some .release →
      l.descriptor.number ≠ h.number := by
    intro hkept hrelease
    cases call with
    | act effect =>
      cases hrelease
      exact absurd hkept hcall
    | claim seen =>
      rw [Guard.step] at hrelease
      split at hrelease <;> cases hrelease
    | _ => cases hrelease
  have hrest : Upholds c h (do
      let released ← applyEffect l.descriptor.number (Guard.step l.descriptor.word call).2.2
      return ((Guard.step l.descriptor.word call).2.1, released) :
        Action (Guard.Call × IoResult)) :=
    upholds_bind (upholds_applyEffect heffect) fun _ => upholds_pure _
  exact hrest _ hword

end Action

theorem meets_keptByAccepting : KeptByAccepting c (Station.Meets c h) where
  touch hf st hm := by
    refine hm.modifyListener (fun l _ hfits => ?_) fun l _ k hk => .inl ((hf l).2.2.2.1 k hk)
    obtain ⟨hdescriptor, -, hblocking, -, hopen⟩ := hf l
    exact ⟨hdescriptor ▸ hfits.number, hblocking ▸ hfits.blocking, fun ho =>
      hfits.opened (hopen ho), fun hc => hfits.marked (hdescriptor ▸ hc)⟩
  threads _ _ hm := hm.of_same rfl rfl rfl rfl
  invalidate := upholds_invalidate
  emit := upholds_emit (some c)
  selectors := upholds_selectors
  slots _ hm := hm.of_same rfl rfl rfl rfl
  isBlocking _ := upholds_network fun _ => Net.spares_settled.isBlocking
  poll _ := upholds_network fun _ => Net.spares_settled.poll _

/-! ## Kills and closes -/

def KillPoint.Suits (h : Hold) : KillPoint → Prop
  | mark => h.marked
  | act .release => ¬ h.kept
  | _ => True

theorem KillPoint.Suits.call {p : KillPoint} (hp : p.Suits h) {call : Guard.Call}
    (hcall : p.call? = some call) : call.Suits h := by
  cases p with
  | mark =>
    cases hcall
    exact hp
  | act effect =>
    cases hcall
    cases effect with
    | release => exact hp
    | shutDown => trivial
  | _ => cases hcall

def ClosePoint.Suits (h : Hold) : ClosePoint → Prop
  | mark => h.marked
  | act .release => ¬ h.kept
  | kill _ point => point.Suits h
  | _ => True

theorem ClosePoint.Suits.call {p : ClosePoint} (hp : p.Suits h) {call : Guard.Call}
    (hcall : p.call? = some call) : call.Suits h := by
  cases p with
  | mark => exact KillPoint.Suits.call (p := .mark) hp hcall
  | act effect => exact KillPoint.Suits.call (p := .act effect) (by cases effect <;> exact hp) hcall
  | kill closing point => exact KillPoint.Suits.call hp hcall
  | _ => cases hcall

/-- What an access of a close on somebody's behalf asks for. -/
def ShutPoint.Suits (h : Hold) : ShutPoint → Prop
  | rest point => point.Suits h
  | _ => True

theorem ShutPoint.Suits.call {p : ShutPoint} (hp : p.Suits h) {call : Guard.Call}
    (hcall : p.call? = some call) : call.Suits h := by
  cases p with
  | rest point => exact ClosePoint.Suits.call hp hcall
  | _ => cases hcall

theorem ShutPoint.upholds {p : ShutPoint} (hp : p.Suits h) (target : Option ThreadId) :
    Upholds c h (p.step c target) :=
  keeps_step meets_keptByAccepting.toKeptByClosing
    (fun _ hcall => upholds_accessDescriptor (hp.call hcall))
    (upholds_emit (some c)) upholds_selectors

/-! ## Registrations and deregistrations -/

def LeavePoint.Suits (h : Hold) : LeavePoint → Prop
  | kill point => point.Suits h
  | _ => True

theorem LeavePoint.upholds {p : LeavePoint} (hp : p.Suits h) (k : KeyId) :
    Upholds c h (p.step c k) := by
  refine keeps_step meets_keptByAccepting.toKeptByClosing (fun call point hkill hcall => ?_)
    fun event _ => upholds_emit (some c) event
  subst hkill
  exact upholds_accessDescriptor (KillPoint.Suits.call hp hcall)

def RegisterPoint.Suits (h : Hold) : RegisterPoint → Prop
  | make | list _ => ∀ k, h.live k
  | _ => True

theorem RegisterPoint.upholds {p : RegisterPoint} (hp : p.Suits h) (s : SelectorId) (ops : Mask) :
    Upholds c h (p.step c s ops) := by
  refine keeps_step (upholds_selectors s) (fun hmake => ?_) (fun k hlist => ?_)
    (fun k => upholds_modify fun st hm => hm.modifyKey k fun _ hv => hv) fun k => ?_
  · subst hmake
    refine upholds_get_bind fun st hm => ?_
    obtain ⟨l, hl, hfits, -⟩ := hm.channel
    exact ⟨⟨l, hl, hfits, fun k _ _ => hp k⟩,
      fun hkept => ⟨(hm.number hkept).network, (hm.number hkept).connections⟩⟩
  · subst hlist
    refine keeps_then (upholds_modify fun st hm => hm.modifyListener (fun l _ hfits => ?_)
      fun l _ j _ => .inr (hp j)) _
    exact ⟨hfits.number, hfits.blocking, hfits.opened, hfits.marked⟩
  · refine upholds_bind upholds_get fun st => ?_
    split
    · split
      · exact upholds_selectors _ _
      · exact upholds_pure _
    · exact upholds_pure _

/-! ## Mode changes -/

def ModePoint.Suits (h : Hold) (block : Bool) : ModePoint → Prop
  | take call => call.Suits h
  | set => h.kept → h.mode (some block)
  | give _ => ¬ h.kept
  | store => h.blocking block
  | _ => True

theorem ModePoint.upholds {block : Bool} {p : ModePoint} (hp : p.Suits h block) :
    Upholds c h (p.step c block) := by
  refine keeps_step (fun call hcall => upholds_accessDescriptor ?_) (fun hset number => ?_)
    fun hstore => ?_
  · cases p with
    | take call | give r =>
      cases hcall
      exact hp
    | leave r =>
      cases hcall
      trivial
    | _ => cases hcall
  · subst hset
    exact upholds_network fun hkept => Net.spares_setBlocking fun _ => hp hkept
  · subst hstore
    refine upholds_modify fun st hm => hm.modifyListener (fun l _ hfits => ?_) fun _ _ _ hk =>
      .inl hk
    exact ⟨hfits.number, hp, hfits.opened, hfits.marked⟩

/-! ## Connections and accepts -/

namespace Action

/-- Whatever is done to a connection is done to a number of its own. -/
theorem upholds_closeConnectionDescriptor (i : ConnectionId) :
    Upholds c h (closeConnectionDescriptor i) := by
  refine upholds_get_bind fun st hm => ?_
  split
  · exact hm
  · next x hx =>
    have hmodified : (st.modifyConnection i fun x' =>
        { x' with descriptor := x.descriptor.close.1 }).Meets c h := by
      refine ⟨hm.channel, fun hkept => ⟨(hm.number hkept).network, fun y hy => ?_⟩⟩
      obtain ⟨j, hj⟩ := List.mem_iff_getElem?.mp hy
      rw [Station.modifyConnection] at hj
      by_cases hij : i = j
      · subst hij
        rw [List.getElem?_modify_eq, hx] at hj
        cases hj
        exact (hm.number hkept).connections x (List.mem_of_getElem? hx)
      · rw [List.getElem?_modify_ne _ _ hij] at hj
        exact (hm.number hkept).connections y (List.mem_of_getElem? hj)
    have hnumber : h.kept → x.descriptor.close.1.number ≠ h.number := fun hkept =>
      (hm.number hkept).connections x (List.mem_of_getElem? hx)
    exact upholds_applyEffect (fun hkept _ => hnumber hkept) _ hmodified

theorem upholds_dropConnection (i : ConnectionId) : Upholds c h (dropConnection i) :=
  upholds_bind (upholds_closeConnectionDescriptor i) fun _ => upholds_pure _

theorem upholds_demand (x : Except IoError α) : Upholds c h (demand x) := by
  cases x with
  | ok a => exact upholds_pure a
  | error e => exact upholds_throw _

theorem upholds_closeConnection (i : ConnectionId) : Upholds c h (closeConnection i) := by
  refine upholds_bind upholds_get fun st => ?_
  split
  · exact upholds_throw _
  · split
    · exact upholds_pure _
    · exact upholds_bind (upholds_closeConnectionDescriptor i) fun _ =>
        upholds_bind (upholds_emit _ _) fun _ => upholds_demand _

theorem upholds_keepConnection {number : FileNumber} (hnumber : h.kept → number ≠ h.number)
    (remote : Endpoint) : Upholds c h (keepConnection c number remote) := by
  have hadd : Upholds c h (addConnection number remote) := by
    refine upholds_bind (upholds_get_bind fun st hm => hm.of_same rfl rfl rfl rfl) fun id =>
      upholds_get_bind fun st hm => ⟨hm.channel, fun hkept => ?_⟩
    refine ⟨(hm.number hkept).network, fun x hx => ?_⟩
    rcases List.mem_append.mp hx with hx | hx
    · exact (hm.number hkept).connections x hx
    · cases List.mem_singleton.mp hx
      exact hnumber hkept
  refine upholds_bind (upholds_network fun hkept => Net.spares_setBlocking fun hsame =>
    absurd hsame (hnumber hkept)) fun mode => ?_
  split
  · exact upholds_bind (upholds_network fun hkept => Net.spares_close (hnumber hkept)) fun _ =>
      upholds_throw _
  · refine upholds_bind upholds_listener fun l => upholds_bind hadd fun i =>
      upholds_bind upholds_get fun st => ?_
    split
    · exact upholds_bind (upholds_emit _ _) fun _ =>
        upholds_bind (upholds_observe (upholds_closeConnection i)) fun _ => upholds_throw _
    · exact upholds_bind (upholds_network fun _ => Net.spares_settled.localAddress) fun _ =>
        upholds_bind (upholds_emit _ _) fun _ => upholds_pure _

end Action

def AcceptPoint.Suits (h : Hold) : AcceptPoint → Prop
  | own point => point.Suits h
  | take call => call.Suits h
  | give _ => ¬ h.kept
  | drop number | keep number _ => h.kept → number ≠ h.number
  | _ => True

theorem AcceptPoint.upholds {p : AcceptPoint} (hp : p.Suits h) (me : ThreadId) (signalled : Bool) :
    Upholds c h (p.step me c signalled) := by
  refine keeps_step meets_keptByAccepting.keptByOpenAccept me signalled (fun point hown => ?_)
    (fun call hcall => upholds_accessDescriptor ?_) (fun _ _ => upholds_network fun _ =>
      Net.spares_accept)
    (fun number hdrop => ?_) fun number remote hkeep => ?_
  · subst hown
    exact ShutPoint.upholds hp (some me)
  · cases p with
    | own point => exact ShutPoint.Suits.call hp hcall
    | take call | give a =>
      cases hcall
      exact hp
    | leave a =>
      cases hcall
      trivial
    | _ => cases hcall
  · subst hdrop
    exact upholds_network fun hkept => Net.spares_close (hp hkept)
  · subst hkeep
    exact upholds_keepConnection hp remote

/-- What an access of an accept through the view asks for. -/
def ViewPoint.Suits (h : Hold) : ViewPoint → Prop
  | loosen _ point => point.Suits h false
  | accept _ point => point.Suits h
  | take _ call => call.Suits h
  | give _ _ => ¬ h.kept
  | fasten _ point => point.Suits h true
  | _ => True

theorem ViewPoint.upholds {p : ViewPoint} (hp : p.Suits h) (me : ThreadId) (signalled : Bool) :
    Upholds c h (p.step me c signalled) := by
  refine keeps_step me signalled (fun _ _ hloosen => ?_) (fun _ _ haccept => ?_)
    (fun call hcall => upholds_accessDescriptor ?_)
    (fun _ => upholds_network fun _ => Net.spares_settled.poll _)
      (fun _ _ hfasten => ?_) upholds_dropConnection
  · subst hloosen
    exact ModePoint.upholds hp
  · subst haccept
    exact AcceptPoint.upholds hp me signalled
  · cases p with
    | take deadline call | give deadline r =>
      cases hcall
      exact hp
    | leave deadline r =>
      cases hcall
      trivial
    | _ => cases hcall
  · subst hfasten
    exact ModePoint.upholds hp

end Meets
end PolledChannels
