import PolledChannels.Proofs.Deeds
import PolledChannels.Proofs.Tellings

/-!
# Who kills a closed channel

A channel is killed when it is closed and no key names it. Two parties find out on their own: a
close looks at the keys after it flipped the channel, and a deregistration looks at the flag after
it took its key off. Here any number of closes of a channel run together with deregistrations that
take off all of its keys, in any order of accesses:

* a killed channel is closed, lists no key and has given its descriptor up, and a descriptor is
  given up only by a closed channel;
* when all calls are over the channel is killed, and one close and one kill were told.

What carries the proof is that whoever is left with the last reason against a kill still has his own
look at it ahead.
-/

namespace PolledChannels

variable {n : UInt64} {f f' : Flags} {p p' : KillPoint} {c : ListenerId} {call a : Call} {i : Nat}
  {r : Interleaving}

/-- The event is of the kind, and of the channel with the number. -/
def Event.isOf (kind : EventKind) (n : UInt64) (event : Event) : Bool :=
  event.kind == kind && event.channel == n

/-- What a channel shows to those who would kill it. -/
structure Flags where
  isOpen : Bool
  keys : List KeyId
  lifecycle : Lifecycle
  /-- The descriptor was closed. -/
  given : Bool

/-- A killed channel is closed, lists no key and has given its descriptor up; only a closed
channel gives it up. -/
structure Flags.Sound (f : Flags) : Prop where
  begun : f.lifecycle ≠ .uninitialized
  killed : f.lifecycle = .killed → f.isOpen = false ∧ f.keys = [] ∧ f.given = true
  given : f.given = true → f.isOpen = false

def Scene.flags (v : Scene) (c : ListenerId) : Option Flags :=
  (v.registry.channel c).map fun d => ⟨d.isOpen, d.keys, d.lifecycle, v.given c⟩

section Flags

variable {v : Scene} {c : ListenerId} {d : Standing} {f : Flags}

theorem Scene.flags_of (hd : v.registry.channel c = some d) :
    v.flags c = some ⟨d.isOpen, d.keys, d.lifecycle, v.given c⟩ := by
  simp [flags, hd]

theorem Scene.flags_inv (hf : v.flags c = some f) (hd : v.registry.channel c = some d) :
    f = ⟨d.isOpen, d.keys, d.lifecycle, v.given c⟩ := by
  rw [flags_of hd] at hf
  exact (Option.some.inj hf).symm

@[simp] theorem Scene.flags_putChannel :
    (v.putChannel c d).flags c = some ⟨d.isOpen, d.keys, d.lifecycle, v.given c⟩ := by
  simp [flags, putChannel]

theorem Scene.flags_give (hf : v.flags c = some f) :
    (v.give c).flags c = some { f with given := true } := by
  obtain ⟨d, hd, rfl⟩ := Option.map_eq_some_iff.mp hf
  simp [flags, give, onGate, hd]

end Flags

/-! ## Kills -/

namespace KillPoint

/-- What holds of the channel while a kill stands at a point. -/
def Fits (n : UInt64) (f : Flags) : KillPoint → Prop
  | weigh => True
  | askOpen => f.lifecycle = .inUse
  | askKeys isOpen => isOpen = false ∧ f.lifecycle = .inUse
  | mark => f.lifecycle = .inUse ∧ f.keys = []
  | act _ | promote _ => f.lifecycle = .inUse ∧ f.keys = [] ∧ f.given = true
  | ended none _ => True
  | ended (some event) _ => f.lifecycle = .killed ∧ event.isOf .killed n = true

/-- The kill was done, and is to be told. -/
def owesKill : KillPoint → Bool
  | ended (some _) _ => true
  | _ => false

/-- What an access of a kill of a closed channel does. -/
structure Advance (n : UInt64) (f : Flags) (p : KillPoint) (f' : Flags) (p' : KillPoint) :
    Prop where
  fits : p'.Fits n f'
  sound : f'.Sound
  isOpen : f'.isOpen = f.isOpen
  keys : f'.keys = f.keys
  given : f.given = true → f'.given = true
  lifecycle : f'.lifecycle = f.lifecycle ∨ (∃ released, p = .promote released) ∧
    f'.lifecycle = .killed
  kills : p'.owesKill.toNat + (if f.lifecycle = .killed then 1 else 0) =
    p.owesKill.toNat + if f'.lifecycle = .killed then 1 else 0
  attempt : p.isOver = false → f'.lifecycle = .killed ∨ f'.keys ≠ [] ∨ p'.isOver = false

theorem Advance.same (hsound : f.Sound) (hfits : p'.Fits n f) (howes : p'.owesKill = p.owesKill)
    (hattempt : f.lifecycle = .killed ∨ f.keys ≠ [] ∨ p'.isOver = false ∨ p.isOver = true) :
    Advance n f p f p' where
  fits := hfits
  sound := hsound
  isOpen := rfl
  keys := rfl
  given := id
  lifecycle := .inl rfl
  kills := by rw [howes]
  attempt := by
    intro hbusy
    rcases hattempt with h | h | h | h
    · exact .inl h
    · exact .inr (.inl h)
    · exact .inr (.inr h)
    · rw [hbusy] at h
      cases h

theorem Turn.advance {v v' : Scene} (t : Turn c v p v' p') (hf : v.flags c = some f)
    (hn : v.named c = some n) (hsound : f.Sound) (hclosed : f.isOpen = false) (hfits : p.Fits n f) :
    ∃ f', v'.flags c = some f' ∧ v'.named c = some n ∧ Advance n f p f' p' := by
  cases t with
  | already hd h =>
    obtain rfl := Scene.flags_inv hf hd
    exact ⟨_, hf, hn, .same hsound trivial rfl (.inl h)⟩
  | promoteOnly hd h =>
    obtain rfl := Scene.flags_inv hf hd
    exact absurd h hsound.begun
  | weigh hd h =>
    obtain rfl := Scene.flags_inv hf hd
    exact ⟨_, hf, hn, .same hsound h rfl (.inr (.inr (.inl rfl)))⟩
  | askOpen hd =>
    obtain rfl := Scene.flags_inv hf hd
    exact ⟨_, hf, hn, .same hsound ⟨hclosed, hfits⟩ rfl (.inr (.inr (.inl rfl)))⟩
  | @permitted d _ hd h =>
    obtain rfl := Scene.flags_inv hf hd
    obtain ⟨rfl, hlife⟩ := hfits
    have hkeys : d.keys = [] := by
      rw [show d.lifecycle = .inUse from hlife] at h
      simpa [Lifecycle.killPermitted] using h
    exact ⟨_, hf, hn, .same hsound ⟨hlife, hkeys⟩ rfl (.inr (.inr (.inl rfl)))⟩
  | @forbidden d _ hd h =>
    obtain rfl := Scene.flags_inv hf hd
    obtain ⟨rfl, hlife⟩ := hfits
    have hkeys : d.keys ≠ [] := by
      rw [show d.lifecycle = .inUse from hlife] at h
      simpa [Lifecycle.killPermitted] using h
    exact ⟨_, hf, hn, .same hsound trivial rfl (.inr (.inl hkeys))⟩
  | marked | mark =>
    obtain ⟨hlife, hkeys⟩ := hfits
    refine ⟨_, Scene.flags_give hf, hn, ?_⟩
    exact
      { fits := ⟨hlife, hkeys, rfl⟩
        sound := ⟨hsound.begun, fun _ => ⟨hclosed, hkeys, rfl⟩, fun _ => hclosed⟩
        isOpen := rfl
        keys := rfl
        given := fun _ => rfl
        lifecycle := .inl rfl
        kills := rfl
        attempt := fun _ => .inr (.inr rfl) }
  | act effect released =>
    exact ⟨f, hf, hn, .same hsound hfits rfl (.inr (.inr (.inl rfl)))⟩
  | @promote d _ released hd hkind hname =>
    obtain rfl := Scene.flags_inv hf hd
    obtain ⟨hlife, hkeys, hgiven⟩ := hfits
    have hinUse : d.lifecycle = .inUse := hlife
    rw [hn] at hname
    refine ⟨_, Scene.flags_putChannel, hn, ?_⟩
    exact
      { fits := ⟨rfl, by simp [Event.isOf, hkind, Option.some.inj hname]⟩
        sound := ⟨by simp, fun _ => ⟨hclosed, hkeys, hgiven⟩, fun _ => hclosed⟩
        isOpen := rfl
        keys := rfl
        given := id
        lifecycle := .inr ⟨⟨released, rfl⟩, rfl⟩
        kills := by simp [owesKill, hinUse]
        attempt := fun _ => .inl rfl }
  | ended event released =>
    exact ⟨f, hf, hn, .same hsound hfits rfl (.inr (.inr (.inr rfl)))⟩

theorem Fits.mono (h : p.Fits n f) (hkeys : f.keys = [] → f'.keys = [])
    (hgiven : f.given = true → f'.given = true) (hlife : f'.lifecycle = f.lifecycle) :
    p.Fits n f' := by
  cases p with
  | weigh => trivial
  | askOpen => exact hlife.trans h
  | askKeys isOpen => exact ⟨h.1, hlife.trans h.2⟩
  | mark => exact ⟨hlife.trans h.1, hkeys h.2⟩
  | act effect | promote released => exact ⟨hlife.trans h.1, hkeys h.2.1, hgiven h.2.2⟩
  | ended event released =>
    cases event with
    | none => trivial
    | some event => exact ⟨hlife.trans h.1, h.2⟩

end KillPoint

/-! ## Calls -/

namespace ClosePoint

def Fits (n : UInt64) (f : Flags) : ClosePoint → Prop
  | shut => True
  | signal _ closing | count closing => f.isOpen = false ∧ closing.1.isOf .closed n = true
  | kill closing point => f.isOpen = false ∧ closing.1.isOf .closed n = true ∧ point.Fits n f
  | tell closing killing =>
    f.isOpen = false ∧ closing.1.isOf .closed n = true ∧
      ∀ event ∈ killing.1, event.isOf .killed n = true
  | tellKill event _ => f.isOpen = false ∧ event.isOf .killed n = true
  | _ => f.isOpen = false

/-- The close was begun, and is to be told. -/
def owesClose : ClosePoint → Bool
  | look | mark | act _ | sample _ | signal _ _ | count _ | kill _ _ | tell _ _ => true
  | _ => false

def owesKill : ClosePoint → Bool
  | kill _ point => point.owesKill
  | tell _ killing => killing.1.isSome
  | tellKill _ _ => true
  | _ => false

/-- A look at what stands against a kill is still ahead. -/
def mayKill : ClosePoint → Bool
  | look | mark | act _ | sample _ | signal _ _ | count _ => true
  | kill _ point => !point.isOver
  | _ => false

end ClosePoint

namespace LeavePoint

def Fits (n : UInt64) (f : Flags) : LeavePoint → Prop
  | kill point => f.isOpen = false ∧ point.Fits n f
  | tell event _ => event.isOf .killed n = true
  | _ => True

def owesKill : LeavePoint → Bool
  | kill point => point.owesKill
  | tell _ _ => true
  | _ => false

def mayKill : LeavePoint → Bool
  | void | test => true
  | kill point => !point.isOver
  | _ => false

end LeavePoint

namespace Call

/-- The call closes the channel or takes a key off it, and what holds at its point holds. -/
def Fits (c : ListenerId) (n : UInt64) (f : Flags) : Call → Prop
  | close e point => e = c ∧ point.Fits n f
  | deregister e _ point => e = c ∧ point.Fits n f
  | _ => False

def owesClose : Call → Bool
  | close _ point => point.owesClose
  | _ => false

def owesKill : Call → Bool
  | close _ point => point.owesKill
  | deregister _ _ point => point.owesKill
  | _ => false

def mayKill : Call → Bool
  | close _ point => point.mayKill
  | deregister _ _ point => point.mayKill
  | _ => false

/-- How many events of the kind the next access tells of. -/
def telling (kind : EventKind) (n : UInt64) (call : Call) : Nat :=
  call.tells.toList.countP (Event.isOf kind n)

theorem Fits.mono (h : call.Fits c n f) (hshut : f.isOpen = false → f'.isOpen = false)
    (hkeys : f.keys = [] → f'.keys = []) (hgiven : f.given = true → f'.given = true)
    (hlife : .state c ∈ call.holds → f'.lifecycle = f.lifecycle) : call.Fits c n f' := by
  cases call with
  | close e point =>
    obtain ⟨rfl, h⟩ := h
    refine ⟨rfl, ?_⟩
    cases point with
    | shut => trivial
    | signal t closing | count closing | tell closing killing | tellKill event outcome =>
      exact ⟨hshut h.1, h.2⟩
    | kill closing point =>
      have hkept := hlife (by simp [holds, ClosePoint.holds])
      exact ⟨hshut h.1, h.2.1, h.2.2.mono hkeys hgiven hkept⟩
    | _ => exact hshut h
  | deregister e k point =>
    obtain ⟨rfl, h⟩ := h
    refine ⟨rfl, ?_⟩
    cases point with
    | kill point =>
      refine ⟨hshut h.1, ?_⟩
      cases point with
      | weigh => trivial
      | _ => exact h.2.mono hkeys hgiven (hlife (by simp [holds, LeavePoint.holds]))
    | _ => exact h
  | register c s ops point | closeSelector s point => exact h

/-- What an access of a call does to the channel, and to what is owed to it. -/
structure Advance (c : ListenerId) (n : UInt64) (f : Flags) (a : Call) (f' : Flags) (b : Call) :
    Prop where
  fits : b.Fits c n f'
  sound : f'.Sound
  shut : f.isOpen = false → f'.isOpen = false
  keys : ∀ k ∈ f'.keys, k ∈ f.keys ∧ a ≠ .deregister c k .strike
  given : f.given = true → f'.given = true
  lifecycle : f'.lifecycle = f.lifecycle ∨ .state c ∈ a.holds ∧ f'.lifecycle = .killed
  lock : .state c ∈ b.holds → .state c ∈ a.holds ∨ a.wants = some (.state c)
  closes : a.telling .closed n + b.owesClose.toNat + (if f.isOpen then 0 else 1) =
    a.owesClose.toNat + if f'.isOpen then 0 else 1
  kills : a.telling .killed n + b.owesKill.toNat + (if f.lifecycle = .killed then 1 else 0) =
    a.owesKill.toNat + if f'.lifecycle = .killed then 1 else 0
  attempt : f'.isOpen = false → (a.mayKill = true ∨ f.isOpen = true ∨ f'.keys ≠ f.keys) →
    f'.lifecycle = .killed ∨ f'.keys ≠ [] ∨ b.mayKill = true

section Advance

variable {c : ListenerId} {n : UInt64} {f f' : Flags} {a b : Call}

theorem Advance.same (hsound : f.Sound) (hfits : b.Fits c n f)
    (hattempt : f.isOpen = false → a.mayKill = true →
      f.lifecycle = .killed ∨ f.keys ≠ [] ∨ b.mayKill = true := by
        simp [Call.mayKill, ClosePoint.mayKill, LeavePoint.mayKill, KillPoint.isOver])
    (hcloses : a.telling .closed n + b.owesClose.toNat = a.owesClose.toNat := by rfl)
    (hkills : a.telling .killed n + b.owesKill.toNat = a.owesKill.toNat := by rfl)
    (hlock : .state c ∈ b.holds → .state c ∈ a.holds ∨ a.wants = some (.state c) := by
      simp [Call.holds, ClosePoint.holds, LeavePoint.holds, Call.wants, ClosePoint.wants,
        ClosePoint.cancelling])
    (hstrike : ∀ k, a ≠ .deregister c k .strike := by simp) : Advance c n f a f b where
  fits := hfits
  sound := hsound
  shut := id
  keys := fun k hk => ⟨hk, hstrike k⟩
  given := id
  lifecycle := .inl rfl
  lock := hlock
  closes := by rw [hcloses]
  kills := by rw [hkills]
  attempt := by
    intro hclosed hwhy
    rcases hwhy with hmay | hopen | hchanged
    · exact hattempt hclosed hmay
    · rw [hclosed] at hopen
      cases hopen
    · exact absurd rfl hchanged

theorem Advance.ofKill (h : KillPoint.Advance n f p f' p') (hclosed : f.isOpen = false)
    (hbusy : p.isOver = false) (hfits : b.Fits c n f')
    (hlock : .state c ∈ a.holds ∨ a.wants = some (.state c))
    (hpromote : ∀ released, p = .promote released → .state c ∈ a.holds)
    (htells : a.tells = none)
    (hcloses : b.owesClose = a.owesClose) (hkills : a.owesKill = p.owesKill)
    (hkills' : b.owesKill = p'.owesKill) (hmay : b.mayKill = !p'.isOver)
    (hstrike : ∀ k, a ≠ .deregister c k .strike) : Advance c n f a f' b where
  __ := h
  fits := hfits
  shut := fun _ => h.isOpen.trans hclosed
  keys := fun k hk => ⟨h.keys ▸ hk, hstrike k⟩
  lifecycle := h.lifecycle.imp_right fun ⟨⟨released, hp⟩, hkilled⟩ =>
    ⟨hpromote released hp, hkilled⟩
  lock := fun _ => hlock
  closes := by simp [telling, htells, hcloses, h.isOpen]
  kills := by simpa [telling, htells, hkills, hkills'] using h.kills
  attempt := fun _ _ => by simpa [hmay] using h.attempt hbusy

end Advance

end Call

theorem CancelPoint.Turn.flags {v v' : Scene} {p p' : CancelPoint} (t : Turn v p v' p')
    (c : ListenerId) : v'.flags c = v.flags c ∧ v'.named c = v.named c := by
  cases t <;> exact ⟨rfl, rfl⟩

section Telling

variable {n : UInt64} {event : Event}

theorem Event.isOf_other {kind kind' : EventKind} (h : event.isOf kind n = true)
    (hne : kind ≠ kind') : event.isOf kind' n = false := by
  simp only [isOf, Bool.and_eq_true, beq_iff_eq] at h
  simp [isOf, h.1, hne]

/-- An event of a kind counts once for its kind, and not for another. -/
theorem Call.telling_of (call : Call) {kind : EventKind} (htells : call.tells = some event)
    (h : event.isOf kind n = true) :
    call.telling kind n = 1 ∧ ∀ kind', kind ≠ kind' → call.telling kind' n = 0 := by
  refine ⟨?_, fun kind' hne => ?_⟩
  · simp [telling, htells, h]
  · simp [telling, htells, Event.isOf_other h hne]

end Telling

section Turns

variable {c : ListenerId} {n : UInt64} {v v' : Scene} {f : Flags}

theorem ClosePoint.Turn.advance {p p' : ClosePoint} (t : Turn c v p v' p') (hf : v.flags c = some f)
    (hn : v.named c = some n) (hsound : f.Sound) (hfits : p.Fits n f) :
    ∃ f', v'.flags c = some f' ∧ v'.named c = some n ∧
      Call.Advance c n f (.close c p) f' (.close c p') := by
  cases t with
  | late hd h =>
    obtain rfl := Scene.flags_inv hf hd
    exact ⟨_, hf, hn, .same hsound ⟨rfl, h⟩⟩
  | @shut d hd h =>
    obtain rfl := Scene.flags_inv hf hd
    have hopen : d.isOpen = true := h
    refine ⟨_, Scene.flags_putChannel, hn, ?_⟩
    exact
      { fits := ⟨rfl, rfl⟩
        sound := ⟨hsound.begun, fun hkilled => ⟨rfl, (hsound.killed hkilled).2⟩,
          fun _ => rfl⟩
        shut := fun _ => rfl
        keys := fun k hk => ⟨hk, by simp⟩
        given := id
        lifecycle := .inl rfl
        lock := by simp [Call.holds, holds]
        closes := by simp [Call.telling, Call.tells, tells, Call.owesClose, owesClose, hopen]
        kills := by simp [Call.telling, Call.tells, tells, Call.owesKill, owesKill]
        attempt := fun _ _ => .inr (.inr rfl) }
  | killed | look | act | signal | ended => exact ⟨f, hf, hn, .same hsound ⟨rfl, hfits⟩⟩
  | marked | mark =>
    have hclosed : f.isOpen = false := hfits
    refine ⟨_, Scene.flags_give hf, hn, ?_⟩
    exact
      { fits := ⟨rfl, hclosed⟩
        sound := ⟨hsound.begun, fun hkilled => ⟨hclosed, (hsound.killed hkilled).2.1, rfl⟩,
          fun _ => hclosed⟩
        shut := id
        keys := fun k hk => ⟨hk, by simp⟩
        given := fun _ => rfl
        lifecycle := .inl rfl
        lock := fun _ => .inl (by simp [Call.holds, holds])
        closes := rfl
        kills := rfl
        attempt := fun _ _ => .inr (.inr rfl) }
  | nobody released hkind hname | sample released hkind hname =>
    rw [hn] at hname
    refine ⟨f, hf, hn, .same hsound ⟨rfl, hfits, ?_⟩⟩
    simp [Event.isOf, hkind, Option.some.inj hname]
  | registered closing hd h =>
    obtain rfl := Scene.flags_inv hf hd
    exact ⟨_, hf, hn, .same hsound ⟨rfl, hfits.1, hfits.2, by rintro _ ⟨⟩⟩ fun _ _ =>
      .inr (.inl h)⟩
  | count => exact ⟨f, hf, hn, .same hsound ⟨rfl, hfits.1, hfits.2, trivial⟩⟩
  | kill closing h hbusy =>
    obtain ⟨hclosed, hclosing, hpoint⟩ := hfits
    obtain ⟨f', hf', hn', hadvance⟩ := h.advance hf hn hsound hclosed hpoint
    have hheld (point : KillPoint) : .state c ∈ (Call.close c (.kill closing point)).holds := by
      simp [Call.holds, holds]
    exact ⟨f', hf', hn', .ofKill hadvance hclosed hbusy
      ⟨rfl, hadvance.isOpen.trans hclosed, hclosing, hadvance.fits⟩ (.inl (hheld _))
        (fun _ _ => hheld _)
      rfl rfl rfl rfl rfl (by simp)⟩
  | decided closing event released =>
    obtain ⟨hclosed, hclosing, hpoint⟩ := hfits
    have hevent : ∀ e ∈ event, e.isOf .killed n = true := by
      rintro e ⟨⟩
      exact hpoint.2
    cases event <;> exact ⟨f, hf, hn, .same hsound ⟨rfl, hclosed, hclosing, hevent⟩⟩
  | tellOnly closing released =>
    obtain ⟨hclosed, hclosing, -⟩ := hfits
    obtain ⟨hone, hnone⟩ :=
      Call.telling_of (.close c (.tell closing (none, released))) rfl hclosing
    exact ⟨f, hf, hn, .same hsound ⟨rfl, hclosed⟩ (fun _ => Bool.false_ne_true.elim)
      (by rw [hone]; rfl) (by rw [hnone _ (by simp)]; rfl)⟩
  | tell closing event released =>
    obtain ⟨hclosed, hclosing, hkilling⟩ := hfits
    obtain ⟨hone, hnone⟩ :=
      Call.telling_of (.close c (.tell closing (some event, released))) rfl
      hclosing
    exact ⟨f, hf, hn, .same hsound ⟨rfl, hclosed, hkilling event rfl⟩
      (fun _ => Bool.false_ne_true.elim) (by rw [hone]; rfl) (by rw [hnone _ (by simp)]; rfl)⟩
  | tellKill event outcome =>
    obtain ⟨hclosed, hevent⟩ := hfits
    obtain ⟨hone, hnone⟩ := Call.telling_of (.close c (.tellKill event outcome)) rfl hevent
    exact ⟨f, hf, hn, .same hsound ⟨rfl, hclosed⟩ (fun _ => Bool.false_ne_true.elim)
      (by rw [hnone _ (by simp)]; rfl) (by rw [hone]; rfl)⟩
  | @sweep d outcome hd => cases d.keys <;> exact ⟨f, hf, hn, .same hsound ⟨rfl, hfits⟩⟩
  | cancel rest outcome h hbusy =>
    obtain ⟨hflags, hnamed⟩ := h.flags c
    exact ⟨f, hflags.trans hf, hnamed.trans hn, .same hsound ⟨rfl, hfits⟩⟩
  | cancelled rest outcome => cases rest <;> exact ⟨f, hf, hn, .same hsound ⟨rfl, hfits⟩⟩

theorem LeavePoint.Turn.advance {k : KeyId} {p p' : LeavePoint} (t : Turn c k v p v' p')
    (hf : v.flags c = some f) (hn : v.named c = some n) (hsound : f.Sound) (hfits : p.Fits n f) :
    ∃ f', v'.flags c = some f' ∧ v'.named c = some n ∧
      Call.Advance c n f (.deregister c k p) f' (.deregister c k p') := by
  cases t with
  | @strike d hd =>
    obtain rfl := Scene.flags_inv hf hd
    have hdrop : ∀ e ∈ (d.dropKey k).keys, e ∈ d.keys ∧ e ≠ k := by
      intro e he
      simpa [Standing.dropKey] using he
    refine ⟨_, Scene.flags_putChannel, hn, ?_⟩
    exact
      { fits := ⟨rfl, trivial⟩
        sound := ⟨hsound.begun, fun hkilled => by
            obtain ⟨hclosed, hkeys, hgiven⟩ := hsound.killed hkilled
            have hnone : (d.dropKey k).keys = [] := by
              simp [Standing.dropKey, show d.keys = [] from hkeys]
            exact ⟨hclosed, hnone, hgiven⟩,
          hsound.given⟩
        shut := id
        keys := fun e he => ⟨(hdrop e he).1, by simpa using Ne.symm (hdrop e he).2⟩
        given := id
        lifecycle := .inl rfl
        lock := by simp [Call.holds, holds]
        closes := rfl
        kills := rfl
        -- the look at the flag is still ahead, whatever is left of the list
        attempt := fun _ _ => .inr (.inr rfl) }
  | void | spared | ended => exact ⟨f, hf, hn, .same hsound ⟨rfl, trivial⟩⟩
  | last hd hkeys hclosed =>
    obtain rfl := Scene.flags_inv hf hd
    exact ⟨_, hf, hn, .same hsound ⟨rfl, hclosed, trivial⟩⟩
  | @more d hd h =>
    obtain rfl := Scene.flags_inv hf hd
    refine ⟨_, hf, hn, .same hsound ⟨rfl, trivial⟩ ?_⟩
    intro hclosed _
    rcases h with hkeys | hopen
    · exact .inr (.inl hkeys)
    · rw [show d.isOpen = false from hclosed] at hopen
      cases hopen
  | @kill _ point point' h hbusy =>
    obtain ⟨hclosed, hpoint⟩ := hfits
    obtain ⟨f', hf', hn', hadvance⟩ := h.advance hf hn hsound hclosed hpoint
    have hlock : .state c ∈ (Call.deregister c k (.kill point)).holds ∨
        (Call.deregister c k (.kill point)).wants = some (.state c) := by
      cases point <;> simp [Call.holds, holds, Call.wants, wants]
    exact ⟨f', hf', hn', .ofKill hadvance hclosed hbusy
      ⟨rfl, hadvance.isOpen.trans hclosed, hadvance.fits⟩ hlock
      (by rintro _ rfl; simp [Call.holds, holds]) rfl rfl rfl rfl rfl (by simp)⟩
  | killed => exact ⟨f, hf, hn, .same hsound ⟨rfl, hfits.2.2⟩⟩
  | tell event released =>
    obtain ⟨hone, hnone⟩ := Call.telling_of (.deregister c k (.tell event released)) rfl hfits
    exact ⟨f, hf, hn, .same hsound ⟨rfl, trivial⟩ (fun _ => Bool.false_ne_true.elim)
      (by rw [hnone _ (by simp)]; rfl) (by rw [hone]; rfl)⟩

theorem Call.Turn.advance {b : Call} (t : Turn v a v' b) (hf : v.flags c = some f)
    (hn : v.named c = some n) (hsound : f.Sound) (hfits : a.Fits c n f) :
    ∃ f', v'.flags c = some f' ∧ v'.named c = some n ∧ Advance c n f a f' b := by
  cases t with
  | close h | deregister h =>
    obtain ⟨rfl, hpoint⟩ := hfits
    exact h.advance hf hn hsound hpoint
  | register ops h | closeSelector h => cases hfits

end Turns

/-! ## Interleavings -/

namespace Interleaving

/-- What the channel shows, where the calls stand and what was told agree. -/
structure Agreed (c : ListenerId) (n : UInt64) (f : Flags) (r : Interleaving) : Prop where
  flags : r.station.scene.flags c = some f
  named : r.station.scene.named c = some n
  sound : f.Sound
  fits : ∀ (i : Nat) (call : Call), r.calls[i]? = some call → call.Fits c n f
  /-- One call keeps the lock on the lifecycle. -/
  alone : ∀ (i j : Nat) (a b : Call), r.calls[i]? = some a → r.calls[j]? = some b →
    .state c ∈ a.holds → .state c ∈ b.holds → i = j
  closes : r.told.countP (Event.isOf .closed n) + r.calls.countP Call.owesClose =
    if f.isOpen then 0 else 1
  kills : r.told.countP (Event.isOf .killed n) + r.calls.countP Call.owesKill =
    if f.lifecycle = .killed then 1 else 0
  /-- A closed channel without keys is killed, or somebody will have a look at it. -/
  attempt : f.isOpen = false → f.lifecycle = .killed ∨ f.keys ≠ [] ∨
    ∃ (i : Nat) (call : Call), r.calls[i]? = some call ∧ call.mayKill = true
  /-- Every key that is listed will be taken off. -/
  covered : ∀ k ∈ f.keys, .deregister c k .strike ∈ r.calls

theorem not_holds_of_free {lock : Lock} (hfree : r.blocked a = false) (hwants : a.wants = some lock)
    (hcall : r.calls[i]? = some call) : lock ∉ call.holds := by
  intro hholds
  rw [blocked, hwants] at hfree
  exact List.any_eq_false.mp hfree call (List.mem_of_getElem? hcall)
    (List.contains_iff_mem.mpr hholds)

theorem Agreed.access {b : Call} {st' : Station} (h : Agreed c n f r) (ha : r.calls[i]? = some a)
    (hfree : r.blocked a = false) (hf' : st'.scene.flags c = some f')
    (hn' : st'.scene.named c = some n) (hadvance : Call.Advance c n f a f' b) :
    Agreed c n f' ⟨st', r.calls.set i b, r.told ++ a.tells.toList⟩ where
  flags := hf'
  named := hn'
  sound := hadvance.sound
  fits := by
    intro j call hj
    rcases Guard.Race.getElem?_set_cases hj with ⟨rfl, rfl⟩ | ⟨hne, hold⟩
    · exact hadvance.fits
    · refine (h.fits j call hold).mono hadvance.shut ?_ hadvance.given ?_
      · intro hkeys
        refine List.eq_nil_iff_forall_not_mem.mpr fun k hk => ?_
        simpa [hkeys] using (hadvance.keys k hk).1
      · -- the lifecycle changes only under the lock, which this call keeps
        intro hholds
        rcases hadvance.lifecycle with hsame | hlock
        · exact hsame
        · exact absurd (h.alone j i call a hold ha hholds hlock.1) hne
  alone := Guard.Race.alone_set (P := fun call : Call => .state c ∈ call.holds) ha h.alone
    fun hb =>
    (hadvance.lock hb).imp_right fun hwants _ _ hk => not_holds_of_free hfree hwants hk
  closes := by
    have hcount := Guard.Race.countP_set_add (b := b) Call.owesClose ha
    have hold := h.closes
    have hnew := hadvance.closes
    rw [List.countP_append]
    show _ + a.telling .closed n + (r.calls.set i b).countP Call.owesClose = _
    omega
  kills := by
    have hcount := Guard.Race.countP_set_add (b := b) Call.owesKill ha
    have hold := h.kills
    have hnew := hadvance.kills
    rw [List.countP_append]
    show _ + a.telling .killed n + (r.calls.set i b).countP Call.owesKill = _
    omega
  attempt := by
    have hme (hwhy : a.mayKill = true ∨ f.isOpen = true ∨ f'.keys ≠ f.keys)
        (hclosed : f'.isOpen = false) : f'.lifecycle = .killed ∨ f'.keys ≠ [] ∨
          ∃ (j : Nat) (call : Call), (r.calls.set i b)[j]? = some call ∧
          call.mayKill = true := by
      rcases hadvance.attempt hclosed hwhy with hkilled | hkeys | hmay
      · exact .inl hkilled
      · exact .inr (.inl hkeys)
      · exact .inr (.inr ⟨i, b, Guard.Race.getElem?_set_of_getElem? ha, hmay⟩)
    intro hclosed
    by_cases hopen : f.isOpen = true
    · exact hme (.inr (.inl hopen)) hclosed
    by_cases hkeys : f'.keys = f.keys
    · rcases h.attempt (Bool.not_eq_true _ ▸ hopen) with hkilled | hlisted |
        ⟨j, call, hj, hmay⟩
      · left
        rcases hadvance.lifecycle with hsame | ⟨-, hkilled'⟩
        · exact hsame.trans hkilled
        · exact hkilled'
      · exact .inr (.inl (hkeys ▸ hlisted))
      · by_cases hij : j = i
        · subst hij
          rw [ha] at hj
          cases hj
          exact hme (.inl hmay) hclosed
        · exact .inr
            (.inr ⟨j, call, by rw [List.getElem?_set_ne (Ne.symm hij)]; exact hj, hmay⟩)
    · exact hme (.inr (.inr hkeys)) hclosed
  covered := by
    intro k hk
    obtain ⟨hlisted, hne⟩ := hadvance.keys k hk
    exact Guard.Race.mem_set_of_ne ha (h.covered k hlisted) (Ne.symm hne)

theorem Agreed.play (h : Agreed c n f r) (i : Nat) : ∃ f', Agreed c n f' (r.play i) := by
  rcases r.play_cases i with hsame | ⟨a, b, st', ha, hfree, hstep, hplay⟩
  · rw [hsame]
    exact ⟨f, h⟩
  · obtain ⟨f', hf', hn', hadvance⟩ :=
      (Call.turn hstep).advance h.flags h.named h.sound (h.fits i a ha)
    rw [hplay]
    exact ⟨f', h.access ha hfree hf' hn' hadvance⟩

theorem Agreed.after (h : Agreed c n f r) (moves : List Nat) :
    ∃ f', Agreed c n f' (r.after moves) := by
  refine List.foldlRecOn (motive := fun r => ∃ f, Agreed c n f r) moves _ ⟨f, h⟩ ?_
  rintro r ⟨f', h'⟩ i -
  exact h'.play i

section Beginning

variable {st : Station} {c : ListenerId} {l : Listener} {calls : List Call}

/-- The calls are about to close the channel, or to take keys off it. -/
def Begins (c : ListenerId) (calls : List Call) : Prop :=
  ∀ call ∈ calls, call = .close c .shut ∨ ∃ k, call = .deregister c k .strike

theorem Begins.idle (hcalls : Begins c calls) (hcall : call ∈ calls) (n : UInt64) (f : Flags) :
    call.Fits c n f ∧ .state c ∉ call.holds ∧ call.owesClose = false ∧
      call.owesKill = false := by
  rcases hcalls call hcall with rfl | ⟨k, rfl⟩
  · exact ⟨⟨rfl, trivial⟩, by simp [Call.holds, ClosePoint.holds], rfl, rfl⟩
  · exact ⟨⟨rfl, trivial⟩, by simp [Call.holds, LeavePoint.holds], rfl, rfl⟩

theorem agreed_initial (hl : st.listeners[c]? = some l) (hopen : l.core.isOpen = true)
    (huse : l.lifecycle = .inUse) (hheld : l.descriptor.isClosed = false)
    (hcalls : Begins c calls) (hkeys : ∀ k ∈ l.core.keys, .deregister c k .strike ∈ calls) :
    Agreed c l.id.toUInt64 ⟨true, l.core.keys, .inUse, false⟩ ⟨st, calls, []⟩ where
  flags := by
    rw [Scene.flags_of (Station.scene_channel hl)]
    simp [Listener.standing, Station.scene, hl, hopen, huse, hheld]
  named := Station.scene_named hl
  sound := ⟨by simp, by simp, by simp⟩
  fits := fun i call hcall => (hcalls.idle (List.mem_of_getElem? hcall) _ _).1
  alone := by
    intro i j a b ha hb hholds
    exact absurd hholds (hcalls.idle (List.mem_of_getElem? ha) 0 ⟨true, [], .inUse, false⟩).2.1
  closes := by
    have hnone : calls.countP Call.owesClose = 0 := by
      refine List.countP_eq_zero.mpr fun call hcall => ?_
      simp [(hcalls.idle hcall 0 ⟨true, [], .inUse, false⟩).2.2.1]
    simp [hnone]
  kills := by
    have hnone : calls.countP Call.owesKill = 0 := by
      refine List.countP_eq_zero.mpr fun call hcall => ?_
      simp [(hcalls.idle hcall 0 ⟨true, [], .inUse, false⟩).2.2.2]
    simp [hnone]
  attempt := by simp
  covered := hkeys

theorem close_after {p : ClosePoint} (h : r.calls[i]? = some (.close c p)) (moves : List Nat) :
    ∃ p', (r.after moves).calls[i]? = some (.close c p') := by
  induction moves using List.reverseRecOn with
  | nil => exact ⟨p, h⟩
  | append_singleton moves j ih =>
    obtain ⟨p', h'⟩ := ih
    rw [after_concat]
    rcases (r.after moves).play_cases j with hsame | ⟨a, b, st', ha, -, hstep, hplay⟩
    · rw [hsame]
      exact ⟨p', h'⟩
    · rw [hplay]
      by_cases hij : j = i
      · subst hij
        rw [ha] at h'
        cases h'
        cases Call.turn hstep with
        | close h => exact ⟨_, Guard.Race.getElem?_set_of_getElem? ha⟩
      · exact ⟨p', by rw [← h', List.getElem?_set_ne hij]⟩

end Beginning

theorem over_idle (h : call.isOver = true) :
    call.owesClose = false ∧ call.owesKill = false ∧ call.mayKill = false ∧
      ∀ k, call ≠ .deregister c k .strike := by
  cases call with
  | close e point | deregister e k point =>
    cases point with
    | ended outcome => exact ⟨rfl, rfl, rfl, by simp⟩
    | _ => cases h
  | register e s ops point | closeSelector s point => exact ⟨rfl, rfl, rfl, by simp⟩

/-- Once all calls are over, a closed channel is killed, and its close and its kill were told. -/
theorem Agreed.settled (h : Agreed c n f r) (hclosed : f.isOpen = false)
    (hover : ∀ call ∈ r.calls, call.isOver = true) :
    f.lifecycle = .killed ∧ r.told.countP (Event.isOf .closed n) = 1 ∧
      r.told.countP (Event.isOf .killed n) = 1 := by
  have hkeys : f.keys = [] := by
    refine List.eq_nil_iff_forall_not_mem.mpr fun k hk => ?_
    have hcall := h.covered k hk
    exact (over_idle (hover _ hcall)).2.2.2 k rfl
  have hkilled : f.lifecycle = .killed := by
    rcases h.attempt hclosed with hkilled | hlisted | ⟨i, call, hi, hmay⟩
    · exact hkilled
    · exact absurd hkeys hlisted
    · have hidle := (over_idle (c := c) (hover _ (List.mem_of_getElem? hi))).2.2.1
      rw [hidle] at hmay
      cases hmay
  have hcloses : r.calls.countP Call.owesClose = 0 :=
    List.countP_eq_zero.mpr fun call hcall => by simp [(over_idle (c := c) (hover call hcall)).1]
  have hkills : r.calls.countP Call.owesKill = 0 :=
    List.countP_eq_zero.mpr fun call hcall => by simp [(over_idle (c := c) (hover call hcall)).2.1]
  have hcount := h.closes
  have hcount' := h.kills
  rw [hcloses, hclosed] at hcount
  rw [hkills, if_pos hkilled] at hcount'
  exact ⟨hkilled, hcount, hcount'⟩

/-- Closes of an open channel run together with deregistrations of all of its keys, in any order of
accesses. A killed channel is always closed, without keys and without its descriptor, and a channel
gives its descriptor up only when it is closed. When all calls are over the channel is killed, and
one close and one kill were told; what was told is what the station keeps, if it keeps events. -/
theorem closed_and_killed_once {st : Station} {c : ListenerId} {l : Listener} {calls : List Call}
    (hl : st.listeners[c]? = some l) (hopen : l.core.isOpen = true) (huse : l.lifecycle = .inUse)
    (hheld : l.descriptor.isClosed = false) (hcalls : Begins c calls)
    (hclose : .close c .shut ∈ calls)
    (hkeys : ∀ k ∈ l.core.keys, .deregister c k .strike ∈ calls) (moves : List Nat) :
    ∃ r l', r = (⟨st, calls, []⟩ : Interleaving).after moves ∧
      r.station.listeners[c]? = some l' ∧
      (l'.lifecycle = .killed →
        l'.core.isOpen = false ∧ l'.core.keys = [] ∧ l'.descriptor.isClosed = true) ∧
      (l'.descriptor.isClosed = true → l'.core.isOpen = false) ∧
      ((∀ call ∈ r.calls, call.isOver = true) →
        l'.lifecycle = .killed ∧
        r.told.countP (Event.isOf .closed l.id.toUInt64) = 1 ∧
        r.told.countP (Event.isOf .killed l.id.toUInt64) = 1) ∧
      r.station.reports.map Report.event =
        if st.provider.logging then st.reports.map Report.event ++ r.told
        else st.reports.map Report.event := by
  obtain ⟨f, h⟩ := (agreed_initial hl hopen huse hheld hcalls hkeys).after moves
  have hrecord := congrArg Record.events (record_after st calls moves)
  obtain ⟨i, hi⟩ := List.getElem?_of_mem hclose
  obtain ⟨p, hp⟩ := close_after (r := ⟨st, calls, []⟩) hi moves
  generalize (⟨st, calls, []⟩ : Interleaving).after moves = r at h hrecord hp
  obtain ⟨d, hd, hf⟩ := Option.map_eq_some_iff.mp h.flags
  obtain ⟨l', hl', rfl⟩ := Option.map_eq_some_iff.mp hd
  have hgiven : f.given = l'.descriptor.isClosed := by
    rw [← hf]
    simp [Station.scene, hl']
  have hflags : f = ⟨l'.core.isOpen, l'.core.keys, l'.lifecycle, l'.descriptor.isClosed⟩ := by
    rw [← hgiven, ← hf]
    rfl
  subst hflags
  refine ⟨r, l', rfl, hl', h.sound.killed, h.sound.given, fun hover => ?_, hrecord⟩
  -- the close that was called flipped the channel before it was over
  have hshut : l'.core.isOpen = false := by
    have hfits := (h.fits i _ hp).2
    have hdone := hover _ (List.mem_of_getElem? hp)
    cases p with
    | ended outcome => exact hfits
    | _ => cases hdone
  exact h.settled hshut hover

/-- A channel with one key, whose events are kept. -/
def keyedStation : Station :=
  Station.after [.provide { logging := true }, .openListener, .openSelector,
    .configureBlocking 0 false, .register 0 0 Operation.accept]

/-- The deregistration finds the channel closed and without keys, but comes to the lifecycle after
the first close; the second close comes too late for anything. -/
def overtakenMoves : List Nat :=
  [0, 2, 2, 2, 0, 0, 0, 2, 1, 0, 0, 0, 0, 0, 0, 0, 0, 0, 0, 0, 2, 2, 1]

theorem killed_by_close_before_deregistration :
    ∃ r l', r = (⟨keyedStation, [.close 0 .shut, .close 0 .shut, .deregister 0 1 .strike],
        []⟩ : Interleaving).after overtakenMoves ∧
      r.station.listeners[0]? = some l' ∧ (∀ call ∈ r.calls, call.isOver = true) ∧
      l'.lifecycle = .killed ∧ r.told.countP (Event.isOf .closed 1) = 1 ∧
      r.told.countP (Event.isOf .killed 1) = 1 := by
  have hbegins : Begins 0 [.close 0 .shut, .close 0 .shut, .deregister 0 1 .strike] := by
    simp [Begins]
  have hl : keyedStation.listeners[0]? =
      some
        { id := 1, descriptor := { number := 3 }, core := { blocking := false, keys := [1] } } := by
    decide
  obtain ⟨r, l', rfl, hl', -, -, hsettled, -⟩ :=
    closed_and_killed_once hl rfl rfl rfl hbegins (by simp) (by simp) overtakenMoves
  have hover : ∀ call ∈ ((⟨keyedStation, [.close 0 .shut, .close 0 .shut,
      .deregister 0 1 .strike], []⟩ : Interleaving).after overtakenMoves).calls,
      call.isOver = true := by
    decide
  exact ⟨_, l', rfl, hl', hover, hsettled hover⟩

end Interleaving
end PolledChannels
