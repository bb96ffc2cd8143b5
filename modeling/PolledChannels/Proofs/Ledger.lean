import PolledChannels.Proofs.ThreadSteps

/-!
# The ledger of a station

A key holds an interest set and a ready set, and its selector holds the mask that it polls the key
with. The ledger of a station is what there is of these three, with the selectors' being open and
kept. Much of what a station does leaves it alone: binding, accepting, closing and interrupting
channels, and cancelling keys.
-/

namespace PolledChannels

open PolledChannels.Action

variable {s : SelectorId} {k : KeyId} {st : Station}

/-- What a key waits for, what was found ready, and the selector that it is for. -/
structure Account where
  selector : SelectorId
  interest : Mask
  ready : Mask

/-- The masks that a selector holds, and whether it is open and kept. -/
structure Sheet where
  isOpen : Bool
  alive : Bool
  masks : List (KeyId × Mask)

/-- Accounts and sheets by their names. -/
@[ext]
structure Ledger where
  account : KeyId → Option Account
  sheet : SelectorId → Option Sheet

def Key.account (key : Key) : Account := ⟨key.selector, key.interest, key.ready⟩

def Selector.sheet (x : Selector) : Sheet := ⟨x.isOpen, x.alive, x.registered⟩

/-- Interest sets, ready sets and masks. -/
def Station.ledger (st : Station) : Ledger where
  account k := (st.key? k).map Key.account
  sheet s := st.selectors[s]?.map Selector.sheet

namespace Ledger

def putAccount (g : Ledger) (k : KeyId) (a : Account) : Ledger :=
  { g with account := fun e => if e = k then some a else g.account e }

def putSheet (g : Ledger) (s : SelectorId) (x : Sheet) : Ledger :=
  { g with sheet := fun e => if e = s then some x else g.sheet e }

/-- Changes the account of a key, if there is such a key. -/
def onAccount (g : Ledger) (k : KeyId) (f : Account → Account) : Ledger :=
  { g with account := fun e => if e = k then (g.account k).map f else g.account e }

/-- Changes the sheet of a selector, if there is such a selector. -/
def onSheet (g : Ledger) (s : SelectorId) (f : Sheet → Sheet) : Ledger :=
  { g with sheet := fun e => if e = s then (g.sheet s).map f else g.sheet e }

theorem onAccount_id (g : Ledger) (k : KeyId) : g.onAccount k id = g := by
  refine Ledger.ext (funext fun e => ?_) rfl
  by_cases he : e = k <;> simp [onAccount, he]

theorem onSheet_id (g : Ledger) (s : SelectorId) : g.onSheet s id = g := by
  refine Ledger.ext rfl (funext fun e => ?_)
  by_cases he : e = s <;> simp [onSheet, he]

variable {g : Ledger}

theorem onSheet_of {x : Sheet} (h : g.sheet s = some x) (f : Sheet → Sheet) :
    g.onSheet s f = g.putSheet s (f x) := by
  simp [onSheet, putSheet, h]

theorem onSheet_none (h : g.sheet s = none) (f : Sheet → Sheet) : g.onSheet s f = g := by
  refine Ledger.ext rfl (funext fun e => ?_)
  by_cases he : e = s <;> simp [onSheet, he, h]

theorem putAccount_self (g : Ledger) (k : KeyId) (a : Account) :
    (g.putAccount k a).account k = some a :=
  if_pos rfl

theorem putAccount_of_ne {j : KeyId} {a : Account} (h : j ≠ k) :
    (g.putAccount k a).account j = g.account j :=
  if_neg h

end Ledger

namespace Station

theorem ledger_account_of {key : Key} (h : st.key? k = some key) :
    st.ledger.account k = some key.account := by
  simp [ledger, h]

theorem ledger_sheet_of {x : Selector} (h : st.selectors[s]? = some x) :
    st.ledger.sheet s = some x.sheet := by
  simp [ledger, h]

theorem ledger_modifyKey (st : Station) (k : KeyId) {f : Key → Key} {g : Account → Account}
    (hfg : ∀ key, (f key).account = g key.account) :
    (st.modifyKey k f).ledger = st.ledger.onAccount k g := by
  refine Ledger.ext (funext fun e => ?_) (funext fun s => ?_)
  · by_cases he : e = k <;> simp [ledger, Ledger.onAccount, key?_modifyKey, he,
      Function.comp_def, hfg]
  · simp only [ledger, Ledger.onAccount, selectors_modifyKey]

theorem ledger_modifyKey_of {key : Key} (hk : st.key? k = some key) (f : Key → Key) :
    (st.modifyKey k f).ledger = st.ledger.putAccount k (f key).account := by
  refine Ledger.ext (funext fun e => ?_) (funext fun s => ?_)
  · by_cases he : e = k <;> simp [ledger, Ledger.putAccount, key?_modifyKey, he, hk]
  · simp only [ledger, Ledger.putAccount, selectors_modifyKey]

theorem ledger_modifySelector (st : Station) (s : SelectorId) {f : Selector → Selector}
    {g : Sheet → Sheet} (hfg : ∀ x, (f x).sheet = g x.sheet) :
    (st.modifySelector s f).ledger = st.ledger.onSheet s g :=
  Ledger.ext rfl (funext fun e => map_getElem?_modify st.selectors s hfg e)

theorem ledger_modifySelector_of {x : Selector} (hx : st.selectors[s]? = some x)
    (f : Selector → Selector) :
    (st.modifySelector s f).ledger = st.ledger.putSheet s (f x).sheet := by
  refine Ledger.ext rfl (funext fun e => ?_)
  by_cases he : e = s
  · simp [ledger, Ledger.putSheet, modifySelector, he, hx]
  · simp [ledger, Ledger.putSheet, modifySelector, List.getElem?_modify_ne f st.selectors
      (Ne.symm he), he]

theorem ledger_append_key (st : Station) (key : Key) :
    ({ st with keys := st.keys ++ [key] } : Station).ledger =
      st.ledger.putAccount (st.keys.length + 1) key.account := by
  refine Ledger.ext (funext fun e => ?_) rfl
  cases e with
  | zero => simp [ledger, Ledger.putAccount, key?]
  | succ e =>
    simpa [ledger, Ledger.putAccount, key?] using map_getElem?_append st.keys key Key.account e

theorem ledger_append_selector (st : Station) :
    ({ st with selectors := st.selectors ++ [{}] } : Station).ledger =
      st.ledger.putSheet st.selectors.length ⟨true, true, []⟩ :=
  Ledger.ext rfl (funext fun e => map_getElem?_append st.selectors {} Selector.sheet e)

end Station

namespace Action

variable {α : Type}

/-- The operation leaves interest sets, ready sets and masks as they are. -/
abbrev Bypasses (a : Action α) : Prop := Frames Station.ledger a

theorem ledger_hidesAccepts : HidesAccepts Station.ledger where
  world _ _ := rfl
  signals _ _ := rfl
  listeners _ _ _ _ := rfl
  connections _ _ _ _ := rfl
  reports _ _ := rfl
  connected _ _ _ := rfl
  standings _ _ _ _ := rfl
  interrupts _ _ := rfl

theorem bypasses_modifyListener (c : ListenerId) (f : Listener → Listener) :
    Bypasses (modify fun st => st.modifyListener c f : Action Unit) :=
  frames_modify fun _ => rfl

theorem bypasses_modifySelector (s : SelectorId) {f : Selector → Selector}
    (hf : ∀ x, (f x).sheet = x.sheet) :
      Bypasses (modify fun st => st.modifySelector s f : Action Unit) :=
  frames_modify fun st => (st.ledger_modifySelector s hf).trans (st.ledger.onSheet_id s)

/-! ## Cancelling keys -/

theorem bypasses_wakeup (s : SelectorId) : Bypasses (wakeup s) :=
  bypasses_modifySelector s fun _ => rfl

theorem bypasses_invalidate (k : KeyId) : Bypasses (invalidate k) :=
  frames_modify fun st => (st.ledger_modifyKey k fun _ => rfl).trans (st.ledger.onAccount_id k)

theorem bypasses_queueCancelled (s : SelectorId) (k : KeyId) : Bypasses (queueCancelled s k) := by
  refine frames_bind frames_get fun st => ?_
  split
  · exact frames_pure _
  · split
    · exact frames_bind (bypasses_modifySelector s fun _ => rfl) fun _ => bypasses_wakeup s
    · exact frames_pure _

theorem bypasses_cancelKey (k : KeyId) : Bypasses (cancelKey k) := by
  refine frames_bind frames_get fun st => ?_
  split
  · exact frames_pure _
  · split
    · refine frames_bind (bypasses_invalidate k) fun _ => ?_
      split
      · exact bypasses_queueCancelled _ k
      · exact frames_pure _
    · exact frames_pure _

theorem bypasses_clearSelected (s : SelectorId) : Bypasses (clearSelected s) :=
  bypasses_modifySelector s fun _ => rfl

theorem bypasses_removeSelected (s : SelectorId) (k : KeyId) : Bypasses (removeSelected s k) :=
  frames_bind (frames_selector s) fun _ =>
    frames_bind (bypasses_modifySelector s fun _ => rfl) fun _ => frames_pure _

/-! ## Closing channels -/

theorem bypasses_killLocked (c : ListenerId) : Bypasses (killLocked c) :=
  ledger_hidesAccepts.killLocked (bypasses_modifyListener c _)

theorem bypasses_kill (c : ListenerId) : Bypasses (kill c) :=
  ledger_hidesAccepts.kill (bypasses_modifyListener c _) fun _ => ledger_hidesAccepts.emit _ _

theorem bypasses_deregister (c : ListenerId) (k : KeyId) : Bypasses (deregister c k) := by
  refine frames_bind ?_ fun last => ?_
  · exact frames_bind (frames_listener c) fun _ =>
      frames_bind (bypasses_modifyListener c _) fun _ =>
      frames_bind (bypasses_invalidate k) fun _ => frames_pure _
  · split
    · exact bypasses_kill c
    · exact frames_pure _

theorem bypasses_finishClose (c : ListenerId) : Bypasses (finishClose c) := by
  refine frames_bind (ledger_hidesAccepts.surrender c) fun closing =>
    frames_bind (frames_listener c) fun l => ?_
  split
  · exact frames_bind (frames_pure _) fun _ => ledger_hidesAccepts.reportClose _ _ _
  · exact frames_bind (bypasses_killLocked c) fun _ => ledger_hidesAccepts.reportClose _ _ _

theorem bypasses_closeOnBehalf (c : ListenerId) (target : Option ThreadId) :
    Bypasses (closeOnBehalf c target) := by
  refine frames_bind (frames_listener c) fun l => ?_
  split
  · exact frames_pure _
  · refine frames_bind (bypasses_modifyListener c _) fun _ =>
      frames_bind (frames_observe (bypasses_finishClose c)) fun outcome =>
        frames_bind (frames_listener c) fun l => frames_bind ?_ fun _ => frames_lift outcome
    exact frames_forIn (fun k _ => frames_bind (bypasses_cancelKey k) fun _ => frames_pure _) _ _

theorem bypasses_interruptListener (c : ListenerId) (target : ThreadId) :
    Bypasses (interruptListener c target) :=
  frames_bind (frames_listener c) fun _ => frames_bind (ledger_hidesAccepts.emit _ _) fun _ =>
    frames_bind (frames_observe (bypasses_closeOnBehalf c _)) fun _ => frames_pure _

theorem bypasses_dropListener (c : ListenerId) : Bypasses (dropListener c) := by
  refine frames_bind (frames_listener c) fun l =>
    frames_bind (bypasses_modifyListener c _) fun _ => ?_
  split
  · exact frames_bind (ledger_hidesAccepts.closeDescriptor c) fun _ => frames_pure _
  · exact frames_pure _

/-! ## Opening, binding and accepting -/

theorem bypasses_addListener (number : FileNumber) (address : Option Endpoint) :
    Bypasses (addListener number address) :=
  frames_bind (fun _ _ h => h) fun _ => frames_get_bind fun _ =>
    (frames_bind (ledger_hidesAccepts.emit _ _) fun _ => frames_pure _).eq _

theorem bypasses_openListener : Bypasses openListener :=
  frames_bind (ledger_hidesAccepts.network _) fun _ => frames_bind (frames_demand _) fun _ =>
    bypasses_addListener _ _

theorem bypasses_adoptSocket (number : FileNumber) : Bypasses (adoptSocket number) := by
  refine frames_bind (ledger_hidesAccepts.network _) fun r => ?_
  split
  · exact frames_bind (ledger_hidesAccepts.network _) fun _ => frames_throw _
  · exact bypasses_addListener _ _

theorem bypasses_configureBlocking (c : ListenerId) (block : Bool) :
    Bypasses (configureBlocking c block) := by
  refine frames_bind (frames_listener c) fun l => frames_bind frames_get fun st =>
    frames_bind (frames_lift _) fun changes => ?_
  split
  · exact frames_bind (ledger_hidesAccepts.calling c _) fun _ =>
      frames_bind (frames_demand _) fun _ =>
      bypasses_modifyListener c _
  · exact frames_pure _

theorem bypasses_enterAccept (me : ThreadId) (c : ListenerId) : Bypasses (enterAccept me c) := by
  have hrest : Bypasses (storeAcceptor me c) := by
    refine frames_bind (frames_listener c) fun l => ?_
    split
    · exact frames_bind (bypasses_modifyListener c _) fun _ => frames_pure _
    · exact frames_pure _
  refine frames_bind (frames_listener c) fun l => ?_
  split
  · exact frames_throw _
  split
  · exact frames_throw _
  · refine frames_get_bind fun st => ?_
    have hentered : Bypasses (do
        if (st.interrupts.enter me c).2 then interruptListener c me else pure ()
        storeAcceptor me c) := by
      split
      · exact frames_bind (bypasses_interruptListener c me) fun _ => hrest
      · exact hrest
    exact hentered.eq { st with interrupts := (st.interrupts.enter me c).1 }

end Action

theorem ledger_attends (me : ThreadId) (x : Ledger) :
    Attends me (fun st => st.ledger = x) fun _ st => st.ledger = x :=
  ledger_hidesAccepts.attends (P := (· = x)) (fun c => bypasses_enterAccept me c x) fun c block =>
    bypasses_configureBlocking c block x

end PolledChannels
