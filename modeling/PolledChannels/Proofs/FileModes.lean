import PolledChannels.Proofs.NetCalls

/-!
# The blocking mode of a file

Which calls of the network touch the mode of an open file. A call that sets the mode may fail, and
then the mode is as it was; a call that closes the file takes the mode with it; and a new file has a
number that no file had before, so it takes nobody's mode. Every other call leaves the modes alone.
-/

namespace PolledChannels

open Network

namespace Network

variable {n : Network} {fd other : FileNumber}

/-- The mode of the file with a number: whether calls on it block. -/
def mode? (n : Network) (fd : FileNumber) : Option Bool :=
  (n.file? fd).map File.blocking

theorem mode?_modifyFile {f : File → File} (hf : ∀ x, (f x).blocking = x.blocking) :
    (n.modifyFile other f).mode? fd = n.mode? fd := by
  rw [mode?, file?_modifyFile]
  split
  · rw [Option.map_map]
    exact congrArg (fun g => (n.file? fd).map g) (funext hf)
  · rfl

theorem mode?_eraseFile_self : (n.eraseFile fd).mode? fd = none := by
  rw [mode?, file?_eraseFile, if_pos rfl, Option.map_none]

theorem mode?_eraseFile_of_ne (h : other ≠ fd) : (n.eraseFile other).mode? fd = n.mode? fd := by
  rw [mode?, file?_eraseFile, if_neg h.symm]
  rfl

theorem mode?_addFile (h : fd < n.nextNumber) (file : File) :
    (n.addFile file).1.mode? fd = n.mode? fd := by
  rw [mode?, file?_addFile, if_neg (Int.ne_of_lt h), Option.or_none]
  rfl

theorem mode?_addFile_new (h : n.mode? n.nextNumber = none) (file : File) :
    (n.addFile file).1.mode? n.nextNumber = some file.blocking := by
  rw [mode?, file?_addFile, Option.map_eq_none_iff.mp h, if_pos rfl]
  rfl

/-- The number was given out, and the mode of its file is one of these. -/
structure Spares (fd : FileNumber) (P : Option Bool → Prop) (n : Network) : Prop where
  mode : P (n.mode? fd)
  below : fd < n.nextNumber

theorem Spares.of_eq {P : Option Bool → Prop} {n' : Network} (h : n.Spares fd P)
    (hmode : n'.mode? fd = n.mode? fd) (hnumber : n'.nextNumber = n.nextNumber) : n'.Spares fd P :=
  ⟨hmode ▸ h.mode, hnumber ▸ h.below⟩

/-- The connections that wait at a listening socket. -/
def pending (n : Network) (fd : FileNumber) : List Pending :=
  match n.socket? fd with
  | some s =>
    match s.state with
    | .listening _ pending => pending
    | _ => []
  | none => []

end Network

/-! ## What an accept does -/

namespace Net

variable {fd other : FileNumber} {P : Option Bool → Prop} {n n' : Network} {block : Bool}

theorem named_cases (taken : FileNumber) (remote : Endpoint) (n : Network) :
    (accept.named taken remote).run n = (.ok (some (taken, remote)), n.consulted) ∨
      (accept.named taken remote).run n =
        (.error Storage.unreadable, n.consulted.eraseFile taken) := by
  rw [accept.named, run_tryCatch, run_consult_bind]
  cases n.fault? with
  | none => exact .inl rfl
  | some e => exact .inr rfl

/-- The network in which an accept has opened a connection under the next number. -/
structure Opened (fd : FileNumber) (p : Pending) (n m : Network) : Prop where
  waits : ∃ rest, n.pending fd = p :: rest
  opened : ∃ (f : File → File) (file : File), (∀ x, (f x).blocking = x.blocking) ∧
    file.blocking = true ∧ m = ((n.consulted.modifyFile fd f).addFile file).1

/-- An accept fails before it takes anything, or finds nothing, or takes the connection that waits
longest and can read the address of its peer or not. -/
theorem accept_cases {r : Except IoError (Option (FileNumber × Endpoint))}
    (h : (accept fd).run n = (r, n')) :
    (∃ e, r = .error e ∧ n' = n.consulted ∧
      (e = .os .again → n.fault? = some e ∨ n.mode? fd = some false ∧ n.pending fd = [])) ∨
    (r = .ok none ∧ n' = n.consulted) ∨
    ∃ p m, Opened fd p n m ∧
      (r = .ok (some (n.nextNumber, p.remoteAddress)) ∧ n' = m.consulted ∨
        r = .error Storage.unreadable ∧ n' = m.consulted.eraseFile n.nextNumber) := by
  rw [accept, run_consult_bind] at h
  split at h
  · next e hfault =>
    cases h
    exact .inl ⟨e, rfl, rfl, fun _ => .inl hfault⟩
  rw [run_file_bind] at h
  split at h
  case h_2 =>
    cases h
    exact .inl ⟨_, rfl, rfl, by rintro ⟨⟩⟩
  case h_1 f hfile =>
    obtain ⟨kind, blocking⟩ := f
    have hfile : n.file? fd = some ⟨kind, blocking⟩ := hfile
    cases kind with
    | socket s =>
      have hs : n.socket? fd = some s := by rw [Network.socket?, hfile]
      have hpending {backlog : Nat} {pending : List Pending}
          (hstate : s.state = .listening backlog pending) :
          n.pending fd = pending := by
        rw [Network.pending, hs]
        dsimp only
        rw [hstate]
      rw [run_bind_ok (run_socket (n := n.consulted) hs _)] at h
      split at h
      · next backlog p rest hstate =>
        have hnamed := named_cases n.nextNumber p.remoteAddress ((n.consulted.modifyFile fd fun f =>
          { f with kind := .socket { s with state := .listening backlog rest } }).addFile
            ⟨.socket (s.taking p), true⟩).1
        have hopened : Opened fd p n _ := ⟨⟨rest, hpending hstate⟩,
          fun f => { f with kind := .socket { s with state := .listening backlog rest } },
          ⟨.socket (s.taking p), true⟩, fun _ => rfl, rfl, rfl⟩
        refine .inr (.inr ⟨p, _, hopened, ?_⟩)
        rcases hnamed with hnamed | hnamed
        · exact .inl (Prod.mk.inj (h.symm.trans hnamed))
        · exact .inr (Prod.mk.inj (h.symm.trans hnamed))
      · next backlog hstate =>
        split at h
        · cases h
          exact .inr (.inl ⟨rfl, rfl⟩)
        · next hfree =>
          cases h
          refine .inl ⟨_, rfl, rfl, fun _ => .inr ⟨?_, hpending hstate⟩⟩
          rw [Network.mode?, hfile, Option.map_some, Bool.eq_false_iff.mpr hfree]
      · cases h
        exact .inl ⟨_, rfl, rfl, by rintro ⟨⟩⟩
    | _ =>
      rw [run_bind, socket, run_file_bind, show n.consulted.file? fd = _ from hfile] at h
      cases h
      exact .inl ⟨_, rfl, rfl, by rintro ⟨⟩⟩

theorem accept_number {taken : FileNumber} {remote : Endpoint}
    (h : (accept other).run n = (.ok (some (taken, remote)), n')) : taken = n.nextNumber := by
  rcases accept_cases h with ⟨_, ⟨⟩, -⟩ | ⟨⟨⟩, -⟩ |
    ⟨p, m, -, ⟨hr, -⟩ | ⟨⟨⟩, -⟩⟩
  cases hr
  rfl

theorem setBlocking_cases {r : IoResult} (h : (setBlocking fd block).run n = (r, n')) :
    r = .ok () ∧ n'.mode? fd = some block ∨ (∃ e, r = .error e) ∧
    n'.mode? fd = n.mode? fd := by
  rw [setBlocking, run_consult_bind] at h
  split at h
  · next e hfault =>
    cases h
    exact .inr ⟨⟨e, rfl⟩, rfl⟩
  · rw [run_file_bind] at h
    split at h
    · next f hfile =>
      cases h
      refine .inl ⟨rfl, ?_⟩
      rw [mode?, file?_modifyFile, if_pos rfl, hfile]
      rfl
    · cases h
      exact .inr ⟨⟨_, rfl⟩, rfl⟩

/-! ## What calls keep -/

/-- What calls do to sockets, links and pipes keeps the property. -/
structure Settled (Q : Network → Prop) : Prop where
  consulted : ∀ {n : Network}, Q n → Q n.consulted
  files : ∀ {n : Network} {fd : FileNumber} {f : File → File},
    (∀ x, (f x).blocking = x.blocking) →
    Q n → Q (n.modifyFile fd f)
  links : ∀ {n : Network} links, Q n → Q { n with links }
  pipes : ∀ {n : Network} pipes, Q n → Q { n with pipes }

section Settled

variable {Q : Network → Prop} (h : Settled Q)
include h

theorem Settled.consult : Keeps Q Net.consult :=
  keeps_consult fun _ => h.consulted

theorem Settled.setSocket (s : Socket) : Keeps Q (setSocket fd s) :=
  keeps_modify fun _ => h.files fun _ => rfl

theorem Settled.modifyLink (link : Nat) (f : Link → Link) : Keeps Q (modifyLink link f) :=
  keeps_modify fun _ => h.links _

theorem Settled.resetPending (pending : List Pending) : Keeps Q (resetPending pending) :=
  keeps_bind (keeps_forIn (fun _ _ => keeps_bind (h.modifyLink _ _) fun _ => keeps_pure _) _ _)
    fun _ => keeps_pure _

theorem Settled.isBlocking : Keeps Q (isBlocking fd) :=
  keeps_bind h.consult fun _ => keeps_bind (keeps_file _) fun _ => keeps_pure _

theorem Settled.poll (events : Mask) : Keeps Q (poll fd events) :=
  keeps_bind h.consult fun _ => keeps_bind keeps_get fun _ => keeps_pure _

theorem Settled.localAddress : Keeps Q (localAddress fd) :=
  keeps_bind h.consult fun _ => keeps_bind (keeps_file _) fun _ => keeps_endpointOf _

theorem Settled.dismantled (f : File) : Keeps Q (do
    dismantle f
    tryCatch Net.consult fun e => if e = .os .interrupted then pure () else throw e) := by
  refine keeps_bind ?_ fun _ => keeps_tryCatch h.consult fun e => ?_
  · unfold dismantle
    split
    · exact keeps_modify fun _ => h.pipes _
    · exact keeps_modify fun _ => h.pipes _
    · exact h.modifyLink _ _
    · split
      · exact keeps_pure _
      · exact h.resetPending _
      · exact h.modifyLink _ _
  · split
    · exact keeps_pure _
    · exact keeps_throw _

theorem Settled.close (herase : ∀ {n : Network}, Q n → Q (n.eraseFile fd)) :
    Keeps Q (close fd) :=
  keeps_bind (keeps_file _) fun f => keeps_bind (keeps_modify fun _ => herase) fun _ =>
    h.dismantled f

theorem Settled.shutdown (how : Int) : Keeps Q (shutdown fd how) := by
  refine keeps_bind h.consult fun _ => keeps_bind (keeps_file _) fun f => ?_
  dsimp only
  split
  · exact keeps_throw _
  · exact keeps_throw _
  · split
    · exact h.modifyLink _ _
    · exact keeps_throw _
  · split
    · exact keeps_throw _
    · split
      · exact keeps_bind (h.setSocket _) fun _ => keeps_throw _
      · split
        · exact keeps_bind (h.resetPending _) fun _ => h.setSocket _
        · exact keeps_pure _
      · exact h.modifyLink _ _

theorem Settled.setBlocking
    (hset : ∀ {n : Network}, Q n → Q (n.modifyFile fd fun f => { f with blocking := block })) :
    Keeps Q (Net.setBlocking fd block) :=
  keeps_bind h.consult fun _ => keeps_bind (keeps_file _) fun _ => keeps_modify fun _ => hset

theorem Settled.accept (hopen : ∀ {n : Network} file, Q n → Q (n.addFile file).1)
    (hundo : ∀ {n : Network} file, Q n →
      Q ((n.addFile file).1.consulted.eraseFile n.nextNumber)) :
    Keeps Q (Net.accept fd) := by
  intro n hn
  rcases accept_cases (Prod.ext rfl rfl : (Net.accept fd).run n = (_, _)) with ⟨e, -, hn', -⟩ |
    ⟨-, hn'⟩ | ⟨p, m, ⟨-, f, file, hf, -, rfl⟩, ⟨-, hn'⟩ | ⟨-, hn'⟩⟩
  · exact hn' ▸ h.consulted hn
  · exact hn' ▸ h.consulted hn
  · exact hn' ▸ h.consulted (hopen file (h.files hf (h.consulted hn)))
  · exact hn' ▸ hundo file (h.files hf (h.consulted hn))

end Settled

theorem mode?_settled (m : Option Bool) : Settled fun n : Network => n.mode? fd = m where
  consulted h := h
  files hf h := (mode?_modifyFile hf).trans h
  links _ h := h
  pipes _ h := h

theorem mode?_close (fd : FileNumber) (n : Network) : ((close fd).run n).2.mode? fd = none := by
  rw [close, run_file_bind]
  split
  · next f hfile => exact (mode?_settled none).dismantled f _ mode?_eraseFile_self
  · next hfile => exact Option.map_eq_none_iff.mpr hfile

theorem spares_settled : Settled (Network.Spares fd P) where
  consulted h := h.of_eq rfl rfl
  files hf h := h.of_eq (mode?_modifyFile hf) rfl
  links _ h := h.of_eq rfl rfl
  pipes _ h := h.of_eq rfl rfl

theorem spares_close (h : other ≠ fd) : Keeps (Network.Spares fd P) (close other) :=
  spares_settled.close fun hn => hn.of_eq (mode?_eraseFile_of_ne h) rfl

/-- What an accept opens has a number that was not given out, also where it is given up again. -/
theorem spares_accept : Keeps (Network.Spares fd P) (accept other) := by
  have hopen {n : Network} (file : File) (h : n.Spares fd P) : (n.addFile file).1.Spares fd P := by
    refine ⟨by rw [mode?_addFile h.below]; exact h.mode, ?_⟩
    have hnext : ((n.nextNumber : Nat) : Int) < ((n.nextNumber + 1 : Nat) : Int) := by omega
    exact Int.lt_trans h.below hnext
  refine spares_settled.accept hopen fun file h => ?_
  have hnew := spares_settled.consulted (hopen file h)
  exact hnew.of_eq (mode?_eraseFile_of_ne (Int.ne_of_lt h.below).symm) rfl

theorem spares_setBlocking (hP : other = fd → P (some block)) :
    Keeps (Network.Spares fd P) (setBlocking other block) := by
  refine spares_settled.setBlocking fun {n} h => ?_
  by_cases hfd : other = fd
  · subst hfd
    refine ⟨?_, h.below⟩
    rw [mode?, file?_modifyFile, if_pos rfl, Option.map_map]
    cases hfile : n.file? other with
    | none =>
      have hmode := h.mode
      rwa [mode?, hfile] at hmode
    | some f => exact hP rfl
  · refine h.of_eq ?_ rfl
    rw [mode?, file?_modifyFile, if_neg fun h => hfd h.symm]
    rfl

end Net
end PolledChannels
