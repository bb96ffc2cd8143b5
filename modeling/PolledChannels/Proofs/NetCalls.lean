import PolledChannels.Proofs.Actions

/-!
# Running calls of the network

A call of the network answers with a value or an error and leaves a network behind, as an operation
does on a station. This module opens calls part by part, and says what it takes for a property of
the network to survive a call.
-/

namespace PolledChannels

namespace Network

/-- The error that the next call is told to fail with. -/
def fault? (n : Network) : Option IoError := n.faults.head?.join

/-- The network after a call has asked whether it is to fail. -/
def consulted (n : Network) : Network := { n with faults := n.faults.tail }

def socket? (n : Network) (fd : FileNumber) : Option Socket :=
  match n.file? fd with
  | some ⟨.socket s, _⟩ => some s
  | _ => none

theorem file?_modifyFile (n : Network) (fd other : FileNumber) (f : File → File) :
    (n.modifyFile other f).file? fd = if fd = other then (n.file? fd).map f else n.file? fd := by
  unfold modifyFile file?
  induction n.files with
  | nil => simp
  | cons p files ih =>
    obtain ⟨number, file⟩ := p
    by_cases hfd : fd = number
    · subst hfd
      by_cases hp : fd = other <;> simp [hp]
    · have hne : (fd == number) = false := beq_false_of_ne hfd
      by_cases hp : number = other
      · subst hp
        simpa [List.lookup_cons, hne] using ih
      · simpa [List.lookup_cons, hne, hp] using ih

theorem file?_eraseFile (n : Network) (fd other : FileNumber) :
    (n.eraseFile other).file? fd = if fd = other then none else n.file? fd := by
  unfold eraseFile file?
  induction n.files with
  | nil => simp
  | cons p files ih =>
    obtain ⟨number, file⟩ := p
    by_cases hfd : fd = number
    · subst hfd
      by_cases hp : fd = other
      · subst hp
        simpa using ih
      · simp [hp]
    · have hne : (fd == number) = false := beq_false_of_ne hfd
      by_cases hp : number = other
      · subst hp
        simpa [List.lookup_cons, hne] using ih
      · simpa [List.lookup_cons, hne, hp] using ih

theorem file?_addFile (n : Network) (fd : FileNumber) (file : File) :
    (n.addFile file).1.file? fd = (n.file? fd).or (if fd = n.nextNumber then some file
      else none) := by
  unfold addFile file?
  rw [List.lookup_append]
  by_cases h : fd = n.nextNumber
  · simp [h]
  · have hne : (fd == (n.nextNumber : Int)) = false := beq_false_of_ne h
    simp [List.lookup_cons, hne, h]

theorem file?_of_socket? {n : Network} {fd : FileNumber} {s : Socket} (h : n.socket? fd = some s) :
    ∃ blocking, n.file? fd = some ⟨.socket s, blocking⟩ := by
  unfold socket? at h
  split at h
  · next hfile =>
    cases h
    exact ⟨_, hfile⟩
  · cases h

end Network

namespace Net

variable {α β : Type} {f : α → Net β} {a : Net α}

theorem run_bind (a : Net α) (f : α → Net β) (n : Network) :
    (a >>= f).run n =
      match a.run n with
      | (.ok v, n') => (f v).run n'
      | (.error e, n') => (.error e, n') := by
  show (ExceptT.bind a f) n = _
  simp only [ExceptT.run]
  show ExceptT.bindCont f (a n).1 (a n).2 = _
  rcases a n with ⟨_ | _, n'⟩ <;> rfl

theorem run_bind_ok {n n' : Network} {v : α}
    (h : a.run n = (.ok v, n')) : (a >>= f).run n = (f v).run n' := by
  rw [run_bind, h]

theorem run_get_bind (f : Network → Net α) (n : Network) :
    ((get : Net Network) >>= f).run n = (f n).run n :=
  rfl

theorem run_tryCatch (a : Net α) (f : IoError → Net α) (n : Network) :
    (tryCatch a f : Net α).run n =
      match a.run n with
      | (.ok v, n') => (.ok v, n')
      | (.error e, n') => (f e).run n' := by
  simp only [tryCatch, tryCatchThe, MonadExceptOf.tryCatch, ExceptT.tryCatch,
    ExceptT.mk, ExceptT.run]
  show StateT.bind _ _ n = _
  simp only [StateT.bind]
  rcases a n with ⟨_ | _, n'⟩ <;> rfl

theorem run_consult (n : Network) :
    consult.run n =
      (match n.fault? with
        | some e => .error e
        | none => .ok (), n.consulted) := by
  obtain ⟨host, files, pipes, links, nextNumber, nextPort, faults⟩ := n
  rcases faults with _ | ⟨_ | e, rest⟩ <;> rfl

theorem run_consult_bind (f : Unit → Net α) (n : Network) :
    (consult >>= f).run n =
      match n.fault? with
      | some e => (.error e, n.consulted)
      | none => (f ()).run n.consulted := by
  rw [run_bind, run_consult]
  cases n.fault? <;> rfl

theorem run_file (fd : FileNumber) (n : Network) :
    (file fd).run n =
      match n.file? fd with
      | some f => (.ok f, n)
      | none => (.error (.os .badDescriptor), n) := by
  have hrun : (file fd).run n =
      (match n.file? fd with
        | some f => pure f
        | none => fail .badDescriptor : Net File).run n :=
    rfl
  rw [hrun]
  cases n.file? fd <;> rfl

theorem run_file_bind (fd : FileNumber) (f : File → Net α) (n : Network) :
    (file fd >>= f).run n =
      match n.file? fd with
      | some x => (f x).run n
      | none => (.error (.os .badDescriptor), n) := by
  rw [run_bind, run_file]
  cases n.file? fd <;> rfl

theorem run_socket {n : Network} {fd : FileNumber} {s : Socket} (h : n.socket? fd = some s)
    (other : Net Socket) : (socket fd other).run n = (.ok s, n) := by
  obtain ⟨blocking, hfile⟩ := Network.file?_of_socket? h
  have hget : (file fd).run n = (.ok ⟨.socket s, blocking⟩, n) := by
    rw [run_file, hfile]
  exact run_bind_ok hget

/-- The property holds after the call if it held before. -/
def Keeps (P : Network → Prop) (a : Net α) : Prop :=
  ∀ n, P n → P (a.run n).2

section Keeps

variable {P : Network → Prop}

theorem keeps_pure (v : α) : Keeps P (pure v : Net α) :=
  fun _ h => h

theorem keeps_throw (e : IoError) : Keeps P (throw e : Net α) :=
  fun _ h => h

theorem keeps_get : Keeps P (get : Net Network) :=
  fun _ h => h

theorem keeps_modify {f : Network → Network} (hf : ∀ n, P n → P (f n)) :
    Keeps P (modify f : Net Unit) :=
  hf

theorem keeps_bind (ha : Keeps P a) (hf : ∀ v, Keeps P (f v)) :
    Keeps P (a >>= f) := by
  intro n h
  have hn := ha n h
  rw [run_bind]
  generalize a.run n = r at hn
  obtain ⟨_ | v, n'⟩ := r
  · exact hn
  · exact hf v n' hn

theorem keeps_file (fd : FileNumber) : Keeps P (file fd) := by
  refine keeps_bind keeps_get fun n => ?_
  split
  · exact keeps_pure _
  · exact keeps_throw _

theorem keeps_consult (hP : ∀ n, P n → P n.consulted) : Keeps P consult := by
  intro n h
  rw [run_consult]
  exact hP n h

theorem keeps_tryCatch {f : IoError → Net α} (ha : Keeps P a) (hf : ∀ e, Keeps P (f e)) :
    Keeps P (tryCatch a f) := by
  intro n h
  have hn := ha n h
  rw [run_tryCatch]
  generalize a.run n = r at hn
  obtain ⟨e | v, n'⟩ := r
  · exact hf e n' hn
  · exact hn

theorem keeps_forIn {γ : Type} {f : γ → β → Net (ForInStep β)}
    (hf : ∀ x b, Keeps P (f x b)) (xs : List γ) (b : β) : Keeps P (forIn xs b f) := by
  induction xs generalizing b with
  | nil => exact keeps_pure b
  | cons x xs ih =>
    rw [List.forIn_cons]
    refine keeps_bind (hf x b) fun next => ?_
    cases next with
    | done b => exact keeps_pure b
    | yield b => exact ih b

theorem keeps_endpointOf (name : Except Errno (Storage × Nat)) : Keeps P (endpointOf name) := by
  rcases name with errno | ⟨storage, length⟩
  · exact keeps_throw _
  · intro n h
    exact h

end Keeps
end Net
end PolledChannels
