import Mathlib.Data.List.Induction
import PolledChannels.Channels.State
import PolledChannels.Proofs.Numerals

/-!
# Addresses read back from their text

An allow list is asked with the text of an address and reads the address from it. Every address is
read back from its text: octets and groups are, before a text that they do not go on into, and an
IPv6 address is, whether it is written in full, with a gap, or as a mapped IPv4 address. So the
list decides by address.
-/

namespace PolledChannels
namespace Address

open Text (Numeral Values numeral_toDigits values_digit values_hex)

/-! ## Numbers -/

/-- A run of digits ends before the text. -/
def Stops (value? : Char → Option Nat) (rest : List Char) : Prop :=
  ∀ c ∈ rest.head?, value? c = none

section Numbers

variable {value? : Char → Option Nat} {radix n : Nat} {digits rest : List Char}

theorem number_numeral {most bound : Nat} (h : Numeral radix n digits)
    (hvalue : Values value? radix) (zeros : Bool) (hbound : n < bound)
    (hmost : digits.length ≤ most) (hrest : Stops value? rest) :
    number value? radix (some most) zeros bound (digits ++ rest) = some (n, rest) := by
  have hdigits := h.isSome hvalue
  have hstop : rest.takeWhile (fun c => (value? c).isSome) = [] ∧
      rest.dropWhile (fun c => (value? c).isSome) = rest := by
    cases rest with
    | nil => exact ⟨rfl, rfl⟩
    | cons c cs => simp [hrest c rfl]
  have hlead : 1 < digits.length → digits.head? ≠ some '0' := h.head?_of_long hvalue
  simp only [number, List.takeWhile_append_of_pos hdigits, List.dropWhile_append_of_pos hdigits,
    hstop.1, hstop.2, List.append_nil, h.digitsValue hvalue, hbound, Option.any_some]
  grind [h.ne_nil]

end Numbers

/-! ## IPv4 addresses -/

section Octets

variable {rest : List Char}

theorem octet_toDigits (n : UInt8) (hrest : Stops Text.digitValue? rest) :
    octet (Nat.toDigits 10 n.toNat ++ rest) = some (n, rest) := by
  have hlength : (Nat.toDigits 10 n.toNat).length ≤ 3 :=
    (Nat.length_toDigits_le_iff (by decide) (by decide)).mpr (Nat.lt_trans n.toNat_lt (by decide))
  have hread := number_numeral (numeral_toDigits (by decide) _) values_digit false n.toNat_lt
    hlength hrest
  simp [octet, hread]

theorem group_toDigits (g : UInt16) (hrest : Stops Text.hexValue? rest) :
    group (Nat.toDigits 16 g.toNat ++ rest) = some (g, rest) := by
  have hlength : (Nat.toDigits 16 g.toNat).length ≤ 4 :=
    (Nat.length_toDigits_le_iff (by decide) (by decide)).mpr g.toNat_lt
  have hread := number_numeral (numeral_toDigits (by decide) _) values_hex true g.toNat_lt
    hlength hrest
  simp [group, hread]

theorem toList_render_ipv4 (ip : Ipv4) :
    ip.render.toList = Nat.toDigits 10 ip.a.toNat ++ '.' :: (Nat.toDigits 10 ip.b.toNat ++
      '.' :: (Nat.toDigits 10 ip.c.toNat ++ '.' :: Nat.toDigits 10 ip.d.toNat)) := by
  simp [Ipv4.render, show toString "." = "." from rfl]

theorem ipv4_render (ip : Ipv4) : ipv4 ip.render.toList = some (ip, []) := by
  have hdot (cs : List Char) : Stops Text.digitValue? ('.' :: cs) := by
    rintro c ⟨⟩
    decide
  have hlast : octet (Nat.toDigits 10 ip.d.toNat) = some (ip.d, []) := by
    simpa using octet_toDigits ip.d (show Stops _ [] by rintro c ⟨⟩)
  simp [toList_render_ipv4, ipv4, octet_toDigits, hdot, hlast, character]

end Octets

/-! ## Groups -/

/-- A text that ends a group: nothing, or a colon and more. -/
def Divides (rest : List Char) : Prop :=
  ∀ c ∈ rest.head?, c = ':'

/-- A text that ends a run of groups: nothing, or a gap. -/
def Gap (rest : List Char) : Prop :=
  rest = [] ∨ ∃ more, rest = ':' :: ':' :: more

/-- Groups, each after a colon. -/
def afterColons (gs : List UInt16) : List Char :=
  gs.flatMap fun g => ':' :: Nat.toDigits 16 g.toNat

theorem toList_renderGroups (gs : List UInt16) :
    (Ipv6.renderGroups gs).toList = (afterColons gs).tail := by
  cases gs with
  | nil => rfl
  | cons g gs =>
    simp only [Ipv6.renderGroups, afterColons, List.map_cons, List.flatMap_cons]
    induction gs generalizing g with
    | nil => simp [Text.hexadecimal]
    | cons g' gs ih => simp_all [Text.hexadecimal, String.intercalate_cons_cons]

section Groups

variable {cs digits rest : List Char}

theorem Divides.stops (h : Divides rest) : Stops Text.hexValue? rest := by
  intro c hc
  rw [h c hc]
  decide

theorem Gap.divides (h : Gap rest) : Divides rest := by
  rcases h with rfl | ⟨more, rfl⟩
  · rintro c ⟨⟩
  · rintro c ⟨⟩
    rfl

theorem divides_afterColons (gs : List UInt16) (h : Divides rest) :
    Divides (afterColons gs ++ rest) := by
  cases gs with
  | nil => exact h
  | cons g gs =>
    rintro c ⟨⟩
    rfl

theorem ipv4_eq_none (h : (cs.dropWhile fun c => (Text.digitValue? c).isSome).head? ≠ some '.') :
    ipv4 cs = none := by
  cases hoctet : octet cs with
  | none => simp [ipv4, hoctet]
  | some r =>
    obtain ⟨n, rest⟩ := r
    have hrest : rest = cs.dropWhile fun c => (Text.digitValue? c).isSome := by
      simp only [octet, number] at hoctet
      grind
    have hdot : character '.' rest = none := by
      rw [← hrest] at h
      cases rest with
      | nil => rfl
      | cons c rest => simpa [character, eq_comm] using h
    simp [ipv4, hoctet, hdot]

theorem ipv4_hex (hdigits : ∀ c ∈ digits, (Text.hexValue? c).isSome = true) (h : Divides rest) :
    ipv4 (digits ++ rest) = none := by
  apply ipv4_eq_none
  -- Whatever ends the decimal digits is a hexadecimal digit or the text after the group.
  induction digits with
  | nil =>
    cases rest with
    | nil => simp
    | cons c rest =>
      obtain rfl := h c rfl
      simp [Text.digitValue?]
  | cons c digits ih =>
    rw [List.forall_mem_cons] at hdigits
    by_cases hc : (Text.digitValue? c).isSome = true
    · simpa [hc] using ih hdigits.2
    · simp only [List.cons_append, List.dropWhile_cons, hc]
      rintro ⟨⟩
      exact absurd hdigits.1 (by decide)

theorem ipv4_group (g : UInt16) (h : Divides rest) :
    ipv4 (Nat.toDigits 16 g.toNat ++ rest) = none :=
  ipv4_hex ((numeral_toDigits (by decide) g.toNat).isSome values_hex) h

theorem ipv4_groups (gs : List UInt16) (h : Divides rest) :
    ipv4 ((afterColons gs).tail ++ rest) = none := by
  cases gs with
  | nil => exact show ipv4 ([] ++ rest) = none from ipv4_hex (by simp) h
  | cons g gs => simpa [afterColons] using ipv4_group g (divides_afterColons gs h)

theorem groupRun_gap (h : Gap rest) (first : Bool) (room : Nat) :
    groupRun first room rest = ([], false, rest) := by
  have hcolon (cs : List Char) : ipv4 (':' :: cs) = none ∧ group (':' :: cs) = none :=
    ⟨rfl, rfl⟩
  cases room with
  | zero => rfl
  | succ room =>
    rcases h with rfl | ⟨more, rfl⟩ <;> cases first <;>
      simp [groupRun, divider, character, hcolon, show ipv4 [] = none from rfl,
        show group [] = none from rfl]

theorem groupRun_cons (g : UInt16) (h : Divides rest) (first : Bool) (room : Nat) :
    groupRun first (room + 1) ((':' :: Nat.toDigits 16 g.toNat).drop first.toNat ++ rest) =
      (g :: (groupRun false room rest).1, (groupRun false room rest).2) := by
  have hdivider : divider first ((':' :: Nat.toDigits 16 g.toNat).drop first.toNat ++ rest) =
      some ((), Nat.toDigits 16 g.toNat ++ rest) := by
    cases first <;> simp [divider, character]
  simp [groupRun, hdivider, ipv4_group g h, group_toDigits g h.stops]

theorem groupRun_groups (gs : List UInt16) (first : Bool) {room : Nat} (hroom : gs.length ≤ room)
    (h : Gap rest) :
    groupRun first room ((afterColons gs).drop first.toNat ++ rest) = (gs, false, rest) := by
  induction gs generalizing first room with
  | nil => simpa [afterColons] using groupRun_gap h first room
  | cons g gs ih =>
    obtain ⟨room, rfl⟩ := Nat.exists_eq_succ_of_ne_zero (Nat.ne_of_gt (Nat.zero_lt_of_lt hroom))
    have hrest := ih false (Nat.le_of_succ_le_succ hroom)
    have hstep := groupRun_cons g (divides_afterColons gs h.divides) first room
    rw [show (afterColons gs).drop false.toNat = afterColons gs from rfl] at hrest
    rw [hrest] at hstep
    rw [← hstep]
    congr 1
    cases first <;> simp [afterColons]

end Groups

/-! ## Gaps -/

/-- Where the run says, groups are zero. -/
def Marks (run : Ipv6.ZeroRun) (gs : List UInt16) : Prop :=
  ∀ i, run.start ≤ i → i < run.start + run.length → gs[i]? = some 0

/-- The run that is searched for in `gs`, after `done`, marks zeros as the runs known before do. -/
theorem marks_longestZeroRun (done gs : List UInt16) {longest current : Ipv6.ZeroRun}
    (hlongest : Marks longest (done ++ gs)) (hcurrent : Marks current (done ++ gs))
    (hend : current.length = 0 ∨ current.start + current.length = done.length) :
    Marks (Ipv6.longestZeroRun longest current done.length gs) (done ++ gs) := by
  induction gs generalizing done longest current with
  | nil => exact hlongest
  | cons g gs ih =>
    have hnext : done.length + 1 = (done ++ [g]).length := by simp
    have hlist : done ++ g :: gs = done ++ [g] ++ gs := by simp
    have hhere : (done ++ g :: gs)[done.length]? = some g := by simp
    simp only [Ipv6.longestZeroRun]
    split
    · next hg =>
      have hrun :
          Marks ⟨if current.length = 0 then done.length else current.start, current.length + 1⟩
          (done ++ g :: gs) := by
        intro i hstart hlast
        simp only at hstart hlast
        grind [Marks]
      rw [hnext, hlist]
      rw [hlist] at hlongest hrun
      refine ih _ ?_ hrun ?_
      · split <;> assumption
      · grind
    · rw [hnext, hlist]
      rw [hlist] at hlongest
      exact ih _ hlongest (by intro i hstart hlast; grind) (.inl rfl)

theorem eq_gap_of_marks {run : Ipv6.ZeroRun} {gs : List UInt16} (h : Marks run gs) :
    gs = gs.take run.start ++ List.replicate run.length 0 ++ gs.drop (run.start + run.length) := by
  have hzeros : (gs.drop run.start).take run.length = List.replicate run.length 0 := by
    refine List.ext_getElem? fun i => ?_
    rw [List.getElem?_take, List.getElem?_drop, List.getElem?_replicate]
    split
    · exact h _ (by omega) (by omega)
    · rfl
  rw [← hzeros, List.append_assoc, ← List.drop_drop, List.take_append_drop,
    List.take_append_drop]

theorem ofGroupList?_toList (ip : Ipv6) : ofGroupList? ip.groups.toList = some ip := by
  simp [ofGroupList?]
  rfl

theorem ipv6_gap (head : List UInt16) {tail : List UInt16} {text : List Char} {dotted : Bool}
    (hhead : head.length < 8) (htail : groupRun true (7 - head.length) text = (tail, dotted, [])) :
    ipv6 ((afterColons head).tail ++ ':' :: ':' :: text) =
      (ofGroupList? (head ++ List.replicate (8 - head.length - tail.length) 0 ++ tail)).map
        fun ip => (ip, []) := by
  have hgap : Gap (':' :: ':' :: text) := .inr ⟨text, rfl⟩
  have hread := groupRun_groups head true (Nat.le_of_lt hhead) hgap
  simp only [Bool.toNat_true, List.drop_one] at hread
  rw [Option.map_eq_bind]
  change _ = Option.bind _ fun ip => some (ip, [])
  simp [ipv6, hread, Nat.ne_of_lt hhead, character, htail]

end Address

namespace Ipv6

open Address

theorem or_shiftLeft {x k : Nat} (h : x < 1 <<< k) (y : Nat) : x ||| y <<< k = x + y <<< k := by
  rw [Nat.one_shiftLeft] at h
  rw [Nat.or_comm, ← Nat.shiftLeft_add_eq_or_of_lt h, Nat.add_comm]

theorem toNat_joinBytes (high low : UInt8) :
    (joinBytes high low).toNat = low.toNat + high.toNat <<< 8 := by
  have hhigh := high.toNat_lt
  have hshift : high.toNat <<< 8 % 2 ^ 16 = high.toNat <<< 8 := by
    rw [Nat.shiftLeft_eq]
    omega
  simp only [joinBytes, UInt16.toNat_or, UInt16.toNat_shiftLeft, UInt8.toNat_toUInt16]
  rw [show (8 : UInt16).toNat % 16 = 8 from rfl, hshift, Nat.or_comm, or_shiftLeft low.toNat_lt]

theorem joinBytes_split (n : UInt16) : joinBytes (n >>> 8).toUInt8 n.toUInt8 = n := by
  apply UInt16.toNat_inj.mp
  have hn := n.toNat_lt
  simp [toNat_joinBytes, Nat.shiftRight_eq_div_pow, Nat.shiftLeft_eq]
  omega

theorem eq_ofMapped {ip : Ipv6} {v4 : Ipv4} (h : ip.mapped? = some v4) : ip = ofMapped v4 := by
  unfold mapped? at h
  split at h
  · next high low hgroups =>
    cases h
    apply Option.some.inj
    rw [← ofGroupList?_toList, hgroups]
    simp [ofMapped, ofGroups, ofGroupList?, joinBytes_split]
  · cases h

theorem ipv6_mapped (v4 : Ipv4) :
    ipv6 ("::ffff:" ++ v4.render).toList = some (ofMapped v4, []) := by
  have hdivides : Divides (':' :: v4.render.toList) := by
    rintro c ⟨⟩
    rfl
  have hrest : groupRun false 6 (':' :: v4.render.toList) =
      ([joinBytes v4.a v4.b, joinBytes v4.c v4.d], true, []) := by
    simp [groupRun, divider, character, ipv4_render]
  have htail := groupRun_cons 0xFFFF hdivides true 6
  rw [hrest] at htail
  have hread := ipv6_gap [] (by decide) htail
  have hdigits : Nat.toDigits 16 (0xFFFF : UInt16).toNat = "ffff".toList := by decide
  rw [hdigits] at hread
  simpa [afterColons, ofGroupList?, ofMapped, ofGroups] using hread

theorem ipv6_render (ip : Ipv6) : ipv6 ip.render.toList = some (ip, []) := by
  have hgap : Gap [] := .inl rfl
  have hlength : ip.groups.toList.length = 8 := by simp
  unfold render
  split
  · next v4 hmapped =>
    rw [eq_ofMapped hmapped]
    exact ipv6_mapped v4
  · have hback := ofGroupList?_toList ip
    generalize ip.groups.toList = gs at hlength hback
    simp only
    generalize hrun : longestZeroRun ⟨0, 0⟩ ⟨0, 0⟩ 0 gs = run
    have hmarks : Marks run gs := by
      rw [← hrun]
      exact marks_longestZeroRun [] gs (by grind [Marks]) (by grind [Marks]) (.inl rfl)
    split
    · next hlong =>
      have hparts := eq_gap_of_marks hmarks
      generalize gs.take run.start = head at hparts
      generalize gs.drop (run.start + run.length) = tail at hparts
      have hsum := congrArg List.length hparts
      simp only [List.length_append, List.length_replicate, hlength] at hsum
      have hread := ipv6_gap head (by omega) (groupRun_groups tail true (by omega) hgap)
      rw [show 8 - head.length - tail.length = run.length by omega, ← hparts, hback] at hread
      simpa [toList_renderGroups] using hread
    · have hread := groupRun_groups gs true (Nat.le_of_eq hlength) hgap
      simp only [Bool.toNat_true, List.drop_one, List.append_nil] at hread
      simp [toList_renderGroups, ipv6, hread, hlength, hback]

/-- The text begins with groups, and nothing or a colon follows them. -/
theorem render_eq_groups (ip : Ipv6) :
    ∃ gs rest, ip.render.toList = (afterColons gs).tail ++ rest ∧ Divides rest := by
  unfold render
  split
  · next v4 _ =>
    refine ⟨[], ("::ffff:" ++ v4.render).toList, rfl, ?_⟩
    simp [Divides]
  · simp only
    split
    · exact ⟨_, _, by simp [toList_renderGroups]; rfl, by rintro c ⟨⟩; rfl⟩
    · exact ⟨_, [], by simp [toList_renderGroups]; rfl, by rintro c ⟨⟩⟩

end Ipv6

open Address in
theorem Ip.parse?_render (ip : Ip) : Ip.parse? ip.render = some ip := by
  cases ip with
  | v4 ip =>
    simp [parse?, render, whole, ipv4_render]
  | v6 ip =>
    obtain ⟨gs, rest, htext, hrest⟩ := ip.render_eq_groups
    have hdotted : ipv4 ip.render.toList = none := htext ▸ ipv4_groups gs hrest
    simp [parse?, render, whole, hdotted, ip.ipv6_render]

/-! ## Allow lists -/

namespace Policy

/-- What an allow list is told to allow. -/
inductive Grant where
  | host (ip : Ip)
  | port (port : UInt16)
  deriving DecidableEq, Repr

def grant (p : Policy) : Grant → Policy
  | .host ip => p.allowHost ip
  | .port port => p.allowPort port

/-- The allow list that is told these grants, one after the other. -/
def granting (grants : List Grant) : Policy :=
  grants.foldl grant (.allowList [] [])

def Grant.host? : Grant → Option Ip
  | host ip => some ip
  | port _ => none

theorem exists_granting_eq (grants : List Grant) :
    ∃ ports, granting grants = .allowList (grants.filterMap Grant.host?) ports := by
  induction grants using List.reverseRecOn with
  | nil => exact ⟨[], rfl⟩
  | append_singleton grants g ih =>
    obtain ⟨ports, hports⟩ := ih
    rw [granting] at hports ⊢
    rw [List.foldl_append, hports]
    cases g <;> simp [grant, allowHost, allowPort, Grant.host?]

theorem mem_hosts (grants : List Grant) (ip : Ip) :
    ip ∈ grants.filterMap Grant.host? ↔ .host ip ∈ grants := by
  rw [List.mem_filterMap]
  constructor
  · rintro ⟨g, hg, hip⟩
    cases g with
    | host _ => exact Option.some.inj hip ▸ hg
    | port _ => cases hip
  · exact fun h => ⟨_, h, rfl⟩

end Policy

/-- An allow list takes a peer if it was told no host at all, or the address of the peer. -/
theorem Provider.allow_list_decides_by_address (p : Provider) (grants : List Policy.Grant)
    (remote : Endpoint) :
    { p with policy := some (.granting grants) }.checkAccept remote = .ok () ↔
      (∀ ip, .host ip ∉ grants) ∨ .host remote.ip ∈ grants := by
  obtain ⟨ports, hpolicy⟩ := Policy.exists_granting_eq grants
  have hmem := Policy.mem_hosts grants
  generalize grants.filterMap Policy.Grant.host? = hosts at hpolicy hmem
  have hnone : hosts.isEmpty = true ↔ ∀ ip, .host ip ∉ grants := by
    simp only [List.isEmpty_iff, List.eq_nil_iff_forall_not_mem, hmem]
  rw [← hnone, ← hmem, ← List.contains_iff_mem]
  simp only [checkAccept, hpolicy, Policy.checkAccept, Ip.parse?_render]
  cases hosts.isEmpty <;> cases hosts.contains remote.ip <;> simp

end PolledChannels
