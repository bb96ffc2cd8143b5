import PolledChannels.Proofs.AddressTexts

/-!
# Endpoints read back from their storage

Bytes that a number was split into give the number, so an endpoint is read back from the storage it
was put into. A storage of another family, or one that is cut off, gives no endpoint.
-/

namespace PolledChannels.Storage

theorem toNat_joinLowFirst (b0 b1 b2 b3 : UInt8) :
    (joinLowFirst b0 b1 b2 b3).toNat =
      b0.toNat + b1.toNat <<< 8 + b2.toNat <<< 16 + b3.toNat <<< 24 := by
  have h0 := b0.toNat_lt
  have h1 := b1.toNat_lt
  have h2 := b2.toNat_lt
  have h3 := b3.toNat_lt
  have hshift {b k : Nat} (hb : b < 2 ^ 8) (hk : k ≤ 24) : b <<< k % 2 ^ 32 = b <<< k := by
    have hle : b * 2 ^ k < 2 ^ 8 * 2 ^ k := Nat.mul_lt_mul_of_pos_right hb (Nat.two_pow_pos k)
    have hpow : 2 ^ k ≤ 2 ^ 24 := Nat.pow_le_pow_right (by decide) hk
    rw [Nat.shiftLeft_eq, Nat.mod_eq_of_lt (by omega)]
  have htwo := Ipv6.or_shiftLeft (k := 8) h0 b1.toNat
  have hthree : b0.toNat + b1.toNat <<< 8 < 1 <<< 16 := by
    simp only [Nat.shiftLeft_eq]
    omega
  have hfour : b0.toNat + b1.toNat <<< 8 + b2.toNat <<< 16 < 1 <<< 24 := by
    simp only [Nat.shiftLeft_eq]
    omega
  simp only [joinLowFirst, UInt32.toNat_or, UInt32.toNat_shiftLeft, UInt8.toNat_toUInt32]
  rw [show (8 : UInt32).toNat % 32 = 8 from rfl, show (16 : UInt32).toNat % 32 = 16 from rfl,
    show (24 : UInt32).toNat % 32 = 24 from rfl, hshift h1 (by decide), hshift h2 (by decide),
    hshift h3 (by decide), htwo, Ipv6.or_shiftLeft hthree, Ipv6.or_shiftLeft hfour]

theorem joinLowFirst_split (n : UInt32) :
    joinLowFirst n.toUInt8 (n >>> 8).toUInt8 (n >>> 16).toUInt8 (n >>> 24).toUInt8 = n := by
  apply UInt32.toNat_inj.mp
  have hn := n.toNat_lt
  simp [toNat_joinLowFirst, Nat.shiftRight_eq_div_pow, Nat.shiftLeft_eq]
  omega

/-- The bytes of groups stand in pairs. -/
theorem getElem?_flatMap_highFirst {gs : List UInt16} {i : Nat} {g : UInt16} (h : gs[i]? = some g) :
    (gs.flatMap highFirst)[2 * i]? = some (g >>> 8).toUInt8 ∧
      (gs.flatMap highFirst)[2 * i + 1]? = some g.toUInt8 := by
  induction gs generalizing i with
  | nil => simp at h
  | cons g' gs ih =>
    cases i with
    | zero =>
      cases h
      exact ⟨rfl, rfl⟩
    | succ i => simpa [highFirst, Nat.mul_succ] using ih h

theorem getElem?_append_fields (port : UInt16) (flow : UInt32) (bytes : List UInt8) (i : Nat) :
    (highFirst port ++ (lowFirst flow ++ bytes))[6 + i]? = bytes[i]? := by
  grind [highFirst, lowFirst]

theorem toEndpoint_ofEndpoint (e : Endpoint) :
    (ofEndpoint e).1.toEndpoint (ofEndpoint e).2 = .ok e := by
  cases e with
  | v4 ip port => simp [ofEndpoint, toEndpoint, padded, highFirst, Ipv6.joinBytes_split]
  | v6 ip port flow scope =>
    have hfamily : ¬ (inet6 = inet ∧ inetLength ≤ inet6Length) := by decide
    have hlength : (ip.groups.toList.flatMap highFirst).length = 16 := by
      simp [List.length_flatMap, highFirst, List.map_const']
    simp only [ofEndpoint, toEndpoint, if_neg hfamily, padded, List.append_assoc,
      Vector.getElem_ofFn, List.getD_eq_getElem?_getD]
    simp only [and_self, Nat.le_refl, if_true, Except.ok.injEq, Endpoint.v6.injEq]
    refine ⟨congrArg Ipv6.mk (Vector.ext fun i hi => ?_), ?_, ?_, ?_⟩
    · have hgroup : ip.groups.toList[i]? = some ip.groups[i] := by simp
      obtain ⟨hhigh, hlow⟩ := getElem?_flatMap_highFirst hgroup
      rw [Vector.getElem_ofFn, getElem?_append_fields, show 7 + 2 * i = 6 + (2 * i + 1) by omega,
        getElem?_append_fields, List.getElem?_append_left (by omega), hhigh,
        List.getElem?_append_left (by omega), hlow]
      exact Ipv6.joinBytes_split _
    · exact Ipv6.joinBytes_split port
    · exact joinLowFirst_split flow
    · have hscope (i : Nat) : (highFirst port ++ (lowFirst flow ++
          (ip.groups.toList.flatMap highFirst ++ lowFirst scope)))[22 + i]? =
            (lowFirst scope)[i]? := by
        rw [show 22 + i = 6 + (16 + i) by omega, getElem?_append_fields,
          List.getElem?_append_right (by omega), hlength, Nat.add_sub_cancel_left]
      rw [hscope 0, hscope 1, hscope 2, hscope 3]
      exact joinLowFirst_split scope

theorem toEndpoint_eq_error {s : Storage} {length : Nat}
    (hinet : ¬ (s.family = inet ∧ inetLength ≤ length))
    (hinet6 : ¬ (s.family = inet6 ∧ inet6Length ≤ length)) :
      s.toEndpoint length = .error unreadable := by
  rw [toEndpoint, if_neg hinet, if_neg hinet6]

/-- An endpoint is read back from its storage, and from nothing less: if bytes of it do not count,
or the family is neither of the two, no endpoint is read. -/
theorem endpoint_survives_storage (e : Endpoint) :
    (ofEndpoint e).1.toEndpoint (ofEndpoint e).2 = .ok e ∧
      (∀ length < (ofEndpoint e).2, (ofEndpoint e).1.toEndpoint length = .error unreadable) ∧
      ∀ (s : Storage) (length : Nat), s.family ≠ inet → s.family ≠ inet6 →
        s.toEndpoint length = .error unreadable := by
  have hfamilies : inet ≠ inet6 := by decide
  refine ⟨toEndpoint_ofEndpoint e, fun length hlength => ?_, fun s length hinet hinet6 => ?_⟩
  · cases e with
    | v4 ip port =>
      exact toEndpoint_eq_error (fun h => Nat.not_le.mpr hlength h.2) fun h => hfamilies h.1
    | v6 ip port flow scope =>
      exact toEndpoint_eq_error (fun h => hfamilies h.1.symm) fun h => Nat.not_le.mpr hlength h.2
  · exact toEndpoint_eq_error (fun h => hinet h.1) fun h => hinet6 h.1

end PolledChannels.Storage
