import Confine.Session

/-!
# Session ids tell their sequence numbers apart

A session's id is `sh-`, its sequence number in decimal padded with zeros to at least
six digits, a dash, and twelve hex digits of a nonce. Leading zeros do not change the
value of a decimal numeral, so the padded numeral reads back as the sequence number at
any width; since the suffix after it has a fixed length, two ids with different
sequence numbers differ whatever their nonces (`seq_eq_of_idOf_eq`).
-/

namespace Confine

namespace Session

/-- The characters of an id: the prefix, the padded numeral, a dash and the hex digits. -/
theorem toList_idOf (seq nonce : Nat) :
    (idOf seq nonce).toList =
      's' :: 'h' :: '-' :: ((List.replicate (6 - (Nat.toDigits 10 seq).length) '0' ++
        Nat.toDigits 10 seq) ++
        '-' :: ((List.range 12).reverse.map fun i =>
          Text.Hex.digit (nonce / Nat.pow 16 i % 16))) := by
  simp [idOf, Nat.toString_eq_repr, Nat.repr_eq_ofList_toDigits]

/-- A numeral padded with leading zeros reads back as its number. -/
theorem ofDigitChars_padded (k seq : Nat) :
    Nat.ofDigitChars 10 (List.replicate k '0' ++ Nat.toDigits 10 seq) 0 = seq := by
  rw [Nat.ofDigitChars_append, Nat.ofDigitChars_replicate_zero, Nat.mul_zero,
    Nat.ofDigitChars_ten_toDigits]

/-- Equal ids have equal sequence numbers, whatever the nonces. -/
theorem seq_eq_of_idOf_eq {a b na nb : Nat} (h : idOf a na = idOf b nb) : a = b := by
  have hchars := congrArg String.toList h
  rw [toList_idOf, toList_idOf] at hchars
  simp only [List.cons.injEq, true_and] at hchars
  -- the hex suffixes have one length, so the padded numerals have one length too
  have hlen := congrArg List.length hchars
  simp only [List.length_append, List.length_replicate, List.length_cons, List.length_map,
    List.length_reverse, List.length_range] at hlen
  obtain ⟨hnumeral, -⟩ := List.append_inj hchars
    (by simp only [List.length_append, List.length_replicate]; omega)
  have hvalue := congrArg (fun l => Nat.ofDigitChars 10 l 0) hnumeral
  simp only [ofDigitChars_padded] at hvalue
  exact hvalue

/-! ## The shape of an id -/

/-- The shape of the id of a sequence number: `sh-`, the number in decimal padded with
zeros to at least six digits, a dash, and twelve lowercase hexadecimal digits. -/
def IdShape (id : String) (seq : Nat) : Prop :=
  ∃ numeral hex : List Char, id.toList = 's' :: 'h' :: '-' :: (numeral ++ '-' :: hex) ∧
    numeral.length = max 6 (Nat.toDigits 10 seq).length ∧ (∀ d ∈ numeral, d.isDigit) ∧
    Nat.ofDigitChars 10 numeral 0 = seq ∧
    hex.length = 12 ∧ ∀ h ∈ hex, h.isDigit ∨ ('a' ≤ h ∧ h ≤ 'f')

/-- Every value below sixteen is written as a decimal digit or a lowercase letter. -/
theorem digit_isHex : ∀ n < 16,
    (Text.Hex.digit n).isDigit ∨ ('a' ≤ Text.Hex.digit n ∧ Text.Hex.digit n ≤ 'f') := by
  decide

theorem idOf_shape (seq nonce : Nat) : IdShape (idOf seq nonce) seq := by
  refine ⟨_, _, toList_idOf seq nonce, ?_, ?_, ofDigitChars_padded _ _, by simp, ?_⟩
  · simp only [List.length_append, List.length_replicate]
    omega
  · intro d hd
    rcases List.mem_append.1 hd with hzero | hdigit
    · rw [List.eq_of_mem_replicate hzero]
      rfl
    · exact Nat.isDigit_of_mem_toDigits (by decide) (by decide) hdigit
  · intro h hh
    obtain ⟨i, -, rfl⟩ := List.mem_map.1 hh
    exact digit_isHex _ (Nat.mod_lt _ (by decide))

/-- The ids of calls with distinct sequence numbers are distinct, whatever the nonces. -/
theorem ids_nodup (first n : Nat) (nonce : Nat → Nat) :
    ((List.range n).map fun k => idOf (first + k) (nonce k)).Nodup := by
  refine List.Pairwise.map _ (fun a b hne h => hne ?_) List.nodup_range
  have := seq_eq_of_idOf_eq h
  omega

/-- The ids a run of calls hands out, the counter starting at one, are pairwise distinct
whatever the nonces, and each has the shape of its call's number. Distinctness rests on the
numbers alone: the padded numeral reads back as its number at any width. -/
theorem generated_ids_distinct (n : Nat) (nonce : Nat → Nat) :
    ((List.range n).map fun k => idOf (k + 1) (nonce k)).Nodup ∧
      ∀ k < n, IdShape (idOf (k + 1) (nonce k)) (k + 1) := by
  refine ⟨?_, fun k _ => idOf_shape (k + 1) (nonce k)⟩
  simpa only [Nat.add_comm 1] using ids_nodup 1 n nonce

end Session

end Confine
