import Confine.Proofs.EndOfOutput

/-!
# The texts of successive reads

A read returns the bytes its look drained, decoded lossily (`Registry.readOnce_answer`),
and a client that wants the session's output concatenates what its reads return. The
backlog is a byte queue, and a look drains at most its `m` bytes wherever they end, so
this reproduces the output only when no look ends inside a character.

The first part shows that lossy decoding undoes the encoding, also in front of any
further bytes (`decode_encodeChars_append`): each well-formed sequence is read back by
one step of the decoder (`decode_two`, `decode_three`, `decode_four`), and the lead byte
of an encoded character admits its second byte (`leadShape_two`, `leadShape_three`,
`leadShape_four`). The second part gives the consequence for reads: looks that drain
whole characters concatenate to the text the backlog kept
(`whole_character_reads_concatenate`), while a look boundary inside a character turns
each of its halves into a replacement character (`split_character_reads_differ`).
-/

namespace Confine

namespace Text.Utf8

/-! ## Decoding undoes encoding -/

theorem toNat_ofNat_of_lt {n : Nat} (h : n < 256) : (UInt8.ofNat n).toNat = n := by
  simp [Nat.mod_eq_of_lt h]

theorem not_lt_of_leadShape {b : UInt8} {s : Nat × UInt8 × UInt8} (hl : leadShape b = some s) :
    ¬ b < 0x80 := by
  intro h
  unfold leadShape at hl
  rw [if_pos (UInt8.lt_iff_toNat_lt.mpr (by simp [UInt8.lt_iff_toNat_lt] at h ⊢; omega))] at hl
  cases hl

section WellFormed

variable {b c1 c2 c3 : UInt8} {rest : List UInt8} {lo hi : UInt8}

theorem decode_two (hl : leadShape b = some (2, lo, hi)) (h1 : lo ≤ c1 ∧ c1 ≤ hi) :
    decode (b :: c1 :: rest) = Char.ofNat (codePoint 2 b [c1]) :: decode rest := by
  have hs : step b (c1 :: rest) = (Char.ofNat (codePoint 2 b [c1]), ⟨rest, Nat.le_succ _⟩) := by
    unfold step
    rw [if_neg (not_lt_of_leadShape hl), hl]
    simp [h1]
  rw [decode_cons, hs]

theorem decode_three (hl : leadShape b = some (3, lo, hi)) (h1 : lo ≤ c1 ∧ c1 ≤ hi)
    (h2 : isCont c2) :
    decode (b :: c1 :: c2 :: rest) = Char.ofNat (codePoint 3 b [c1, c2]) :: decode rest := by
  have hs : step b (c1 :: c2 :: rest) =
      (Char.ofNat (codePoint 3 b [c1, c2]), ⟨rest, Nat.le_succ_of_le (Nat.le_succ _)⟩) := by
    unfold step
    rw [if_neg (not_lt_of_leadShape hl), hl]
    simp [h1, h2]
  rw [decode_cons, hs]

theorem decode_four (hl : leadShape b = some (4, lo, hi)) (h1 : lo ≤ c1 ∧ c1 ≤ hi)
    (h2 : isCont c2) (h3 : isCont c3) :
    decode (b :: c1 :: c2 :: c3 :: rest) =
      Char.ofNat (codePoint 4 b [c1, c2, c3]) :: decode rest := by
  have hs : step b (c1 :: c2 :: c3 :: rest) =
      (Char.ofNat (codePoint 4 b [c1, c2, c3]),
        ⟨rest, Nat.le_succ_of_le (Nat.le_succ_of_le (Nat.le_succ _))⟩) := by
    unfold step
    rw [if_neg (not_lt_of_leadShape hl), hl]
    simp [h1, h2, h3]
  rw [decode_cons, hs]

/-- A byte that starts no character of its own, alone at the end, is one replacement
character. -/
theorem decode_lone (h : ¬ b < 0x80) : decode [b] = [replacement] := by
  have hs : (step b []).1 = replacement ∧ (step b []).2.1 = [] := by
    unfold step
    rw [if_neg h]
    cases leadShape b with
    | none => exact ⟨rfl, rfl⟩
    | some s => exact ⟨rfl, rfl⟩
  rw [decode_cons, hs.1, hs.2, decode_nil]

end WellFormed

/-! The encoder writes a code point `v` as a lead byte carrying its high bits and
continuation bytes carrying six bits each. The lead byte admits the second byte: the
decoder's narrower ranges after `0xE0`, `0xED`, `0xF0` and `0xF4` exclude exactly the
overlong forms, the surrogates and the values past U+10FFFF, which the encoder never
writes. -/

theorem leadShape_two {v : Nat} (h1 : 0x80 ≤ v) (h2 : v ≤ 0x7FF) :
    leadShape (UInt8.ofNat (v / 64 % 32 + 192)) = some (2, 0x80, 0xBF) := by
  have hb := toNat_ofNat_of_lt (n := v / 64 % 32 + 192) (by omega)
  unfold leadShape
  rw [if_neg (by simp [UInt8.lt_iff_toNat_lt]; omega),
    if_pos (by simp [UInt8.lt_iff_toNat_lt]; omega)]

theorem leadShape_three {v : Nat} (h1 : 0x800 ≤ v) (h2 : v ≤ 0xFFFF) (hs : v < 0xD800 ∨ 0xDFFF < v) :
    ∃ lo hi, leadShape (UInt8.ofNat (v / 4096 % 16 + 224)) = some (3, lo, hi) ∧
      lo ≤ UInt8.ofNat (v / 64 % 64 + 128) ∧ UInt8.ofNat (v / 64 % 64 + 128) ≤ hi := by
  have hb := toNat_ofNat_of_lt (n := v / 4096 % 16 + 224) (by omega)
  have hc := toNat_ofNat_of_lt (n := v / 64 % 64 + 128) (by omega)
  unfold leadShape
  simp only [UInt8.lt_iff_toNat_lt, UInt8.le_iff_toNat_le, ← UInt8.toNat_inj, hb, hc,
    UInt8.reduceToNat]
  -- one case per branch of `leadShape`; those the lead byte cannot take are refuted
  repeat' split
  all_goals first | omega | exact ⟨_, _, rfl, by simp only [UInt8.reduceToNat]; omega⟩

theorem leadShape_four {v : Nat} (h1 : 0x10000 ≤ v) (h2 : v < 0x110000) :
    ∃ lo hi, leadShape (UInt8.ofNat (v / 262144 % 8 + 240)) = some (4, lo, hi) ∧
      lo ≤ UInt8.ofNat (v / 4096 % 64 + 128) ∧ UInt8.ofNat (v / 4096 % 64 + 128) ≤ hi := by
  have hb := toNat_ofNat_of_lt (n := v / 262144 % 8 + 240) (by omega)
  have hc := toNat_ofNat_of_lt (n := v / 4096 % 64 + 128) (by omega)
  unfold leadShape
  simp only [UInt8.lt_iff_toNat_lt, UInt8.le_iff_toNat_le, ← UInt8.toNat_inj, hb, hc,
    UInt8.reduceToNat]
  repeat' split
  all_goals first | omega | exact ⟨_, _, rfl, by simp only [UInt8.reduceToNat]; omega⟩

theorem isCont_ofNat (n : Nat) : isCont (UInt8.ofNat (n % 64 + 128)) = true := by
  have hb := toNat_ofNat_of_lt (n := n % 64 + 128) (by omega)
  simp only [isCont, UInt8.le_iff_toNat_le, hb, UInt8.reduceToNat, Bool.and_eq_true,
    decide_eq_true_eq]
  omega

theorem codePoint_two {v : Nat} (h : v ≤ 0x7FF) :
    codePoint 2 (UInt8.ofNat (v / 64 % 32 + 192)) [UInt8.ofNat (v % 64 + 128)] = v := by
  simp only [codePoint, List.foldl, Nat.reduceSub, Nat.pow_eq, Nat.reducePow,
    toNat_ofNat_of_lt (show v % 64 + 128 < 256 by omega),
    toNat_ofNat_of_lt (show v / 64 % 32 + 192 < 256 by omega)]
  omega

theorem codePoint_three {v : Nat} (h : v ≤ 0xFFFF) :
    codePoint 3 (UInt8.ofNat (v / 4096 % 16 + 224))
      [UInt8.ofNat (v / 64 % 64 + 128), UInt8.ofNat (v % 64 + 128)] = v := by
  simp only [codePoint, List.foldl, Nat.reduceSub, Nat.pow_eq, Nat.reducePow,
    toNat_ofNat_of_lt (show v % 64 + 128 < 256 by omega),
    toNat_ofNat_of_lt (show v / 64 % 64 + 128 < 256 by omega),
    toNat_ofNat_of_lt (show v / 4096 % 16 + 224 < 256 by omega)]
  omega

theorem codePoint_four {v : Nat} (h : v < 0x110000) :
    codePoint 4 (UInt8.ofNat (v / 262144 % 8 + 240))
      [UInt8.ofNat (v / 4096 % 64 + 128), UInt8.ofNat (v / 64 % 64 + 128),
        UInt8.ofNat (v % 64 + 128)] = v := by
  simp only [codePoint, List.foldl, Nat.reduceSub, Nat.pow_eq, Nat.reducePow,
    toNat_ofNat_of_lt (show v % 64 + 128 < 256 by omega),
    toNat_ofNat_of_lt (show v / 64 % 64 + 128 < 256 by omega),
    toNat_ofNat_of_lt (show v / 4096 % 64 + 128 < 256 by omega),
    toNat_ofNat_of_lt (show v / 262144 % 8 + 240 < 256 by omega)]
  omega

/-- One encoded character is read back by one step, whatever follows it. -/
theorem decode_utf8EncodeChar_append (c : Char) (rest : List UInt8) :
    decode (String.utf8EncodeChar c ++ rest) = c :: decode rest := by
  obtain ⟨v, hv⟩ : ∃ v, c.val.toNat = v := ⟨_, rfl⟩
  have hvalid : v < 0xD800 ∨ 0xDFFF < v ∧ v < 0x110000 := hv ▸ c.valid
  have hchar : Char.ofNat v = c := hv ▸ Char.ofNat_toNat c
  simp only [String.utf8EncodeChar, hv]
  -- the encoder's four lengths
  split
  · rw [List.singleton_append]
    have hb := toNat_ofNat_of_lt (show v < 256 by omega)
    rw [decode_ascii _ _ (UInt8.lt_iff_toNat_lt.mpr (by simp only [hb, UInt8.reduceToNat]; omega)),
      hb, hchar]
  split
  · have h1 : (0x80 : UInt8) ≤ UInt8.ofNat (v % 64 + 128) ∧ UInt8.ofNat (v % 64 + 128) ≤ 0xBF := by
      simp only [UInt8.le_iff_toNat_le, toNat_ofNat_of_lt (show v % 64 + 128 < 256 by omega),
        UInt8.reduceToNat]
      omega
    simp only [List.cons_append, List.nil_append]
    rw [decode_two (leadShape_two (by omega) (by omega)) h1, codePoint_two (by omega), hchar]
  split
  · obtain ⟨lo, hi, hl, hlo, hhi⟩ := leadShape_three (v := v) (by omega) (by omega) (by omega)
    simp only [List.cons_append, List.nil_append]
    rw [decode_three hl ⟨hlo, hhi⟩ (isCont_ofNat v), codePoint_three (by omega), hchar]
  · obtain ⟨lo, hi, hl, hlo, hhi⟩ := leadShape_four (v := v) (by omega) (by omega)
    simp only [List.cons_append, List.nil_append]
    rw [decode_four hl ⟨hlo, hhi⟩ (isCont_ofNat (v / 64)) (isCont_ofNat v),
      codePoint_four (by omega), hchar]

theorem decode_encodeChars_append (cs : List Char) (rest : List UInt8) :
    decode (encodeChars cs ++ rest) = cs ++ decode rest := by
  induction cs with
  | nil => rfl
  | cons c cs ih =>
    rw [encodeChars, List.flatMap_cons, List.append_assoc, decode_utf8EncodeChar_append]
    exact congrArg (c :: ·) ih

/-- **Decoding an encoded text gives it back, in front of any bytes.** -/
theorem decodeLossy_encode_append (t : String) (rest : List UInt8) :
    decodeLossy (encode t ++ rest) = t ++ decodeLossy rest := by
  rw [decodeLossy, encode, decode_encodeChars_append, String.ofList_append, String.ofList_toList,
    decodeLossy]

theorem decodeLossy_encode (t : String) : decodeLossy (encode t) = t := by
  simpa [decodeLossy] using decodeLossy_encode_append t []

end Text.Utf8

namespace Session

/-! ## Reads that end between characters -/

/-- The texts the looks of a history returned, in order: what each look drained, decoded.
A look that waits drains nothing and adds an empty text. -/
def texts (h : List (Option Glance × List UInt8)) : List String :=
  h.filterMap fun e => e.1.map fun g => Text.Utf8.decodeLossy g.bytes

/-- Every look of a history drained whole characters. -/
def WholeCharacters (h : List (Option Glance × List UInt8)) : Prop :=
  ∀ e ∈ h, ∀ g ∈ e.1, ∃ t, g.bytes = Text.Utf8.encode t

theorem WholeCharacters.tail {e : Option Glance × List UInt8} {h : List (Option Glance × List UInt8)}
    (hw : WholeCharacters (e :: h)) : WholeCharacters h :=
  fun e' he' => hw e' (List.mem_cons_of_mem e he')

/-- Looks that drain whole characters return, together, the decoding of all they drained. -/
theorem join_texts {h : List (Option Glance × List UInt8)} (hw : WholeCharacters h) :
    String.join (texts h) = Text.Utf8.decodeLossy (delivered h) := by
  induction h with
  | nil => simp [texts, Text.Utf8.decodeLossy]
  | cons e h ih =>
    obtain ⟨look, keep⟩ := e
    cases look with
    | none => simpa [texts] using ih hw.tail
    | some g =>
      obtain ⟨t, ht⟩ := hw _ List.mem_cons_self g rfl
      have hrest : String.join (texts h) = Text.Utf8.decodeLossy (delivered h) := ih hw.tail
      simp only [texts, List.filterMap_cons, Option.map_some, String.join_cons] at hrest ⊢
      rw [hrest, delivered_cons, Option.map_some, Option.getD_some, ht,
        Text.Utf8.decodeLossy_encode_append, Text.Utf8.decodeLossy_encode]

/-- **Reads that end on character boundaries reproduce the output.** Take a session
opened on any child, with any interleaving of looks, writes and listings after which
the backlog is empty, and let the backlog have kept the encoding of a text `T`. When
every look drained whole characters, the texts of the looks, concatenated, are `T`. -/
theorem whole_character_reads_concatenate (id : String) (spec : LaunchSpec) (child : Child)
    (opened idle budget : Nat) (acts : List Act) (T : String) :
    let h := (start id spec child opened idle budget).perform acts
    kept h.1 = Text.Utf8.encode T → h.2.backlog.pending = [] → WholeCharacters h.1 →
      String.join (texts h.1) = T := by
  dsimp only
  intro hkept hdrained hwhole
  -- the looks drained what the backlog kept, which started empty and ends empty
  have hqueue := perform_bytes_append (start id spec child opened idle budget) acts
  rw [hdrained, List.append_nil] at hqueue
  rw [join_texts hwhole, hqueue]
  exact (congrArg Text.Utf8.decodeLossy hkept).trans (Text.Utf8.decodeLossy_encode T)

/-- A child that printed `é` and ended at its start, its trace computed a window ahead. -/
def acuteChild : Child :=
  { launch := ⟨"printf", ["printf", "é"], [], "/", [], true⟩
    files := .dir []
    mode := .pty
    writes := []
    signals := []
    horizon := Child.window
    trace := ⟨[⟨0, .stdout, [0xC3, 0xA9]⟩], some (0, .exited 0), some 0, some 0⟩
    status := none
    inputOpen := true }

/-- The command of `acuteChild` on a terminal. -/
def acuteSpec : LaunchSpec := ⟨"/bin/sh", "printf é", "/", .pty, []⟩

/-- A session opened at time zero on `acuteChild`, idle for at most half an hour. -/
def acuteSession : Session :=
  start "sh-000001-000000000000" acuteSpec acuteChild 0 (1800 * 1000000000) 65536

/-- One look of two bytes drains `é` whole and returns it. -/
theorem acute_read_whole :
    let h := acuteSession.perform [.look 1 2]
    (kept h.1 = Text.Utf8.encode "é" ∧ h.2.backlog.pending = [] ∧ WholeCharacters h.1) ∧
      String.join (texts h.1) = "é" := by
  dsimp only
  have hh : (acuteSession.perform [.look 1 2]).1 =
      [(some ⟨[0xC3, 0xA9], false, true, true⟩, [0xC3, 0xA9])] := by
    decide
  have hkept : kept (acuteSession.perform [.look 1 2]).1 = Text.Utf8.encode "é" := by
    rw [hh]
    decide
  have hdrained : (acuteSession.perform [.look 1 2]).2.backlog.pending = [] := by
    decide
  have hwhole : WholeCharacters (acuteSession.perform [.look 1 2]).1 := by
    rw [hh]
    simp only [WholeCharacters, List.mem_singleton, forall_eq, Option.mem_def, Option.some.injEq,
      forall_eq']
    exact ⟨"é", by decide⟩
  exact ⟨⟨hkept, hdrained, hwhole⟩, whole_character_reads_concatenate "sh-000001-000000000000"
    acuteSpec acuteChild 0 (1800 * 1000000000) 65536 [.look 1 2] "é" hkept hdrained hwhole⟩

/-- **A look that ends inside a character breaks it.** The backlog of a session keeps the
two bytes of `é` and two looks of one byte each drain them: each returns one replacement
character, so together they return two replacement characters and not `é`. -/
theorem split_character_reads_differ :
    let h := acuteSession.perform [.look 1 1, .look 2 1]
    kept h.1 = Text.Utf8.encode "é" ∧ h.2.backlog.pending = [] ∧
      String.join (texts h.1) = "��" ∧ String.join (texts h.1) ≠ "é" := by
  dsimp only
  have hh : (acuteSession.perform [.look 1 1, .look 2 1]).1 =
      [(some ⟨[0xC3], false, false, true⟩, [0xC3, 0xA9]), (some ⟨[0xA9], false, true, true⟩, [])] := by
    decide
  have hjoin : String.join (texts [(some (⟨[0xC3], false, false, true⟩ : Glance), [0xC3, 0xA9]),
      (some ⟨[0xA9], false, true, true⟩, [])]) = "��" := by
    simp only [texts, List.filterMap_cons, List.filterMap_nil, Option.map_some, String.join_cons,
      String.join_nil, Text.Utf8.decodeLossy, Text.Utf8.decode_lone (b := 0xC3) (by decide),
      Text.Utf8.decode_lone (b := 0xA9) (by decide)]
    rfl
  refine ⟨?_, by decide, ?_, ?_⟩
  · rw [hh]
    decide
  · rw [hh, hjoin]
  · rw [hh, hjoin]
    decide

end Session

end Confine
