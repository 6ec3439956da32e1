import TaskRunner.Proofs.Text.Order

/-! How bytes are read as a text.  What encodes a character is read as that character.  Of the other
bytes, the longest beginning of an encoding that stands in front is lost as one piece, or else a
single byte; a replacement character is read for each piece. -/

namespace TaskRunner

/-- The bytes begin the encoding of a character. -/
def BeginsEncoding (bytes : Bytes) : Prop :=
  ∃ c : Char, bytes <+: String.utf8EncodeChar c

/-- The bytes encode no character together with what is behind them.  They are the longest beginning
of an encoding there is, or a byte that begins none. -/
structure IsLost (part rest : Bytes) : Prop where
  encodes_none : ∀ c : Char, ¬String.utf8EncodeChar c <+: part ++ rest
  begins : part.length = 1 ∨ part ≠ [] ∧ BeginsEncoding part
  longest : ∀ more, more <+: part ++ rest → BeginsEncoding more → more.length ≤ part.length

/-- Bytes are read as a text: encodings as their characters, and bytes that are lost as the
replacement character. -/
inductive ReadsAs : Bytes → List Char → Prop where
  | nil : ReadsAs [] []
  | char (c : Char) {rest : Bytes} {text : List Char} (hrest : ReadsAs rest text) :
      ReadsAs (String.utf8EncodeChar c ++ rest) (c :: text)
  | lost {part rest : Bytes} {text : List Char} (hpart : IsLost part rest)
      (hrest : ReadsAs rest text) : ReadsAs (part ++ rest) ('\ufffd' :: text)

/-! ### First bytes -/

/-- The code point of a character is none of a surrogate. -/
theorem val_toNat_cases (c : Char) :
    c.val.toNat < 0xd800 ∨ 0xdfff < c.val.toNat ∧ c.val.toNat < 0x110000 := by
  have hvalid := c.valid
  simpa only [UInt32.isValidChar, Nat.isValidChar] using hvalid

/-- What a byte begins, by its number. -/
theorem LeadByte.of?_eq (b : UInt8) :
    of? b =
      if b.toNat < 128 then some ⟨b.toNat, 0, 0x80, 0xbf⟩
      else if b.toNat < 194 then none
      else if b.toNat < 224 then some ⟨b.toNat - 192, 1, 0x80, 0xbf⟩
      else if b.toNat = 224 then some ⟨b.toNat - 224, 2, 0xa0, 0xbf⟩
      else if b.toNat = 237 then some ⟨b.toNat - 224, 2, 0x80, 0x9f⟩
      else if b.toNat < 240 then some ⟨b.toNat - 224, 2, 0x80, 0xbf⟩
      else if b.toNat = 240 then some ⟨b.toNat - 240, 3, 0x90, 0xbf⟩
      else if b.toNat < 244 then some ⟨b.toNat - 240, 3, 0x80, 0xbf⟩
      else if b.toNat = 244 then some ⟨b.toNat - 240, 3, 0x80, 0x8f⟩
      else none := by
  simp only [of?, UInt8.lt_iff_toNat_lt, ← UInt8.toNat_inj]
  rfl

theorem LeadByte.low_le_high {b : UInt8} {lead : LeadByte} (h : of? b = some lead) :
    lead.low ≤ lead.high := by
  rw [of?_eq] at h
  split_ifs at h <;> obtain rfl := Option.some.inj h <;> dsimp only <;> decide

/-- What is known of a first byte and of the bounds of the second one. -/
theorem LeadByte.of?_cases {b : UInt8} {lead : LeadByte} (h : of? b = some lead) :
    (b.toNat < 128 ∧ lead = ⟨b.toNat, 0, 0x80, 0xbf⟩) ∨
    (194 ≤ b.toNat ∧ b.toNat < 224 ∧ lead = ⟨b.toNat - 192, 1, 0x80, 0xbf⟩) ∨
    (∃ low high, 224 ≤ b.toNat ∧ b.toNat < 240 ∧ lead = ⟨b.toNat - 224, 2, low, high⟩ ∧
      128 ≤ low.toNat ∧ high.toNat ≤ 191 ∧ (b.toNat = 224 → 160 ≤ low.toNat) ∧
      (b.toNat = 237 → high.toNat ≤ 159)) ∨
    ∃ low high, 240 ≤ b.toNat ∧ b.toNat < 245 ∧ lead = ⟨b.toNat - 240, 3, low, high⟩ ∧
      128 ≤ low.toNat ∧ high.toNat ≤ 191 ∧ (b.toNat = 240 → 144 ≤ low.toNat) ∧
      (b.toNat = 244 → high.toNat ≤ 143) := by
  rw [of?_eq] at h
  have hlow : UInt8.toNat 0x80 = 128 := rfl
  have hhigh : UInt8.toNat 0xbf = 191 := rfl
  split_ifs at h with hone hnone htwo hlong hsurrogate hthree hlonger hfour hlast <;>
    obtain rfl := Option.some.inj h
  · exact .inl ⟨hone, rfl⟩
  · exact .inr (.inl ⟨by omega, by omega, rfl⟩)
  · exact .inr (.inr (.inl ⟨_, _, by omega, by omega, rfl, by decide, by decide, fun _ => by decide,
      by omega⟩))
  · exact .inr (.inr (.inl ⟨_, _, by omega, by omega, rfl, by decide, by decide, by omega,
      fun _ => by decide⟩))
  · exact .inr (.inr (.inl ⟨_, _, by omega, by omega, rfl, by decide, by decide, by omega,
      by omega⟩))
  · exact .inr (.inr (.inr ⟨_, _, by omega, by omega, rfl, by decide, by decide, fun _ => by decide,
      by omega⟩))
  · exact .inr (.inr (.inr ⟨_, _, by omega, by omega, rfl, by decide, by decide, by omega,
      by omega⟩))
  · exact .inr (.inr (.inr ⟨_, _, by omega, by omega, rfl, by decide, by decide, by omega,
      fun _ => by decide⟩))

/-! ### Encodings -/

variable {code : Nat} {low high : UInt8} {n : Nat}

@[simp] theorem completeCode_zero (bytes : Bytes) :
    completeCode code low high 0 bytes = (some code, bytes) := by
  rw [completeCode]

/-- A byte that can follow adds its share. -/
theorem completeCode_follower {k : Nat} (hlow : low.toNat ≤ k % 64 + 128)
    (hhigh : k % 64 + 128 ≤ high.toNat) (bytes : Bytes) :
    completeCode code low high (n + 1) (UInt8.ofNat (k % 64 + 128) :: bytes) =
      completeCode (64 * code + k % 64) 0x80 0xbf n bytes := by
  have hb : (UInt8.ofNat (k % 64 + 128)).toNat = k % 64 + 128 := by
    rw [UInt8.toNat_ofNat']
    omega
  have hshare : (UInt8.ofNat (k % 64 + 128)).toNat % 64 = k % 64 := by omega
  rw [completeCode, hshare, if_pos]
  exact ⟨UInt8.le_iff_toNat_le.2 (by omega), UInt8.le_iff_toNat_le.2 (by omega)⟩

theorem completeCode_tail (code n k : Nat) (bytes : Bytes) :
    completeCode code 0x80 0xbf (n + 1) (UInt8.ofNat (k % 64 + 128) :: bytes) =
      completeCode (64 * code + k % 64) 0x80 0xbf n bytes := by
  have hlow : UInt8.toNat 0x80 = 128 := rfl
  have hhigh : UInt8.toNat 0xbf = 191 := rfl
  exact completeCode_follower (by omega) (by omega) bytes

/-- The first of three bytes, and the bounds that the second one keeps. -/
theorem exists_lead_of_three {n : Nat} (hmin : 2048 ≤ n) (hmax : n < 65536)
    (hvalid : n < 0xd800 ∨ 0xdfff < n) : ∃ low high,
      LeadByte.of? (UInt8.ofNat (n / 4096 % 16 + 224)) = some ⟨n / 4096, 2, low, high⟩ ∧
        low.toNat ≤ n / 64 % 64 + 128 ∧ n / 64 % 64 + 128 ≤ high.toNat := by
  have hb : (UInt8.ofNat (n / 4096 % 16 + 224)).toNat = n / 4096 + 224 := by
    rw [UInt8.toNat_ofNat']
    omega
  rw [LeadByte.of?_eq, hb, Nat.add_sub_cancel, if_neg (by omega), if_neg (by omega),
    if_neg (by omega)]
  split_ifs <;> first | omega | (refine ⟨_, _, rfl, ?_, ?_⟩ <;> simp <;> omega)

/-- The first of four bytes, and the bounds that the second one keeps. -/
theorem exists_lead_of_four {n : Nat} (hmin : 65536 ≤ n) (hmax : n < 0x110000) : ∃ low high,
      LeadByte.of? (UInt8.ofNat (n / 262144 % 8 + 240)) = some ⟨n / 262144, 3, low, high⟩ ∧
        low.toNat ≤ n / 4096 % 64 + 128 ∧ n / 4096 % 64 + 128 ≤ high.toNat := by
  have hb : (UInt8.ofNat (n / 262144 % 8 + 240)).toNat = n / 262144 + 240 := by
    rw [UInt8.toNat_ofNat']
    omega
  rw [LeadByte.of?_eq, hb, Nat.add_sub_cancel, if_neg (by omega), if_neg (by omega),
    if_neg (by omega), if_neg (by omega), if_neg (by omega), if_neg (by omega)]
  split_ifs <;> first | omega | (refine ⟨_, _, rfl, ?_, ?_⟩ <;> simp <;> omega)

/-- An encoding is read as its character, whatever follows it. -/
theorem exists_lead_of_utf8EncodeChar (c : Char) :
    ∃ b bytes lead, String.utf8EncodeChar c = b :: bytes ∧ LeadByte.of? b = some lead ∧
      ∀ more, completeCode lead.share lead.low lead.high lead.following (bytes ++ more) =
        (some c.val.toNat, more) := by
  have hvalid := val_toNat_cases c
  unfold String.utf8EncodeChar
  generalize c.val.toNat = n at *
  have hn := eq_sum_shares n
  dsimp only
  -- One case for each length of an encoding.
  split_ifs with hone htwo hthree
  · have hb : (UInt8.ofNat n).toNat = n := by
      rw [UInt8.toNat_ofNat']
      omega
    refine ⟨_, _, ⟨n, 0, 0x80, 0xbf⟩, rfl, ?_, fun _ => rfl⟩
    rw [LeadByte.of?_eq, hb, if_pos (by omega)]
  · have hb : (UInt8.ofNat (n / 64 % 32 + 192)).toNat = n / 64 + 192 := by
      rw [UInt8.toNat_ofNat']
      omega
    refine ⟨_, _, ⟨n / 64, 1, 0x80, 0xbf⟩, rfl, ?_, fun more => ?_⟩
    · rw [LeadByte.of?_eq, hb, if_neg (by omega), if_neg (by omega), if_pos (by omega),
        Nat.add_sub_cancel]
    · have hcode : 64 * (n / 64) + n % 64 = n := by omega
      rw [List.cons_append, completeCode_tail, List.nil_append, completeCode_zero, hcode]
  · obtain ⟨low, high, hlead, hfirst, hsecond⟩ :=
      exists_lead_of_three (n := n) (by omega) (by omega) (by omega)
    have hcode : 64 * (64 * (n / 4096) + n / 64 % 64) + n % 64 = n := by omega
    refine ⟨_, _, _, rfl, hlead, fun more => ?_⟩
    simp only [List.cons_append, List.nil_append]
    rw [completeCode_follower hfirst hsecond, completeCode_tail, completeCode_zero, hcode]
  · obtain ⟨low, high, hlead, hfirst, hsecond⟩ :=
      exists_lead_of_four (n := n) (by omega) (by omega)
    have hcode : 64 * (64 * (64 * (n / 262144) + n / 4096 % 64) + n / 64 % 64) + n % 64 = n := by
      omega
    refine ⟨_, _, _, rfl, hlead, fun more => ?_⟩
    simp only [List.cons_append, List.nil_append]
    rw [completeCode_follower hfirst hsecond, completeCode_tail, completeCode_tail,
      completeCode_zero, hcode]

/-- The first byte that follows is within the bounds, and the others follow with its share. -/
theorem completeCode_succ_some {k : Nat} {bytes rest : Bytes}
    (h : completeCode code low high (n + 1) bytes = (some k, rest)) :
    ∃ b more, bytes = b :: more ∧ low.toNat ≤ b.toNat ∧ b.toNat ≤ high.toNat ∧
      completeCode (64 * code + b.toNat % 64) 0x80 0xbf n more = (some k, rest) := by
  cases bytes with
  | nil => cases h
  | cons b more =>
    rw [completeCode] at h
    split at h
    next hb => exact ⟨b, more, rfl, UInt8.le_iff_toNat_le.1 hb.1, UInt8.le_iff_toNat_le.1 hb.2, h⟩
    next => cases h

/-- Every code point that is none of a surrogate is that of a character. -/
theorem exists_val_eq {k : Nat} (h : k < 0xd800 ∨ 0xdfff < k ∧ k < 0x110000) :
    ∃ c : Char, c.val.toNat = k := by
  have hsize : (UInt32.ofNat k).toNat = k := by
    refine UInt32.toNat_ofNat_of_lt' ?_
    show k < 4294967296
    omega
  have hvalid : (UInt32.ofNat k).toNat.isValidChar := by rwa [hsize]
  exact ⟨⟨UInt32.ofNat k, hvalid⟩, hsize⟩

/-- What is completed is the encoding of a character. -/
theorem exists_char_of_completeCode {b : UInt8} {lead : LeadByte} {bytes rest : Bytes} {k : Nat}
    (hlead : LeadByte.of? b = some lead)
    (h : completeCode lead.share lead.low lead.high lead.following bytes = (some k, rest)) :
    ∃ c : Char, c.val.toNat = k ∧ b :: bytes = String.utf8EncodeChar c ++ rest := by
  have hlow : UInt8.toNat 0x80 = 128 := rfl
  have hhigh : UInt8.toNat 0xbf = 191 := rfl
  -- The bytes that follow are taken off one by one.
  rcases LeadByte.of?_cases hlead with ⟨hb, rfl⟩ | ⟨hb, hb', rfl⟩ |
    ⟨low, high, hb, hb', rfl, hmin, hmax, hlong, hsurrogate⟩ |
    ⟨low, high, hb, hb', rfl, hmin, hmax, hlong, hlast⟩
  · cases h
    obtain ⟨c, hc⟩ := exists_val_eq (k := b.toNat) (.inl (by omega))
    refine ⟨c, hc, ?_⟩
    rw [String.utf8EncodeChar, hc, if_pos (by omega)]
    simp
  · obtain ⟨x, more, rfl, hx, hx', h⟩ := completeCode_succ_some h
    cases h
    dsimp only at hx hx'
    obtain ⟨c, hc⟩ := exists_val_eq (k := 64 * (b.toNat - 192) + x.toNat % 64) (.inl (by omega))
    refine ⟨c, hc, ?_⟩
    rw [String.utf8EncodeChar, hc, if_neg (by omega), if_pos (by omega)]
    simp only [List.cons_append, List.nil_append, List.cons.injEq, and_true, ← UInt8.toNat_inj,
      UInt8.toNat_ofNat']
    omega
  · obtain ⟨x, more, rfl, hx, hx', h⟩ := completeCode_succ_some h
    obtain ⟨y, more, rfl, hy, hy', h⟩ := completeCode_succ_some h
    cases h
    dsimp only at hx hx'
    obtain ⟨c, hc⟩ := exists_val_eq
      (k := 64 * (64 * (b.toNat - 224) + x.toNat % 64) + y.toNat % 64) (by omega)
    refine ⟨c, hc, ?_⟩
    rw [String.utf8EncodeChar, hc, if_neg (by omega), if_neg (by omega), if_pos (by omega)]
    simp only [List.cons_append, List.nil_append, List.cons.injEq, and_true, ← UInt8.toNat_inj,
      UInt8.toNat_ofNat']
    omega
  · obtain ⟨x, more, rfl, hx, hx', h⟩ := completeCode_succ_some h
    obtain ⟨y, more, rfl, hy, hy', h⟩ := completeCode_succ_some h
    obtain ⟨z, more, rfl, hz, hz', h⟩ := completeCode_succ_some h
    cases h
    dsimp only at hx hx'
    obtain ⟨c, hc⟩ := exists_val_eq
      (k := 64 * (64 * (64 * (b.toNat - 240) + x.toNat % 64) + y.toNat % 64) + z.toNat % 64)
      (by omega)
    refine ⟨c, hc, ?_⟩
    rw [String.utf8EncodeChar, hc, if_neg (by omega), if_neg (by omega), if_neg (by omega)]
    simp only [List.cons_append, List.nil_append, List.cons.injEq, and_true, ← UInt8.toNat_inj,
      UInt8.toNat_ofNat']
    omega

/-! ### Bytes that encode no character -/

/-- What is not complete can be completed. -/
theorem exists_completeCode_tail (code n : Nat) :
    ∃ fill k, completeCode code 0x80 0xbf n fill = (some k, []) := by
  induction n generalizing code with
  | zero => exact ⟨[], code, completeCode_zero []⟩
  | succ n ih =>
    obtain ⟨fill, k, hfill⟩ := ih (64 * code)
    exact ⟨0x80 :: fill, k, (completeCode_tail code n 0 fill).trans hfill⟩

/-- Bytes that follow a first byte but do not complete its encoding could be completed by others.
The byte behind them, if there is one, cannot follow them, whatever follows it. -/
theorem exists_of_completeCode_none (hle : low ≤ high) {bytes rest : Bytes}
    (h : completeCode code low high n bytes = (none, rest)) :
    ∃ taken, bytes = taken ++ rest ∧
      (∃ fill k, completeCode code low high n (taken ++ fill) = (some k, [])) ∧
      ∀ b more, rest.head? = some b →
        completeCode code low high n (taken ++ b :: more) = (none, b :: more) := by
  induction bytes generalizing code low high n with
  | nil =>
    cases n with
    | zero => cases h
    | succ n =>
      cases h
      obtain ⟨fill, k, hfill⟩ := exists_completeCode_tail (64 * code + low.toNat % 64) n
      refine ⟨[], rfl, ⟨low :: fill, k, ?_⟩, fun b more hb => by cases hb⟩
      rw [List.nil_append, completeCode, if_pos ⟨UInt8.le_refl low, hle⟩, hfill]
  | cons b bytes ih =>
    cases n with
    | zero => cases h
    | succ n =>
      rw [completeCode] at h
      split at h
      next hb =>
        obtain ⟨taken, rfl, ⟨fill, k, hfill⟩, hrefused⟩ := ih (by decide) h
        refine ⟨b :: taken, rfl, ⟨fill, k, ?_⟩, fun next more hnext => ?_⟩
        · rw [List.cons_append, completeCode, if_pos hb, hfill]
        · rw [List.cons_append, completeCode, if_pos hb, hrefused next more hnext]
      next hb =>
        cases h
        obtain ⟨fill, k, hfill⟩ := exists_completeCode_tail (64 * code + low.toNat % 64) n
        refine ⟨[], rfl, ⟨low :: fill, k, ?_⟩, fun next more hnext => ?_⟩
        · rw [List.nil_append, completeCode, if_pos ⟨UInt8.le_refl low, hle⟩, hfill]
        · cases hnext
          rw [List.nil_append, completeCode, if_neg hb]

theorem IsLost.ne_nil {part rest : Bytes} (h : IsLost part rest) : part ≠ [] := by
  rcases h.begins with hone | ⟨hne, -⟩
  · exact List.ne_nil_of_length_pos (by omega)
  · exact hne

/-- What is lost of bytes is determined by them. -/
theorem IsLost.eq {part rest part' rest' : Bytes} (h : IsLost part rest) (h' : IsLost part' rest')
    (heq : part ++ rest = part' ++ rest') : part = part' ∧ rest = rest' := by
  have hle {part rest part' rest' : Bytes} (h : IsLost part rest) (h' : IsLost part' rest')
      (heq : part ++ rest = part' ++ rest') : part.length ≤ part'.length := by
    rcases h.begins with hone | ⟨-, hbegins⟩
    · have hpos := List.length_pos_iff.2 h'.ne_nil
      omega
    · exact h'.longest part (heq ▸ List.prefix_append part rest) hbegins
  exact List.append_inj heq (Nat.le_antisymm (hle h h' heq) (hle h' h heq.symm))

/-- Where bytes begin an encoding, the rest of it completes what the first of them begins. -/
theorem exists_lead_of_prefix {b : UInt8} {more : Bytes} {c : Char}
    (h : b :: more <+: String.utf8EncodeChar c) :
    ∃ lead rest, String.utf8EncodeChar c = b :: (more ++ rest) ∧ LeadByte.of? b = some lead ∧
      ∀ bytes, completeCode lead.share lead.low lead.high lead.following (more ++ rest ++ bytes) =
        (some c.val.toNat, bytes) := by
  obtain ⟨first, others, lead, hencoded, hlead, hcomplete⟩ := exists_lead_of_utf8EncodeChar c
  obtain ⟨rest, hrest⟩ := h
  rw [hencoded, List.cons_append] at hrest
  obtain ⟨rfl, rfl⟩ := List.cons.inj hrest
  exact ⟨lead, rest, hencoded, hlead, hcomplete⟩

theorem isLost_of_lead_none {b : UInt8} (hlead : LeadByte.of? b = none) (rest : Bytes) :
    IsLost [b] rest where
  encodes_none c hfront := by
    obtain ⟨first, others, lead, hencoded, hsome, -⟩ := exists_lead_of_utf8EncodeChar c
    rw [hencoded, List.singleton_append, List.cons_prefix_cons] at hfront
    rw [hfront.1, hlead] at hsome
    cases hsome
  begins := .inl rfl
  longest more hfront hbegins := by
    cases more with
    | nil => exact Nat.zero_le _
    | cons first more =>
      obtain ⟨c, hc⟩ := hbegins
      obtain ⟨lead, -, -, hsome, -⟩ := exists_lead_of_prefix hc
      rw [List.singleton_append, List.cons_prefix_cons] at hfront
      rw [hfront.1, hlead] at hsome
      cases hsome

/-- If no byte that follows is taken as one of an encoding, no longer beginning of one stands in
front. -/
theorem length_le_of_refused {b : UInt8} {lead : LeadByte} (hlead : LeadByte.of? b = some lead)
    {taken rest more : Bytes}
    (hrefused : ∀ next others, rest.head? = some next →
      completeCode lead.share lead.low lead.high lead.following (taken ++ next :: others) =
        (none, next :: others))
    (hfront : more <+: b :: taken ++ rest) (hbegins : BeginsEncoding more) :
    more.length ≤ (b :: taken).length := by
  refine Nat.le_of_not_lt fun hlonger => ?_
  obtain ⟨tail, rfl⟩ : ∃ tail, more = b :: taken ++ tail :=
    (List.prefix_of_prefix_length_le (List.prefix_append _ _) hfront (Nat.le_of_lt hlonger)).imp
      fun _ => Eq.symm
  cases tail with
  | nil => simp at hlonger
  | cons next tail =>
    rw [List.prefix_append_right_inj] at hfront
    have hnext : rest.head? = some next := by
      obtain ⟨others, rfl⟩ := hfront
      rfl
    obtain ⟨c, hc⟩ := hbegins
    obtain ⟨lead', others, -, hlead', hcomplete⟩ := exists_lead_of_prefix hc
    obtain rfl := Option.some.inj (hlead.symm.trans hlead')
    have hwhole : completeCode lead.share lead.low lead.high lead.following
        (taken ++ next :: (tail ++ others)) = (some c.val.toNat, []) := by
      simpa using hcomplete []
    rw [hrefused next (tail ++ others) hnext] at hwhole
    cases hwhole

theorem exists_isLost_of_lead {b : UInt8} {lead : LeadByte} (hlead : LeadByte.of? b = some lead)
    {bytes rest : Bytes}
    (h : completeCode lead.share lead.low lead.high lead.following bytes = (none, rest)) :
    ∃ taken, bytes = taken ++ rest ∧ IsLost (b :: taken) rest := by
  obtain ⟨taken, rfl, ⟨fill, k, hfill⟩, hrefused⟩ :=
    exists_of_completeCode_none (LeadByte.low_le_high hlead) h
  refine ⟨taken, rfl, ?_⟩
  constructor
  case encodes_none =>
    intro c hfront
    obtain ⟨first, others, lead', hencoded, hlead', hcomplete⟩ := exists_lead_of_utf8EncodeChar c
    obtain ⟨more, hmore⟩ := hfront
    rw [hencoded, List.cons_append, List.cons_append] at hmore
    obtain ⟨rfl, hothers⟩ := List.cons.inj hmore
    obtain rfl := Option.some.inj (hlead.symm.trans hlead')
    rw [← hothers, hcomplete more] at h
    cases h
  case begins =>
    obtain ⟨c, -, hc⟩ := exists_char_of_completeCode hlead hfill
    refine .inr ⟨List.cons_ne_nil b taken, c, fill, ?_⟩
    rw [List.cons_append, hc, List.append_nil]
  case longest => exact fun more => length_le_of_refused hlead hrefused

theorem decodeLossy_cons (b : UInt8) (bytes : Bytes) :
    decodeLossy (b :: bytes) =
      match LeadByte.of? b with
      | none => '\ufffd' :: decodeLossy bytes
      | some lead =>
        let completed := completeCode lead.share lead.low lead.high lead.following bytes
        (completed.1.map Char.ofNat).getD '\ufffd' :: decodeLossy completed.2 := by
  rw [decodeLossy, decodeEach]
  cases LeadByte.of? b <;> rfl

@[simp] theorem decodeLossy_nil : decodeLossy [] = [] := by
  rw [decodeLossy, decodeEach]
  rfl

theorem decodeLossy_utf8EncodeChar_append (c : Char) (rest : Bytes) :
    decodeLossy (String.utf8EncodeChar c ++ rest) = c :: decodeLossy rest := by
  obtain ⟨b, bytes, lead, hencoded, hlead, hcomplete⟩ := exists_lead_of_utf8EncodeChar c
  rw [hencoded, List.cons_append, decodeLossy_cons, hlead]
  dsimp only
  rw [hcomplete rest]
  simp

/-- Bytes begin with an encoding, or with some that are lost. -/
theorem decodeLossy_cases (b : UInt8) (bytes : Bytes) :
    (∃ c rest, b :: bytes = String.utf8EncodeChar c ++ rest ∧
      decodeLossy (b :: bytes) = c :: decodeLossy rest) ∨
    ∃ part rest, b :: bytes = part ++ rest ∧ IsLost part rest ∧
      decodeLossy (b :: bytes) = '\ufffd' :: decodeLossy rest := by
  cases hlead : LeadByte.of? b with
  | none =>
    refine .inr ⟨[b], bytes, rfl, isLost_of_lead_none hlead bytes, ?_⟩
    rw [decodeLossy_cons, hlead]
  | some lead =>
    rcases hcompleted : completeCode lead.share lead.low lead.high lead.following bytes with
      ⟨code | k, rest⟩
    · obtain ⟨taken, hbytes, hlost⟩ := exists_isLost_of_lead hlead hcompleted
      refine .inr ⟨b :: taken, rest, by rw [hbytes, List.cons_append], hlost, ?_⟩
      rw [decodeLossy_cons, hlead]
      simp [hcompleted]
    · obtain ⟨c, -, hencoded⟩ := exists_char_of_completeCode hlead hcompleted
      refine .inl ⟨c, rest, hencoded, ?_⟩
      rw [hencoded, decodeLossy_utf8EncodeChar_append]

theorem ReadsAs.eq_decodeLossy {bytes : Bytes} {text : List Char} (h : ReadsAs bytes text) :
    text = decodeLossy bytes := by
  induction h with
  | nil => rw [decodeLossy_nil]
  | char c _ ih => rw [decodeLossy_utf8EncodeChar_append, ih]
  | @lost part rest text hpart _ ih =>
    obtain ⟨b, bytes, hbytes⟩ := List.exists_cons_of_ne_nil
      (List.append_ne_nil_of_left_ne_nil hpart.ne_nil rest)
    rw [hbytes]
    rcases decodeLossy_cases b bytes with
      ⟨c, rest', hsplit, -⟩ | ⟨part', rest', hsplit, hlost, hdecoded⟩
    · refine absurd ?_ (hpart.encodes_none c)
      rw [hbytes, hsplit]
      exact List.prefix_append _ _
    · obtain ⟨-, rfl⟩ := hpart.eq hlost (hbytes.trans hsplit)
      rw [hdecoded, ih]

theorem readsAs_decodeLossy (bytes : Bytes) : ReadsAs bytes (decodeLossy bytes) := by
  -- What is read off first is not empty, so the induction is on the number of bytes.
  induction hlength : bytes.length using Nat.strongRecOn generalizing bytes with
  | ind n ih =>
    cases bytes with
    | nil =>
      rw [decodeLossy_nil]
      exact .nil
    | cons b bytes =>
      subst hlength
      rcases decodeLossy_cases b bytes with
        ⟨c, rest, hsplit, hdecoded⟩ | ⟨part, rest, hsplit, hlost, hdecoded⟩
      · rw [hdecoded, hsplit]
        refine .char c (ih rest.length ?_ rest rfl)
        rw [hsplit, List.length_append]
        exact Nat.lt_add_of_pos_left (by simp [Char.utf8Size_pos])
      · rw [hdecoded, hsplit]
        refine .lost hlost (ih rest.length ?_ rest rfl)
        rw [hsplit, List.length_append]
        exact Nat.lt_add_of_pos_left (List.length_pos_iff.2 hlost.ne_nil)

/-- What bytes are read as is what the decoder makes of them. -/
theorem readsAs_iff {bytes : Bytes} {text : List Char} :
    ReadsAs bytes text ↔ text = decodeLossy bytes :=
  ⟨ReadsAs.eq_decodeLossy, fun h => h ▸ readsAs_decodeLossy bytes⟩

end TaskRunner
