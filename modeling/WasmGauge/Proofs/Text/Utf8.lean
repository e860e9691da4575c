import WasmGauge.Text.Utf8

/-!
# What can be read as UTF-8

Reading bytes as UTF-8 gives the text whose characters are encoded by just these bytes, and a fault if
there is no such text. Overlong forms, surrogates and what is behind the last plane are no encodings of
characters, and they are what the ranges of second bytes rule out.

## Main statements

- `Multibyte.eq_encoding`, `Multibyte.of_encoding`: several bytes in a row are read as a code point
  exactly if they encode it.
- `decodeUtf8_eq_ok_iff`: bytes are read as a text exactly if they are the encoding of the text.
- `decodeUtf8_fails_iff`: there is a fault exactly if they are no encoding at all.
-/

namespace WasmGauge.Text

/-! ## §1 Leading and continuing bytes -/

/-- The range of the second byte of a character with `n` more bytes behind the leading byte `b`. The
lower bound rules out what has a shorter form, the upper bound surrogates and what is behind the last
plane. -/
def Leads (b n lo hi : Nat) : Prop :=
  (n = 1 ∧ 0xC2 ≤ b ∧ b ≤ 0xDF ∧ lo = 0x80 ∧ hi = 0xBF) ∨
    (n = 2 ∧ 0xE0 ≤ b ∧ b ≤ 0xEF ∧ lo = (if b = 0xE0 then 0xA0 else 0x80) ∧
      hi = (if b = 0xED then 0x9F else 0xBF)) ∨
    (n = 3 ∧ 0xF0 ≤ b ∧ b ≤ 0xF4 ∧ lo = (if b = 0xF0 then 0x90 else 0x80) ∧
      hi = (if b = 0xF4 then 0x8F else 0xBF))

theorem continuationOf_eq_some_iff {b lo hi : UInt8} {n : Nat} :
    continuationOf b = some (n, lo, hi) ↔ Leads b.toNat n lo.toNat hi.toNat := by
  have hb := b.toNat_lt
  unfold continuationOf Leads
  simp only [UInt8.le_iff_toNat_le, ← UInt8.toNat_inj]
  -- one goal for each class of leading bytes, and all are about ranges of numbers
  repeat' split
  all_goals
    simp only [Option.some.injEq, Prod.mk.injEq, ← UInt8.toNat_inj, UInt8.reduceToNat, reduceCtorEq,
      false_iff] at *
    omega

theorem continuation_succ_iff {n seen acc code : Nat} {lo hi : UInt8} {bytes rest : List UInt8} :
    continuation (n + 1) lo hi seen acc bytes = .ok (code, rest) ↔
      ∃ b bytes', bytes = b :: bytes' ∧ lo.toNat ≤ b.toNat ∧ b.toNat ≤ hi.toNat ∧
        continuation n 0x80 0xBF (seen + 1) (acc * 64 + (b.toNat - 0x80)) bytes' =
          .ok (code, rest) := by
  cases bytes with
  | nil => simp [continuation]
  | cons b bytes =>
    have hrange : lo ≤ b ∧ b ≤ hi ↔ lo.toNat ≤ b.toNat ∧ b.toNat ≤ hi.toNat := by
      rw [UInt8.le_iff_toNat_le, UInt8.le_iff_toNat_le]
    rw [continuation]
    constructor
    · intro h
      split at h
      · next hb => exact ⟨b, bytes, rfl, (hrange.1 hb).1, (hrange.1 hb).2, h⟩
      · cases h
    · rintro ⟨b', bytes', heq, hlo, hhi, h⟩
      cases heq
      rw [if_pos (hrange.2 ⟨hlo, hhi⟩)]
      exact h

@[simp] theorem continuation_zero_iff {seen acc code : Nat} {lo hi : UInt8}
    {bytes rest : List UInt8} :
    continuation 0 lo hi seen acc bytes = .ok (code, rest) ↔ acc = code ∧ bytes = rest := by
  simp [continuation]

/-- A byte that continues a character. -/
def Tail (b : UInt8) : Prop := 0x80 ≤ b.toNat ∧ b.toNat ≤ 0xBF

theorem continuation_tail_iff {n seen acc code : Nat} {bytes rest : List UInt8} :
    continuation (n + 1) 0x80 0xBF seen acc bytes = .ok (code, rest) ↔
      ∃ b bytes', bytes = b :: bytes' ∧ Tail b ∧
        continuation n 0x80 0xBF (seen + 1) (acc * 64 + (b.toNat - 0x80)) bytes' =
          .ok (code, rest) := by
  simp only [continuation_succ_iff, Tail, and_assoc]
  rfl

/-! ## §2 One character -/

/-- Several bytes in a row are one character with a certain code point, before some rest. -/
inductive Multibyte : List UInt8 → Nat → List UInt8 → Prop where
  /-- Two bytes. -/
  | two {a b : UInt8} (rest : List UInt8) (ha : 0xC2 ≤ a.toNat ∧ a.toNat ≤ 0xDF) (hb : Tail b) :
    Multibyte (a :: b :: rest) (a.toNat % 32 * 64 + (b.toNat - 0x80)) rest
  /-- Three bytes. -/
  | three {a b c : UInt8} (rest : List UInt8) (ha : 0xE0 ≤ a.toNat ∧ a.toNat ≤ 0xEF)
    (hlo : (if a.toNat = 0xE0 then 0xA0 else 0x80) ≤ b.toNat)
    (hhi : b.toNat ≤ if a.toNat = 0xED then 0x9F else 0xBF) (hc : Tail c) :
    Multibyte (a :: b :: c :: rest)
      ((a.toNat % 16 * 64 + (b.toNat - 0x80)) * 64 + (c.toNat - 0x80)) rest
  /-- Four bytes. -/
  | four {a b c d : UInt8} (rest : List UInt8) (ha : 0xF0 ≤ a.toNat ∧ a.toNat ≤ 0xF4)
    (hlo : (if a.toNat = 0xF0 then 0x90 else 0x80) ≤ b.toNat)
    (hhi : b.toNat ≤ if a.toNat = 0xF4 then 0x8F else 0xBF) (hc : Tail c) (hd : Tail d) :
    Multibyte (a :: b :: c :: d :: rest)
      (((a.toNat % 8 * 64 + (b.toNat - 0x80)) * 64 + (c.toNat - 0x80)) * 64 + (d.toNat - 0x80)) rest

/-- The leading byte says how many bytes follow, and these give the code point. -/
theorem multibyte_cons_iff {a : UInt8} {bytes rest : List UInt8} {code : Nat} :
    Multibyte (a :: bytes) code rest ↔
      ∃ n lo hi, continuationOf a = some (n, lo, hi) ∧
        continuation n lo hi 1 (leadBits a n) bytes = .ok (code, rest) := by
  constructor
  · intro h
    cases h with
    | two rest ha hb =>
      refine ⟨1, 0x80, 0xBF, continuationOf_eq_some_iff.2 (.inl ⟨rfl, ha.1, ha.2, rfl, rfl⟩), ?_⟩
      exact continuation_tail_iff.2 ⟨_, _, rfl, hb, continuation_zero_iff.2 ⟨rfl, rfl⟩⟩
    | three rest ha hlo hhi hc =>
      have hlo' : (if a.toNat = 0xE0 then 0xA0 else 0x80 : UInt8).toNat =
          if a.toNat = 0xE0 then 0xA0 else 0x80 := by split <;> rfl
      have hhi' : (if a.toNat = 0xED then 0x9F else 0xBF : UInt8).toNat =
          if a.toNat = 0xED then 0x9F else 0xBF := by split <;> rfl
      refine ⟨2, _, _, continuationOf_eq_some_iff.2 (.inr (.inl ⟨rfl, ha.1, ha.2, hlo', hhi'⟩)), ?_⟩
      refine continuation_succ_iff.2
        ⟨_, _, rfl, Nat.le_trans (Nat.le_of_eq hlo') hlo, Nat.le_trans hhi (Nat.le_of_eq hhi'.symm), ?_⟩
      exact continuation_tail_iff.2 ⟨_, _, rfl, hc, continuation_zero_iff.2 ⟨rfl, rfl⟩⟩
    | four rest ha hlo hhi hc hd =>
      have hlo' : (if a.toNat = 0xF0 then 0x90 else 0x80 : UInt8).toNat =
          if a.toNat = 0xF0 then 0x90 else 0x80 := by split <;> rfl
      have hhi' : (if a.toNat = 0xF4 then 0x8F else 0xBF : UInt8).toNat =
          if a.toNat = 0xF4 then 0x8F else 0xBF := by split <;> rfl
      refine ⟨3, _, _, continuationOf_eq_some_iff.2 (.inr (.inr ⟨rfl, ha.1, ha.2, hlo', hhi'⟩)), ?_⟩
      refine continuation_succ_iff.2
        ⟨_, _, rfl, Nat.le_trans (Nat.le_of_eq hlo') hlo, Nat.le_trans hhi (Nat.le_of_eq hhi'.symm), ?_⟩
      refine continuation_tail_iff.2 ⟨_, _, rfl, hc, ?_⟩
      exact continuation_tail_iff.2 ⟨_, _, rfl, hd, continuation_zero_iff.2 ⟨rfl, rfl⟩⟩
  · -- the count of further bytes tells the class, and the bytes are taken off one by one
    rintro ⟨n, lo, hi, hlead, hcode⟩
    rcases continuationOf_eq_some_iff.1 hlead with
      ⟨rfl, ha, ha', hlo, hhi⟩ | ⟨rfl, ha, ha', hlo, hhi⟩ | ⟨rfl, ha, ha', hlo, hhi⟩
    · obtain ⟨b, bytes, rfl, hb, hb', hcode⟩ := continuation_succ_iff.1 hcode
      obtain ⟨rfl, rfl⟩ := continuation_zero_iff.1 hcode
      exact .two _ ⟨ha, ha'⟩ ⟨hlo ▸ hb, hhi ▸ hb'⟩
    · obtain ⟨b, bytes, rfl, hb, hb', hcode⟩ := continuation_succ_iff.1 hcode
      obtain ⟨c, bytes, rfl, hc, hcode⟩ := continuation_tail_iff.1 hcode
      obtain ⟨rfl, rfl⟩ := continuation_zero_iff.1 hcode
      exact .three _ ⟨ha, ha'⟩ (hlo ▸ hb) (hhi ▸ hb') hc
    · obtain ⟨b, bytes, rfl, hb, hb', hcode⟩ := continuation_succ_iff.1 hcode
      obtain ⟨c, bytes, rfl, hc, hcode⟩ := continuation_tail_iff.1 hcode
      obtain ⟨d, bytes, rfl, hd, hcode⟩ := continuation_tail_iff.1 hcode
      obtain ⟨rfl, rfl⟩ := continuation_zero_iff.1 hcode
      exact .four _ ⟨ha, ha'⟩ (hlo ▸ hb) (hhi ▸ hb') hc hd

/-! ## §3 Encodings of characters -/

/-- The bytes of a character, by the size of its code point. -/
theorem utf8EncodeChar_ofNat {code : Nat} (h : code.isValidChar) :
    String.utf8EncodeChar (Char.ofNat code) =
      if code ≤ 0x7F then [UInt8.ofNat code]
      else if code ≤ 0x7FF then
        [UInt8.ofNat (code / 64 % 0x20 + 0xC0), UInt8.ofNat (code % 0x40 + 0x80)]
      else if code ≤ 0xFFFF then
        [UInt8.ofNat (code / 4096 % 0x10 + 0xE0), UInt8.ofNat (code / 64 % 0x40 + 0x80),
          UInt8.ofNat (code % 0x40 + 0x80)]
      else
        [UInt8.ofNat (code / 262144 % 0x08 + 0xF0), UInt8.ofNat (code / 4096 % 0x40 + 0x80),
          UInt8.ofNat (code / 64 % 0x40 + 0x80), UInt8.ofNat (code % 0x40 + 0x80)] := by
  have hcode : (Char.ofNat code).val.toNat = code := by
    unfold Char.ofNat
    rw [dif_pos h]
    rfl
  unfold String.utf8EncodeChar
  rw [hcode]

theorem eq_ofNat {b : UInt8} {n : Nat} (h : b.toNat = n) : b = UInt8.ofNat n := by
  rw [← h, UInt8.ofNat_toNat]

/-- What several bytes are read as is a character, and they are its encoding. -/
theorem Multibyte.eq_encoding {bytes rest : List UInt8} {code : Nat} (h : Multibyte bytes code rest) :
    code.isValidChar ∧ bytes = String.utf8EncodeChar (Char.ofNat code) ++ rest := by
  cases h with
  | @two a b _ ha hb =>
    obtain ⟨hb, hb'⟩ := hb
    generalize hcode : a.toNat % 32 * 64 + (b.toNat - 0x80) = code
    have hvalid : code.isValidChar := .inl (by omega)
    refine ⟨hvalid, ?_⟩
    rw [utf8EncodeChar_ofNat hvalid, if_neg (by omega), if_pos (by omega),
      ← eq_ofNat (b := a) (by omega), ← eq_ofNat (b := b) (by omega)]
    rfl
  | @three a b c _ ha hlo hhi hc =>
    obtain ⟨hc, hc'⟩ := hc
    generalize hcode : (a.toNat % 16 * 64 + (b.toNat - 0x80)) * 64 + (c.toNat - 0x80) = code
    have hb : 0x80 ≤ b.toNat ∧ b.toNat ≤ 0xBF := by
      split at hlo <;> split at hhi <;> omega
    -- neither has the code point a shorter form, nor is it a surrogate
    have hlong : 0x7FF < code := by
      split at hlo <;> omega
    have hvalid : code < 0xD800 ∨ 0xDFFF < code ∧ code < 0x110000 := by
      split at hhi <;> omega
    refine ⟨hvalid, ?_⟩
    rw [utf8EncodeChar_ofNat hvalid, if_neg (by omega), if_neg (by omega), if_pos (by omega),
      ← eq_ofNat (b := a) (by omega), ← eq_ofNat (b := b) (by omega), ← eq_ofNat (b := c) (by omega)]
    rfl
  | @four a b c d _ ha hlo hhi hc hd =>
    obtain ⟨hc, hc'⟩ := hc
    obtain ⟨hd, hd'⟩ := hd
    generalize hcode :
      ((a.toNat % 8 * 64 + (b.toNat - 0x80)) * 64 + (c.toNat - 0x80)) * 64 + (d.toNat - 0x80) = code
    have hb : 0x80 ≤ b.toNat ∧ b.toNat ≤ 0xBF := by
      split at hlo <;> split at hhi <;> omega
    -- the code point has no shorter form, and is not behind the last plane
    have hlong : 0xFFFF < code := by
      split at hlo <;> omega
    have hlast : code < 0x110000 := by
      split at hhi <;> omega
    have hvalid : code.isValidChar := .inr ⟨by omega, hlast⟩
    refine ⟨hvalid, ?_⟩
    rw [utf8EncodeChar_ofNat hvalid, if_neg (by omega), if_neg (by omega), if_neg (by omega),
      ← eq_ofNat (b := a) (by omega), ← eq_ofNat (b := b) (by omega), ← eq_ofNat (b := c) (by omega),
      ← eq_ofNat (b := d) (by omega)]
    rfl

/-- The encoding of a character that takes more than one byte is read as this character. -/
theorem Multibyte.of_encoding {code : Nat} (h : 0x7F < code) (hvalid : code.isValidChar)
    (rest : List UInt8) :
    Multibyte (String.utf8EncodeChar (Char.ofNat code) ++ rest) code rest := by
  have hscalar : code < 0xD800 ∨ 0xDFFF < code ∧ code < 0x110000 := hvalid
  have hlow := UInt8.toNat_ofNat_of_lt' (n := code % 0x40 + 0x80) (show _ < 256 by omega)
  have hmiddle := UInt8.toNat_ofNat_of_lt' (n := code / 64 % 0x40 + 0x80) (show _ < 256 by omega)
  have hhigh := UInt8.toNat_ofNat_of_lt' (n := code / 4096 % 0x40 + 0x80) (show _ < 256 by omega)
  rw [utf8EncodeChar_ofNat hvalid, if_neg (by omega)]
  -- by the size of the code point, as many bytes are written; what they hold adds up to it again
  by_cases htwo : code ≤ 0x7FF
  · have ha := UInt8.toNat_ofNat_of_lt' (n := code / 64 % 0x20 + 0xC0) (show _ < 256 by omega)
    rw [if_pos htwo]
    have hread := Multibyte.two rest (a := .ofNat (code / 64 % 0x20 + 0xC0))
      (b := .ofNat (code % 0x40 + 0x80)) (by omega) (by unfold Tail; omega)
    rwa [ha, hlow, show (code / 64 % 0x20 + 0xC0) % 32 * 64 + (code % 0x40 + 0x80 - 0x80) = code by
      omega] at hread
  · rw [if_neg htwo]
    by_cases hthree : code ≤ 0xFFFF
    · have ha := UInt8.toNat_ofNat_of_lt' (n := code / 4096 % 0x10 + 0xE0) (show _ < 256 by omega)
      rw [if_pos hthree]
      have hread := Multibyte.three rest (a := .ofNat (code / 4096 % 0x10 + 0xE0))
        (b := .ofNat (code / 64 % 0x40 + 0x80)) (c := .ofNat (code % 0x40 + 0x80)) (by omega)
        (by rw [ha, hmiddle]; split <;> omega) (by rw [ha, hmiddle]; split <;> omega)
        (by unfold Tail; omega)
      rwa [ha, hmiddle, hlow, show ((code / 4096 % 0x10 + 0xE0) % 16 * 64 +
        (code / 64 % 0x40 + 0x80 - 0x80)) * 64 + (code % 0x40 + 0x80 - 0x80) = code by omega] at hread
    · have ha := UInt8.toNat_ofNat_of_lt' (n := code / 262144 % 0x08 + 0xF0) (show _ < 256 by omega)
      rw [if_neg hthree]
      have hread := Multibyte.four rest (a := .ofNat (code / 262144 % 0x08 + 0xF0))
        (b := .ofNat (code / 4096 % 0x40 + 0x80)) (c := .ofNat (code / 64 % 0x40 + 0x80))
        (d := .ofNat (code % 0x40 + 0x80)) (by omega)
        (by rw [ha, hhigh]; split <;> omega) (by rw [ha, hhigh]; split <;> omega)
        (by unfold Tail; omega) (by unfold Tail; omega)
      rwa [ha, hhigh, hmiddle, hlow, show (((code / 262144 % 0x08 + 0xF0) % 8 * 64 +
        (code / 4096 % 0x40 + 0x80 - 0x80)) * 64 + (code / 64 % 0x40 + 0x80 - 0x80)) * 64 +
          (code % 0x40 + 0x80 - 0x80) = code by omega] at hread

/-! ## §4 Texts -/

/-- One character of a text is read. -/
theorem decodeUtf8From_cons (c : Char) (fuel start : Nat) (rest : List UInt8) :
    ∃ start', decodeUtf8From (fuel + 1) start (String.utf8EncodeChar c ++ rest) =
      (c :: ·) <$> decodeUtf8From fuel start' rest := by
  have hchar : Char.ofNat c.toNat = c := Char.ofNat_toNat c
  have hvalid : c.toNat.isValidChar := c.valid
  -- a character of one byte is told by the byte, and any other one by the byte that leads it
  by_cases hascii : c.toNat ≤ 0x7F
  · have hbyte := UInt8.toNat_ofNat_of_lt' (n := c.toNat) (show _ < 256 by omega)
    have hone : UInt8.ofNat c.toNat < 0x80 := by
      rw [UInt8.lt_iff_toNat_lt, hbyte]
      exact Nat.lt_succ_of_le hascii
    refine ⟨start + 1, ?_⟩
    rw [← hchar, utf8EncodeChar_ofNat hvalid, if_pos hascii, List.singleton_append, decodeUtf8From,
      if_pos hone, hbyte]
  · have hread := Multibyte.of_encoding (Nat.lt_of_not_le hascii) hvalid rest
    rw [hchar] at hread
    obtain ⟨a, bytes, hbytes⟩ :=
      List.exists_cons_of_ne_nil (List.append_ne_nil_of_left_ne_nil String.utf8EncodeChar_ne_nil rest)
    rw [hbytes] at hread ⊢
    obtain ⟨n, lo, hi, hlead, hcode⟩ := multibyte_cons_iff.1 hread
    -- a byte that leads others is no character of its own
    have hmany : ¬ a < 0x80 := by
      rw [UInt8.lt_iff_toNat_lt]
      rcases continuationOf_eq_some_iff.1 hlead with h | h | h
      all_goals
        have : 0xC2 ≤ a.toNat := by omega
        exact Nat.not_lt_of_le (Nat.le_trans (by decide) this)
    refine ⟨start + n + 1, ?_⟩
    rw [decodeUtf8From, if_neg hmany, hlead]
    simp only [hcode, hchar]

/-- What is read first is the first character. -/
theorem decodeUtf8From_eq_ok {fuel start : Nat} {a : UInt8} {bytes : List UInt8} {cs : List Char}
    (h : decodeUtf8From (fuel + 1) start (a :: bytes) = .ok cs) :
    ∃ c cs' rest start', cs = c :: cs' ∧ a :: bytes = String.utf8EncodeChar c ++ rest ∧
      decodeUtf8From fuel start' rest = .ok cs' := by
  -- a character is put in front only of what the rest is read as
  have hmap : ∀ {c : Char} {start' : Nat} {rest : List UInt8},
      (c :: ·) <$> decodeUtf8From fuel start' rest = .ok cs →
        ∃ cs', cs = c :: cs' ∧ decodeUtf8From fuel start' rest = .ok cs' := by
    intro c start' rest h
    cases hrest : decodeUtf8From fuel start' rest with
    | error fault =>
      rw [hrest] at h
      cases h
    | ok cs' =>
      rw [hrest] at h
      exact ⟨cs', (Except.ok.inj h).symm, rfl⟩
  rw [decodeUtf8From] at h
  split at h
  · next hone =>
    obtain ⟨cs', hcs, hrest⟩ := hmap h
    rw [UInt8.lt_iff_toNat_lt] at hone
    have hascii : a.toNat ≤ 0x7F := Nat.le_of_lt_succ hone
    have hvalid : a.toNat.isValidChar := .inl (by omega)
    refine ⟨_, cs', bytes, _, hcs, ?_, hrest⟩
    rw [utf8EncodeChar_ofNat hvalid, if_pos hascii, UInt8.ofNat_toNat]
    rfl
  · split at h
    · cases h
    · next n lo hi hlead =>
      split at h
      · cases h
      · next code rest hcode =>
        obtain ⟨cs', hcs, hrest⟩ := hmap h
        obtain ⟨-, hbytes⟩ := (multibyte_cons_iff.2 ⟨n, lo, hi, hlead, hcode⟩).eq_encoding
        exact ⟨_, cs', rest, _, hcs, hbytes, hrest⟩

/-- The bytes of a text. -/
def encodeUtf8 (cs : List Char) : List UInt8 := cs.flatMap String.utf8EncodeChar

@[simp] theorem encodeUtf8_cons (c : Char) (cs : List Char) :
    encodeUtf8 (c :: cs) = String.utf8EncodeChar c ++ encodeUtf8 cs := List.flatMap_cons

/-- A text is read from its bytes, if there is fuel for each of them. -/
theorem decodeUtf8From_encodeUtf8 (cs : List Char) {fuel : Nat} (start : Nat)
    (hfuel : (encodeUtf8 cs).length ≤ fuel) : decodeUtf8From fuel start (encodeUtf8 cs) = .ok cs := by
  induction cs generalizing fuel start with
  | nil => cases fuel <;> rfl
  | cons c cs ih =>
    -- each character uses up one unit of fuel, and has at least one byte
    have hpos := List.length_pos_iff.2 (String.utf8EncodeChar_ne_nil (c := c))
    rw [encodeUtf8_cons, List.length_append] at hfuel
    obtain ⟨fuel, rfl⟩ := Nat.exists_eq_succ_of_ne_zero (n := fuel) (by omega)
    obtain ⟨start', hread⟩ := decodeUtf8From_cons c fuel start (encodeUtf8 cs)
    rw [encodeUtf8_cons, hread, ih start' (by omega)]
    rfl

/-- What has been read is encoded by the bytes. -/
theorem eq_encodeUtf8_of_decodeUtf8From {fuel start : Nat} {bytes : List UInt8} {cs : List Char}
    (hfuel : bytes.length ≤ fuel) (h : decodeUtf8From fuel start bytes = .ok cs) :
    bytes = encodeUtf8 cs := by
  -- on the fuel, of which one unit is used up by each character
  induction fuel generalizing start bytes cs with
  | zero =>
    obtain rfl := List.eq_nil_of_length_eq_zero (Nat.le_zero.1 hfuel)
    cases h
    rfl
  | succ fuel ih =>
    cases bytes with
    | nil =>
      cases h
      rfl
    | cons a bytes =>
      obtain ⟨c, cs', rest, start', rfl, hbytes, hrest⟩ := decodeUtf8From_eq_ok h
      have hpos := List.length_pos_iff.2 (String.utf8EncodeChar_ne_nil (c := c))
      have hlength := congrArg List.length hbytes
      rw [List.length_append] at hlength
      rw [hbytes, encodeUtf8_cons, ih (by omega) hrest]

/-- Bytes are read as a text exactly if they are its encoding. -/
theorem decodeUtf8_eq_ok_iff {bytes : List UInt8} {cs : List Char} :
    decodeUtf8 bytes = .ok cs ↔ bytes = encodeUtf8 cs := by
  constructor
  · exact eq_encodeUtf8_of_decodeUtf8From (Nat.le_refl _)
  · rintro rfl
    exact decodeUtf8From_encodeUtf8 cs 0 (Nat.le_refl _)

theorem encodeUtf8_inj {cs cs' : List Char} : encodeUtf8 cs = encodeUtf8 cs' ↔ cs = cs' := by
  refine ⟨fun h => ?_, fun h => h ▸ rfl⟩
  have hread := decodeUtf8_eq_ok_iff.2 h
  rw [decodeUtf8_eq_ok_iff.2 rfl] at hread
  exact Except.ok.inj hread

/-- There is a fault in bytes exactly if they are the encoding of no text. -/
theorem decodeUtf8_fails_iff {bytes : List UInt8} :
    (∃ fault, decodeUtf8 bytes = .error fault) ↔ ∀ cs, bytes ≠ encodeUtf8 cs := by
  cases hread : decodeUtf8 bytes with
  | ok cs =>
    have hbytes := decodeUtf8_eq_ok_iff.1 hread
    simpa using ⟨cs, hbytes⟩
  | error fault =>
    refine iff_of_true ⟨fault, rfl⟩ fun cs hbytes => ?_
    rw [decodeUtf8_eq_ok_iff.2 hbytes] at hread
    cases hread

end WasmGauge.Text
