import Mathlib.Data.Nat.Digits.Defs
import Mathlib.Data.Option.Basic
import XmppBosh.Text.Base64

/-!
# Base64 is read back

* `decodeChars?_one`, `decodeChars?_two`, `decodeChars?_three` : what a group of four stands for;
* `decode?_encode` : what is written is read back;
* `forall_mem_encodeChars` : the characters that are written;
* `decode?_eq_some_iff` : nothing else is read;
* `Spells`, `spells_iff` : what is written, said in terms of bits.
-/

namespace XmppBosh.Text.Base64

/-! ## Groups -/

theorem value?_digit : ∀ n < 64, value? (digit n) = some n := by decide

theorem digit_ne_pad : ∀ n < 64, digit n ≠ '=' := by decide

variable {x y z w : Nat}

theorem decodeChars?_one (hx : x < 64) (hy : y < 64) (hunused : y % 16 = 0) :
    decodeChars? [digit x, digit y, '=', '='] = some [UInt8.ofNat (x * 4 + y / 16)] := by
  have hguard : (guard (y % 16 = 0) : Option Unit) = some () := if_pos hunused
  rw [decodeChars?, value?_digit x hx, value?_digit y hy]
  show (guard (y % 16 = 0) >>= fun _ => some [UInt8.ofNat (x * 4 + y / 16)]) = _
  rw [hguard]
  rfl

theorem decodeChars?_two (hx : x < 64) (hy : y < 64) (hz : z < 64) (hunused : z % 4 = 0) :
    decodeChars? [digit x, digit y, digit z, '='] =
      some [UInt8.ofNat (x * 4 + y / 16), UInt8.ofNat (y % 16 * 16 + z / 4)] := by
  have hguard : (guard (z % 4 = 0) : Option Unit) = some () := if_pos hunused
  rw [decodeChars?.eq_3 _ _ _ fun h => absurd h (digit_ne_pad z hz), value?_digit x hx,
    value?_digit y hy, value?_digit z hz]
  show (guard (z % 4 = 0) >>= fun _ =>
    some [UInt8.ofNat (x * 4 + y / 16), UInt8.ofNat (y % 16 * 16 + z / 4)]) = _
  rw [hguard]
  rfl

theorem decodeChars?_three (hx : x < 64) (hy : y < 64) (hz : z < 64) (hw : w < 64) (cs : List Char) :
    decodeChars? (digit x :: digit y :: digit z :: digit w :: cs) =
      (decodeChars? cs).map fun bytes => UInt8.ofNat (x * 4 + y / 16) ::
        UInt8.ofNat (y % 16 * 16 + z / 4) :: UInt8.ofNat (z % 4 * 64 + w) :: bytes := by
  rw [decodeChars?.eq_4 _ _ _ _ _ (fun h => absurd h (digit_ne_pad z hz))
      fun h => absurd h (digit_ne_pad w hw),
    value?_digit x hx, value?_digit y hy, value?_digit z hz, value?_digit w hw]
  cases decodeChars? cs <;> rfl

/-! ## Whole texts -/

theorem decodeChars?_encodeChars (bytes : Bytes) : decodeChars? (encodeChars bytes) = some bytes := by
  fun_induction encodeChars bytes with
  | case1 => rfl
  | case2 a =>
    have ha := a.toNat_lt
    have hfirst : a.toNat / 4 * 4 + a.toNat % 4 * 16 / 16 = a.toNat := by omega
    rw [decodeChars?_one (by omega) (by omega) (by omega), hfirst, UInt8.ofNat_toNat]
  | case3 a b =>
    have ha := a.toNat_lt
    have hb := b.toNat_lt
    have hfirst : a.toNat / 4 * 4 + (a.toNat % 4 * 16 + b.toNat / 16) / 16 = a.toNat := by omega
    have hsecond : (a.toNat % 4 * 16 + b.toNat / 16) % 16 * 16 + b.toNat % 16 * 4 / 4 = b.toNat := by
      omega
    rw [decodeChars?_two (by omega) (by omega) (by omega) (by omega), hfirst, hsecond,
      UInt8.ofNat_toNat, UInt8.ofNat_toNat]
  | case4 a b c rest ih =>
    have ha := a.toNat_lt
    have hb := b.toNat_lt
    have hc := c.toNat_lt
    have hfirst : a.toNat / 4 * 4 + (a.toNat % 4 * 16 + b.toNat / 16) / 16 = a.toNat := by omega
    have hsecond : (a.toNat % 4 * 16 + b.toNat / 16) % 16 * 16 +
        (b.toNat % 16 * 4 + c.toNat / 64) / 4 = b.toNat := by omega
    have hthird : (b.toNat % 16 * 4 + c.toNat / 64) % 4 * 64 + c.toNat % 64 = c.toNat := by omega
    rw [decodeChars?_three (by omega) (by omega) (by omega) (by omega), ih, Option.map_some, hfirst,
      hsecond, hthird, UInt8.ofNat_toNat, UInt8.ofNat_toNat, UInt8.ofNat_toNat]

/-- **What is written is read back.** -/
theorem decode?_encode (bytes : Bytes) : decode? (encode bytes) = some bytes := by
  rw [decode?, encode, String.toList_ofList, decodeChars?_encodeChars]

/-- What holds of the digits and of the filling holds of every character that is written. -/
theorem forall_mem_encodeChars {p : Char → Prop} (hdigit : ∀ n < 64, p (digit n)) (hpad : p '=')
    (bytes : Bytes) : ∀ c ∈ encodeChars bytes, p c := by
  fun_induction encodeChars bytes with
  | case1 => nofun
  | case2 a =>
    have ha := a.toNat_lt
    simp only [List.forall_mem_cons]
    exact ⟨hdigit _ (by omega), hdigit _ (by omega), hpad, hpad, nofun⟩
  | case3 a b =>
    have ha := a.toNat_lt
    have hb := b.toNat_lt
    simp only [List.forall_mem_cons]
    exact ⟨hdigit _ (by omega), hdigit _ (by omega), hdigit _ (by omega), hpad, nofun⟩
  | case4 a b c rest ih =>
    have ha := a.toNat_lt
    have hb := b.toNat_lt
    have hc := c.toNat_lt
    simp only [List.forall_mem_cons]
    exact ⟨hdigit _ (by omega), hdigit _ (by omega), hdigit _ (by omega), hdigit _ (by omega), ih⟩

/-! ## Nothing else -/

/-- A character of the alphabet is the digit of its number. -/
theorem eq_digit {c : Char} {n : Nat} (h : value? c = some n) : n < 64 ∧ c = digit n := by
  have hle : ∀ {a b : Char}, a ≤ b ↔ a.toNat ≤ b.toNat := Iff.rfl
  have hback : Char.ofNat c.toNat = c := Char.ofNat_toNat c
  unfold value? at h
  simp only [hle, Char.reduceToNat] at h
  split at h
  · next hupper =>
    obtain rfl := Option.some.inj h
    have hn : 65 + (c.toNat - 65) = c.toNat := by omega
    exact ⟨by omega, by rw [digit, if_pos (by omega), hn, hback]⟩
  · split at h
    · next hlower =>
      obtain rfl := Option.some.inj h
      have hn : 71 + (c.toNat - 71) = c.toNat := by omega
      exact ⟨by omega, by rw [digit, if_neg (by omega), if_pos (by omega), hn, hback]⟩
    · split at h
      · next hdecimal =>
        obtain rfl := Option.some.inj h
        have hn : c.toNat + 4 - 4 = c.toNat := by omega
        exact ⟨by omega, by rw [digit, if_neg (by omega), if_neg (by omega), if_pos (by omega), hn, hback]⟩
      · split at h
        · next hplus =>
          obtain rfl := Option.some.inj h
          exact ⟨by decide, hplus⟩
        · split at h
          · next hslash =>
            obtain rfl := Option.some.inj h
            exact ⟨by decide, hslash⟩
          · cases h

theorem of_guard {p : Prop} [Decidable p] {f : Unit → Option Bytes} {bytes : Bytes}
    (h : (guard p >>= f) = some bytes) : p ∧ f () = some bytes := by
  by_cases hp : p
  · have hguard : (guard p : Option Unit) = some () := if_pos hp
    rw [hguard] at h
    exact ⟨hp, h⟩
  · have hguard : (guard p : Option Unit) = none := if_neg hp
    rw [hguard] at h
    cases h

/-- A run of characters that is read is what is written for its bytes. -/
theorem eq_encodeChars {cs : List Char} {bytes : Bytes} (h : decodeChars? cs = some bytes) :
    cs = encodeChars bytes := by
  have htoNat : ∀ {n : Nat}, n < 256 → (UInt8.ofNat n).toNat = n := fun hn => UInt8.toNat_ofNat_of_lt' hn
  -- The bytes of a group are cut into its numbers again; the numbers are below 64, and unused bits are zero.
  fun_induction decodeChars? cs generalizing bytes with
  | case1 =>
    obtain rfl := Option.some.inj h
    rfl
  | case2 a b =>
    obtain ⟨x, hx, h⟩ := Option.bind_eq_some_iff.1 h
    obtain ⟨y, hy, h⟩ := Option.bind_eq_some_iff.1 h
    obtain ⟨hunused, h⟩ := of_guard h
    obtain rfl := Option.some.inj h
    obtain ⟨hx, rfl⟩ := eq_digit hx
    obtain ⟨hy, rfl⟩ := eq_digit hy
    have hdx : (x * 4 + y / 16) / 4 = x := by omega
    have hdy : (x * 4 + y / 16) % 4 * 16 = y := by omega
    rw [encodeChars, htoNat (by omega), hdx, hdy]
  | case3 a b c =>
    obtain ⟨x, hx, h⟩ := Option.bind_eq_some_iff.1 h
    obtain ⟨y, hy, h⟩ := Option.bind_eq_some_iff.1 h
    obtain ⟨z, hz, h⟩ := Option.bind_eq_some_iff.1 h
    obtain ⟨hunused, h⟩ := of_guard h
    obtain rfl := Option.some.inj h
    obtain ⟨hx, rfl⟩ := eq_digit hx
    obtain ⟨hy, rfl⟩ := eq_digit hy
    obtain ⟨hz, rfl⟩ := eq_digit hz
    have hdx : (x * 4 + y / 16) / 4 = x := by omega
    have hdy : (x * 4 + y / 16) % 4 * 16 + (y % 16 * 16 + z / 4) / 16 = y := by omega
    have hdz : (y % 16 * 16 + z / 4) % 16 * 4 = z := by omega
    rw [encodeChars, htoNat (by omega), htoNat (by omega), hdx, hdy, hdz]
  | case4 a b c d rest _ _ ih =>
    obtain ⟨x, hx, h⟩ := Option.bind_eq_some_iff.1 h
    obtain ⟨y, hy, h⟩ := Option.bind_eq_some_iff.1 h
    obtain ⟨z, hz, h⟩ := Option.bind_eq_some_iff.1 h
    obtain ⟨w, hw, h⟩ := Option.bind_eq_some_iff.1 h
    obtain ⟨bytes', hrest, h⟩ := Option.bind_eq_some_iff.1 h
    obtain rfl := Option.some.inj h
    obtain ⟨hx, rfl⟩ := eq_digit hx
    obtain ⟨hy, rfl⟩ := eq_digit hy
    obtain ⟨hz, rfl⟩ := eq_digit hz
    obtain ⟨hw, rfl⟩ := eq_digit hw
    have hdx : (x * 4 + y / 16) / 4 = x := by omega
    have hdy : (x * 4 + y / 16) % 4 * 16 + (y % 16 * 16 + z / 4) / 16 = y := by omega
    have hdz : (y % 16 * 16 + z / 4) % 16 * 4 + (z % 4 * 64 + w) / 64 = z := by omega
    have hdw : (z % 4 * 64 + w) % 64 = w := by omega
    rw [encodeChars, htoNat (by omega), htoNat (by omega), htoNat (by omega), hdx, hdy, hdz, hdw, ← ih hrest]
  | case5 => cases h

/-- **Nothing else is read** than what is written. -/
theorem decode?_eq_some_iff {text : String} {bytes : Bytes} : decode? text = some bytes ↔ text = encode bytes := by
  constructor
  · intro h
    rw [encode, ← eq_encodeChars h, String.ofList_toList]
  · rintro rfl
    exact decode?_encode bytes

/-! ## Six bits at a time -/

/-- The alphabet, in the order of the numbers that its characters stand for. -/
def alphabet : List Char :=
  "ABCDEFGHIJKLMNOPQRSTUVWXYZabcdefghijklmnopqrstuvwxyz0123456789+/".toList

/-- The number that digits make of the one that stands before them, the highest digit first. -/
def valueFrom (base start : Nat) (digits : List Nat) : Nat := digits.foldl (fun n d => n * base + d) start

/-- Bytes cut into numbers of six bits each, four for a group of three. For each byte that the last group lacks there
is one number less, and two zero bits fill up what is left; so it is whatever bits stand before. -/
structure Cut (bytes : Bytes) (numbers : List Nat) (lacking : Nat) : Prop where
  lacking_lt : lacking < 3
  whole : (bytes.length + lacking) % 3 = 0
  length : numbers.length + lacking = (bytes.length + lacking) / 3 * 4
  lt : ∀ n ∈ numbers, n < 64
  bits : ∀ start, valueFrom 64 start numbers = valueFrom 256 start (bytes.map UInt8.toNat) * 4 ^ lacking

/-- A text spells bytes: it has a character of the alphabet for every six of their bits, and an equals sign for each
byte that the last group of three lacks. -/
def Spells (text : String) (bytes : Bytes) : Prop :=
  ∃ numbers lacking, Cut bytes numbers lacking ∧
    text.toList = numbers.map (alphabet.getD · '=') ++ List.replicate lacking '='

theorem getD_alphabet : ∀ n < 64, alphabet.getD n '=' = digit n := by decide

theorem map_getD_alphabet {numbers : List Nat} (h : ∀ n ∈ numbers, n < 64) :
    numbers.map (alphabet.getD · '=') = numbers.map digit :=
  List.map_congr_left fun n hn => getD_alphabet n (h n hn)

/-- The characters of a byte string are those of the numbers that it is cut into. -/
theorem exists_cut (bytes : Bytes) : ∃ numbers lacking, Cut bytes numbers lacking ∧
    encodeChars bytes = numbers.map digit ++ List.replicate lacking '=' := by
  fun_induction encodeChars bytes with
  | case1 => exact ⟨[], 0, ⟨by decide, rfl, rfl, nofun, fun _ => (Nat.mul_one _).symm⟩, rfl⟩
  | case2 a =>
    have ha := a.toNat_lt
    refine ⟨[a.toNat / 4, a.toNat % 4 * 16], 2, ⟨by decide, by simp, by simp, ?_, fun start => ?_⟩, rfl⟩
    · simp only [List.forall_mem_cons]
      exact ⟨by omega, by omega, nofun⟩
    · simp only [valueFrom, List.foldl_cons, List.foldl_nil, List.map_cons, List.map_nil]
      omega
  | case3 a b =>
    have ha := a.toNat_lt
    have hb := b.toNat_lt
    refine ⟨[a.toNat / 4, a.toNat % 4 * 16 + b.toNat / 16, b.toNat % 16 * 4], 1,
      ⟨by decide, by simp, by simp, ?_, fun start => ?_⟩, rfl⟩
    · simp only [List.forall_mem_cons]
      exact ⟨by omega, by omega, by omega, nofun⟩
    · simp only [valueFrom, List.foldl_cons, List.foldl_nil, List.map_cons, List.map_nil]
      omega
  | case4 a b c rest ih =>
    have ha := a.toNat_lt
    have hb := b.toNat_lt
    have hc := c.toNat_lt
    obtain ⟨numbers, lacking, hcut, hchars⟩ := ih
    have hwhole := hcut.whole
    have hlength := hcut.length
    refine ⟨a.toNat / 4 :: (a.toNat % 4 * 16 + b.toNat / 16) :: (b.toNat % 16 * 4 + c.toNat / 64) ::
      c.toNat % 64 :: numbers, lacking, ⟨hcut.lacking_lt, ?_, ?_, ?_, fun start => ?_⟩, ?_⟩
    · simp only [List.length_cons]
      omega
    · simp only [List.length_cons]
      omega
    · simp only [List.forall_mem_cons]
      exact ⟨by omega, by omega, by omega, by omega, hcut.lt⟩
    · -- The four numbers make the same of what stands before them as the three bytes.
      have hgroup : (((start * 64 + a.toNat / 4) * 64 + (a.toNat % 4 * 16 + b.toNat / 16)) * 64 +
          (b.toNat % 16 * 4 + c.toNat / 64)) * 64 + c.toNat % 64 =
          ((start * 256 + a.toNat) * 256 + b.toNat) * 256 + c.toNat := by omega
      simp only [valueFrom, List.foldl_cons, List.map_cons, hgroup]
      exact hcut.bits _
    · rw [hchars]
      rfl

/-- Numbers of one length are determined by what they stand for. -/
theorem eq_of_valueFrom_eq {base : Nat} (hbase : 1 < base) {xs ys : List Nat} (hlength : xs.length = ys.length)
    (hx : ∀ n ∈ xs, n < base) (hy : ∀ n ∈ ys, n < base) (h : valueFrom base 0 xs = valueFrom base 0 ys) :
    xs = ys := by
  have hvalue (ds : List Nat) : valueFrom base 0 ds = Nat.ofDigits base ds.reverse := by
    rw [Nat.ofDigits_eq_foldr, List.foldr_reverse, valueFrom]
    congr 1
    funext n d
    rw [Nat.cast_id]
    ring
  rw [hvalue, hvalue] at h
  apply List.reverse_inj.1
  exact Nat.ofDigits_inj_of_len_eq hbase (by simpa using hlength) (by simpa using hx) (by simpa using hy) h

/-- There is one way to cut bytes. -/
theorem Cut.unique {bytes : Bytes} {numbers numbers' : List Nat} {lacking lacking' : Nat}
    (h : Cut bytes numbers lacking) (h' : Cut bytes numbers' lacking') : numbers = numbers' ∧ lacking = lacking' := by
  obtain rfl : lacking = lacking' := by
    -- Both are below three and fill up the same number of bytes to a multiple of it.
    have hlt := h.lacking_lt
    have hlt' := h'.lacking_lt
    have hwhole := h.whole
    have hwhole' := h'.whole
    omega
  have hlength : numbers.length = numbers'.length := Nat.add_right_cancel (h.length.trans h'.length.symm)
  exact ⟨eq_of_valueFrom_eq (by decide) hlength h.lt h'.lt ((h.bits 0).trans (h'.bits 0).symm), rfl⟩

/-- **What is written**: the only text that spells the bytes. -/
theorem spells_iff {text : String} {bytes : Bytes} : Spells text bytes ↔ text = encode bytes := by
  obtain ⟨numbers, lacking, hcut, hchars⟩ := exists_cut bytes
  have hspells : (encode bytes).toList = numbers.map (alphabet.getD · '=') ++ List.replicate lacking '=' := by
    rw [encode, String.toList_ofList, hchars, map_getD_alphabet hcut.lt]
  constructor
  · rintro ⟨numbers', lacking', hcut', htext⟩
    obtain ⟨rfl, rfl⟩ := hcut'.unique hcut
    rw [← String.toList_inj, htext, hspells]
  · rintro rfl
    exact ⟨numbers, lacking, hcut, hspells⟩

end XmppBosh.Text.Base64
