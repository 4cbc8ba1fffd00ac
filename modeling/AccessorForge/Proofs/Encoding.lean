import AccessorForge.Text.Utf8
import Mathlib.Tactic.SplitIfs
/-! Decoding takes back what encoding did: the bytes of a text are read as that text. -/
namespace AccessorForge.Text.Utf8

theorem byteNat {n : Nat} (small : n < 256) : n.toUInt8.toNat = n := by
  rw [UInt8.toNat_ofNat']
  exact Nat.mod_eq_of_lt small

theorem tailNat (bits : Nat) : (0x80 + bits % 64).toUInt8.toNat = 0x80 + bits % 64 := byteNat (by omega)

theorem tailTold (bits : Nat) :
    isTail (0x80 + bits % 64).toUInt8 = true ∧ tailBits (0x80 + bits % 64).toUInt8 = bits % 64 := by
  unfold isTail tailBits
  rw [tailNat]
  refine ⟨?_, by omega⟩
  simp only [Bool.and_eq_true, decide_eq_true_eq]
  omega

/-- A first byte announces its own bits and how many bytes follow, and it admits the byte after it. -/
def Announces (a : UInt8) (bits more next : Nat) : Prop :=
  0x80 ≤ a.toNat ∧ ∃ l, lead? a = some l ∧ l.bits = bits ∧ l.more = more ∧ l.low ≤ next ∧ next ≤ l.high

theorem announcesTwo {n : Nat} (least : 0x80 ≤ n) (most : n < 0x800) :
    Announces (0xc0 + n / 64).toUInt8 (n / 64) 1 (0x80 + n % 64) := by
  have own := byteNat (n := 0xc0 + n / 64) (by omega)
  refine ⟨by omega, ⟨n / 64, 1, 0x80, 0xbf⟩, ?_, rfl, rfl, Nat.le_add_right _ _, by dsimp only; omega⟩
  unfold lead?
  rw [own]
  rw [if_neg (by omega), if_pos (by omega), Nat.add_sub_cancel_left]

/- The byte after the first one is bounded where a shorter spelling or half of a surrogate pair would begin. -/
theorem announcesThree {n : Nat} (least : 0x800 ≤ n) (most : n < 0x10000) (whole : n < 0xd800 ∨ 0xdfff < n) :
    Announces (0xe0 + n / 4096).toUInt8 (n / 4096) 2 (0x80 + n / 64 % 64) := by
  have own := byteNat (n := 0xe0 + n / 4096) (by omega)
  refine ⟨by omega, ?_⟩
  unfold lead?
  rw [own]
  dsimp only
  rw [if_neg (by omega), if_neg (by omega)]
  split_ifs with first pair last
  · exact ⟨_, rfl, by dsimp only; omega, rfl, by dsimp only; omega, by dsimp only; omega⟩
  · exact ⟨_, rfl, by dsimp only; omega, rfl, by dsimp only; omega, by dsimp only; omega⟩
  · exact ⟨_, rfl, by dsimp only; omega, rfl, by dsimp only; omega, by dsimp only; omega⟩
  all_goals omega

theorem announcesFour {n : Nat} (least : 0x10000 ≤ n) (most : n < 0x110000) :
    Announces (0xf0 + n / 262144).toUInt8 (n / 262144) 3 (0x80 + n / 4096 % 64) := by
  have own := byteNat (n := 0xf0 + n / 262144) (by omega)
  refine ⟨by omega, ?_⟩
  unfold lead?
  rw [own]
  dsimp only
  rw [if_neg (by omega), if_neg (by omega), if_neg (by omega), if_neg (by omega), if_neg (by omega)]
  split_ifs with first middle last
  · exact ⟨_, rfl, by dsimp only; omega, rfl, by dsimp only; omega, by dsimp only; omega⟩
  · exact ⟨_, rfl, by dsimp only; omega, rfl, by dsimp only; omega, by dsimp only; omega⟩
  · exact ⟨_, rfl, by dsimp only; omega, rfl, by dsimp only; omega, by dsimp only; omega⟩
  · omega

theorem decodeTwo {a b : UInt8} {bits next : Nat} (announced : Announces a bits 1 b.toNat) (position : Nat)
    (tail : tailBits b = next) (rest : List UInt8) :
    decodeFrom position (a :: b :: rest) = (decodeFrom (position + 2) rest).cons (bits * 64 + next) := by
  obtain ⟨long, l, lead, own, more, low, high⟩ := announced
  have within : ¬ (decide (b.toNat < l.low) || decide (l.high < b.toNat)) = true := by simp; omega
  rw [decodeFrom]
  simp only [lead, more, if_true]
  rw [if_neg (by omega), if_neg within, own, tail]

theorem decodeThree {a b c : UInt8} {bits next last : Nat} (announced : Announces a bits 2 b.toNat) (position : Nat)
    (tail : tailBits b = next) (isLast : isTail c = true) (lastTail : tailBits c = last) (rest : List UInt8) :
    decodeFrom position (a :: b :: c :: rest) =
      (decodeFrom (position + 3) rest).cons ((bits * 64 + next) * 64 + last) := by
  obtain ⟨long, l, lead, own, more, low, high⟩ := announced
  have within : ¬ (decide (b.toNat < l.low) || decide (l.high < b.toNat)) = true := by simp; omega
  rw [decodeFrom]
  simp only [lead, more, isLast, if_true]
  rw [if_neg (by omega), if_neg within, if_neg (by omega), if_neg (by simp), own, tail, lastTail]

theorem decodeFour {a b c d : UInt8} {bits next third last : Nat} (announced : Announces a bits 3 b.toNat)
    (position : Nat) (tail : tailBits b = next) (isThird : isTail c = true) (thirdTail : tailBits c = third)
    (isLast : isTail d = true) (lastTail : tailBits d = last) (rest : List UInt8) :
    decodeFrom position (a :: b :: c :: d :: rest) =
      (decodeFrom (position + 4) rest).cons (((bits * 64 + next) * 64 + third) * 64 + last) := by
  obtain ⟨long, l, lead, own, more, low, high⟩ := announced
  have within : ¬ (decide (b.toNat < l.low) || decide (l.high < b.toNat)) = true := by simp; omega
  rw [decodeFrom]
  simp only [lead, more, isThird, isLast]
  rw [if_neg (by omega), if_neg within, if_neg (by omega), if_neg (by simp), if_neg (by omega), if_neg (by simp), own,
    tail, thirdTail, lastTail]

theorem decodeEncodedChar (position : Nat) (c : Char) (rest : List UInt8) :
    decodeFrom position (encodeChar c ++ rest) =
      (decodeFrom (position + (encodeChar c).length) rest).cons c.toNat := by
  have valid : c.toNat < 0xd800 ∨ 0xdfff < c.toNat ∧ c.toNat < 0x110000 := c.valid
  unfold encodeChar
  generalize c.toNat = n at valid
  dsimp only
  split_ifs with one two three
  · have own := byteNat (n := n) (by omega)
    rw [List.singleton_append]
    rw [decodeFrom]
    simp only [own]
    rw [if_pos one]
    rfl
  · have announced := announcesTwo (n := n) (by omega) two
    rw [← tailNat] at announced
    refine (decodeTwo announced position (tailTold n).2 rest).trans ?_
    congr 1
    omega
  · have announced := announcesThree (n := n) (by omega) three (valid.imp_right And.left)
    rw [← tailNat] at announced
    refine (decodeThree announced position (tailTold _).2 (tailTold n).1 (tailTold n).2 rest).trans ?_
    congr 1
    omega
  · have announced := announcesFour (n := n) (by omega) (by omega)
    rw [← tailNat] at announced
    refine (decodeFour announced position (tailTold _).2 (tailTold (n / 64)).1 (tailTold _).2 (tailTold n).1
      (tailTold n).2 rest).trans ?_
    congr 1
    omega

theorem decodeEncoded (position : Nat) (cs : List Char) : decodeFrom position (encode cs) = ⟨cs, none⟩ := by
  induction cs generalizing position with
  | nil => rfl
  | cons c rest ih =>
    have whole : encode (c :: rest) = encodeChar c ++ encode rest := List.flatMap_cons
    rw [whole, decodeEncodedChar, ih, Decoded.cons, Char.ofNat_toNat]

theorem encodedDecodes (cs : List Char) : decode (encode cs) = .ok cs := by
  unfold decode
  rw [decodeEncoded]

end AccessorForge.Text.Utf8
