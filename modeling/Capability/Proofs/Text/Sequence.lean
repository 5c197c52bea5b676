import Capability.Text.Utf8
import Mathlib.Tactic.SplitIfs

/-!
# Well-formed byte sequences

The sequence of a character is what the standard encoding writes for it.  Reading
does not look such sequences up: it takes the role of the first byte and the bounds
on the second from a table, and collects bits.  The two agree.  A byte opens a
sequence exactly if some character's sequence of several bytes begins with it, and
what may follow is exactly what completes the sequence of a character.

The table excludes by bounds on one byte what the encoding never writes: a number
that fewer bytes would hold, a number between the planes that stands for half a
character, and a number that is too great.
-/

namespace Capability
namespace Text

/-! ## The first byte and the bounds on the second -/

/-- The role of the first byte of a sequence, by its bits.  What bounds the second byte bounds the
bits of both: fewer bytes do not hold them, and they begin no surrogate and nothing too great. -/
inductive Opening (first : UInt8) : Lead → Prop where
  | alone : first.toNat < 0x80 → Opening first (.character (Char.ofNat first.toNat))
  | two {value : Nat} : first.toNat = 0xC0 + value → 2 ≤ value → value < 0x20 →
      Opening first (.opens ⟨value, 1, 0x80, 0xBF⟩)
  | three {value : Nat} {low high : UInt8} : first.toNat = 0xE0 + value → value < 0x10 →
      (∀ second : UInt8, low ≤ second ∧ second ≤ high ↔ ∃ bits < 0x40,
        second.toNat = 0x80 + bits ∧ 0x20 ≤ value * 64 + bits ∧
          (value * 64 + bits < 0x360 ∨ 0x380 ≤ value * 64 + bits)) →
      Opening first (.opens ⟨value, 2, low, high⟩)
  | four {value : Nat} {low high : UInt8} : first.toNat = 0xF0 + value → value < 5 →
      (∀ second : UInt8, low ≤ second ∧ second ≤ high ↔ ∃ bits < 0x40,
        second.toNat = 0x80 + bits ∧ 0x10 ≤ value * 64 + bits ∧ value * 64 + bits < 0x110) →
      Opening first (.opens ⟨value, 3, low, high⟩)
  | none : (0x80 ≤ first.toNat ∧ first.toNat < 0xC2) ∨ 0xF5 ≤ first.toNat → Opening first .invalid

/-- Bounds on a byte are bounds on the bits behind its mark. -/
theorem bounded_iff {low high : UInt8} {P : Nat → Prop}
    (fits : ∀ bits, (bits < 0x40 ∧ P bits) ↔ low.toNat ≤ 0x80 + bits ∧ 0x80 + bits ≤ high.toNat)
    (marked : 0x80 ≤ low.toNat) (second : UInt8) :
    low ≤ second ∧ second ≤ high ↔ ∃ bits < 0x40, second.toNat = 0x80 + bits ∧ P bits := by
  rw [UInt8.le_iff_toNat_le, UInt8.le_iff_toNat_le]
  constructor
  · rintro ⟨above, below⟩
    have spelled : second.toNat = 0x80 + (second.toNat - 0x80) := by omega
    have inside := (fits (second.toNat - 0x80)).mpr (by omega)
    exact ⟨_, inside.1, spelled, inside.2⟩
  · rintro ⟨bits, small, spelled, holds⟩
    rw [spelled]
    exact (fits bits).mp ⟨small, holds⟩

theorem opening_of (first : UInt8) : Opening first (Lead.of first) := by
  have bound := first.toNat_lt
  unfold Lead.of
  split_ifs with ascii early two e0 ed three f0 four f4 <;>
    simp only [UInt8.lt_iff_toNat_lt, ← UInt8.toNat_inj, UInt8.reduceToNat] at *
  · exact .alone ascii
  · exact .none (by omega)
  · exact .two (by omega) (by omega) (by omega)
  · refine .three (by omega) (by omega) (bounded_iff (fun bits => ?_) (by decide))
    simp only [UInt8.reduceToNat]
    omega
  · refine .three (by omega) (by omega) (bounded_iff (fun bits => ?_) (by decide))
    simp only [UInt8.reduceToNat]
    omega
  · refine .three (by omega) (by omega) (bounded_iff (fun bits => ?_) (by decide))
    simp only [UInt8.reduceToNat]
    omega
  · refine .four (by omega) (by omega) (bounded_iff (fun bits => ?_) (by decide))
    simp only [UInt8.reduceToNat]
    omega
  · refine .four (by omega) (by omega) (bounded_iff (fun bits => ?_) (by decide))
    simp only [UInt8.reduceToNat]
    omega
  · refine .four (by omega) (by omega) (bounded_iff (fun bits => ?_) (by decide))
    simp only [UInt8.reduceToNat]
    omega
  · exact .none (by omega)

/-! ## Sequences of several bytes -/

/-- What is pending after one more byte that is not the last. -/
def Pending.push (pending : Pending) (byte : UInt8) : Pending :=
  ⟨pending.extend byte, pending.missing - 1, 0x80, 0xBF⟩

/-- Bytes complete a pending sequence to the sequence of a character. -/
def Completes (pending : Pending) : List UInt8 → Char → Prop
  | [], _ => False
  | byte :: more, c =>
    pending.accepts byte = true ∧
      if pending.missing ≤ 1 then more = [] ∧ c = Char.ofNat (pending.extend byte)
      else Completes (pending.push byte) more c

theorem accepts_iff (pending : Pending) (byte : UInt8) :
    pending.accepts byte = true ↔ pending.low ≤ byte ∧ byte ≤ pending.high := by
  rw [Pending.accepts, Bool.and_eq_true, decide_eq_true_eq, decide_eq_true_eq]

/-- A byte in the middle or at the end of a sequence adds six bits. -/
theorem inner_iff (byte : UInt8) :
    0x80 ≤ byte ∧ byte ≤ 0xBF ↔ ∃ bits < 0x40, byte.toNat = 0x80 + bits := by
  have bounded : 0x80 ≤ byte ∧ byte ≤ 0xBF ↔
      ∃ bits < 0x40, byte.toNat = 0x80 + bits ∧ True := by
    refine bounded_iff (P := fun _ => True) (fun bits => ?_) (by decide) byte
    simp only [UInt8.reduceToNat, and_true]
    omega
  simpa only [and_true] using bounded

theorem extend_of_bits {byte : UInt8} {bits : Nat} (spelled : byte.toNat = 0x80 + bits)
    (pending : Pending) : pending.extend byte = pending.value * 64 + bits := by
  unfold Pending.extend
  omega

/-- The last byte of a sequence settles its character. -/
theorem completes_last {value : Nat} {low high : UInt8} {more : List UInt8} {c : Char} :
    Completes ⟨value, 1, low, high⟩ more c ↔
      ∃ byte, more = [byte] ∧ (low ≤ byte ∧ byte ≤ high) ∧
        c = Char.ofNat ((⟨value, 1, low, high⟩ : Pending).extend byte) := by
  cases more with
  | nil => exact ⟨False.elim, fun ⟨_, empty, _⟩ => nomatch empty⟩
  | cons byte more =>
      rw [Completes, if_pos (Nat.le_refl 1), accepts_iff]
      constructor
      · rintro ⟨accepted, rfl, isCharacter⟩
        exact ⟨byte, rfl, accepted, isCharacter⟩
      · rintro ⟨_, ⟨⟩, accepted, isCharacter⟩
        exact ⟨accepted, rfl, isCharacter⟩

/-- Any other byte leaves fewer to come. -/
theorem completes_inner {value missing : Nat} {low high : UInt8} {more : List UInt8} {c : Char} :
    Completes ⟨value, missing + 2, low, high⟩ more c ↔
      ∃ byte rest, more = byte :: rest ∧ (low ≤ byte ∧ byte ≤ high) ∧
        Completes ((⟨value, missing + 2, low, high⟩ : Pending).push byte) rest c := by
  cases more with
  | nil => exact ⟨False.elim, fun ⟨_, _, empty, _⟩ => nomatch empty⟩
  | cons byte more =>
      rw [Completes, if_neg (by simp only; omega), accepts_iff]
      constructor
      · rintro ⟨accepted, completes⟩
        exact ⟨byte, more, rfl, accepted, completes⟩
      · rintro ⟨_, _, ⟨⟩, accepted, completes⟩
        exact ⟨accepted, completes⟩

/-! ## The standard encoding by bits -/

/-- A first byte and the bytes behind it spell a number.  As many bytes are used as the
number needs, and no number is spelled that stands for no character. -/
inductive Spells (first : UInt8) : List UInt8 → Nat → Prop where
  | one : first.toNat < 0x80 → Spells first [] first.toNat
  | two {second : UInt8} {high low : Nat} :
      first.toNat = 0xC0 + high → 2 ≤ high → high < 0x20 →
      second.toNat = 0x80 + low → low < 0x40 → Spells first [second] (high * 64 + low)
  | three {second third : UInt8} {high middle low : Nat} :
      first.toNat = 0xE0 + high → high < 0x10 →
      second.toNat = 0x80 + middle → middle < 0x40 → 0x20 ≤ high * 64 + middle →
      (high * 64 + middle < 0x360 ∨ 0x380 ≤ high * 64 + middle) →
      third.toNat = 0x80 + low → low < 0x40 →
      Spells first [second, third] ((high * 64 + middle) * 64 + low)
  | four {second third fourth : UInt8} {high upper middle low : Nat} :
      first.toNat = 0xF0 + high → high < 5 →
      second.toNat = 0x80 + upper → upper < 0x40 → 0x10 ≤ high * 64 + upper →
      high * 64 + upper < 0x110 →
      third.toNat = 0x80 + middle → middle < 0x40 → fourth.toNat = 0x80 + low → low < 0x40 →
      Spells first [second, third, fourth] (((high * 64 + upper) * 64 + middle) * 64 + low)

namespace Spells

variable {first : UInt8} {more : List UInt8} {number : Nat}

/-- The number that is spelled is that of a character. -/
theorem toNat_ofNat (spells : Spells first more number) :
    (Char.ofNat number).toNat = number := by
  have valid : number.isValidChar := by
    cases spells <;> simp only [Nat.isValidChar] <;> omega
  rw [Char.ofNat, dif_pos valid]
  rfl

theorem ofNat_eq_of_mod {byte : UInt8} {number : Nat} (spelled : number = byte.toNat) :
    UInt8.ofNat number = byte := by
  rw [spelled, UInt8.ofNat_toNat]

/-- The standard encoding writes what spells the number of the character. -/
theorem encoded {c : Char} (spells : Spells first more c.toNat) :
    String.utf8EncodeChar c = first :: more := by
  have value : c.val.toNat = c.toNat := rfl
  rw [String.utf8EncodeChar, value]
  generalize c.toNat = number at spells
  cases spells with
  | one =>
      rw [if_pos (by omega), UInt8.ofNat_toNat]
  | two =>
      rw [if_neg (by omega), if_pos (by omega)]
      congr <;> exact ofNat_eq_of_mod (by omega)
  | three =>
      rw [if_neg (by omega), if_neg (by omega), if_pos (by omega)]
      congr <;> exact ofNat_eq_of_mod (by omega)
  | four =>
      rw [if_neg (by omega), if_neg (by omega), if_neg (by omega)]
      congr <;> exact ofNat_eq_of_mod (by omega)

end Spells

theorem toNat_ofNat_byte {value : Nat} (small : value < 0x100) :
    (UInt8.ofNat value).toNat = value := by
  rw [UInt8.toNat_ofNat', Nat.mod_eq_of_lt small]

/-- Every character is spelled by some bytes. -/
theorem exists_spells (c : Char) : ∃ first more, Spells first more c.toNat := by
  have valid : c.toNat < 0xD800 ∨ 0xDFFF < c.toNat ∧ c.toNat < 0x110000 := c.valid
  generalize c.toNat = number at valid
  have split : ∀ number, ∃ high low, low < 0x40 ∧ number = high * 64 + low := fun number =>
    ⟨number / 64, number % 64, by omega, by omega⟩
  by_cases one : number < 0x80
  · have spelled : (UInt8.ofNat number).toNat = number := toNat_ofNat_byte (by omega)
    have alone : Spells (UInt8.ofNat number) [] (UInt8.ofNat number).toNat := .one (by omega)
    rw [spelled] at alone
    exact ⟨_, _, alone⟩
  rcases split number with ⟨upper, low, lowSmall, rfl⟩
  by_cases two : upper < 0x20
  · exact ⟨_, _, .two (toNat_ofNat_byte (by omega)) (by omega) two
      (toNat_ofNat_byte (by omega)) lowSmall⟩
  rcases split upper with ⟨high, middle, middleSmall, rfl⟩
  by_cases three : high < 0x10
  · exact ⟨_, _, .three (toNat_ofNat_byte (by omega)) three (toNat_ofNat_byte (by omega)) middleSmall
      (by omega) (by omega) (toNat_ofNat_byte (by omega)) lowSmall⟩
  rcases split high with ⟨top, upper, upperSmall, rfl⟩
  exact ⟨_, _, .four (toNat_ofNat_byte (by omega)) (by omega) (toNat_ofNat_byte (by omega)) upperSmall
    (by omega) (by omega) (toNat_ofNat_byte (by omega)) middleSmall (toNat_ofNat_byte (by omega))
    lowSmall⟩

/-- The standard encoding of a character is the one way of spelling its number. -/
theorem encoded_iff {c : Char} {first : UInt8} {more : List UInt8} :
    String.utf8EncodeChar c = first :: more ↔ Spells first more c.toNat := by
  refine ⟨fun encoded => ?_, Spells.encoded⟩
  rcases exists_spells c with ⟨other, others, spells⟩
  have same := spells.encoded.symm.trans encoded
  rw [← (List.cons.inj same).1, ← (List.cons.inj same).2]
  exact spells

/-! ## Agreement -/

/-- What the role of a first byte asks of the bytes behind it. -/
def Lead.Continues (c : Char) (more : List UInt8) : Lead → Prop
  | .character own => c = own ∧ more = []
  | .opens pending => Completes pending more c
  | .invalid => False

theorem completes_of_bits {value : Nat} {low high second : UInt8} {bits : Nat}
    (accepted : low ≤ second ∧ second ≤ high) (spelled : second.toNat = 0x80 + bits) :
    Completes ⟨value, 1, low, high⟩ [second] (Char.ofNat (value * 64 + bits)) := by
  rw [← extend_of_bits spelled ⟨value, 1, low, high⟩]
  exact completes_last.mpr ⟨second, rfl, accepted, rfl⟩

theorem completes_inner_of_bits {value missing : Nat} {low high second : UInt8} {bits : Nat}
    {more : List UInt8} {c : Char} (accepted : low ≤ second ∧ second ≤ high)
    (spelled : second.toNat = 0x80 + bits)
    (completes : Completes ⟨value * 64 + bits, missing + 1, 0x80, 0xBF⟩ more c) :
    Completes ⟨value, missing + 2, low, high⟩ (second :: more) c := by
  refine completes_inner.mpr ⟨second, more, rfl, accepted, ?_⟩
  rw [Pending.push, extend_of_bits spelled]
  exact completes

namespace Opening

variable {first : UInt8} {role : Lead} {more : List UInt8}

/-- What spells a character is what the role of its first byte asks for. -/
theorem continues (opening : Opening first role) {number : Nat}
    (spells : Spells first more number) : role.Continues (Char.ofNat number) more := by
  cases spells with
  | one small =>
      cases opening with
      | alone => exact ⟨rfl, rfl⟩
      | _ => omega
  | @two second high low isFirst _ _ isSecond small =>
      cases opening with
      | @two value isValue =>
          have same : value = high := by omega
          rw [← same]
          exact completes_of_bits ((inner_iff _).mpr ⟨low, small, isSecond⟩) isSecond
      | _ => omega
  | @three second third high middle low isFirst _ isSecond middleSmall long whole isThird small =>
      cases opening with
      | @three value _ _ isValue _ bounds =>
          have same : value = high := by omega
          subst same
          have accepted := (bounds second).mpr ⟨middle, middleSmall, isSecond, long, whole⟩
          apply completes_inner_of_bits accepted isSecond
          exact completes_of_bits ((inner_iff _).mpr ⟨low, small, isThird⟩) isThird
      | _ => omega
  | @four second third fourth high upper middle low isFirst _ isSecond upperSmall long least isThird
      middleSmall isFourth small =>
      cases opening with
      | @four value _ _ isValue _ bounds =>
          have same : value = high := by omega
          subst same
          have accepted := (bounds second).mpr ⟨upper, upperSmall, isSecond, long, least⟩
          apply completes_inner_of_bits accepted isSecond
          apply completes_inner_of_bits ((inner_iff _).mpr ⟨middle, middleSmall, isThird⟩) isThird
          exact completes_of_bits ((inner_iff _).mpr ⟨low, small, isFourth⟩) isFourth
      | _ => omega

/-- What the role of a first byte asks for spells a character. -/
theorem exists_spells (opening : Opening first role) {c : Char} (continues : role.Continues c more) :
    ∃ number, Spells first more number ∧ c = Char.ofNat number := by
  cases opening with
  | alone small =>
      rcases continues with ⟨rfl, rfl⟩
      exact ⟨_, .one small, rfl⟩
  | none _ => exact continues.elim
  | two isFirst least small =>
      rcases completes_last.mp continues with ⟨second, rfl, accepted, isCharacter⟩
      rcases (inner_iff _).mp accepted with ⟨bits, bitsSmall, isSecond⟩
      rw [extend_of_bits isSecond] at isCharacter
      exact ⟨_, .two isFirst least small isSecond bitsSmall, isCharacter⟩
  | three isFirst small bounds =>
      rcases completes_inner.mp continues with ⟨second, _, rfl, accepted, behind⟩
      rcases (bounds _).mp accepted with ⟨bits, bitsSmall, isSecond, long, whole⟩
      rw [Pending.push, extend_of_bits isSecond] at behind
      rcases completes_last.mp behind with ⟨third, rfl, acceptedThird, isCharacter⟩
      rcases (inner_iff _).mp acceptedThird with ⟨lowBits, lowSmall, isThird⟩
      rw [extend_of_bits isThird] at isCharacter
      exact ⟨_, .three isFirst small isSecond bitsSmall long whole isThird lowSmall, isCharacter⟩
  | four isFirst small bounds =>
      rcases completes_inner.mp continues with ⟨second, _, rfl, accepted, behind⟩
      rcases (bounds _).mp accepted with ⟨bits, bitsSmall, isSecond, long, least⟩
      rw [Pending.push, extend_of_bits isSecond] at behind
      rcases completes_inner.mp behind with ⟨third, _, rfl, acceptedThird, last⟩
      rcases (inner_iff _).mp acceptedThird with ⟨middleBits, middleSmall, isThird⟩
      rw [Pending.push, extend_of_bits isThird] at last
      rcases completes_last.mp last with ⟨fourth, rfl, acceptedFourth, isCharacter⟩
      rcases (inner_iff _).mp acceptedFourth with ⟨lowBits, lowSmall, isFourth⟩
      rw [extend_of_bits isFourth] at isCharacter
      exact ⟨_, .four isFirst small isSecond bitsSmall long least isThird middleSmall isFourth lowSmall,
        isCharacter⟩

end Opening

/-- The sequence of a character is a first byte with a role and what that role asks for. -/
theorem utf8EncodeChar_eq_cons_iff {c : Char} {first : UInt8} {more : List UInt8} :
    String.utf8EncodeChar c = first :: more ↔ (Lead.of first).Continues c more := by
  rw [encoded_iff]
  constructor
  · intro spells
    have continues := (opening_of first).continues spells
    rwa [Char.ofNat_toNat] at continues
  · intro continues
    rcases (opening_of first).exists_spells continues with ⟨number, spells, rfl⟩
    rwa [spells.toNat_ofNat]

end Text
end Capability
