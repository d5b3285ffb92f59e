/-!
# Byte strings

Keys, columns and values of the store are byte strings. They are compared byte
by byte, a proper prefix coming first, and numbers are spelled in them with the
most significant byte first, so that the order of the spellings is the order of
the numbers.
-/

namespace GraphSweep

/-- A finite sequence of bytes. -/
abbrev Bytes := List UInt8

namespace Bytes

/-- Lexicographic order on byte strings; a proper prefix comes first. -/
def precedes : Bytes -> Bytes -> Bool
  | _, [] => false
  | [], _ :: _ => true
  | left :: lefts, right :: rights =>
      left < right || (left == right && precedes lefts rights)

@[simp] theorem precedes_nil (bytes : Bytes) : precedes bytes [] = false := by
  cases bytes <;> rfl

@[simp] theorem nil_precedes_cons (byte : UInt8) (bytes : Bytes) :
    precedes [] (byte :: bytes) = true := rfl

@[simp] theorem cons_precedes_cons
    (left right : UInt8)
    (lefts rights : Bytes) :
    precedes (left :: lefts) (right :: rights) =
      (left < right || (left == right && precedes lefts rights)) := rfl

/-- No byte string precedes itself. -/
@[simp] theorem precedes_self (bytes : Bytes) : precedes bytes bytes = false := by
  induction bytes with
  | nil => rfl
  | cons byte bytes hypothesis => simp [hypothesis]

/-- The order is transitive. -/
theorem precedes_trans
    {first second third : Bytes}
    (before : precedes first second)
    (after : precedes second third) :
    precedes first third := by
  induction first generalizing second third with
  | nil =>
      cases third with
      | nil => simp at after
      | cons _ _ => rfl
  | cons left lefts hypothesis =>
      cases second with
      | nil => simp at before
      | cons middle middles =>
          cases third with
          | nil => simp at after
          | cons right rights =>
              simp only [cons_precedes_cons, Bool.or_eq_true, decide_eq_true_eq,
                Bool.and_eq_true, beq_iff_eq] at before after ⊢
              rcases before with less | ⟨equal, inner⟩
              · rcases after with less' | ⟨equal', _⟩
                · exact Or.inl (UInt8.lt_trans less less')
                · exact Or.inl (equal' ▸ less)
              · rcases after with less' | ⟨equal', inner'⟩
                · exact Or.inl (equal ▸ less')
                · exact Or.inr ⟨equal.trans equal', hypothesis inner inner'⟩

/-- Two byte strings that neither precede one another are equal. -/
theorem eq_of_not_precedes
    {first second : Bytes}
    (forward : precedes first second = false)
    (backward : precedes second first = false) :
    first = second := by
  induction first generalizing second with
  | nil =>
      cases second with
      | nil => rfl
      | cons _ _ => simp at forward
  | cons left lefts hypothesis =>
      cases second with
      | nil => simp at backward
      | cons right rights =>
          simp only [cons_precedes_cons, Bool.or_eq_false_iff,
            decide_eq_false_iff_not, Bool.and_eq_false_iff, beq_eq_false_iff_ne,
            UInt8.not_lt] at forward backward
          have equal : left = right := UInt8.le_antisymm backward.1 forward.1
          subst equal
          simp only [ne_eq, not_true_eq_false, false_or] at forward backward
          rw [hypothesis forward.2 backward.2]

/-- A byte string that precedes another is not preceded by it. -/
theorem not_precedes_of_precedes
    {first second : Bytes}
    (before : precedes first second) :
    precedes second first = false := by
  cases flipped : precedes second first with
  | false => rfl
  | true =>
      have loop := precedes_trans before flipped
      simp at loop

/-- What precedes a byte string precedes all that do not come before that. -/
theorem precedes_of_precedes_of_not_precedes
    {first second third : Bytes}
    (before : precedes first second)
    (behind : precedes third second = false) :
    precedes first third := by
  cases order : precedes third first with
  | true =>
      rw [precedes_trans order before] at behind
      cases behind
  | false =>
      cases ahead : precedes first third with
      | true => rfl
      | false =>
          rw [← eq_of_not_precedes ahead order, before] at behind
          cases behind

/-- How many byte strings have a length. -/
def capacity : Nat -> Nat
  | 0 => 1
  | width + 1 => capacity width * 256

theorem capacity_succ (width : Nat) :
    capacity (width + 1) = capacity width * 256 := rfl

theorem capacity_pos (width : Nat) : 0 < capacity width := by
  induction width with
  | zero => exact Nat.one_pos
  | succ width hypothesis =>
      exact Nat.mul_pos hypothesis (by decide)

/-- The number of the given width, most significant byte first; what does not
fit in the width is cut off at the top. -/
def bigEndian : Nat -> Nat -> Bytes
  | 0, _ => []
  | width + 1, value =>
      UInt8.ofNat (value / capacity width % 256) :: bigEndian width value

/-- The number that a byte string spells, most significant byte first. -/
def toNat : Bytes -> Nat
  | [] => 0
  | byte :: bytes => byte.toNat * capacity bytes.length + toNat bytes

@[simp] theorem length_bigEndian (width value : Nat) :
    (bigEndian width value).length = width := by
  induction width with
  | zero => rfl
  | succ width hypothesis => simp [bigEndian, hypothesis]

/-- Reading back a spelled number gives the number modulo its width. -/
theorem toNat_bigEndian (width value : Nat) :
    toNat (bigEndian width value) = value % capacity width := by
  induction width with
  | zero => simp [bigEndian, toNat, capacity, Nat.mod_one]
  | succ width hypothesis =>
      have byte : (UInt8.ofNat (value / capacity width % 256)).toNat =
          value / capacity width % 256 := by simp
      rw [bigEndian, toNat, length_bigEndian, hypothesis, byte, capacity_succ,
        Nat.mod_mul, Nat.mul_comm, Nat.add_comm]

/-- A byte string spells a number below the bound of its length. -/
theorem toNat_lt (bytes : Bytes) : toNat bytes < capacity bytes.length := by
  induction bytes with
  | nil => exact Nat.one_pos
  | cons byte bytes hypothesis =>
      have small : byte.toNat < 256 := byte.toNat_lt
      have bound : (byte.toNat + 1) * capacity bytes.length ≤
          256 * capacity bytes.length := Nat.mul_le_mul_right _ small
      simp only [toNat, List.length_cons, capacity_succ]
      rw [Nat.add_mul, Nat.one_mul] at bound
      omega

/-- Spelling the number of a byte string in its own length gives it back. -/
theorem bigEndian_toNat (bytes : Bytes) :
    bigEndian bytes.length (toNat bytes) = bytes := by
  suffices widths : forall high,
      bigEndian bytes.length
        (high * capacity bytes.length + toNat bytes) = bytes by
    simpa using widths 0
  induction bytes with
  | nil => intro high; rfl
  | cons byte bytes hypothesis =>
      intro high
      have small : byte.toNat < 256 := byte.toNat_lt
      have positive := capacity_pos bytes.length
      have regroup : high * capacity (bytes.length + 1) +
          (byte.toNat * capacity bytes.length + toNat bytes) =
          (high * 256 + byte.toNat) * capacity bytes.length +
            toNat bytes := by
        rw [capacity_succ, Nat.add_mul, Nat.mul_assoc, Nat.mul_comm 256]
        omega
      simp only [List.length_cons, toNat, bigEndian, regroup, hypothesis]
      congr 1
      rw [Nat.mul_comm, Nat.mul_add_div positive,
        Nat.div_eq_of_lt (toNat_lt bytes), Nat.add_zero,
        Nat.mul_add_mod_self_right, Nat.mod_eq_of_lt small, UInt8.ofNat_toNat]

/-- The hexadecimal digit of a number below sixteen, in lower case. -/
def hexDigit (value : Nat) : Char :=
  if value < 10 then Char.ofNat (48 + value) else Char.ofNat (87 + value)

/-- The two hexadecimal digits of a byte. -/
def hexPair (byte : UInt8) : List Char :=
  [hexDigit (byte.toNat / 16), hexDigit (byte.toNat % 16)]

/-- A byte string as hexadecimal text, two digits a byte. -/
def toHex (bytes : Bytes) : String :=
  String.ofList (bytes.flatMap hexPair)

/-- The value of a hexadecimal digit of either case. -/
def hexValue? (digit : Char) : Option Nat :=
  if '0' ≤ digit ∧ digit ≤ '9' then some (digit.toNat - 48)
  else if 'a' ≤ digit ∧ digit ≤ 'f' then some (digit.toNat - 87)
  else if 'A' ≤ digit ∧ digit ≤ 'F' then some (digit.toNat - 55)
  else none

/-- The byte string that pairs of hexadecimal digits spell. -/
def ofHexDigits? : List Char -> Option Bytes
  | [] => some []
  | [_] => none
  | high :: low :: rest => do
      let upper <- hexValue? high
      let lower <- hexValue? low
      let bytes <- ofHexDigits? rest
      return UInt8.ofNat (upper * 16 + lower) :: bytes

/-- The byte string that a hexadecimal text spells. -/
def ofHex? (text : String) : Option Bytes :=
  ofHexDigits? text.toList

/-- A byte string as a bracketed list of two-digit hexadecimal bytes. -/
def listing (bytes : Bytes) : String :=
  "[" ++ String.intercalate ", " (bytes.map fun byte =>
    String.ofList (hexPair byte)) ++ "]"

/-- The text that a byte string spells in UTF-8, if it does. -/
def toText? (bytes : Bytes) : Option String :=
  String.fromUTF8? (ByteArray.mk bytes.toArray)

/-- The UTF-8 spelling of a text. -/
def ofText (text : String) : Bytes :=
  text.toUTF8.toList

end Bytes
end GraphSweep
