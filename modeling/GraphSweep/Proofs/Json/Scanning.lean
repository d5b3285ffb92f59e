import GraphSweep.Json.Reader
import GraphSweep.Json.Writer
import Mathlib.Tactic.IntervalCases

/-!
# Cutting text into tokens

The first pass of reading cuts what spells a token off the front of a text, in whatever
way the text goes on; only after a number something has to come that does not go on with
it. So the tokens of texts one after another are the tokens of the first and then those of
the others.
-/

namespace GraphSweep
namespace JsonToken

/-- Characters are cut into tokens, whatever comes after them. -/
def Scans (chars : List Char) (tokens : List JsonToken) : Prop :=
  ∀ ⦃rest : List Char⦄ ⦃others : List JsonToken⦄,
    scanFrom .between rest = some others ->
      scanFrom .between (chars ++ rest) = some (tokens ++ others)

/-- No number goes on with what comes next. -/
def Ends (rest : List Char) : Prop :=
  ∀ char, rest.head? = some char ->
    NumberStage.zero.next? char = none ∧ NumberStage.whole.next? char = none

/-- Characters are cut into tokens, whatever comes after them that ends a number. -/
def ScansToEnd (chars : List Char) (tokens : List JsonToken) : Prop :=
  ∀ ⦃rest : List Char⦄ ⦃others : List JsonToken⦄,
    Ends rest -> scanFrom .between rest = some others ->
      scanFrom .between (chars ++ rest) = some (tokens ++ others)

/-- Characters begin with one that ends a number. -/
def Closes (chars : List Char) : Prop := ∀ rest, Ends (chars ++ rest)

section Pieces

variable
  {stage next : Stage}
  {char : Char}
  {chars more rest : List Char}
  {tokens later : List JsonToken}

/-- Going on with one character. -/
theorem scanFrom_cons
    (steps : step? stage char = some (next, tokens)) :
    scanFrom stage (char :: rest) =
      (scanFrom next rest).map fun others => tokens ++ others := by
  rw [scanFrom, steps]
  change (scanFrom next rest).bind (fun others => some (tokens ++ others)) = _
  cases scanFrom next rest with
  | none => rfl
  | some others => rfl

/-- Going on with one character that completes no token. -/
theorem scanFrom_cons_of_silent (steps : step? stage char = some (next, [])) :
    scanFrom stage (char :: rest) = scanFrom next rest := by
  rw [scanFrom_cons steps]
  exact congrFun Option.map_id _

theorem Scans.toEnd (scans : Scans chars tokens) : ScansToEnd chars tokens :=
  fun _ _ _ scanned => scans scanned

theorem Scans.append
    (first : Scans chars tokens)
    (second : Scans more later) :
    Scans (chars ++ more) (tokens ++ later) := by
  intro rest others scanned
  rw [List.append_assoc, List.append_assoc]
  exact first (second scanned)

theorem Scans.append_toEnd
    (first : Scans chars tokens)
    (second : ScansToEnd more later) :
    ScansToEnd (chars ++ more) (tokens ++ later) := by
  intro rest others ends scanned
  rw [List.append_assoc, List.append_assoc]
  exact first (second ends scanned)

theorem ScansToEnd.append
    (first : ScansToEnd chars tokens)
    (second : Scans more later)
    (closes : Closes more) :
    Scans (chars ++ more) (tokens ++ later) := by
  intro rest others scanned
  rw [List.append_assoc, List.append_assoc]
  exact first (closes rest) (second scanned)

theorem ScansToEnd.append_toEnd
    (first : ScansToEnd chars tokens)
    (second : ScansToEnd more later)
    (closes : Closes more) :
    ScansToEnd (chars ++ more) (tokens ++ later) := by
  intro rest others ends scanned
  rw [List.append_assoc, List.append_assoc]
  exact first (closes rest) (second ends scanned)

theorem ends_nil : Ends [] := by
  intro char first
  cases first

/-- A character with which no number goes on ends a number. -/
theorem closes_cons
    (zero : NumberStage.zero.next? char = none)
    (whole : NumberStage.whole.next? char = none) :
    Closes (char :: chars) := by
  intro rest first same
  cases same
  exact ⟨zero, whole⟩

/-- A character that is a token by itself. -/
theorem scans_mark
    {token : JsonToken}
    (begins : begin? char = some (.between, [token])) :
    Scans [char] [token] := by
  intro rest others scanned
  have steps : step? .between char = some (.between, [token]) := begins
  rw [List.singleton_append, scanFrom_cons steps, scanned]
  rfl

/-! ## Blanks -/

theorem of_isBlank (blank : isBlank char = true) :
    begin? char = some (.between, []) ∧
      NumberStage.zero.next? char = none ∧
      NumberStage.whole.next? char = none := by
  simp only [isBlank, Bool.or_eq_true, decide_eq_true_eq] at blank
  rcases blank with ((rfl | rfl) | rfl) | rfl
  all_goals exact ⟨rfl, rfl, rfl⟩

/-- Blanks are passed over. -/
theorem scans_blanks (blank : ∀ char ∈ chars, isBlank char = true) :
    Scans chars [] := by
  intro rest others scanned
  induction chars with
  | nil => exact scanned
  | cons char chars hypothesis =>
      obtain ⟨first, blank⟩ := List.forall_mem_cons.1 blank
      have steps : step? .between char = some (.between, []) := (of_isBlank first).1
      rw [List.cons_append, scanFrom_cons_of_silent steps]
      exact hypothesis blank

/-- Blanks end a number, or leave that to what comes after them. -/
theorem Closes.after_blanks
    (closes : Closes more)
    (blank : ∀ char ∈ chars, isBlank char = true) :
    Closes (chars ++ more) := by
  cases chars with
  | nil => exact closes
  | cons char chars =>
      obtain ⟨-, zero, whole⟩ := of_isBlank (blank char List.mem_cons_self)
      exact closes_cons zero whole

end Pieces

/-! ## Words -/

/-- A word that has begun is gone through letter by letter. -/
theorem scanFrom_letters
    {letters rest : List Char}
    {value : JsonValue}
    (more : letters ≠ []) :
    scanFrom (.inWord letters value) (letters ++ rest) =
      (scanFrom .between rest).map fun others => .scalar value :: others := by
  induction letters with
  | nil => exact absurd rfl more
  | cons letter letters hypothesis =>
      cases letters with
      | nil =>
          have steps : step? (.inWord [letter] value) letter =
              some (.between, [.scalar value]) := if_pos rfl
          exact scanFrom_cons steps
      | cons second letters =>
          have steps : step? (.inWord (letter :: second :: letters) value) letter =
              some (.inWord (second :: letters) value, []) := if_pos rfl
          rw [List.cons_append, scanFrom_cons_of_silent steps]
          exact hypothesis (List.cons_ne_nil second letters)

/-- A word is a token. -/
theorem scans_word
    {char : Char}
    {letters : List Char}
    {value : JsonValue}
    (begins : begin? char = some (.inWord letters value, []))
    (more : letters ≠ []) :
    Scans (char :: letters) [.scalar value] := by
  intro rest others scanned
  have steps : step? .between char = some (.inWord letters value, []) := begins
  rw [List.cons_append, scanFrom_cons_of_silent steps, scanFrom_letters more,
    scanned]
  rfl

/-! ## Numbers -/

section Numbers

variable
  {rest reversed : List Char}
  {others : List JsonToken}
  {token : JsonToken}

/-- A number goes on with digits. -/
theorem scanFrom_digits
    {digits : List Char}
    (numeric : ∀ digit ∈ digits, digit.isDigit = true) :
    scanFrom (.inNumber .whole reversed) (digits ++ rest) =
      scanFrom (.inNumber .whole (digits.reverse ++ reversed)) rest := by
  induction digits generalizing reversed with
  | nil => rfl
  | cons digit digits hypothesis =>
      obtain ⟨first, numeric⟩ := List.forall_mem_cons.1 numeric
      have next : NumberStage.whole.next? digit = some .whole := if_pos first
      have steps : step? (.inNumber .whole reversed) digit =
          some (.inNumber .whole (digit :: reversed), []) := by
        rw [step?, next]
      rw [List.cons_append, scanFrom_cons_of_silent steps, hypothesis numeric,
        List.reverse_cons, List.append_assoc]
      rfl

/-- A number that is complete ends where it does not go on. -/
theorem scanFrom_finished
    {stage : NumberStage}
    (finished : finishNumber? stage reversed = some token)
    (ends : ∀ char, rest.head? = some char -> stage.next? char = none)
    (scanned : scanFrom .between rest = some others) :
    scanFrom (.inNumber stage reversed) rest = some (token :: others) := by
  cases rest with
  | nil =>
      cases scanned
      rw [scanFrom, finished]
      rfl
  | cons char rest =>
      cases begins : begin? char with
      | none =>
          rw [scanFrom, step?, begins] at scanned
          cases scanned
      | some pair =>
          obtain ⟨next, tokens⟩ := pair
          have steps : step? .between char = some (next, tokens) := begins
          have stops : step? (.inNumber stage reversed) char =
              some (next, token :: tokens) := by
            rw [step?, ends char rfl, finished, begins]
            rfl
          rw [scanFrom_cons steps] at scanned
          obtain ⟨later, behind, rfl⟩ := Option.map_eq_some_iff.1 scanned
          rw [scanFrom_cons stops, behind]
          rfl

/-- The digits of a number spell it. -/
theorem digitsValue_toDigits (number : Nat) :
    digitsValue (Nat.toDigits 10 number) = number := by
  have told := Nat.ofDigitChars_ten_toDigits (n := number)
  rw [Nat.ofDigitChars_eq_foldl] at told
  simp only [Nat.mul_comm 10] at told
  exact told

/-- Digits without a sign are a number by value. -/
theorem finishNumber?_whole
    {digits : List Char}
    (numeric : ∀ digit ∈ digits, digit.isDigit = true) :
    finishNumber? .whole digits.reverse =
      some (.scalar (.natural (digitsValue digits))) := by
  change (if digits.reverse.reverse.all Char.isDigit = true then _ else _) = _
  rw [if_pos (by rwa [List.reverse_reverse, List.all_eq_true]), List.reverse_reverse]

/-- A number above zero is spelled from a digit on that a longer number may begin with. -/
theorem exists_toDigits_eq_cons {number : Nat} (positive : 0 < number) :
    ∃ digit digits, Nat.toDigits 10 number = digit :: digits ∧
      begin? digit = some (.inNumber .whole [digit], []) := by
  induction number using Nat.strongRecOn with
  | ind number hypothesis =>
      rcases Nat.lt_or_ge number 10 with small | large
      · refine ⟨number.digitChar, [], Nat.toDigits_of_lt_base small, ?_⟩
        interval_cases number <;> rfl
      · obtain ⟨digit, digits, spelled, begins⟩ :=
          hypothesis (number / 10) (by omega) (by omega)
        refine ⟨digit, digits ++ [(number % 10).digitChar], ?_, begins⟩
        rw [Nat.toDigits_of_base_le (by decide) large, spelled]
        rfl

/-- The digits of a number are one token. -/
theorem scansToEnd_digits (number : Nat) :
    ScansToEnd (Nat.toDigits 10 number) [.scalar (.natural number)] := by
  intro rest others ends scanned
  rcases Nat.eq_zero_or_pos number with rfl | positive
  · have steps : step? .between '0' = some (.inNumber .zero ['0'], []) := rfl
    rw [Nat.toDigits_zero, List.singleton_append, scanFrom_cons_of_silent steps]
    exact scanFrom_finished rfl (fun char next => (ends char next).1) scanned
  · obtain ⟨digit, digits, spelled, begins⟩ := exists_toDigits_eq_cons positive
    have numeric : ∀ char ∈ digit :: digits, char.isDigit = true := by
      intro char member
      rw [← spelled] at member
      exact Nat.isDigit_of_mem_toDigits (by decide) (by decide) member
    have steps : step? .between digit = some (.inNumber .whole [digit], []) := begins
    have finished := finishNumber?_whole numeric
    rw [List.reverse_cons, ← spelled, digitsValue_toDigits] at finished
    rw [spelled, List.cons_append, scanFrom_cons_of_silent steps,
      scanFrom_digits (List.forall_mem_cons.1 numeric).2]
    exact scanFrom_finished finished (fun char next => (ends char next).2) scanned

end Numbers

/-! ## Strings -/

section Strings

variable
  {content : OpenString}
  {char : Char}
  {rest : List Char}

theorem hexValue?_digitChar {digit : Nat} (hex : digit < 16) :
    Bytes.hexValue? digit.digitChar = some digit := by
  interval_cases digit <;> rfl

/-- A short escape stands for its character. -/
theorem scanFrom_shortEscape
    {letter : Char}
    (stands : shortEscape? letter = some char) :
    scanFrom (.inString content) ('\\' :: letter :: rest) =
      scanFrom (.inString (content.push char)) rest := by
  have other : letter ≠ 'u' := by
    rintro rfl
    cases stands
  have begins : step? (.inString content) '\\' = some (.inEscape content, []) := rfl
  have steps : step? (.inEscape content) letter =
      some (.inString (content.push char), []) := by
    rw [step?, if_neg other, stands]
    rfl
  rw [scanFrom_cons_of_silent begins, scanFrom_cons_of_silent steps]

/-- A digit of an escape is counted in, and the last one completes the unit. -/
theorem step?_inUnicode
    {missing unit digit : Nat}
    (hex : Bytes.hexValue? char = some digit) :
    step? (.inUnicode content missing unit) char =
      if missing ≤ 1 then
        some (.inString (content.pushUnit (unit * 16 + digit)), [])
      else some (.inUnicode content (missing - 1) (unit * 16 + digit), []) := by
  rw [step?, hex]
  rfl

/-- An escape by four digits stands for a control character. -/
theorem scanFrom_control
    (content : OpenString)
    (rest : List Char)
    {high low : Nat}
    (upper : high < 2)
    (lower : low < 16) :
    scanFrom (.inString content) ('\\' :: 'u' :: '0' :: '0' ::
        Char.ofNat (48 + high) :: low.digitChar :: rest) =
      scanFrom (.inString (content.push (Char.ofNat (16 * high + low)))) rest := by
  have zero : Bytes.hexValue? '0' = some 0 := rfl
  have hexHigh : Bytes.hexValue? (Char.ofNat (48 + high)) = some high := by
    interval_cases high <;> rfl
  have begins : step? (.inString content) '\\' = some (.inEscape content, []) := rfl
  have opens : step? (.inEscape content) 'u' = some (.inUnicode content 4 0, []) := rfl
  have first : step? (.inUnicode content 4 0) '0' =
      some (.inUnicode content 3 0, []) := step?_inUnicode zero
  have second : step? (.inUnicode content 3 0) '0' =
      some (.inUnicode content 2 0, []) := step?_inUnicode zero
  have third : step? (.inUnicode content 2 0) (Char.ofNat (48 + high)) =
      some (.inUnicode content 1 (0 * 16 + high), []) := step?_inUnicode hexHigh
  have fourth : step? (.inUnicode content 1 (0 * 16 + high)) low.digitChar =
      some (.inString (content.pushUnit ((0 * 16 + high) * 16 + low)), []) :=
    step?_inUnicode (hexValue?_digitChar lower)
  have unit : content.pushUnit ((0 * 16 + high) * 16 + low) =
      content.push (Char.ofNat (16 * high + low)) := by
    rw [OpenString.pushUnit, if_neg (by omega), if_neg (by omega), Nat.zero_mul,
      Nat.zero_add, Nat.mul_comm high]
  rw [scanFrom_cons_of_silent begins, scanFrom_cons_of_silent opens,
    scanFrom_cons_of_silent first, scanFrom_cons_of_silent second,
    scanFrom_cons_of_silent third, scanFrom_cons_of_silent fourth, unit]

/-- What is written for a character in a string is read as the character. -/
theorem scanFrom_escape (content : OpenString) (char : Char) (rest : List Char) :
    scanFrom (.inString content) (JsonValue.escape char ++ rest) =
      scanFrom (.inString (content.push char)) rest := by
  have told {code : Nat} (same : char.toNat = code) : char = Char.ofNat code := by
    rw [← same, Char.ofNat_toNat]
  unfold JsonValue.escape
  split
  · next quote =>
    subst quote
    exact scanFrom_shortEscape rfl
  split
  · next slash =>
    subst slash
    exact scanFrom_shortEscape rfl
  split
  · next backspace =>
    rw [told backspace]
    exact scanFrom_shortEscape rfl
  split
  · next feed =>
    rw [told feed]
    exact scanFrom_shortEscape rfl
  split
  · next line =>
    subst line
    exact scanFrom_shortEscape rfl
  split
  · next carriage =>
    subst carriage
    exact scanFrom_shortEscape rfl
  split
  · next tab =>
    subst tab
    exact scanFrom_shortEscape rfl
  split
  · next control =>
    have spelled := scanFrom_control content rest
      (show char.toNat / 16 < 2 by omega) (Nat.mod_lt char.toNat (by decide))
    rwa [Nat.div_add_mod, Char.ofNat_toNat] at spelled
  · next quote slash _ _ _ _ _ control =>
    have steps : step? (.inString content) char =
        some (.inString (content.push char), []) := by
      rw [step?, if_neg quote, if_neg slash, if_neg control]
    exact scanFrom_cons_of_silent steps

/-- What is written for a text in a string is read as the text. -/
theorem scanFrom_escapes (chars read : List Char) (rest : List Char) :
    scanFrom (.inString ⟨read.reverse, none, false⟩)
        (chars.flatMap JsonValue.escape ++ '"' :: rest) =
      (scanFrom .between rest).map fun others =>
        .string (some (String.ofList (read ++ chars))) :: others := by
  induction chars generalizing read with
  | nil =>
      have steps : step? (.inString ⟨read.reverse, none, false⟩) '"' =
          some (.between, [.string (some (String.ofList read.reverse.reverse))]) :=
        rfl
      rw [List.reverse_reverse] at steps
      rw [List.flatMap_nil, List.nil_append, List.append_nil]
      exact scanFrom_cons steps
  | cons char chars hypothesis =>
      have pushed : OpenString.push ⟨read.reverse, none, false⟩ char =
          ⟨(read ++ [char]).reverse, none, false⟩ := by
        rw [List.reverse_append]
        rfl
      rw [List.flatMap_cons, List.append_assoc, scanFrom_escape, pushed,
        hypothesis, List.append_assoc]
      rfl

/-- A text in quotes is one token. -/
theorem scans_quote (text : String) :
    Scans (JsonValue.quote text).toList [.string (some text)] := by
  intro rest others scanned
  have begins : step? .between '"' = some (.inString ⟨[], none, false⟩, []) := rfl
  have mark : "\"".toList = ['"'] := rfl
  have quoted : (JsonValue.quote text).toList ++ rest =
      '"' :: (text.toList.flatMap JsonValue.escape ++ '"' :: rest) := by
    rw [JsonValue.quote, String.toList_append, String.toList_append, mark,
      String.toList_ofList, List.append_assoc, List.append_assoc]
    rfl
  have read := scanFrom_escapes text.toList [] rest
  rw [List.nil_append, String.ofList_toList, scanned] at read
  rw [quoted, scanFrom_cons_of_silent begins]
  exact read

end Strings
end JsonToken
end GraphSweep
