import GraphSweep.Proofs.Json.Scanning
import GraphSweep.Proofs.Json.Tokens
import Mathlib.Data.List.Forall2

/-!
# Reading back what was written

The text of a value is cut into the tokens of the value, in every style that sets values
out with blanks alone. So a value whose numbers are whole and without a sign, and whose
strings are texts, is read back from its text.
-/

namespace GraphSweep
namespace JsonValue

open JsonToken

/-- A style sets values out with blanks alone. -/
structure Style.Spaces (style : Style) : Prop where
  colon : ∃ gap, style.colon.toList = ':' :: gap ∧
    ∀ char ∈ gap, isBlank char = true
  lineBreak : ∀ level, ∀ char ∈ (style.lineBreak level).toList, isBlank char = true

theorem spaces_compact : compact.Spaces where
  colon := ⟨[], rfl, fun _ member => absurd member List.not_mem_nil⟩
  lineBreak := fun _ _ member => absurd member List.not_mem_nil

theorem spaces_pretty : pretty.Spaces where
  colon := ⟨[' '], rfl, fun char member => by rw [List.mem_singleton.1 member]; rfl⟩
  lineBreak := by
    intro level char member
    have chars : (pretty.lineBreak level).toList =
        '\n' :: List.replicate (2 * level) ' ' := by
      change ("\n" ++ String.ofList (List.replicate (2 * level) ' ')).toList = _
      rw [String.toList_append]
      exact congrArg ('\n' :: ·) String.toList_ofList
    rw [chars] at member
    rcases List.mem_cons.1 member with line | indent
    · rw [line]
      rfl
    · rw [List.eq_of_mem_replicate indent]
      rfl

section Sequences

variable
  {items : List String}
  {tokens : List (List JsonToken)}
  {separator : List Char}

/-- Items that are separated by commas are cut into their tokens, separated by commas. -/
theorem scansToEnd_intercalate
    (separates : Scans separator [.comma])
    (closes : ∀ more, Closes (separator ++ more))
    (scans : List.Forall₂ (fun item spelled => ScansToEnd item.toList spelled)
      items tokens) :
    ScansToEnd (List.intercalate separator (items.map String.toList))
      (List.intercalate [.comma] tokens) := by
  induction scans with
  | nil => exact fun _ _ _ scanned => scanned
  | @cons item spelled items tokens first others hypothesis =>
      cases others with
      | nil =>
          rw [List.map_singleton, List.intercalate_singleton,
            List.intercalate_singleton]
          exact first
      | cons second others =>
          rw [List.map_cons, List.map_cons, List.intercalate_cons_cons,
            List.intercalate_cons_cons, List.append_assoc, List.append_assoc]
          exact first.append_toEnd (separates.append_toEnd hypothesis) (closes _)

/-- Items in brackets are cut into the brackets and the tokens of the items. -/
theorem scans_enclose
    {style : Style}
    (spaces : style.Spaces)
    (level : Nat)
    (opening closing : String)
    {first last : JsonToken}
    (opens : Scans opening.toList [first])
    (closes : Scans closing.toList [last])
    (ends : Closes closing.toList)
    (scans : List.Forall₂ (fun item spelled => ScansToEnd item.toList spelled)
      items tokens) :
    Scans (enclose style level opening closing items).toList
      (first :: (List.intercalate [.comma] tokens ++ [last])) := by
  cases scans with
  | nil =>
      rw [enclose, String.toList_append]
      exact opens.append closes
  | @cons item spelled items tokens head others =>
      have blank := spaces.lineBreak (level + 1)
      have separator : ("," ++ style.lineBreak (level + 1)).toList =
          ',' :: (style.lineBreak (level + 1)).toList := by
        rw [String.toList_append]
        rfl
      have comma : Scans [','] [.comma] := scans_mark rfl
      -- An item may be a number, which only the comma, blank or bracket after it ends.
      have inside := scansToEnd_intercalate (comma.append (scans_blanks blank))
        (fun more => closes_cons rfl rfl) (.cons head others)
      have behind := (scans_blanks (spaces.lineBreak level)).append closes
      have whole := (opens.append (scans_blanks blank)).append
        (inside.append behind (ends.after_blanks (spaces.lineBreak level)))
      change Scans (opening ++ style.lineBreak (level + 1) ++
        String.intercalate ("," ++ style.lineBreak (level + 1)) (item :: items) ++
        style.lineBreak level ++ closing).toList _
      rw [String.toList_append, String.toList_append, String.toList_append,
        String.toList_append, String.toList_intercalate, separator,
        List.append_assoc _ _ closing.toList, List.append_assoc]
      exact whole

end Sequences

section Documents

variable
  {style : Style}
  (spaces : style.Spaces)

/-- The texts of the items of an array are cut into the tokens of the items. -/
theorem scansToEnd_renderItems
    {level : Nat}
    {items : List JsonValue}
    (scans : ∀ item ∈ items,
      ScansToEnd (item.render style level).toList item.tokens) :
    List.Forall₂ (fun text spelled => ScansToEnd text.toList spelled)
      (renderItems style level items) (itemTokens items) := by
  induction items with
  | nil => exact .nil
  | cons item items hypothesis =>
      obtain ⟨first, others⟩ := List.forall_mem_cons.1 scans
      exact .cons first (hypothesis others)

include spaces in
/-- The texts of the fields of an object are cut into the tokens of the fields. -/
theorem scansToEnd_renderFields
    {level : Nat}
    {fields : List (Option String × JsonValue)}
    (named : ∀ field ∈ fields, field.1.isSome = true)
    (scans : ∀ field ∈ fields,
      ScansToEnd (field.2.render style level).toList field.2.tokens) :
    List.Forall₂ (fun text spelled => ScansToEnd text.toList spelled)
      (renderFields style level fields) (fieldTokens fields) := by
  induction fields with
  | nil => exact .nil
  | cons field fields hypothesis =>
      obtain ⟨key, value⟩ := field
      obtain ⟨first, others⟩ := List.forall_mem_cons.1 scans
      obtain ⟨hasName, named⟩ := List.forall_mem_cons.1 named
      refine .cons ?_ (hypothesis named others)
      obtain ⟨name, rfl⟩ := Option.isSome_iff_exists.1 hasName
      obtain ⟨gap, colon, blank⟩ := spaces.colon
      have mark : Scans [':'] [.colon] := scans_mark rfl
      have whole := (scans_quote name).append_toEnd
        ((mark.append (scans_blanks blank)).append_toEnd first)
      rw [String.toList_append, String.toList_append, colon, List.append_assoc]
      exact whole

include spaces in
/-- The text of a value is cut into the tokens of the value. -/
theorem Plain.scansToEnd_render {value : JsonValue} (plain : value.Plain) (level : Nat) :
    ScansToEnd (value.render style level).toList value.tokens := by
  induction plain generalizing level with
  | null =>
      have word : Scans ['n', 'u', 'l', 'l'] [.scalar .null] :=
        scans_word rfl (List.cons_ne_nil _ _)
      rw [render, tokens]
      exact word.toEnd
  | bool value =>
      cases value with
      | false =>
          have word : Scans ['f', 'a', 'l', 's', 'e'] [.scalar (.bool false)] :=
            scans_word rfl (List.cons_ne_nil _ _)
          rw [render, tokens]
          exact word.toEnd
      | true =>
          have word : Scans ['t', 'r', 'u', 'e'] [.scalar (.bool true)] :=
            scans_word rfl (List.cons_ne_nil _ _)
          rw [render, tokens]
          exact word.toEnd
  | natural value =>
      change ScansToEnd value.repr.toList _
      rw [Nat.toList_repr]
      exact scansToEnd_digits value
  | string text => exact (scans_quote text).toEnd
  | array plain hypothesis =>
      have opens : Scans ['['] [.openArray] := scans_mark rfl
      have closes : Scans [']'] [.closeArray] := scans_mark rfl
      have ends : Closes [']'] := closes_cons rfl rfl
      exact (scans_enclose spaces level "[" "]" opens closes ends
        (scansToEnd_renderItems fun item member =>
          hypothesis item member (level + 1))).toEnd
  | object named plain hypothesis =>
      have opens : Scans ['\x7b'] [.openObject] := scans_mark rfl
      have closes : Scans ['\x7d'] [.closeObject] := scans_mark rfl
      have ends : Closes ['\x7d'] := closes_cons rfl rfl
      exact (scans_enclose spaces level "\x7b" "\x7d" opens closes ends
        (scansToEnd_renderFields spaces named fun field member =>
          hypothesis field member (level + 1))).toEnd

include spaces in
/-- A value is read back from its text. -/
theorem Plain.ofText?_render {value : JsonValue} (plain : value.Plain) (level : Nat) :
    ofText? (value.render style level) = some value := by
  have scanned : scan? ((value.render style level).toList ++ []) =
      some (value.tokens ++ []) :=
    plain.scansToEnd_render spaces level ends_nil rfl
  rw [List.append_nil, List.append_nil] at scanned
  rw [ofText?, scanned]
  exact plain.assemble?_tokens

end Documents
end JsonValue
end GraphSweep
