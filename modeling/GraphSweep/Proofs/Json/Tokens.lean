import GraphSweep.Json.Reader

/-!
# Tokens of values

A JSON value is spelled by a list of tokens. The second pass of reading puts the tokens
of a value in their places and has the value in hand after them, whatever arrays and
objects are open around it and whatever comes after.
-/

namespace GraphSweep
namespace JsonValue

/-- A value that text spells without loss: its numbers are whole and without a sign, and
its strings and the names of its fields are texts. -/
inductive Plain : JsonValue -> Prop
  | null : Plain .null
  | bool (value : Bool) : Plain (.bool value)
  | natural (value : Nat) : Plain (.natural value)
  | string (text : String) : Plain (.string (some text))
  | array
      {items : List JsonValue}
      (plain : ∀ item ∈ items, Plain item) :
      Plain (.array items)
  | object
      {fields : List (Option String × JsonValue)}
      (named : ∀ field ∈ fields, field.1.isSome = true)
      (plain : ∀ field ∈ fields, Plain field.2) :
      Plain (.object fields)

mutual

/-- The tokens that spell a value. -/
def tokens : JsonValue -> List JsonToken
  | null => [.scalar .null]
  | bool value => [.scalar (.bool value)]
  | natural value => [.scalar (.natural value)]
  | number spelling => [.scalar (.number spelling)]
  | string text => [.string text]
  | array items =>
      .openArray :: (List.intercalate [.comma] (itemTokens items) ++
        [.closeArray])
  | object fields =>
      .openObject :: (List.intercalate [.comma] (fieldTokens fields) ++
        [.closeObject])

/-- The tokens of each item of an array. -/
def itemTokens : List JsonValue -> List (List JsonToken)
  | [] => []
  | item :: rest => tokens item :: itemTokens rest

/-- The tokens of each field of an object. -/
def fieldTokens :
    List (Option String × JsonValue) -> List (List JsonToken)
  | [] => []
  | (key, value) :: rest =>
      (.string key :: .colon :: tokens value) :: fieldTokens rest

end

section Assembly

variable
  {stack next : List Frame}
  {expected following : Expected}
  {token : JsonToken}
  {rest : List JsonToken}

/-- A token that is accepted is put in its place. -/
theorem assemble?_cons
    (accepts : accept? stack expected token = some (next, following)) :
    assemble? stack expected (token :: rest) = assemble? next following rest := by
  rw [assemble?, accepts]
  rfl

/-- What is expected where a value may begin. -/
inductive Awaits : Expected -> Prop
  | value : Awaits .value
  | firstItem : Awaits .firstItem

/-- Reading the tokens of a value leaves the value in hand. -/
def Assembles (value : JsonValue) : Prop :=
  ∀ ⦃stack : List Frame⦄ ⦃expected : Expected⦄ ⦃rest : List JsonToken⦄,
    Awaits expected ->
      assemble? stack expected (value.tokens ++ rest) =
        assemble? stack (.after value) rest

/-- A token that may begin a value is accepted wherever a value may begin. -/
theorem assemble?_cons_of_awaits
    (accepts : accept? stack .value token = some (next, following))
    (alike : accept? stack .firstItem token = accept? stack .value token)
    (awaits : Awaits expected) :
    assemble? stack expected (token :: rest) = assemble? next following rest := by
  cases awaits with
  | value => exact assemble?_cons accepts
  | firstItem => exact assemble?_cons (alike.trans accepts)

/-- The items of an open array are put in it, up to its end. -/
theorem assemble?_items
    {item : JsonValue}
    {items reversed : List JsonValue}
    (assembles : ∀ other ∈ item :: items, Assembles other)
    (awaits : Awaits expected) :
    assemble? (.array reversed :: stack) expected
        (List.intercalate [.comma] (itemTokens (item :: items)) ++
          .closeArray :: rest) =
      assemble? stack (.after (.array (reversed.reverse ++ item :: items))) rest := by
  induction items generalizing item reversed expected with
  | nil =>
      rw [itemTokens, itemTokens, List.intercalate_singleton,
        assembles item List.mem_cons_self awaits, assemble?_cons rfl,
        List.reverse_cons]
  | cons second items hypothesis =>
      rw [itemTokens, itemTokens, List.intercalate_cons_cons, ← itemTokens,
        List.append_assoc, List.append_assoc,
        assembles item List.mem_cons_self awaits, List.singleton_append,
        assemble?_cons rfl, hypothesis (fun other member =>
          assembles other (List.mem_cons_of_mem item member)) .value,
        List.reverse_cons, List.append_assoc]
      rfl

/-- The fields of an open object are put in it, up to its end. -/
theorem assemble?_fields
    {field : Option String × JsonValue}
    {fields reversed : List (Option String × JsonValue)}
    (assembles : ∀ other ∈ field :: fields, Assembles other.2)
    (begins : ∀ key,
      accept? stack expected (.string key) = some (stack, .colon reversed key)) :
    assemble? stack expected
        (List.intercalate [.comma] (fieldTokens (field :: fields)) ++
          .closeObject :: rest) =
      assemble? stack (.after (.object (reversed.reverse ++ field :: fields)))
        rest := by
  induction fields generalizing field reversed expected with
  | nil =>
      obtain ⟨key, value⟩ := field
      rw [fieldTokens, fieldTokens, List.intercalate_singleton, List.cons_append,
        assemble?_cons (begins key), List.cons_append, assemble?_cons rfl,
        assembles (key, value) List.mem_cons_self .value, assemble?_cons rfl,
        List.reverse_cons]
  | cons second fields hypothesis =>
      obtain ⟨key, value⟩ := field
      obtain ⟨name, other⟩ := second
      have again (name : Option String) :
          accept? stack (.key ((key, value) :: reversed)) (.string name) =
            some (stack, .colon ((key, value) :: reversed) name) := rfl
      rw [fieldTokens, fieldTokens, List.intercalate_cons_cons, ← fieldTokens,
        List.append_assoc, List.append_assoc, List.cons_append,
        assemble?_cons (begins key), List.cons_append, assemble?_cons rfl,
        assembles (key, value) List.mem_cons_self .value, List.singleton_append,
        assemble?_cons rfl, hypothesis (fun field member =>
          assembles field (List.mem_cons_of_mem _ member)) again,
        List.reverse_cons, List.append_assoc]
      rfl

/-- The tokens of a value are read as the value. -/
theorem Plain.assembles {value : JsonValue} (plain : value.Plain) :
    Assembles value := by
  induction plain with
  | null => exact fun _ _ _ => assemble?_cons_of_awaits rfl rfl
  | bool value => exact fun _ _ _ => assemble?_cons_of_awaits rfl rfl
  | natural value => exact fun _ _ _ => assemble?_cons_of_awaits rfl rfl
  | string text => exact fun _ _ _ => assemble?_cons_of_awaits rfl rfl
  | @array items plain hypothesis =>
      intro stack expected rest awaits
      rw [tokens, List.cons_append, assemble?_cons_of_awaits rfl rfl awaits,
        List.append_assoc, List.singleton_append]
      cases items with
      | nil => exact assemble?_cons rfl
      | cons item items => exact assemble?_items hypothesis .firstItem
  | @object fields named plain hypothesis =>
      intro stack expected rest awaits
      rw [tokens, List.cons_append, assemble?_cons_of_awaits rfl rfl awaits,
        List.append_assoc, List.singleton_append]
      cases fields with
      | nil => exact assemble?_cons rfl
      | cons field fields =>
          have begins (key : Option String) :
              accept? stack (.firstKey []) (.string key) =
                some (stack, .colon [] key) := rfl
          exact assemble?_fields hypothesis begins

/-- A document of the tokens of a value is the value. -/
theorem Plain.assemble?_tokens {value : JsonValue} (plain : value.Plain) :
    assemble? [] .value value.tokens = some value := by
  have assembled : assemble? [] .value (value.tokens ++ []) =
      assemble? [] (.after value) [] := plain.assembles .value
  rw [List.append_nil] at assembled
  rw [assembled]
  rfl

end Assembly
end JsonValue
end GraphSweep
