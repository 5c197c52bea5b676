import Capability.Proofs.Json.Number
import Capability.Proofs.Json.Text
import Capability.Proofs.Keyed

/-!
# Reading scalars and lists

`Restores` says that a reader undoes a way of writing, in every layout and at every
depth of nesting.  Truth values, texts, numbers and named values are restored from
their written forms, and a list is restored if its items are.  The text of a list
is described with any white space around its brackets and commas, of which the
layouts are special cases.
-/

namespace Capability
namespace Json
namespace Reader

variable {α : Type} {rest : List Char}

/-- Reading undoes writing, whatever the layout and the depth. -/
def Restores (read : Reader α) (write : α → Value) : Prop :=
  ∀ layout depth value, Reads read ((write value).write layout depth) value

/-! ## Scalars -/

theorem opens_quotation (text : List Char) : Opens ('"' :: text) :=
  ⟨'"', text, rfl, by decide, by decide⟩

/-- Every spelling of a text is read as the text. -/
theorem text_reads {text spelling : List Char} (spelled : Spelled text spelling) :
    Reads Reader.text ('"' :: (spelling ++ ['"'])) (String.ofList text) := by
  refine ⟨opens_quotation _, fun blank rest isBlank _ => ?_⟩
  apply Consumes.settled
  apply Consumes.peekToken isBlank ((opens_quotation _).solid rest)
  exact stringToken_consumes spelled rest

theorem text_restores : Restores Reader.text .string := by
  intro layout depth text
  have reads := text_reads (spelled_flatMap_escape text.toList)
  rwa [String.ofList_toList] at reads

theorem boolean_restores : Restores Reader.boolean .boolean := by
  intro layout depth truth
  cases truth with
  | false =>
      refine ⟨⟨'f', _, rfl, by decide, by decide⟩, fun blank rest isBlank _ => ?_⟩
      apply Consumes.settled
      apply Consumes.peekToken isBlank rfl
      exact (knownWord_consumes rest rfl).bind_nil (.pure rest false)
  | true =>
      refine ⟨⟨'t', _, rfl, by decide, by decide⟩, fun blank rest isBlank _ => ?_⟩
      apply Consumes.settled
      apply Consumes.peekToken isBlank rfl
      exact (knownWord_consumes rest rfl).bind_nil (.pure rest true)

theorem size_restores : Restores size fun number => .integer number.toNat :=
  fun _ _ => size_reads

/-- The name of a named value is taken in every spelling. -/
theorem choiceName_consumes {name : α → String} {all : List α} (nodup : (all.map name).Nodup)
    {value : α} (member : value ∈ all) {spelling : List Char}
    (spelled : Spelled (name value).toList spelling) (rest : List Char) :
    Consumes (choiceName name all) ('"' :: (spelling ++ ['"'])) rest value := by
  apply Consumes.settled
  apply (stringToken_consumes spelled rest).bind_nil
  rw [String.ofList_toList, find?_key_of_mem nodup member]
  exact .pure rest value

/-- A named value is read from every spelling of its name. -/
theorem choice_reads {name : α → String} {all : List α} (nodup : (all.map name).Nodup) {value : α}
    (member : value ∈ all) {spelling : List Char} (spelled : Spelled (name value).toList spelling) :
    Reads (choice name all) ('"' :: (spelling ++ ['"'])) value := by
  refine ⟨opens_quotation _, fun blank rest isBlank _ => ?_⟩
  apply Consumes.peekToken isBlank ((opens_quotation _).solid rest)
  exact choiceName_consumes nodup member spelled rest

/-- Where all values are listed and their names differ, a value is restored from its name. -/
theorem choice_restores {name : α → String} {all : List α} (nodup : (all.map name).Nodup)
    (complete : ∀ value, value ∈ all) :
    Restores (choice name all) fun value => .string (name value) :=
  fun _ _ value => choice_reads nodup (complete value) (spelled_flatMap_escape _)

/-! ## Separators -/

/-- What may stand in front of an item or a member: white space, and a comma with
white space around it unless the item is the first one. -/
inductive Separated : (isFirst : Bool) → (gap : List Char) → Prop where
  | first {blank : List Char} : AllBlank blank → Separated true blank
  | next {before behind : List Char} :
      AllBlank before → AllBlank behind → Separated false (before ++ ',' :: behind)

theorem Separated.delimited {gap : List Char} (separated : Separated false gap)
    (rest : List Char) : Delimited (gap ++ rest) := by
  cases separated with
  | next blankBefore blankBehind =>
      rw [List.append_assoc]
      apply Delimited.append blankBefore
      intro c found
      cases found
      decide

/-- In front of an item the gap is taken and the item is announced. -/
theorem anotherItem_consumes {isFirst : Bool} {gap text : List Char}
    (separated : Separated isFirst gap) (opens : Opens text) (rest : List Char) :
    Consumes (anotherItem isFirst) gap (text ++ rest) true := by
  have solid := opens.solid rest
  rcases opens with ⟨c, more, rfl, _, noEnd⟩
  cases separated with
  | first isBlank =>
      apply Consumes.peekBlank isBlank solid
      simp only [List.cons_append, List.head?_cons, if_true]
      exact .pure _ true
  | next blankBefore blankBehind =>
      apply Consumes.peekToken blankBefore rfl
      simp only [List.cons_append, List.head?_cons, Bool.false_eq_true, if_false]
      apply Consumes.advanced
      apply Consumes.peekBlank blankBehind solid
      simp only [List.cons_append, List.head?_cons]
      exact .pure _ true

theorem anotherItem_consumes_end (isFirst : Bool) {blank : List Char} (isBlank : AllBlank blank)
    (rest : List Char) : Consumes (anotherItem isFirst) blank (']' :: rest) false :=
  .peekBlank isBlank rfl (.pure _ false)

theorem listEnd_consumes (rest : List Char) : Consumes listEnd [']'] rest () :=
  .peekToken allBlank_nil rfl (.advance ']' rest)

/-! ## Lists -/

/-- The text between the brackets of a list, from the first item on or from behind
an item. -/
inductive Items (item : Reader α) : (isFirst : Bool) → (text : List Char) → List α → Prop where
  | done {isFirst : Bool} {blank : List Char} : AllBlank blank → Items item isFirst blank []
  | item {isFirst : Bool} {gap text more : List Char} {value : α} {values : List α} :
      Separated isFirst gap → Reads item text value → Items item false more values →
      Items item isFirst (gap ++ (text ++ more)) (value :: values)

namespace Items

variable {item : Reader α} {isFirst : Bool} {text : List Char} {values : List α}

theorem delimited (items : Items item false text values) (rest : List Char) :
    Delimited (text ++ ']' :: rest) := by
  cases items with
  | done isBlank =>
      apply Delimited.append isBlank
      intro c found
      cases found
      decide
  | item separated _ _ =>
      rw [List.append_assoc]
      exact separated.delimited _

theorem length_le (items : Items item isFirst text values) : values.length ≤ text.length := by
  induction items with
  | done _ => exact Nat.zero_le _
  | item _ reads _ inductionHypothesis =>
      have positive := reads.opens.length_pos
      simp only [List.length_append, List.length_cons]
      omega

/-- The items are read in their order, behind those that were read before. -/
theorem consumes (items : Items item isFirst text values) (fuel : Nat)
    (enough : values.length < fuel) (read : List α) (start : read.isEmpty = isFirst)
    (rest : List Char) :
    Consumes (Reader.items item fuel read) text (']' :: rest) (read.reverse ++ values) := by
  -- What was read before only decides whether a comma is due, and grows along the way.
  induction items generalizing fuel read with
  | done isBlank =>
      rcases Nat.exists_eq_succ_of_ne_zero (Nat.ne_zero_of_lt enough) with ⟨fuel, rfl⟩
      rw [List.append_nil]
      exact (anotherItem_consumes_end _ isBlank rest).bind_nil (.pure _ _)
  | @item isFirst gap text more value values separated reads others inductionHypothesis =>
      rcases Nat.exists_eq_succ_of_ne_zero (Nat.ne_zero_of_lt enough) with ⟨fuel, rfl⟩
      have announced := anotherItem_consumes separated reads.opens (more ++ ']' :: rest)
      have taken := reads.consumes [] (more ++ ']' :: rest) allBlank_nil (others.delimited rest)
      have later := inductionHypothesis fuel (Nat.lt_of_succ_lt_succ enough) (value :: read) rfl
      rw [List.reverse_cons, List.append_assoc, List.singleton_append] at later
      rw [Reader.items, start]
      rw [← List.append_assoc] at announced
      exact announced.bind (taken.bind later)

end Items

/-- The text of a list is read as the list of the values that its items are read as. -/
theorem list_reads {item : Reader α} {text : List Char} {values : List α}
    (items : Items item true text values) :
    Reads (list item) ('[' :: (text ++ [']'])) values := by
  have opens : Opens ('[' :: (text ++ [']'])) := ⟨'[', _, rfl, by decide, by decide⟩
  refine ⟨opens, fun blank rest isBlank _ => ?_⟩
  have enough : values.length < (text ++ ']' :: rest).length + 1 := by
    rw [List.length_append]
    have bound := items.length_le
    omega
  have content := items.consumes _ enough [] rfl rest
  apply Consumes.settled
  apply Consumes.peekToken isBlank (opens.solid rest)
  apply Consumes.advanced
  apply Consumes.bracketed _ (listEnd_consumes rest)
  exact .remaining content

/-! ## Written lists -/

theorem allBlank_newline (layout : Layout) (depth : Nat) : AllBlank (layout.newline depth) := by
  rcases layout with ⟨_ | width⟩
  · exact allBlank_nil
  · intro c member
    cases List.mem_cons.mp member with
    | inl isNewline =>
        subst c
        decide
    | inr isSpace =>
        rw [List.eq_of_mem_replicate isSpace]
        decide

/-- The comma in front of every written item but the first begins a new line. -/
theorem separated_comma (layout : Layout) (depth : Nat) :
    Separated false (',' :: layout.newline depth) :=
  .next allBlank_nil (allBlank_newline layout depth)

variable {item : Reader α} {write : α → Value}

/-- The written items behind the first are items between brackets. -/
theorem items_write (restores : Restores item write) (layout : Layout) (depth : Nat)
    (values : List α) {blank : List Char} (isBlank : AllBlank blank) :
    Items item false (Value.writeItems layout depth (values.map write) ++ blank) values := by
  induction values with
  | nil => exact .done isBlank
  | cons value values inductionHypothesis =>
      have text : Value.writeItems layout depth ((value :: values).map write) ++ blank =
          (',' :: layout.newline depth) ++ ((write value).write layout depth ++
            (Value.writeItems layout depth (values.map write) ++ blank)) := by
        simp only [List.map_cons, Value.writeItems, List.append_assoc, List.cons_append]
      rw [text]
      exact .item (separated_comma layout depth) (restores layout depth value) inductionHypothesis

theorem list_restores (restores : Restores item write) :
    Restores (list item) fun values => .array (values.map write) := by
  intro layout depth values
  cases values with
  | nil => exact list_reads (.done allBlank_nil)
  | cons value values =>
      have text : (Value.array ((value :: values).map write)).write layout depth =
          '[' :: ((layout.newline (depth + 1) ++ ((write value).write layout (depth + 1) ++
            (Value.writeItems layout (depth + 1) (values.map write) ++ layout.newline depth)))
            ++ [']']) := by
        simp only [List.map_cons, Value.write, List.append_assoc, List.cons_append]
      rw [text]
      exact list_reads (.item (.first (allBlank_newline layout _)) (restores layout _ value)
        (items_write restores layout _ values (allBlank_newline layout depth)))

end Reader
end Json
end Capability
