import Capability.Proofs.Json.Account
import Mathlib.Data.List.Nodup
import Mathlib.Data.List.Pairwise

/-!
# Layouts

A value can be laid out in many texts.  White space may stand between tokens, and
characters between quotation marks may be escaped; one of several named values is given by
its name, or by an object that binds the name to `null`; and a record is an object with
its fields in any order, between members that are no fields of it, or a list of its fields
in their order.  Which texts these are is said here without regard to any reader, and all
of them are read as the value.

What the fields of a record change in it does not depend on their order, since each sets a
part of its own.
-/

namespace Capability
namespace Json

open Reader

/-! ## Texts that stand for a value -/

/-- A truth value is written as a word. -/
def BooleanText (truth : Bool) (text : List Char) : Prop :=
  text = if truth then "true".toList else "false".toList

/-- A text is written between quotation marks, in any of its spellings. -/
inductive StringText (value : String) : List Char → Prop where
  | intro {body : List Char} : Spelled value.toList body → StringText value (inQuotes body)

/-- A natural number is written in decimal digits. -/
def SizeText (number : UInt64) (text : List Char) : Prop := text = digits number.toNat

/-- A named value is written as its name, or as an object that binds the name to `null`. -/
inductive ChoiceText {α : Type} (label : α → String) (value : α) : List Char → Prop where
  | name {text : List Char} : StringText (label value) text → ChoiceText label value text
  | object {text body : List Char} :
      Derives (.members true [(body, "null".toList)]) text → Spelled (label value).toList body →
      ChoiceText label value ('\x7b' :: (text ++ ['\x7d']))

/-- A list is written as the texts of its items. -/
inductive ListText {α : Type} (form : α → List Char → Prop) (values : List α) :
    List Char → Prop where
  | intro {text : List Char} {texts : List (List Char)} :
      Derives (.items true texts) text → List.Forall₂ form values texts →
      ListText form values ('[' :: (text ++ [']']))

theorem BooleanText.derives {truth : Bool} {text : List Char} (isText : BooleanText truth text) :
    Derives .value text :=
  isText ▸ .boolean truth

theorem StringText.derives {value : String} {text : List Char} (isText : StringText value text) :
    Derives .value text := by
  cases isText with
  | intro spelled => exact .string spelled.isBody

theorem SizeText.derives {number : UInt64} {text : List Char} (isText : SizeText number text) :
    Derives .value text :=
  isText ▸ derives_digits number.toNat

theorem ChoiceText.derives {α : Type} {label : α → String} {value : α} {text : List Char}
    (isText : ChoiceText label value text) : Derives .value text := by
  cases isText with
  | name isName => exact isName.derives
  | object derives _ => exact .object derives

theorem ListText.derives {α : Type} {form : α → List Char → Prop} {values : List α}
    {text : List Char} (isText : ListText form values text) : Derives .value text := by
  cases isText with
  | intro derives _ => exact .list derives

/-! ## Texts that stand for a record -/

/-- A field of a record at hand: its name, and the texts that stand for its value. -/
structure Entry where
  name : String
  stands : List Char → Prop
  derives : ∀ {text : List Char}, stands text → Derives .value text

/-- A record is written as an object in which each field stands once, or as a list of the fields
in their order. -/
inductive RecordText (entries : List Entry) : List Char → Prop where
  | object {text : List Char} {members : List (List Char × List Char)}
      {named : List (String × List Char)} :
      Derives (.members true members) text → Named members named →
      (∀ entry ∈ entries, occurrences entry.name named = 1) →
      (∀ entry ∈ entries, ∀ content, (entry.name, content) ∈ named → entry.stands content) →
      RecordText entries ('\x7b' :: (text ++ ['\x7d']))
  | list {text : List Char} {texts : List (List Char)} :
      Derives (.items true texts) text → List.Forall₂ Entry.stands entries texts →
      RecordText entries ('[' :: (text ++ [']']))

theorem RecordText.derives {entries : List Entry} {text : List Char}
    (isText : RecordText entries text) : Derives .value text := by
  cases isText with
  | object derives _ _ _ => exact .object derives
  | list derives _ => exact .list derives

namespace Entry

def boolean (name : String) (truth : Bool) : Entry := ⟨name, BooleanText truth, BooleanText.derives⟩

def string (name value : String) : Entry := ⟨name, StringText value, StringText.derives⟩

def size (name : String) (number : UInt64) : Entry := ⟨name, SizeText number, SizeText.derives⟩

def choice {α : Type} (label : α → String) (name : String) (value : α) : Entry :=
  ⟨name, ChoiceText label value, ChoiceText.derives⟩

def list {α : Type} (form : α → List Char → Prop) (name : String) (values : List α) : Entry :=
  ⟨name, ListText form values, ListText.derives⟩

def record (name : String) (entries : List Entry) : Entry :=
  ⟨name, RecordText entries, RecordText.derives⟩

end Entry

/-- Fields stand for a record in an object in whichever order they come, and whatever members stand
between them that are no fields of it. -/
theorem recordText_of_perm {entries : List Entry} {text : List Char}
    {members : List (List Char × List Char)} {named others : List (String × List Char)}
    {contents : List (List Char)} (nodup : (entries.map (·.name)).Nodup)
    (derives : Derives (.members true members) text) (areNamed : Named members named)
    (stand : List.Forall₂ Entry.stands entries contents)
    (foreign : ∀ member ∈ others, member.1 ∉ entries.map (·.name))
    (permutation : named.Perm ((entries.map (·.name)).zip contents ++ others)) :
    RecordText entries ('\x7b' :: (text ++ ['\x7d'])) := by
  have lengths : (entries.map (·.name)).length ≤ contents.length := by
    rw [List.length_map]
    exact Nat.le_of_eq stand.length_eq
  refine .object derives areNamed ?once ?stands
  case once =>
    intro entry member
    have listed : entry.name ∈ entries.map (·.name) := List.mem_map_of_mem member
    have absent : entry.name ∉ others.map (·.1) := by
      intro isOther
      rcases List.mem_map.mp isOther with ⟨other, otherListed, same⟩
      exact foreign other otherListed (same ▸ listed)
    rw [occurrences, (permutation.map _).count_eq, List.map_append, List.map_fst_zip lengths,
      List.count_append, List.count_eq_one_of_mem nodup listed, List.count_eq_zero_of_not_mem absent]
  case stands =>
    intro entry member content listed
    rcases List.mem_append.mp (permutation.mem_iff.mp listed) with isField | isOther
    · rw [List.zip_map_left, List.mem_map] at isField
      rcases isField with ⟨⟨other, text⟩, paired, same⟩
      have sameName : other.name = entry.name := congrArg Prod.fst same
      have sameText : text = content := congrArg Prod.snd same
      cases List.inj_on_of_nodup_map nodup (List.of_mem_zip paired).1 member sameName
      exact sameText ▸ List.forall₂_zip stand paired
    · exact absurd (List.mem_map_of_mem member) (foreign _ isOther)

/-! ## Texts without white space -/

/-- What stands for values is well formed if all that stands for one value is. -/
theorem derives_of_stand {α : Type} {form : α → List Char → Prop}
    (derives : ∀ value text, form value text → Derives .value text) {values : List α}
    {texts : List (List Char)} (stand : List.Forall₂ form values texts) :
    ∀ text ∈ texts, Derives .value text := by
  induction stand with
  | nil => exact nofun
  | cons stands _ inductionHypothesis =>
      exact List.forall_mem_cons.mpr ⟨derives _ _ stands, inductionHypothesis⟩

theorem named_writtenNames (named : List (String × List Char)) :
    Named (writtenNames named) named := by
  induction named with
  | nil => exact .nil
  | cons member named inductionHypothesis =>
      exact .cons ⟨spelled_flatMap_escape _, rfl⟩ inductionHypothesis

theorem stringText_quoted (text : String) : StringText text (quoted text) :=
  .intro (spelled_flatMap_escape text.toList)

theorem listText_joinedList {α : Type} {form : α → List Char → Prop}
    (derives : ∀ value text, form value text → Derives .value text) {values : List α}
    {texts : List (List Char)} (stand : List.Forall₂ form values texts) :
    ListText form values (joinedList texts) :=
  .intro (derives_joinItems (derives_of_stand derives stand) true) stand

theorem recordText_joinedList {entries : List Entry} {contents : List (List Char)}
    (stand : List.Forall₂ Entry.stands entries contents) :
    RecordText entries (joinedList contents) :=
  .list (derives_joinItems (derives_of_stand (fun entry _ => entry.derives) stand) true) stand

theorem choiceText_joinedObject {α : Type} (label : α → String) (value : α) :
    ChoiceText label value (joinedObject [(label value, "null".toList)]) := by
  have null : ∀ member ∈ [(label value, "null".toList)], Derives .value member.2 :=
    List.forall_mem_singleton.mpr .null
  exact .object (derives_joinMembers null true) (spelled_flatMap_escape _)

/-! ## Scalars -/

namespace Reader

theorem boolean_reads {truth : Bool} {text : List Char} (form : BooleanText truth text) :
    Reads boolean text truth := by
  cases form
  exact boolean_restores .compact 0 truth

theorem string_reads {value : String} {text : List Char} (form : StringText value text) :
    Reads Reader.text text value := by
  cases form with
  | intro spelled =>
      have reads := text_reads spelled
      rwa [String.ofList_toList] at reads

variable {α : Type} {label : α → String} {all : List α} {value : α}

theorem choice_reads_form (nodup : (all.map label).Nodup) (member : value ∈ all)
    {text : List Char} (form : ChoiceText label value text) :
    Reads (choice label all) text value := by
  cases form with
  | name form =>
      cases form with
      | intro spelled => exact choice_reads nodup member spelled
  | @object text body derives spelled =>
      refine ⟨⟨'\x7b', _, rfl, by decide, by decide⟩, fun blank rest isBlank _ => ?_⟩
      cases derives with
      | @member _ gap body before between content more _ separated _ blankBefore blankBetween _
          further =>
          cases separated with
          | first blankGap =>
              cases further with
              | noMember blankMore =>
                  have nothing : ∀ rest, Consumes unit (between ++ "null".toList) rest () :=
                    fun rest => .settled (.peekToken blankBetween rfl (knownWord_consumes rest rfl))
                  have key : ∀ rest, Consumes (choiceKey label all) (gap ++ inQuotes body) rest value :=
                    fun rest => .peekToken blankGap rfl (choiceName_consumes nodup member spelled rest)
                  have parts : gap ++ (inQuotes body ++ (before ++ ':' :: (between ++
                      ("null".toList ++ more)))) ++ ['\x7d'] = (gap ++ inQuotes body) ++
                        ((before ++ [':']) ++ ((between ++ "null".toList) ++ (more ++ ['\x7d']))) := by
                    simp only [List.append_assoc, List.cons_append, List.nil_append]
                  rw [parts]
                  apply Consumes.peekToken isBlank rfl
                  apply Consumes.advanced
                  apply (key _).bind
                  apply (colon_consumes blankBefore _).bind
                  apply (nothing _).bind
                  exact .peekToken blankMore rfl (.advanced (.pure rest value))

/-! ## Lists -/

/-- The items of a list are read one by one. -/
theorem items_of_derives {item : Reader α} {form : α → List Char → Prop}
    (reads : ∀ value text, form value text → Reads item text value) {isFirst : Bool}
    {text : List Char} {texts : List (List Char)} (derives : Derives (.items isFirst texts) text)
    {values : List α} (stand : List.Forall₂ form values texts) :
    Items item isFirst text values := by
  induction stand generalizing isFirst text with
  | nil =>
      cases derives with
      | noItem isBlank => exact .done isBlank
  | cons stands _ inductionHypothesis =>
      cases derives with
      | item separated _ further =>
          exact .item separated (reads _ _ stands) (inductionHypothesis further)

theorem list_reads_form {item : Reader α} {form : α → List Char → Prop}
    (reads : ∀ value text, form value text → Reads item text value) {values : List α}
    {text : List Char} (isText : ListText form values text) : Reads (list item) text values := by
  cases isText with
  | intro derives stand => exact list_reads (items_of_derives reads derives stand)

end Reader

/-! ## Fields in any order -/

/-- A field of a record at hand, with what reading its value changes in a record. -/
structure Part (ρ : Type) where
  field : Field ρ
  entry : Entry
  change : ρ → ρ
  name_eq : field.name = entry.name
  reads : ∀ text, entry.stands text → Reads field.read text change

namespace Part

variable {ρ : Type}

/-- Parts change a record one after the other. -/
def apply (parts : List (Part ρ)) (record : ρ) : ρ :=
  parts.foldl (fun record part => part.change record) record

/-- Neither of two parts undoes what the other has changed. -/
def Apart (first second : Part ρ) : Prop :=
  ∀ record, second.change (first.change record) = first.change (second.change record)

/-- The order of parts that are set apart does not matter. -/
theorem apply_perm {parts order : List (Part ρ)} (apart : parts.Pairwise Apart)
    (permutation : parts.Perm order) (record : ρ) : apply parts record = apply order record := by
  apply permutation.foldl_eq'
  intro first firstListed second secondListed record
  have symmetric : Std.Symm (@Apart ρ) := ⟨fun _ _ apart record => (apart record).symm⟩
  exact apart.forall_of_forall (fun _ _ _ => rfl) firstListed secondListed record

/-- The parts of a record of which the names are not among those seen. -/
def unseen (seen : List String) (parts : List (Part ρ)) : List (Part ρ) :=
  parts.filter fun part => !seen.contains part.entry.name

/-- One part more is seen. -/
theorem unseen_perm_cons {parts : List (Part ρ)} (nodup : (parts.map (·.entry.name)).Nodup)
    {part : Part ρ} (member : part ∈ parts) {seen : List String} (new : part.entry.name ∉ seen) :
    (unseen seen parts).Perm (part :: unseen (part.entry.name :: seen) parts) := by
  have listNodup : ∀ seen, (unseen seen parts).Nodup := fun seen =>
    (List.Nodup.of_map _ nodup).filter _
  have inUnseen : ∀ seen other, other ∈ unseen seen parts ↔
      other ∈ parts ∧ other.entry.name ∉ seen := by
    intro seen other
    rw [unseen, List.mem_filter, Bool.not_eq_true', ← Bool.not_eq_true, List.contains_iff_mem]
  have notAgain : part ∉ unseen (part.entry.name :: seen) parts := fun again =>
    ((inUnseen _ part).mp again).2 List.mem_cons_self
  rw [List.perm_ext_iff_of_nodup (listNodup seen) (List.nodup_cons.mpr ⟨notAgain, listNodup _⟩)]
  intro other
  rw [inUnseen, List.mem_cons, inUnseen, List.mem_cons, not_or]
  constructor
  · rintro ⟨listed, otherNew⟩
    by_cases same : other.entry.name = part.entry.name
    · exact .inl (List.inj_on_of_nodup_map nodup listed member same)
    · exact .inr ⟨listed, same, otherNew⟩
  · rintro (rfl | ⟨listed, _, otherNew⟩)
    · exact ⟨member, new⟩
    · exact ⟨listed, otherNew⟩

/-- Members are still to come in which every part stands once that has not been seen, and no other
part stands. -/
structure Pending (parts : List (Part ρ)) (seen : List String) (named : List (String × List Char)) :
    Prop where
  once : ∀ part ∈ parts, occurrences part.entry.name named =
    if part.entry.name ∈ seen then 0 else 1
  stands : ∀ part ∈ parts, ∀ content, (part.entry.name, content) ∈ named →
    part.entry.stands content

namespace Pending

variable {parts : List (Part ρ)} {seen : List String} {named : List (String × List Char)}
  {name : String} {content : List Char}

theorem all_seen (pending : Pending parts seen []) : ∀ part ∈ parts, part.entry.name ∈ seen := by
  intro part member
  by_contra new
  have none := pending.once part member
  rw [if_neg new] at none
  cases none

theorem unseen_eq_nil (pending : Pending parts seen []) : unseen seen parts = [] :=
  List.filter_eq_nil_iff.mpr fun part member => by simp [pending.all_seen part member]

/-- A member that is no part counts for nothing. -/
theorem behind_other (pending : Pending parts seen ((name, content) :: named))
    (absent : ∀ part ∈ parts, part.entry.name ≠ name) : Pending parts seen named := by
  constructor
  case once =>
    intro part member
    rw [← pending.once part member, occurrences_cons, if_neg (absent part member).symm,
      Nat.add_zero]
  case stands =>
    exact fun part member content listed =>
      pending.stands part member content (List.mem_cons_of_mem _ listed)

variable {part : Part ρ}

theorem new (pending : Pending parts seen ((part.entry.name, content) :: named))
    (member : part ∈ parts) : part.entry.name ∉ seen := by
  intro old
  have count := pending.once part member
  rw [occurrences_cons, if_pos rfl, if_pos old] at count
  cases count

/-- Behind a part this part has been seen. -/
theorem behind (pending : Pending parts seen ((part.entry.name, content) :: named))
    (member : part ∈ parts) : Pending parts (part.entry.name :: seen) named := by
  have new := pending.new member
  constructor
  case once =>
    intro other otherMember
    have count := pending.once other otherMember
    rw [occurrences_cons] at count
    by_cases same : part.entry.name = other.entry.name
    · rw [if_pos same, if_neg (same ▸ new)] at count
      rw [if_pos (List.mem_cons.mpr (.inl same.symm))]
      exact Nat.succ.inj count
    · rw [if_neg same, Nat.add_zero] at count
      rw [count]
      simp [Ne.symm same]
  case stands =>
    exact fun other otherMember content listed =>
      pending.stands other otherMember content (List.mem_cons_of_mem _ listed)

end Pending

end Part

namespace Shape

variable {ρ : Type} {shape : Shape ρ} {parts : List (Part ρ)}

theorem name_of_field? {name : String} {field : Field ρ}
    (found : shape.field? name = some field) : field.name = name := by
  rw [field?] at found
  have named := List.find?_some found
  exact beq_iff_eq.mp named

/-- Members in which every part that has not been seen stands once are read in their order. -/
theorem exists_members (fields : parts.map (·.field) = shape.fields)
    (nodup : (shape.fields.map (·.name)).Nodup) {isFirst : Bool} {text : List Char}
    {members : List (List Char × List Char)} {named : List (String × List Char)}
    (derives : Derives (.members isFirst members) text) (areNamed : Named members named)
    {seen : List String} (pending : Part.Pending parts seen named) :
    ∃ order, (Part.unseen seen parts).Perm order ∧
      Members shape isFirst seen text (Part.apply order) := by
  have names : parts.map (·.entry.name) = shape.fields.map (·.name) := by
    rw [← fields, List.map_map]
    exact List.map_congr_left fun part _ => part.name_eq.symm
  -- The names seen grow with each member, and what is unseen shrinks by the part that is read.
  induction areNamed generalizing isFirst text seen with
  | nil =>
      cases derives with
      | noMember isBlank =>
          have missing : shape.missing? seen = none := by
            refine List.find?_eq_none.mpr fun field member => ?_
            rw [← fields] at member
            rcases List.mem_map.mp member with ⟨part, listed, rfl⟩
            simp [part.name_eq, pending.all_seen part listed]
          refine ⟨[], ?_, .done isBlank missing⟩
          rw [pending.unseen_eq_nil]
  | @cons first named members others spelled _ inductionHypothesis =>
      rcases named with ⟨name, content⟩
      rcases spelled with ⟨spelled, same⟩
      cases derives with
      | @member _ gap body before between text more _ separated isBody blankBefore blankBetween
          value further =>
          cases same
          have label : Announces name ('"' :: (body ++ ['"']) ++ (before ++ ':' :: between)) :=
            .intro spelled blankBefore blankBetween
          have pieces : gap ++ (inQuotes body ++ (before ++ ':' :: (between ++ (content ++ more)))) =
              gap ++ (('"' :: (body ++ ['"']) ++ (before ++ ':' :: between)) ++ (content ++ more)) := by
            simp only [inQuotes, List.append_assoc, List.cons_append]
          rw [pieces]
          cases found : shape.field? name with
          | none =>
              have absent : ∀ part ∈ parts, part.entry.name ≠ name := by
                intro part member same
                have listed : part.field ∈ shape.fields := fields ▸ List.mem_map_of_mem member
                have named : part.field.name = name := part.name_eq.trans same
                exact List.find?_eq_none.mp found part.field listed (beq_iff_eq.mpr named)
              rcases inductionHypothesis further (pending.behind_other absent) with
                ⟨order, permutation, read⟩
              exact ⟨order, permutation, .unknown separated label found (skipValue_reads value) read⟩
          | some field =>
              have listed : field ∈ shape.fields := List.mem_of_find?_eq_some found
              rw [← fields] at listed
              rcases List.mem_map.mp listed with ⟨part, member, rfl⟩
              rcases part.name_eq.symm.trans (name_of_field? found) with rfl
              have new := pending.new member
              have reads := part.reads content (pending.stands part member content List.mem_cons_self)
              rcases inductionHypothesis further (pending.behind member) with
                ⟨order, permutation, read⟩
              have unseen := Part.unseen_perm_cons (names ▸ nodup) member new
              exact ⟨part :: order, unseen.trans (permutation.cons part),
                .known separated label found new reads read⟩

/-- Parts are read from a list of their values in their order. -/
theorem positional_consumes (shape : Shape ρ) (parts : List (Part ρ)) {isFirst : Bool} {text : List Char}
    {texts : List (List Char)} (derives : Derives (.items isFirst texts) text)
    (stand : List.Forall₂ Entry.stands (parts.map (·.entry)) texts) (count : Nat)
    (start : (count == 0) = isFirst) (record : ρ) (rest : List Char) :
    ∃ blank, AllBlank blank ∧ ∃ front, text = front ++ blank ∧
      Consumes (shape.positional (parts.map (·.field)) count record) front
        (blank ++ ']' :: rest) (Part.apply parts record) := by
  induction parts generalizing isFirst text texts count record with
  | nil =>
      cases stand
      cases derives with
      | noItem isBlank => exact ⟨text, isBlank, [], rfl, .pure _ record⟩
  | cons part parts inductionHypothesis =>
      cases stand with
      | @cons _ first _ others stands stand =>
          cases derives with
          | @item _ gap _ more _ separated value further =>
              have reads := part.reads first stands
              rcases inductionHypothesis further stand (count + 1) rfl (part.change record) with
                ⟨blank, isBlank, front, rfl, later⟩
              have announced := anotherItem_consumes separated value.opens
                (front ++ (blank ++ ']' :: rest))
              have delimited := further.items_delimited rest
              rw [List.append_assoc] at delimited
              have taken := reads.consumes [] _ allBlank_nil delimited
              refine ⟨blank, isBlank, gap ++ (first ++ front), ?_, ?_⟩
              · simp only [List.append_assoc]
              · rw [List.map_cons, positional, start]
                rw [← List.append_assoc] at announced
                exact announced.bind (taken.bind later)

/-- A record is read from every text in which its parts stand, and the parts make up the record. -/
theorem reads_of_parts (fields : parts.map (·.field) = shape.fields)
    (nodup : (shape.fields.map (·.name)).Nodup) (apart : parts.Pairwise Part.Apart) {record : ρ}
    (restored : Part.apply parts shape.blank = record) {text : List Char}
    (isText : RecordText (parts.map (·.entry)) text) : Reads shape.read text record := by
  cases isText with
  | @object text members named derives areNamed once stand =>
      have pending : Part.Pending parts [] named := by
        constructor
        case once =>
          intro part member
          rw [if_neg List.not_mem_nil]
          exact once part.entry (List.mem_map_of_mem member)
        case stands =>
          exact fun part member => stand part.entry (List.mem_map_of_mem member)
      rcases exists_members fields nodup derives areNamed pending with
        ⟨order, permutation, members⟩
      have all : Part.unseen [] parts = parts := List.filter_eq_self.mpr fun _ _ => rfl
      rw [all] at permutation
      rw [← restored, Part.apply_perm apart permutation]
      exact reads_of_members members
  | @list text texts derives stand =>
      refine ⟨⟨'[', _, rfl, by decide, by decide⟩, fun blank rest isBlank _ => ?_⟩
      rcases positional_consumes shape parts derives stand 0 rfl shape.blank rest with
        ⟨left, isBlankLeft, front, rfl, consumes⟩
      rw [fields, restored] at consumes
      have ending : Consumes listEnd (left ++ [']']) rest () :=
        .peekToken isBlankLeft rfl (.advance ']' rest)
      apply Consumes.settled
      apply Consumes.peekToken isBlank rfl
      apply Consumes.advanced
      rw [List.append_assoc]
      apply Consumes.bracketed _ ending
      rwa [List.append_assoc]

/-! ## From the fields of a shape to its parts -/

/-- The fields of a shape with the entries for them in a record, and what reading them changes. -/
inductive Composes : List (Field ρ) → List Entry → List (ρ → ρ) → Prop where
  | nil : Composes [] [] []
  | cons {field : Field ρ} {entry : Entry} {change : ρ → ρ} {fields : List (Field ρ)}
      {entries : List Entry} {changes : List (ρ → ρ)} :
      field.name = entry.name → (∀ text, entry.stands text → Reads field.read text change) →
      Composes fields entries changes →
      Composes (field :: fields) (entry :: entries) (change :: changes)

theorem Composes.field {α : Type} {form : α → List Char → Prop} {read : Reader α}
    (reads : ∀ value text, form value text → Reads read text value) {write : α → Value}
    {name : String} {get : ρ → α} {set : α → ρ → ρ} {value : α}
    {derives : ∀ {text}, form value text → Derives .value text} {fields : List (Field ρ)}
    {entries : List Entry} {changes : List (ρ → ρ)} (others : Composes fields entries changes) :
    Composes (.of write read name get set :: fields) (⟨name, form value, derives⟩ :: entries)
      (set value :: changes) :=
  .cons rfl (fun text stands => (reads value text stands).map set) others

theorem Composes.exists_parts {fields : List (Field ρ)} {entries : List Entry}
    {changes : List (ρ → ρ)} (composes : Composes fields entries changes) :
    ∃ parts : List (Part ρ), parts.map (·.field) = fields ∧ parts.map (·.entry) = entries ∧
      parts.map (·.change) = changes := by
  induction composes with
  | nil => exact ⟨[], rfl, rfl, rfl⟩
  | cons name_eq reads _ inductionHypothesis =>
      rcases inductionHypothesis with ⟨parts, rfl, rfl, rfl⟩
      exact ⟨⟨_, _, _, name_eq, reads⟩ :: parts, rfl, rfl, rfl⟩

/-- What stands for the fields of a record makes it up, in whichever order the fields are read: the
changes for them do not depend on each other, and together they lead to the record. -/
def MakesUp (shape : Shape ρ) (entries : List Entry) (record : ρ) : Prop :=
  ∃ changes, Composes shape.fields entries changes ∧
    (changes.Pairwise fun first second => ∀ record, second (first record) = first (second record)) ∧
    changes.foldl (fun record change => change record) shape.blank = record

/-- A record is read from every text that is written for its entries. -/
theorem MakesUp.reads {entries : List Entry} {record : ρ} (makesUp : shape.MakesUp entries record)
    (nodup : (shape.fields.map (·.name)).Nodup) {text : List Char}
    (isText : RecordText entries text) : Reads shape.read text record := by
  rcases makesUp with ⟨changes, composes, apart, restored⟩
  rcases composes.exists_parts with ⟨parts, fields, rfl, rfl⟩
  rw [List.pairwise_map] at apart
  rw [List.foldl_map] at restored
  exact reads_of_parts fields nodup apart restored isText

end Shape

end Json
end Capability
