import Capability.Proofs.Json.Exactness
import Mathlib.Data.List.Forall2

/-!
# What has to stand in a record that is read

A record is read only if each of its fields stands once in an object, or if a list holds a
value for each of them, and if no value of a field is refused.  Since readers stop behind
the value that they read, this can be told from the texts between the separators, whatever
else stands among them: members that are no fields count for nothing, and a flaw in one
part cannot be made up for by another.

A list of which one item is refused is refused itself, and so is a record with a flaw, at
every depth.
-/

namespace Capability
namespace Json

open Reader

namespace Reader

variable {α : Type}

/-- The reader gives no value for the text, wherever it stands. -/
def Refuses (read : Reader α) (text : List Char) : Prop :=
  ∀ blank rest, AllBlank blank → Delimited rest →
    Yields read (blank ++ (text ++ rest)) fun _ _ => False

/-- A value that is read is not refused, and nothing behind it is taken. -/
theorem Exact.yields {read : Reader α} (exact : Exact read) {text blank rest : List Char}
    (derives : Derives .value text) (isBlank : AllBlank blank) (delimited : Delimited rest) :
    Yields read (blank ++ (text ++ rest)) fun _ behind => behind = rest ∧ ¬Refuses read text :=
  fun offset value stopped done =>
    ⟨exact text derives blank rest isBlank delimited offset value stopped done,
      fun refuses => refuses blank rest isBlank delimited offset value stopped done⟩

theorem Exact.map {β : Type} {read : Reader α} (exact : Exact read) (change : α → β) :
    Exact (change <$> read) := fun text derives blank rest isBlank delimited =>
  (exact text derives blank rest isBlank delimited).map change fun _ _ same => same

theorem Refuses.map {β : Type} {read : Reader α} {text : List Char} (refuses : Refuses read text)
    (change : α → β) : Refuses (change <$> read) text := fun blank rest isBlank delimited =>
  (refuses blank rest isBlank delimited).map change fun _ _ impossible => impossible

/-! ## Lists -/

variable {item : Reader α}

/-- Items that are read are read one by one, and none of them is refused. -/
theorem items_yields (exact : Exact item) {isFirst : Bool} {text rest : List Char}
    {texts : List (List Char)} (derives : Derives (.items isFirst texts) text) (fuel : Nat)
    (read : List α) (start : read.isEmpty = isFirst) :
    Yields (items item fuel read) (text ++ ']' :: rest) fun _ behind =>
      behind = ']' :: rest ∧ ∀ text ∈ texts, ¬Refuses item text := by
  induction texts generalizing isFirst text fuel read with
  | nil =>
      cases derives with
      | noItem isBlank =>
          cases fuel with
          | zero => exact .ahead _
          | succ fuel =>
              exact .consumed (anotherItem_consumes_end _ isBlank rest) (.pure ⟨rfl, nofun⟩)
  | cons first texts inductionHypothesis =>
      cases derives with
      | @item _ gap _ more _ separated value further =>
          cases fuel with
          | zero => exact .ahead _
          | succ fuel =>
              have announced := anotherItem_consumes separated value.opens (more ++ ']' :: rest)
              have delimited := further.items_delimited rest
              rw [List.append_assoc, List.append_assoc, Reader.items, start]
              refine .consumed announced ?_
              refine (exact.yields value allBlank_nil delimited).bind ?_
              rintro result _ ⟨rfl, accepted⟩
              refine (inductionHypothesis further fuel (result :: read) rfl).mono ?_
              rintro _ _ ⟨same, others⟩
              exact ⟨same, List.forall_mem_cons.mpr ⟨accepted, others⟩⟩

theorem list_yields (exact : Exact item) {text blank rest : List Char} {texts : List (List Char)}
    (derives : Derives (.items true texts) text) (isBlank : AllBlank blank) :
    Yields (list item) (blank ++ ('[' :: (text ++ [']']) ++ rest)) fun _ behind =>
      behind = rest ∧ ∀ text ∈ texts, ¬Refuses item text := by
  have content : '[' :: (text ++ [']']) ++ rest = '[' :: (text ++ ']' :: rest) := by
    rw [List.cons_append, List.append_assoc, List.singleton_append]
  rw [content]
  refine .settled (.peekToken isBlank rfl (.advanced ?_))
  refine .bracketed (.remaining (items_yields exact derives _ [] rfl)) ?_
  rintro _ _ ⟨rfl, accepted⟩
  exact (Yields.of_consumes (listEnd_consumes rest)).mono fun _ _ same => ⟨same, accepted⟩

theorem list_exact (exact : Exact item) : Exact (list item) := by
  intro text derives blank rest isBlank delimited
  have opens := derives.opens.solid rest
  cases derives with
  | list derives => exact (list_yields exact derives isBlank).mono fun _ _ read => read.1
  | number isNumber =>
      rcases isNumber.begins with ⟨c, more, rfl, _, _, _, _, _, noList, _⟩
      refine .settled (.peekToken isBlank opens ?_)
      simp only [List.cons_append, List.head?_cons]
      exact .unexpected _
  | boolean truth =>
      refine .settled (.peekToken isBlank opens ?_)
      cases truth <;> exact .unexpected _
  | null | string _ | object _ => exact .settled (.peekToken isBlank rfl (.unexpected _))

theorem list_refuses (exact : Exact item) {text : List Char} {texts : List (List Char)}
    (derives : Derives (.items true texts) text) {one : List Char} (member : one ∈ texts)
    (refuses : Refuses item one) : Refuses (list item) ('[' :: (text ++ [']'])) :=
  fun _ _ isBlank _ => (list_yields exact derives isBlank).mono fun _ _ read =>
    read.2 one member refuses

/-- No value is read from a whole text that is refused. -/
theorem Refuses.run {read : Reader α} {text before after : List Char} (refuses : Refuses read text)
    (blankBefore : AllBlank before) (blankAfter : AllBlank after) :
    ∃ fault, Reader.run read (String.ofList (before ++ text ++ after)) = .error fault := by
  have delimited := Delimited.append blankAfter delimited_nil
  rw [List.append_nil] at delimited
  have none := refuses before after blankBefore delimited 0
  rw [← List.append_assoc] at none
  rw [Reader.run, Cursor.start, String.toList_ofList]
  simp only [Bind.bind, EStateM.bind]
  cases done : read ⟨0, before ++ text ++ after⟩ with
  | ok value stopped => exact (none value stopped done).elim
  | error fault stopped => exact ⟨fault, rfl⟩

end Reader

/-! ## Records -/

/-- The members of an object with the names that their bodies spell. -/
def Named (members : List (List Char × List Char)) (named : List (String × List Char)) : Prop :=
  List.Forall₂ (fun member named => Spelled named.1.toList member.1 ∧ named.2 = member.2)
    members named

/-- How often a name stands in an object. -/
def occurrences (name : String) (named : List (String × List Char)) : Nat :=
  (named.map (·.1)).count name

theorem occurrences_cons (name other : String) (content : List Char)
    (named : List (String × List Char)) :
    occurrences name ((other, content) :: named) =
      occurrences name named + if other = name then 1 else 0 := by
  rw [occurrences, List.map_cons, List.count_cons]
  simp only [beq_iff_eq]
  rfl

/-- The bodies of the names settle the names. -/
theorem Named.unique {members : List (List Char × List Char)} {first second : List (String × List Char)}
    (left : Named members first) (right : Named members second) : first = second := by
  induction left generalizing second with
  | nil =>
      cases right
      rfl
  | cons spelled _ inductionHypothesis =>
      cases right with
      | cons other others =>
          rw [inductionHypothesis others,
            Prod.ext (spelled.1.unique other.1) (spelled.2.trans other.2.symm)]

/-- A flaw in the text of a record with fields of given names: a name that does not stand in an
object once, a list that is too short, or the value of a field with a flaw of its own. -/
inductive Flawed (names : List String) (inner : String → List Char → Prop) :
    List Char → Prop where
  | count {text : List Char} {members : List (List Char × List Char)}
      {named : List (String × List Char)} {name : String} :
      Derives (.members true members) text → Named members named → name ∈ names →
      occurrences name named ≠ 1 → Flawed names inner ('\x7b' :: (text ++ ['\x7d']))
  | member {text content : List Char} {members : List (List Char × List Char)}
      {named : List (String × List Char)} {name : String} :
      Derives (.members true members) text → Named members named → name ∈ names →
      (name, content) ∈ named → inner name content →
      Flawed names inner ('\x7b' :: (text ++ ['\x7d']))
  | short {text : List Char} {texts : List (List Char)} :
      Derives (.items true texts) text → texts.length < names.length →
      Flawed names inner ('[' :: (text ++ [']']))
  | item {text content : List Char} {texts : List (List Char)} {name : String} :
      Derives (.items true texts) text → (name, content) ∈ names.zip texts → inner name content →
      Flawed names inner ('[' :: (text ++ [']']))

namespace Shape

variable {ρ : Type} {shape : Shape ρ}

/-- What holds of the members that are still to come if they are read, where the names of some
fields have been seen. -/
structure Account (shape : Shape ρ) (seen : List String) (named : List (String × List Char)) :
    Prop where
  once : ∀ field ∈ shape.fields,
    occurrences field.name named = if field.name ∈ seen then 0 else 1
  accepted : ∀ field ∈ shape.fields, ∀ content, (field.name, content) ∈ named →
    ¬Refuses field.read content

namespace Account

variable {seen : List String} {named : List (String × List Char)} {name : String}
  {content : List Char}

theorem nil (complete : shape.missing? seen = none) : shape.Account seen [] := by
  refine ⟨fun field member => ?_, nofun⟩
  have notMissing := List.find?_eq_none.mp complete field member
  rw [Bool.not_eq_true, Bool.not_eq_false', List.contains_iff_mem] at notMissing
  rw [if_pos notMissing]
  rfl

theorem known (nodup : (shape.fields.map (·.name)).Nodup) {field : Field ρ}
    (found : shape.field? name = some field) (new : name ∉ seen)
    (accepted : ¬Refuses field.read content) (others : shape.Account (name :: seen) named) :
    shape.Account seen ((name, content) :: named) := by
  constructor
  case once =>
    intro other member
    rw [occurrences_cons, others.once other member]
    by_cases same : other.name = name
    · simp [same, new]
    · simp [same, Ne.symm same]
  case accepted =>
    intro other member text listed
    rcases List.mem_cons.mp listed with isFirst | further
    · cases isFirst
      have same : some other = some field := (find?_key_of_mem nodup member).symm.trans found
      cases same
      exact accepted
    · exact others.accepted other member text further

theorem unknown (absent : shape.field? name = none) (others : shape.Account seen named) :
    shape.Account seen ((name, content) :: named) := by
  have different : ∀ field ∈ shape.fields, field.name ≠ name := fun field member same =>
    List.find?_eq_none.mp absent field member (beq_iff_eq.mpr same)
  constructor
  case once =>
    intro other member
    rw [occurrences_cons, if_neg (Ne.symm (different other member)), Nat.add_zero]
    exact others.once other member
  case accepted =>
    intro other member text listed
    rcases List.mem_cons.mp listed with isFirst | further
    · exact absurd (congrArg Prod.fst isFirst) (different other member)
    · exact others.accepted other member text further

end Account

theorem members_yields (nodup : (shape.fields.map (·.name)).Nodup)
    (exact : ∀ field ∈ shape.fields, Exact field.read) {isFirst : Bool}
    {text rest : List Char} {members : List (List Char × List Char)}
    (derives : Derives (.members isFirst members) text) (fuel : Nat) (seen : List String)
    (record : ρ) :
    Yields (shape.members fuel isFirst seen record) (text ++ '\x7d' :: rest) fun _ behind =>
      behind = '\x7d' :: rest ∧ ∃ named, Named members named ∧ shape.Account seen named := by
  -- What has been seen grows towards the end, and the account is made from there to the front.
  induction members generalizing isFirst text fuel seen record with
  | nil =>
      cases derives with
      | noMember isBlank =>
          cases fuel with
          | zero => exact .ahead _
          | succ fuel =>
              refine .consumed (anotherName_consumes_end _ isBlank rest) ?_
              rw [if_neg Bool.false_ne_true]
              split
              · exact .unplaced _
              · next complete => exact .pure ⟨rfl, [], .nil, .nil complete⟩
  | cons first members inductionHypothesis =>
      cases derives with
      | @member _ gap body before behind content more _ separated isBody blankBefore blankBehind
          value further =>
          cases fuel with
          | zero => exact .ahead _
          | succ fuel =>
              have delimited := further.members_delimited rest
              have announced : Consumes (anotherName isFirst) gap (inQuotes body ++ ((before ++ [':'])
                  ++ (behind ++ (content ++ (more ++ '\x7d' :: rest))))) true :=
                anotherName_consumes separated _ _
              have text : gap ++ (inQuotes body ++ (before ++ ':' :: (behind ++ (content ++ more))))
                  ++ '\x7d' :: rest = gap ++ (inQuotes body ++ ((before ++ [':'])
                    ++ (behind ++ (content ++ (more ++ '\x7d' :: rest))))) := by
                simp only [List.append_assoc, List.cons_append, List.nil_append]
              rw [text]
              refine .consumed announced ?_
              rw [if_pos rfl]
              refine (stringToken_yields isBody).bind ?_
              rintro name _ ⟨rfl, spelled⟩
              have colons := colon_consumes blankBefore (behind ++ (content ++ (more ++ '\x7d' :: rest)))
              split
              case h_1 absent =>
                have skipped := (skipValue_reads value).consumes behind _ blankBehind delimited
                refine .consumed colons ?_
                rw [← List.append_assoc]
                refine .consumed skipped ?_
                refine (inductionHypothesis further fuel seen record).mono ?_
                rintro _ _ ⟨same, named, spell, account⟩
                exact ⟨same, (name, content) :: named, .cons ⟨spelled, rfl⟩ spell, account.unknown absent⟩
              case h_2 field found =>
                split
                case isTrue => exact .unplaced _
                case isFalse new =>
                  rw [List.contains_iff_mem] at new
                  have listed : field ∈ shape.fields := List.mem_of_find?_eq_some found
                  refine .consumed colons ?_
                  refine ((exact field listed).yields value blankBehind delimited).bind ?_
                  rintro change _ ⟨rfl, accepted⟩
                  refine (inductionHypothesis further fuel (name :: seen) (change record)).mono ?_
                  rintro _ _ ⟨same, named, spell, account⟩
                  exact ⟨same, (name, content) :: named, .cons ⟨spelled, rfl⟩ spell,
                    account.known nodup found new accepted⟩

/-! ## Lists of fields -/

/-- The end of a list is read only where no item is left. -/
theorem listEnd_yields {isFirst : Bool} {text rest : List Char} {texts : List (List Char)}
    (derives : Derives (.items isFirst texts) text) :
    Yields listEnd (text ++ ']' :: rest) fun _ behind => behind = rest ∧ texts = [] := by
  cases derives with
  | noItem isBlank => exact .peekToken isBlank rfl (.advance ']' ⟨rfl, rfl⟩)
  | @item _ gap first more _ separated value _ =>
      rw [List.append_assoc]
      cases separated with
      | first isBlank =>
          have solid := value.opens.solid more
          rcases value.opens with ⟨c, others, rfl, _, noEnd⟩
          refine .peekToken isBlank solid ?_
          simp only [List.cons_append, List.head?_cons]
          split
          · next found => exact absurd (Option.some.inj found) noEnd
          · exact .advanced ((Yields.trivial _ _).bind fun next _ _ => by split <;> exact .ahead _)
          · exact .ahead _
          · exact .ahead _
      | next blankBefore blankBehind =>
          rw [List.append_assoc]
          refine .peekToken blankBefore rfl (.advanced ?_)
          exact (Yields.trivial _ _).bind fun next _ _ => by split <;> exact .ahead _

/-- Fields are read from items one by one, and what is left are items, too. -/
theorem positional_yields {fields : List (Field ρ)} (exact : ∀ field ∈ fields, Exact field.read)
    {isFirst : Bool} {text rest : List Char} {texts : List (List Char)}
    (derives : Derives (.items isFirst texts) text) (count : Nat) (start : (count == 0) = isFirst)
    (record : ρ) :
    Yields (shape.positional fields count record) (text ++ ']' :: rest) fun _ behind =>
      ∃ used left more isFirst, texts = used ++ left ∧
        List.Forall₂ (fun field text => ¬Refuses (Field.read field) text) fields used ∧
        behind = more ++ ']' :: rest ∧ Derives (.items isFirst left) more := by
  induction fields generalizing isFirst text texts count record with
  | nil => exact .pure ⟨[], texts, text, isFirst, rfl, .nil, rfl, derives⟩
  | cons field fields inductionHypothesis =>
      rw [positional, start]
      cases derives with
      | noItem isBlank =>
          refine .consumed (anotherItem_consumes_end _ isBlank rest) ?_
          exact .unplaced _
      | @item _ gap first more texts separated value further =>
          have announced := anotherItem_consumes separated value.opens (more ++ ']' :: rest)
          have delimited := further.items_delimited rest
          rw [List.append_assoc, List.append_assoc]
          refine .consumed announced ?_
          have exactHead := exact field List.mem_cons_self
          refine (exactHead.yields value allBlank_nil delimited).bind ?_
          rintro change _ ⟨rfl, accepted⟩
          refine (inductionHypothesis (fun field member => exact field (List.mem_cons_of_mem _ member))
            further (count + 1) rfl (change record)).mono ?_
          rintro _ _ ⟨used, left, more, isFirst, rfl, others, rfl, derives⟩
          exact ⟨first :: used, left, more, isFirst, rfl, .cons accepted others, rfl, derives⟩

/-! ## Whole records -/

/-- What holds of a record that is read from an object. -/
theorem object_yields (nodup : (shape.fields.map (·.name)).Nodup)
    (exact : ∀ field ∈ shape.fields, Exact field.read) {text blank rest : List Char}
    {members : List (List Char × List Char)} (derives : Derives (.members true members) text)
    (isBlank : AllBlank blank) :
    Yields shape.read (blank ++ ('\x7b' :: (text ++ ['\x7d']) ++ rest)) fun _ behind =>
      behind = rest ∧ ∃ named, Named members named ∧ shape.Account [] named := by
  have content : '\x7b' :: (text ++ ['\x7d']) ++ rest = '\x7b' :: (text ++ '\x7d' :: rest) := by
    rw [List.cons_append, List.append_assoc, List.singleton_append]
  rw [content]
  refine .settled (.peekToken isBlank rfl (.advanced ?_))
  refine .bracketed (.remaining (members_yields nodup exact derives _ [] shape.blank)) ?_
  rintro _ _ ⟨rfl, account⟩
  exact (Yields.of_consumes (objectEnd_consumes rest)).mono fun _ _ same => ⟨same, account⟩

/-- What holds of a record that is read from a list. -/
theorem list_yields (exact : ∀ field ∈ shape.fields, Exact field.read)
    {text blank rest : List Char} {texts : List (List Char)}
    (derives : Derives (.items true texts) text) (isBlank : AllBlank blank) :
    Yields shape.read (blank ++ ('[' :: (text ++ [']']) ++ rest)) fun _ behind =>
      behind = rest ∧ List.Forall₂ (fun field text => ¬Refuses (Field.read field) text)
        shape.fields texts := by
  have content : '[' :: (text ++ [']']) ++ rest = '[' :: (text ++ ']' :: rest) := by
    rw [List.cons_append, List.append_assoc, List.singleton_append]
  rw [content]
  refine .settled (.peekToken isBlank rfl (.advanced ?_))
  refine .bracketed (positional_yields exact derives 0 rfl shape.blank) ?_
  rintro _ _ ⟨used, left, more, isFirst, rfl, accepted, rfl, derives⟩
  refine (listEnd_yields derives).mono ?_
  rintro _ _ ⟨same, rfl⟩
  exact ⟨same, by rwa [List.append_nil]⟩

/-- Records of which all fields are read exactly are read exactly. -/
theorem read_exact (nodup : (shape.fields.map (·.name)).Nodup)
    (exact : ∀ field ∈ shape.fields, Exact field.read) : Exact shape.read := by
  intro text derives blank rest isBlank delimited
  have opens := derives.opens.solid rest
  cases derives with
  | object derives => exact (object_yields nodup exact derives isBlank).mono fun _ _ read => read.1
  | list derives => exact (list_yields exact derives isBlank).mono fun _ _ read => read.1
  | number isNumber =>
      rcases isNumber.begins with ⟨c, more, rfl, _, _, _, _, _, noList, noObject⟩
      refine .settled (.peekToken isBlank opens ?_)
      simp only [List.cons_append, List.head?_cons]
      exact .unexpected _
  | boolean truth =>
      refine .settled (.peekToken isBlank opens ?_)
      cases truth <;> exact .unexpected _
  | null | string _ => exact .settled (.peekToken isBlank rfl (.unexpected _))

/-- A record with a flaw is refused, whatever else stands in its text. -/
theorem refuses_of_flawed (nodup : (shape.fields.map (·.name)).Nodup)
    (exact : ∀ field ∈ shape.fields, Exact field.read) {inner : String → List Char → Prop}
    (refused : ∀ field ∈ shape.fields, ∀ content, inner field.name content →
      Refuses field.read content)
    {text : List Char} (flawed : Flawed (shape.fields.map (·.name)) inner text) :
    Refuses shape.read text := by
  intro blank rest isBlank delimited
  cases flawed with
  | count derives named member differs =>
      refine (object_yields nodup exact derives isBlank).mono ?_
      rintro _ _ ⟨_, other, otherNamed, account⟩
      rcases List.mem_map.mp member with ⟨field, listed, rfl⟩
      cases named.unique otherNamed
      exact differs (account.once field listed)
  | member derives named member stands flaw =>
      refine (object_yields nodup exact derives isBlank).mono ?_
      rintro _ _ ⟨_, other, otherNamed, account⟩
      rcases List.mem_map.mp member with ⟨field, listed, rfl⟩
      cases named.unique otherNamed
      exact account.accepted field listed _ stands (refused field listed _ flaw)
  | short derives fewer =>
      refine (list_yields exact derives isBlank).mono ?_
      rintro _ _ ⟨_, accepted⟩
      rw [List.length_map, accepted.length_eq] at fewer
      exact Nat.lt_irrefl _ fewer
  | item derives stands flaw =>
      refine (list_yields exact derives isBlank).mono ?_
      rintro _ _ ⟨_, accepted⟩
      rw [List.zip_map_left, List.mem_map] at stands
      rcases stands with ⟨⟨field, content⟩, paired, same⟩
      cases same
      have listed := (List.of_mem_zip paired).1
      exact List.forall₂_zip accepted paired (refused field listed _ flaw)

/-- A field of the record is missing, or stands twice. -/
def Miscounted (shape : Shape ρ) : List Char → Prop :=
  Flawed (shape.fields.map (·.name)) fun _ _ => False

theorem Miscounted.refuses {text : List Char} (miscounted : shape.Miscounted text)
    (nodup : (shape.fields.map (·.name)).Nodup) (exact : ∀ field ∈ shape.fields, Exact field.read) :
    Refuses shape.read text :=
  refuses_of_flawed nodup exact (fun _ _ _ => False.elim) miscounted

end Shape
end Json
end Capability
