import Capability.Json.Record
import Capability.Proofs.Json.List

/-!
# Reading records

A record is read from the members of an object.  Which members are still to come
does not depend on the text but on the names that have been seen: a member with a
known name must bring a new one, any other is skipped, and the end is accepted
only where no field is missing.  `Members` keeps this account beside the text.

A record is restored if the names of its fields differ, every field is restored,
and the restored fields together make up the record.
-/

namespace Capability
namespace Json

open Reader

variable {ρ : Type}

namespace Reader

/-! ## Names -/

/-- The name of a member with its colon, and white space around the colon. -/
inductive Announces (name : String) : (text : List Char) → Prop where
  | intro {spelling before behind : List Char} :
      Spelled name.toList spelling → AllBlank before → AllBlank behind →
      Announces name ('"' :: (spelling ++ ['"']) ++ (before ++ ':' :: behind))

/-- In front of a member the gap is taken and the member is announced. -/
theorem anotherName_consumes {isFirst : Bool} {gap : List Char} (separated : Separated isFirst gap)
    (text rest : List Char) : Consumes (anotherName isFirst) gap ('"' :: (text ++ rest)) true := by
  cases separated with
  | first isBlank => exact .peekBlank isBlank rfl (.pure _ true)
  | next blankBefore blankBehind =>
      apply Consumes.peekToken blankBefore rfl
      exact .advanced (.peekBlank blankBehind rfl (.pure _ true))

theorem anotherName_consumes_end (isFirst : Bool) {blank : List Char} (isBlank : AllBlank blank)
    (rest : List Char) : Consumes (anotherName isFirst) blank ('\x7d' :: rest) false :=
  .peekBlank isBlank rfl (.pure _ false)

theorem colon_consumes {blank : List Char} (isBlank : AllBlank blank) (rest : List Char) :
    Consumes colon (blank ++ [':']) rest () :=
  .peekToken isBlank rfl (.advance ':' rest)

/-- A member that is announced is read by its name and by what its name decides,
which begins with the colon. -/
theorem announced_consumes {α : Type} {next : String → Reader α} {otherwise : Reader α}
    {isFirst : Bool} {gap label tail rest : List Char} {name : String} {result : α}
    (separated : Separated isFirst gap) (announces : Announces name label)
    (second : ∀ before behind, AllBlank before → AllBlank behind →
      Consumes (next name) ((before ++ [':']) ++ (behind ++ tail)) rest result) :
    Consumes (do if ← anotherName isFirst then next (← stringToken) else otherwise)
      (gap ++ (label ++ tail)) rest result := by
  cases announces with
  | @intro spelling before behind spelled blankBefore blankBehind =>
      have named := stringToken_consumes spelled
        ((before ++ [':']) ++ (behind ++ tail) ++ rest)
      rw [String.ofList_toList] at named
      have both := named.bind (second before behind blankBefore blankBehind)
      have text : '"' :: (spelling ++ ['"']) ++ (before ++ ':' :: behind) ++ tail =
          '"' :: (spelling ++ ['"']) ++ ((before ++ [':']) ++ (behind ++ tail)) := by
        simp only [List.append_assoc, List.cons_append, List.nil_append]
      rw [text]
      apply (anotherName_consumes separated _ rest).bind
      rw [if_pos rfl]
      exact both

theorem objectEnd_consumes (rest : List Char) : Consumes objectEnd ['\x7d'] rest () :=
  .peekToken allBlank_nil rfl (.advance '\x7d' rest)

end Reader

namespace Shape

/-! ## Members -/

/-- The text between the brackets of an object, from the first member on or from
behind a member, given the names of the fields seen before, and what reading it
changes in a record. -/
inductive Members (shape : Shape ρ) :
    (isFirst : Bool) → (seen : List String) → (text : List Char) → (change : ρ → ρ) → Prop where
  | done {isFirst : Bool} {seen : List String} {blank : List Char} :
      AllBlank blank → shape.missing? seen = none → Members shape isFirst seen blank id
  | known {isFirst : Bool} {seen : List String} {name : String} {field : Field ρ}
      {gap label text more : List Char} {change changes : ρ → ρ} :
      Separated isFirst gap → Announces name label → shape.field? name = some field →
      name ∉ seen → Reads field.read text change →
      Members shape false (name :: seen) more changes →
      Members shape isFirst seen (gap ++ (label ++ (text ++ more))) (changes ∘ change)
  | unknown {isFirst : Bool} {seen : List String} {name : String}
      {gap label text more : List Char} {changes : ρ → ρ} :
      Separated isFirst gap → Announces name label → shape.field? name = none →
      Reads skipValue text () → Members shape false seen more changes →
      Members shape isFirst seen (gap ++ (label ++ (text ++ more))) changes

namespace Members

variable {shape : Shape ρ} {isFirst : Bool} {seen : List String} {text : List Char}
  {change : ρ → ρ}

theorem delimited (members : Members shape false seen text change) (rest : List Char) :
    Delimited (text ++ '\x7d' :: rest) := by
  cases members with
  | done isBlank _ =>
      apply Delimited.append isBlank
      intro c found
      cases found
      decide
  | known separated _ _ _ _ _ =>
      rw [List.append_assoc]
      exact separated.delimited _
  | unknown separated _ _ _ _ =>
      rw [List.append_assoc]
      exact separated.delimited _

/-- The members are read in their order, and the record is changed by each. -/
theorem consumes (members : Members shape isFirst seen text change) (fuel : Nat)
    (enough : text.length < fuel) (record : ρ) (rest : List Char) :
    Consumes (shape.members fuel isFirst seen record) text ('\x7d' :: rest) (change record) := by
  induction members generalizing fuel record with
  | done isBlank complete =>
      rcases Nat.exists_eq_succ_of_ne_zero (Nat.ne_zero_of_lt enough) with ⟨fuel, rfl⟩
      apply (anotherName_consumes_end _ isBlank rest).bind_nil
      simp only [complete]
      exact .pure _ record
  | @known isFirst seen name field gap label text more change changes separated label found new
      reads others inductionHypothesis =>
      rcases Nat.exists_eq_succ_of_ne_zero (Nat.ne_zero_of_lt enough) with ⟨fuel, rfl⟩
      simp only [List.length_append] at enough
      -- The value alone is longer than the one unit of fuel that a member costs.
      have positive := reads.opens.length_pos
      have later := inductionHypothesis fuel (by omega) (change record)
      apply announced_consumes separated label
      intro before behind blankBefore blankBehind
      simp only [found, List.contains_iff_mem, new, if_false]
      rw [← List.append_assoc behind]
      apply (colon_consumes blankBefore _).bind
      exact (reads.consumes behind _ blankBehind (others.delimited rest)).bind later
  | @unknown isFirst seen name gap label text more changes separated label found reads others
      inductionHypothesis =>
      rcases Nat.exists_eq_succ_of_ne_zero (Nat.ne_zero_of_lt enough) with ⟨fuel, rfl⟩
      simp only [List.length_append] at enough
      have positive := reads.opens.length_pos
      have later := inductionHypothesis fuel (by omega) record
      apply announced_consumes separated label
      intro before behind blankBefore blankBehind
      simp only [found]
      rw [← List.append_assoc behind]
      apply (colon_consumes blankBefore _).bind
      exact (reads.consumes behind _ blankBehind (others.delimited rest)).bind later

end Members

/-- The text of an object is read as the record that its members make of a blank one. -/
theorem reads_of_members {shape : Shape ρ} {text : List Char} {change : ρ → ρ}
    (members : Members shape true [] text change) :
    Reads shape.read ('\x7b' :: (text ++ ['\x7d'])) (change shape.blank) := by
  have opens : Opens ('\x7b' :: (text ++ ['\x7d'])) := ⟨'\x7b', _, rfl, by decide, by decide⟩
  refine ⟨opens, fun blank rest isBlank _ => ?_⟩
  have enough : text.length < (text ++ '\x7d' :: rest).length + 1 := by
    rw [List.length_append]
    omega
  have content := members.consumes _ enough shape.blank rest
  apply Consumes.settled
  apply Consumes.peekToken isBlank (opens.solid rest)
  apply Consumes.advanced
  apply Consumes.bracketed _ (objectEnd_consumes rest)
  exact .remaining content

/-! ## Written records -/

/-- Reading the written fields of a record, one after the other, changes a record so. -/
inductive Restoring (record : ρ) : List (Field ρ) → (ρ → ρ) → Prop where
  | nil : Restoring record [] id
  | cons {field : Field ρ} {fields : List (Field ρ)} {change changes : ρ → ρ} :
      (∀ layout depth, Reads field.read ((field.write record).write layout depth) change) →
      Restoring record fields changes → Restoring record (field :: fields) (changes ∘ change)

/-- The names of the fields differ, and from a blank record the written fields of
any record restore that record. -/
structure Lawful (shape : Shape ρ) : Prop where
  names_nodup : (shape.fields.map (·.name)).Nodup
  restoring : ∀ record, ∃ changes, Restoring record shape.fields changes ∧
    changes shape.blank = record

variable {shape : Shape ρ} {record : ρ}

theorem announces_quoted (name : String) (layout : Layout) :
    Announces name (quoted name ++ layout.colon) := by
  have spelled := spelled_flatMap_escape name.toList
  have isBlank : AllBlank [' '] := by
    intro c member
    rw [List.mem_singleton.mp member]
    decide
  rcases layout with ⟨_ | width⟩
  · exact .intro spelled allBlank_nil allBlank_nil
  · exact .intro spelled allBlank_nil isBlank

/-- No field is missing where all names have been seen. -/
theorem missing?_eq_none (shape : Shape ρ) :
    shape.missing? (shape.fields.map (·.name)).reverse = none := by
  apply List.find?_eq_none.mpr
  intro field listed isMissing
  have seen : field.name ∈ (shape.fields.map (·.name)).reverse :=
    List.mem_reverse.mpr (List.mem_map_of_mem listed)
  rw [List.contains_iff_mem.mpr seen] at isMissing
  cases isMissing

/-- One written member, where the names of all fields before it have been seen. -/
theorem member_write (nodup : (shape.fields.map (·.name)).Nodup) (layout : Layout) (depth : Nat)
    {isFirst : Bool} {gap more : List Char} (separated : Separated isFirst gap)
    (done : List (Field ρ)) {fields : List (Field ρ)} {field : Field ρ}
    (whole : shape.fields = done ++ field :: fields) {change changes : ρ → ρ}
    (reads : ∀ layout depth, Reads field.read ((field.write record).write layout depth) change)
    (others : Members shape false (field.name :: (done.map (·.name)).reverse) more changes) :
    Members shape isFirst (done.map (·.name)).reverse
      (gap ++ ((quoted field.name ++ layout.colon) ++
        ((field.write record).write layout depth ++ more))) (changes ∘ change) := by
  have listed : field ∈ shape.fields := by
    rw [whole]
    exact List.mem_append_right _ List.mem_cons_self
  have new : field.name ∉ (done.map (·.name)).reverse := by
    rw [whole] at nodup
    intro taken
    exact key_free_of_nodup nodup (List.mem_reverse.mp taken)
  exact .known separated (announces_quoted field.name layout) (find?_key_of_mem nodup listed) new
    (reads layout depth) others

/-- All members that are written for further fields, where the names of all fields
before them have been seen. -/
theorem members_write (nodup : (shape.fields.map (·.name)).Nodup) (layout : Layout) (depth : Nat)
    {blank : List Char} (isBlank : AllBlank blank) {fields : List (Field ρ)} {changes : ρ → ρ}
    (restoring : Restoring record fields changes) (done : List (Field ρ))
    (whole : shape.fields = done ++ fields) :
    Members shape false (done.map (·.name)).reverse
      (Value.writeMembers layout depth
        (fields.map fun field => (field.name, field.write record)) ++ blank) changes := by
  induction restoring generalizing done with
  | nil =>
      rw [List.append_nil] at whole
      rw [← whole]
      exact .done isBlank shape.missing?_eq_none
  | @cons field fields change changes reads restoring inductionHypothesis =>
      have others := inductionHypothesis (done ++ [field]) (by rw [whole, List.append_assoc]; rfl)
      rw [List.map_append, List.reverse_append] at others
      have member := member_write nodup layout depth (separated_comma layout depth) done whole reads
        others
      simpa only [List.map_cons, Value.writeMembers, List.append_assoc, List.cons_append] using member

/-- A record is restored from its written form if its shape is lawful. -/
theorem Lawful.restores (lawful : shape.Lawful) : Restores shape.read shape.write := by
  intro layout depth record
  rcases lawful.restoring record with ⟨changes, restoring, restored⟩
  rw [write]
  cases whole : shape.fields with
  | nil =>
      have complete := shape.missing?_eq_none
      rw [whole] at restoring complete
      cases restoring
      have reads := reads_of_members (.done allBlank_nil complete)
      rwa [restored] at reads
  | cons field fields =>
      rw [whole] at restoring
      cases restoring with
      | @cons _ _ change changes reads others =>
          have later := members_write lawful.names_nodup layout (depth + 1)
            (allBlank_newline layout depth) others [field] whole
          have first := member_write lawful.names_nodup layout (depth + 1)
            (.first (allBlank_newline layout (depth + 1))) [] whole reads later
          have object := reads_of_members first
          rw [restored] at object
          simpa only [List.map_cons, Value.write, List.append_assoc, List.cons_append] using object

/-! ## Fields -/

variable {α : Type} {read : Reader α} {write : α → Value}

/-- A field whose value is restored sets the value of the record that was written. -/
theorem Restoring.field (restores : Restores read write) {name : String} {get : ρ → α}
    {set : α → ρ → ρ} {fields : List (Field ρ)} {changes : ρ → ρ}
    (others : Restoring record fields changes) :
    Restoring record (.of write read name get set :: fields) (changes ∘ set (get record)) :=
  .cons (fun layout depth => (restores layout depth (get record)).map set) others

end Shape
end Json
end Capability
