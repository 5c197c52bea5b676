import Capability.Condition
import Capability.Proofs.Condition.Derivation

/-!
# The parser of conditions accepts exactly its grammar

Each phrase of the grammar has its parser.  It is sound: what it takes from the
tokens ahead, when nothing is left over in a group, is a phrase of its kind with
the tree that it gives.  It is also complete: in front of anything that does not
continue a phrase it takes the whole phrase and gives its tree.

Both are shown along the parser.  A chain of operands is described by its list of
parts, a row of negations and a nesting of parentheses by induction on the bounds
of the parser, which are never reached.
-/

namespace Capability
namespace Condition

open Code
open Code.Parser

/-- The parser of operands in which parentheses are nested less deeply than a bound. -/
def operandParser (depth : Nat) : Parser Condition := do
  negated (primary (nested depth)) ((← ahead).length + 1)

/-- The parser of a phrase in which parentheses are nested less deeply than a bound. -/
def Phrase.parser (depth : Nat) : Phrase → Parser Condition
  | operand => operandParser depth
  | joined .both => chain "&" .both (operandParser depth)
  | joined .either => chain "|" .either (chain "&" .both (operandParser depth))

theorem nested_succ (depth : Nat) : nested (depth + 1) = Phrase.condition.parser depth := rfl

theorem Phrase.parser_joined (depth : Nat) (junction : Junction) :
    (Phrase.joined junction).parser depth =
      chain junction.text junction.join (junction.operand.parser depth) := by
  cases junction <;> rfl

theorem negation_toList : "!".toList = ['!'] := rfl

/-! ## Soundness -/

/-- What a parser takes, with nothing left over, is a phrase with the tree that it gives. -/
def Sound (parser : Parser Condition) (phrase : Phrase) : Prop :=
  ∀ stream condition behind, parser stream = .ok (condition, behind) → behind.leftover = none →
    stream.leftover = none ∧
      ∃ tokens, stream.rest = tokens ++ behind.rest ∧ Derives phrase tokens condition

theorem negated_sound {operand : Parser Condition} (sound : Sound operand .operand) (fuel : Nat) :
    Sound (negated operand fuel) .operand := by
  induction fuel with
  | zero => exact sound
  | succ fuel inductionHypothesis =>
      intro stream condition behind read clean
      rcases operator?_cases negation_toList stream with ⟨joint, rest, marked, answer⟩ | answer
      · rw [negated, bind_of_ok answer, if_pos rfl] at read
        rcases bind_eq_ok read with ⟨inner, middle, taken, ended⟩
        cases ended
        rcases inductionHypothesis _ _ _ taken clean with ⟨started, tokens, parts, derived⟩
        refine ⟨started, .mark '!' joint :: tokens, ?_, .negated derived⟩
        rw [marked, List.cons_append]
        exact congrArg _ parts
      · rw [negated, bind_of_ok answer] at read
        exact sound _ _ _ read clean

/-- Reading on behind the first phrase of a chain takes parts and joins them. -/
theorem joined_sound {junction : Junction} {operand : Parser Condition}
    (sound : Sound operand junction.operand) (fuel : Nat) (left : Condition) (stream : Stream)
    (condition : Condition) (behind : Stream)
    (read : joined junction.text junction.join operand fuel left stream = .ok (condition, behind))
    (clean : behind.leftover = none) :
    stream.leftover = none ∧ ∃ parts : List Part,
      stream.rest = parts.flatMap (Part.written junction) ++ behind.rest ∧
        condition = junction.tree left parts ∧
        ∀ part ∈ parts, Derives junction.operand part.tokens part.condition := by
  induction fuel generalizing left stream with
  | zero =>
      cases read
      exact ⟨clean, [], rfl, rfl, fun part member => by cases member⟩
  | succ fuel inductionHypothesis =>
      rcases operator?_cases junction.text_toList stream with
        ⟨joint, rest, marked, answer⟩ | answer
      · rw [joined, bind_of_ok answer, if_pos rfl] at read
        rcases bind_eq_ok read with ⟨right, middle, taken, further⟩
        -- Soundness runs backwards: only the end is known to be clean, and the state
        -- between the operand and the further parts is so because of it.
        rcases inductionHypothesis _ _ further with ⟨between, parts, split, tree, derived⟩
        rcases sound _ _ _ taken between with ⟨started, tokens, first, operand⟩
        refine ⟨started, ⟨joint, tokens, right⟩ :: parts, ?_, tree, ?_⟩
        · rw [marked, List.flatMap_cons, List.append_assoc, ← split]
          exact congrArg _ first
        · intro part member
          rcases List.mem_cons.mp member with same | later
          · rw [same]
            exact operand
          · exact derived part later
      · rw [joined, bind_of_ok answer] at read
        cases read
        exact ⟨clean, [], rfl, rfl, fun part member => by cases member⟩

theorem chain_sound {junction : Junction} {operand : Parser Condition}
    (sound : Sound operand junction.operand) :
    Sound (chain junction.text junction.join operand) (.joined junction) := by
  intro stream condition behind read clean
  rcases bind_eq_ok read with ⟨left, middle, taken, further⟩
  rcases joined_sound sound _ _ _ _ _ further clean with ⟨between, parts, split, tree, derived⟩
  rcases sound _ _ _ taken between with ⟨started, tokens, first, operand⟩
  refine ⟨started, tokens ++ parts.flatMap (Part.written junction), ?_, ?_⟩
  · rw [first, split, List.append_assoc]
  · rw [tree]
    exact .joined operand derived

theorem primary_sound {enclosed : Parser Condition} (sound : Sound enclosed .condition) :
    Sound (primary enclosed) .operand := by
  intro stream condition behind read clean
  change (if stream.rest.atGroup .parenthesis then _ else _ : Parser Condition) stream = _ at read
  split at read
  · next atGroup =>
      rcases stream with ⟨tokens, leftover⟩
      rcases Tokens.eq_of_atGroup atGroup with ⟨content, rest, ahead⟩
      cases ahead
      rcases group_eq_ok_iff.mp read with ⟨inside, within, ended⟩
      cases ended
      -- Nothing is left over behind the group, so its content was read to the end.
      cases behindGroup_leftover.mp clean
      rcases sound _ _ _ within rfl with ⟨started, tokens, parts, derived⟩
      rw [List.append_nil] at parts
      cases parts
      exact ⟨started, [.group .parenthesis content], rfl, .enclosed derived⟩
  · rcases bind_eq_ok read with ⟨word, middle, taken, ended⟩
    cases ended
    rcases name_eq_ok_iff.mp taken with ⟨isName, ahead⟩
    rw [ahead]
    exact ⟨clean, [.word word], rfl, .named isName⟩

/-- The parser of each phrase is sound if nothing else is read between parentheses. -/
theorem Phrase.parser_sound {depth : Nat} (sound : Sound (nested depth) .condition)
    (phrase : Phrase) : Sound (phrase.parser depth) phrase := by
  have operand : Sound (Junction.both.operand.parser depth) Junction.both.operand := by
    intro stream condition behind read clean
    exact negated_sound (primary_sound sound) _ _ _ _ read clean
  have both : Sound (Junction.either.operand.parser depth) Junction.either.operand := by
    change Sound ((Phrase.joined .both).parser depth) (.joined .both)
    rw [Phrase.parser_joined]
    exact chain_sound operand
  cases phrase with
  | operand => exact operand
  | joined junction =>
      rw [Phrase.parser_joined]
      cases junction with
      | both => exact chain_sound operand
      | either => exact chain_sound both

theorem nested_sound (depth : Nat) : Sound (nested depth) .condition := by
  induction depth with
  | zero =>
      intro stream condition behind read
      cases read
  | succ depth inductionHypothesis => exact Phrase.parser_sound inductionHypothesis .condition

/-! ## Completeness -/

/-- What does not continue a phrase. -/
def Phrase.Stops : Phrase → Tokens → Prop
  | operand, _ => True
  | joined .both, rest => ¬ rest.StartsWith '&'
  | joined .either, rest => ¬ rest.StartsWith '&' ∧ ¬ rest.StartsWith '|'

/-- In front of `rest` the parser takes exactly the given tokens and gives the condition. -/
def Takes (parser : Parser Condition) (tokens rest : Tokens) (condition : Condition) : Prop :=
  parser ⟨tokens ++ rest, none⟩ = .ok (condition, ⟨rest, none⟩)

namespace Phrase

theorem stops_nil (phrase : Phrase) : phrase.Stops [] := by
  have noMark : ∀ mark, ¬ Tokens.StartsWith mark [] := by
    rintro mark ⟨joint, rest, impossible⟩
    cases impossible
  cases phrase with
  | operand => trivial
  | joined junction =>
      cases junction with
      | both => exact noMark '&'
      | either => exact ⟨noMark '&', noMark '|'⟩

/-- What does not continue a chain does not continue its last phrase. -/
theorem Stops.operand {junction : Junction} {rest : Tokens}
    (stops : (joined junction).Stops rest) : junction.operand.Stops rest := by
  cases junction with
  | both => trivial
  | either => exact stops.1

theorem Stops.mark {junction : Junction} {rest : Tokens}
    (stops : (joined junction).Stops rest) : ¬ rest.StartsWith junction.mark := by
  cases junction with
  | both => exact stops
  | either => exact stops.2

theorem stops_mark (junction : Junction) (joint : Bool) (rest : Tokens) :
    junction.operand.Stops (.mark junction.mark joint :: rest) := by
  cases junction with
  | both => trivial
  | either =>
      rintro ⟨joint, rest, same⟩
      cases same

end Phrase

theorem stops_parts {junction : Junction} {rest : Tokens} (stops : (Phrase.joined junction).Stops rest)
    (parts : List Part) :
    junction.operand.Stops (parts.flatMap (Part.written junction) ++ rest) := by
  cases parts with
  | nil => exact stops.operand
  | cons part parts => exact Phrase.stops_mark junction part.joint _

/-- Behind the first phrase of a chain all of its parts are taken. -/
theorem joined_takes {junction : Junction} {operand : Parser Condition} {parts : List Part}
    {rest : Tokens} (stops : (Phrase.joined junction).Stops rest)
    (takes : ∀ part ∈ parts, ∀ rest, junction.operand.Stops rest →
      Takes operand part.tokens rest part.condition)
    {fuel : Nat} (enough : parts.length < fuel) (left : Condition) :
    Takes (joined junction.text junction.join operand fuel left)
      (parts.flatMap (Part.written junction)) rest (junction.tree left parts) := by
  induction parts generalizing fuel left with
  | nil =>
      cases fuel with
      | zero => cases enough
      | succ fuel =>
          have ended : operator? junction.text ⟨rest, none⟩ = .ok (false, ⟨rest, none⟩) :=
            operator?_absent junction.text_toList stops.mark
          rw [Takes, List.flatMap_nil, List.nil_append, joined, bind_of_ok ended]
          rfl
  | cons part parts inductionHypothesis =>
      cases fuel with
      | zero => cases enough
      | succ fuel =>
          have first := takes part List.mem_cons_self _ (stops_parts stops parts)
          have further := inductionHypothesis
            (fun part member => takes part (List.mem_cons_of_mem _ member))
            (Nat.lt_of_succ_lt_succ enough) (junction.join left part.condition)
          have marked := operator?_present junction.text_toList part.joint
            (part.tokens ++ (parts.flatMap (Part.written junction) ++ rest)) none
          rw [Takes, List.flatMap_cons, List.append_assoc, joined]
          refine (bind_of_ok marked _).trans ?_
          rw [if_pos rfl, bind_of_ok first]
          exact further

theorem length_parts_le (junction : Junction) (parts : List Part) :
    parts.length ≤ (parts.flatMap (Part.written junction)).length := by
  induction parts with
  | nil => exact Nat.le_refl _
  | cons part parts inductionHypothesis =>
      rw [List.flatMap_cons, List.length_append, List.length_cons, Part.written, List.length_cons]
      omega

theorem size_part_le (junction : Junction) {parts : List Part} {part : Part} (member : part ∈ parts) :
    part.tokens.size ≤ Tokens.size (parts.flatMap (Part.written junction)) := by
  induction parts with
  | nil => cases member
  | cons found parts inductionHypothesis =>
      rw [List.flatMap_cons, Tokens.size_append, Part.written, Tokens.size_cons]
      rcases List.mem_cons.mp member with same | later
      · rw [same]
        omega
      · have smaller := inductionHypothesis later
        omega

theorem chain_takes {junction : Junction} {operand : Parser Condition} {first : Tokens}
    {left : Condition} {parts : List Part} {rest : Tokens}
    (stops : (Phrase.joined junction).Stops rest)
    (firstTakes : ∀ rest, junction.operand.Stops rest → Takes operand first rest left)
    (takes : ∀ part ∈ parts, ∀ rest, junction.operand.Stops rest →
      Takes operand part.tokens rest part.condition) :
    Takes (chain junction.text junction.join operand)
      (first ++ parts.flatMap (Part.written junction)) rest (junction.tree left parts) := by
  have enough : parts.length < (parts.flatMap (Part.written junction) ++ rest).length + 1 := by
    have atLeast := length_parts_le junction parts
    rw [List.length_append]
    omega
  rw [Takes, List.append_assoc, chain, bind_of_ok (firstTakes _ (stops_parts stops parts))]
  exact joined_takes stops takes enough left

theorem operandParser_primary (depth : Nat) {stream : Stream}
    (unmarked : ¬ stream.rest.StartsWith '!') :
    operandParser depth stream = primary (nested depth) stream := by
  change negated (primary (nested depth)) (stream.rest.length + 1) stream = _
  rw [negated, bind_of_ok (operator?_absent negation_toList unmarked)]
  rfl

/-- Behind the mark of a negation the operand is read by the same parser again. -/
theorem operandParser_negated (depth : Nat) (joint : Bool) (rest : Tokens)
    (leftover : Option Delimiter) :
    operandParser depth ⟨.mark '!' joint :: rest, leftover⟩ =
      (do return .not (← operandParser depth) : Parser Condition) ⟨rest, leftover⟩ := by
  change negated (primary (nested depth)) (rest.length + 1 + 1) ⟨.mark '!' joint :: rest, leftover⟩ = _
  rw [negated, bind_of_ok (operator?_present negation_toList joint rest leftover), if_pos rfl]
  rfl

theorem primary_takes_word {word : Word} (isName : word.isName = true) (enclosed : Parser Condition)
    (rest : Tokens) : Takes (primary enclosed) [.word word] rest (.named word) := by
  have read : name ⟨.word word :: rest, none⟩ = .ok (word, ⟨rest, none⟩) :=
    name_eq_ok_iff.mpr ⟨isName, rfl⟩
  change (name >>= fun word => return .named word : Parser Condition) _ = _
  exact bind_of_ok read _

theorem primary_takes_group {enclosed : Parser Condition} {content : Tokens}
    {condition : Condition} (takes : Takes enclosed content [] condition) (rest : Tokens) :
    Takes (primary enclosed) [.group .parenthesis content] rest condition := by
  rw [Takes, List.append_nil] at takes
  change group .parenthesis enclosed ⟨.group .parenthesis content :: rest, none⟩ = _
  exact group_eq_ok_iff.mpr ⟨⟨[], none⟩, takes, rfl⟩

/-- In front of anything that does not continue it a phrase is taken by its parser, if
its parentheses are not nested too deeply. -/
theorem Derives.takes {phrase : Phrase} {tokens : Tokens} {condition : Condition}
    (derived : Derives phrase tokens condition) (depth : Nat) (shallow : tokens.size ≤ depth)
    (rest : Tokens) (stops : phrase.Stops rest) :
    Takes (phrase.parser depth) tokens rest condition := by
  induction derived generalizing depth rest with
  | @named word isName =>
      have unmarked : ¬ Tokens.StartsWith '!' (.word word :: rest) := by
        rintro ⟨joint, more, impossible⟩
        cases impossible
      exact (operandParser_primary depth unmarked).trans (primary_takes_word isName _ rest)
  | @enclosed content condition _ inductionHypothesis =>
      have unmarked : ¬ Tokens.StartsWith '!' (.group .parenthesis content :: rest) := by
        rintro ⟨joint, more, impossible⟩
        cases impossible
      -- The brackets count as two tokens, so that the content is within a smaller bound.
      have inside : Takes (nested depth) content [] condition := by
        cases depth with
        | zero => cases shallow
        | succ depth =>
            rw [nested_succ]
            apply inductionHypothesis depth _ [] (Phrase.stops_nil _)
            have group : Tokens.size [.group .parenthesis content] = content.size + 2 := rfl
            omega
      exact (operandParser_primary depth unmarked).trans (primary_takes_group inside rest)
  | @negated joint tokens condition _ inductionHypothesis =>
      rw [Tokens.size_cons] at shallow
      have operand := inductionHypothesis depth (by omega) rest trivial
      exact (operandParser_negated depth joint _ none).trans (bind_of_ok operand _)
  | @joined junction first left parts _ _ firstHypothesis partHypothesis =>
      rw [Tokens.size_append] at shallow
      rw [Phrase.parser_joined]
      apply chain_takes stops
      · intro rest stops
        exact firstHypothesis depth (by omega) rest stops
      · intro part member rest stops
        have small := size_part_le junction member
        exact partHypothesis part member depth (by omega) rest stops

/-! ## Exactness -/

/-- Conditions are read from some tokens, all of them, exactly as they are derived. -/
theorem run_parser_eq_ok_iff {tokens : Tokens} {condition : Condition} :
    Parser.run parser tokens = .ok condition ↔ Derives .condition tokens condition := by
  constructor
  · intro accepted
    have read := run_eq_ok_iff.mp accepted
    rcases nested_sound _ _ _ _ read rfl with ⟨_, used, parts, derived⟩
    rw [List.append_nil] at parts
    rwa [← parts] at derived
  · intro derived
    have read := derived.takes tokens.size (Nat.le_refl _) [] (Phrase.stops_nil _)
    rw [Takes, List.append_nil] at read
    exact run_eq_ok_iff.mpr read

/-- The parser of conditions accepts exactly what its grammar derives and gives the
tree of the derivation, of which there is only one.  Tokens that are malformed,
themselves or between brackets at any depth, are refused: a doubled operator, empty
parentheses, an operator without an operand on one side, or more tokens behind a
condition. -/
theorem parser_accepts_exactly_grammar (tokens : Tokens) :
    (∀ condition, Parser.run parser tokens = .ok condition ↔
        Derives .condition tokens condition) ∧
      (∀ first second, Derives .condition tokens first → Derives .condition tokens second →
        first = second) ∧
      ∀ content, Within content tokens → Malformed content →
        ∃ complaint, Parser.run parser tokens = .error complaint := by
  refine ⟨fun condition => run_parser_eq_ok_iff, ?_, ?_⟩
  · intro first second firstDerived secondDerived
    have same := (run_parser_eq_ok_iff.mpr firstDerived).symm.trans
      (run_parser_eq_ok_iff.mpr secondDerived)
    exact Except.ok.inj same
  · intro content within malformed
    cases answer : Parser.run parser tokens with
    | error complaint => exact ⟨complaint, rfl⟩
    | ok condition =>
        exact absurd malformed ((run_parser_eq_ok_iff.mp answer).not_malformed within)

/-- A negation binds more tightly than a conjunction and this more tightly than a
disjunction; two ampersands are refused, also in parentheses and behind an operand. -/
theorem parser_accepts_precedence_not_doubled :
    Derives .condition (Tokens.plain "A" ++ Tokens.operator "|" ++ Tokens.plain "B" ++
        Tokens.operator "&" ++ Tokens.operator "!" ++ Tokens.plain "C")
      (.either (.named (.plain "A"))
        (.both (.named (.plain "B")) (.not (.named (.plain "C"))))) ∧
      ∃ complaint, Parser.run parser (Tokens.plain "A" ++ Tokens.operator "|" ++
        Tokens.grouped .parenthesis
          (Tokens.plain "B" ++ Tokens.operator "&&" ++ Tokens.plain "C")) = .error complaint := by
  constructor
  · apply ((parser_accepts_exactly_grammar _).1 _).mp
    rfl
  · apply (parser_accepts_exactly_grammar _).2.2
    · exact .inside (Tokens.plain "A" ++ Tokens.operator "|") [] .whole
    · exact .doubled .both true false (Tokens.plain "B") (Tokens.plain "C")

end Condition
end Capability
