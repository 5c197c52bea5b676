import Capability.Proofs.Code.Parser
import Capability.Condition

/-!
# What a condition is, as a grammar

The grammar has three kinds of phrases.  A disjunction is one conjunction or more
with bars between them, a conjunction one operand or more with ampersands between
them, and an operand is a name or a disjunction in parentheses, or an operand
behind an exclamation mark.  The first two differ only in their operator and in
what they join, and are described together.

A derivation also settles the tree.  The operands of a phrase are joined from the
left, and an operator binds the more tightly the further down its phrase stands.

In a derived phrase operands and operators take turns, from its first token to its
last and again in each pair of parentheses.  This can be read off token by token,
and whatever breaks the order cannot be part of a condition, however it is
surrounded.
-/

namespace Capability
namespace Condition

open Code

/-! ## The grammar -/

/-- The two operators that join conditions. -/
inductive Junction where
  | both
  | either

namespace Junction

def mark : Junction → Char
  | both => '&'
  | either => '|'

def text : Junction → String
  | both => "&"
  | either => "|"

def join : Junction → Condition → Condition → Condition
  | both => .both
  | either => .either

theorem text_toList (junction : Junction) : junction.text.toList = [junction.mark] := by
  cases junction <;> rfl

end Junction

theorem names_join (junction : Junction) (left right : Condition) :
    (junction.join left right).names = left.names ++ right.names := by
  cases junction <;> rfl

/-- The kinds of phrases. -/
inductive Phrase where
  | operand
  | joined (junction : Junction)

/-- Whole conditions, and what stands between parentheses, are disjunctions. -/
abbrev Phrase.condition : Phrase := .joined .either

/-- The phrases that an operator joins. -/
def Junction.operand : Junction → Phrase
  | both => .operand
  | either => .joined .both

/-- An operator and the phrase behind it, with its tree. -/
structure Part where
  joint : Bool
  tokens : Tokens
  condition : Condition

def Part.written (junction : Junction) (part : Part) : Tokens :=
  .mark junction.mark part.joint :: part.tokens

/-- The tree of several phrases, which are joined from the left. -/
def Junction.tree (junction : Junction) (first : Condition) (parts : List Part) : Condition :=
  parts.foldl (fun left part => junction.join left part.condition) first

/-- Some tokens make up a phrase, and a condition is its tree. -/
inductive Derives : Phrase → Tokens → Condition → Prop where
  | named {word : Word} : word.isName = true → Derives .operand [.word word] (.named word)
  | enclosed {content : Tokens} {condition : Condition} : Derives .condition content condition →
      Derives .operand [.group .parenthesis content] condition
  | negated {joint : Bool} {tokens : Tokens} {condition : Condition} :
      Derives .operand tokens condition →
      Derives .operand (.mark '!' joint :: tokens) (.not condition)
  | joined {junction : Junction} {first : Tokens} {left : Condition} {parts : List Part} :
      Derives junction.operand first left →
      (∀ part ∈ parts, Derives junction.operand part.tokens part.condition) →
      Derives (.joined junction) (first ++ parts.flatMap (Part.written junction))
        (junction.tree left parts)

/-! ## Operands and operators take turns -/

/-- What the next token of a condition belongs to. -/
inductive Turn where
  | operand
  | operator

/-- Operands and operators take turns up to the end of some tokens, where an
operator might follow, and within all parentheses. -/
inductive Alternates : Turn → Tokens → Prop where
  | ended : Alternates .operator []
  | joined {junction : Junction} {joint : Bool} {rest : Tokens} : Alternates .operand rest →
      Alternates .operator (.mark junction.mark joint :: rest)
  | negated {joint : Bool} {rest : Tokens} : Alternates .operand rest →
      Alternates .operand (.mark '!' joint :: rest)
  | named {word : Word} {rest : Tokens} : word.isName = true → Alternates .operator rest →
      Alternates .operand (.word word :: rest)
  | enclosed {content rest : Tokens} : Alternates .operand content → Alternates .operator rest →
      Alternates .operand (.group .parenthesis content :: rest)

/-- Operators with phrases behind them take turns with what follows them. -/
theorem Alternates.parts {junction : Junction} {parts : List Part} {rest : Tokens}
    (turns : ∀ part ∈ parts, ∀ rest, Alternates .operator rest →
      Alternates .operand (part.tokens ++ rest))
    (follows : Alternates .operator rest) :
    Alternates .operator (parts.flatMap (Part.written junction) ++ rest) := by
  induction parts with
  | nil => exact follows
  | cons part parts inductionHypothesis =>
      rw [List.flatMap_cons, List.append_assoc]
      apply Alternates.joined
      apply turns part List.mem_cons_self
      exact inductionHypothesis fun part member => turns part (List.mem_cons_of_mem _ member)

theorem Derives.alternates {phrase : Phrase} {tokens : Tokens} {condition : Condition}
    (derived : Derives phrase tokens condition) (rest : Tokens)
    (follows : Alternates .operator rest) : Alternates .operand (tokens ++ rest) := by
  induction derived generalizing rest with
  | named isName => exact .named isName follows
  | enclosed _ inductionHypothesis =>
      have content := inductionHypothesis [] .ended
      rw [List.append_nil] at content
      exact .enclosed content follows
  | negated _ inductionHypothesis => exact .negated (inductionHypothesis rest follows)
  | joined _ _ firstHypothesis partHypothesis =>
      rw [List.append_assoc]
      exact firstHypothesis _ (.parts partHypothesis follows)

theorem Derives.alternates_all {phrase : Phrase} {tokens : Tokens} {condition : Condition}
    (derived : Derives phrase tokens condition) : Alternates .operand tokens := by
  have alternates := derived.alternates [] .ended
  rwa [List.append_nil] at alternates

/-- Whether the first token is one that an operand may begin with. -/
def OpensOperand : Tokens → Prop
  | .word word :: _ => word.isName = true
  | .mark mark _ :: _ => mark = '!'
  | .group delimiter _ :: _ => delimiter = .parenthesis
  | _ => False

namespace Alternates

/-- Behind the tokens in front, operands and operators go on taking turns. -/
theorem behind {turn : Turn} {before rest : Tokens} (alternates : Alternates turn (before ++ rest)) :
    ∃ next, Alternates next rest := by
  induction before generalizing turn with
  | nil => exact ⟨turn, alternates⟩
  | cons tree before inductionHypothesis =>
      cases alternates with
      | joined follows => exact inductionHypothesis follows
      | negated follows => exact inductionHypothesis follows
      | named _ follows => exact inductionHypothesis follows
      | enclosed _ follows => exact inductionHypothesis follows

theorem behind_mark {turn : Turn} {c : Char} {joint : Bool} {rest : Tokens}
    (alternates : Alternates turn (.mark c joint :: rest)) : Alternates .operand rest := by
  cases alternates with
  | joined follows => exact follows
  | negated follows => exact follows

/-- What follows tokens in which an operator may follow comes where an operator does. -/
theorem extra {turn : Turn} {tokens more : Tokens} (alternates : Alternates turn tokens)
    (longer : Alternates turn (tokens ++ more)) : Alternates .operator more := by
  induction alternates with
  | ended => exact longer
  | joined _ inductionHypothesis => exact inductionHypothesis longer.behind_mark
  | negated _ inductionHypothesis => exact inductionHypothesis longer.behind_mark
  | named _ _ inductionHypothesis =>
      cases longer with
      | named _ follows => exact inductionHypothesis follows
  | enclosed _ _ _ inductionHypothesis =>
      cases longer with
      | enclosed _ follows => exact inductionHypothesis follows

theorem within_group {turn : Turn} {delimiter : Delimiter} {content rest : Tokens}
    (alternates : Alternates turn (.group delimiter content :: rest)) :
    Alternates .operand content := by
  cases alternates with
  | enclosed within _ => exact within

/-- Where an operand comes, some token opens it. -/
theorem opens {tokens : Tokens} (alternates : Alternates .operand tokens) :
    OpensOperand tokens := by
  cases alternates with
  | negated _ => rfl
  | named isName _ => exact isName
  | enclosed _ _ => rfl

theorem not_junction {junction : Junction} {joint : Bool} {rest : Tokens} :
    ¬ Alternates .operand (.mark junction.mark joint :: rest) := by
  intro alternates
  have negation : junction.mark = '!' := alternates.opens
  cases junction <;> exact absurd negation (by decide)

end Alternates

/-! ## What no condition contains -/

/-- Some tokens are all of the given ones, or all between two brackets in them, at any depth. -/
inductive Within (content : Tokens) : Tokens → Prop where
  | whole : Within content content
  | inside {delimiter : Delimiter} {inner : Tokens} (before behind : Tokens) :
      Within content inner → Within content (before ++ .group delimiter inner :: behind)

/-- Some tokens are no condition, whatever the others among them are. -/
inductive Malformed : Tokens → Prop where
  /-- An operator is written twice. -/
  | doubled (junction : Junction) (first second : Bool) (before behind : Tokens) :
      Malformed (before ++ .mark junction.mark first :: .mark junction.mark second :: behind)
  /-- Parentheses have nothing between them. -/
  | hollow (before behind : Tokens) : Malformed (before ++ .group .parenthesis [] :: behind)
  /-- An operator has no operand in front of it. -/
  | leading (junction : Junction) (joint : Bool) (behind : Tokens) :
      Malformed (.mark junction.mark joint :: behind)
  /-- An operator has no operand behind it. -/
  | dangling (mark : Char) (joint : Bool) (before behind : Tokens) : ¬ OpensOperand behind →
      Malformed (before ++ .mark mark joint :: behind)
  /-- A condition is followed by something that is no operator. -/
  | trailing {tokens extra : Tokens} {condition : Condition} :
      Derives .condition tokens condition → extra ≠ [] →
      (∀ junction : Junction, ¬ extra.StartsWith junction.mark) → Malformed (tokens ++ extra)

/-- Between brackets operands and operators take turns again. -/
theorem Within.alternates {content tokens : Tokens} (within : Within content tokens)
    (alternates : Alternates .operand tokens) : Alternates .operand content := by
  induction within with
  | whole => exact alternates
  | inside _ _ _ inductionHypothesis =>
      rcases alternates.behind with ⟨_, group⟩
      exact inductionHypothesis group.within_group

/-- In malformed tokens operands and operators do not take turns. -/
theorem Malformed.not_alternates {tokens : Tokens} (malformed : Malformed tokens) :
    ¬ Alternates .operand tokens := by
  intro alternates
  cases malformed with
  | doubled junction first second before behind =>
      rcases alternates.behind with ⟨_, marks⟩
      exact Alternates.not_junction marks.behind_mark
  | hollow before behind =>
      rcases alternates.behind with ⟨_, group⟩
      exact group.within_group.opens
  | leading junction joint behind => exact Alternates.not_junction alternates
  | dangling mark joint before behind noOperand =>
      rcases alternates.behind with ⟨_, last⟩
      exact noOperand last.behind_mark.opens
  | trailing derived notEmpty noOperator =>
      cases derived.alternates_all.extra alternates with
      | ended => exact notEmpty rfl
      | joined _ => exact noOperator _ ⟨_, _, rfl⟩

/-- A condition contains nothing malformed, at no depth. -/
theorem Derives.not_malformed {tokens content : Tokens} {condition : Condition}
    (derived : Derives .condition tokens condition) (within : Within content tokens) :
    ¬ Malformed content := by
  intro malformed
  exact malformed.not_alternates (within.alternates derived.alternates_all)

end Condition
end Capability
