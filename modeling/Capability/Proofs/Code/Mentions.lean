import Capability.Code.TypeExpr

/-!
# What a type mentions

Which type is meant by what is written depends on the place only through names that are
looked up there.  A path that does not start from the outermost scope is looked up by its
first name, and each further name in what the names before it stand for.  So a type mentions
its paths, those of its arguments and bounds at any depth among them.

Of expressions, and of what else is kept as it is written, only the tokens are known.  There
every word counts as the beginning of a path that does not go on with a path or a value, and
it may be the name of a type or of a value.
-/

namespace Capability
namespace Code

/-- The kinds of names, of which each is looked up among its own. -/
inductive Space where
  | types
  | values
  | macros
deriving DecidableEq, Repr

/-- A path that is looked up: the kind of its first name, this name, and the names behind it. -/
structure Mention where
  space : Space
  head : Word
  rest : List Word
deriving DecidableEq, Repr

/-! ## Words among tokens -/

/-- Whether a word behind these marks, the last one first, goes on with something: with a path
behind a pair of colons, with a value behind a single point, with a lifetime behind its mark. -/
def continuesBehind : List Char → Bool
  | ':' :: ':' :: _ => true
  | '.' :: '.' :: _ => false
  | '.' :: _ => true
  | '\'' :: _ => true
  | _ => false

namespace TokenTree

/-- The marks directly before what follows a token, the last one first. -/
def marksBehind (before : List Char) : TokenTree → List Char
  | mark c _ => c :: before
  | _ => []

mutual

/-- The words of a token tree that may begin a path, given the marks before it. -/
def heads (before : List Char) : TokenTree → List Word
  | word name => if continuesBehind before then [] else [name]
  | group _ content => headsAll [] content
  | _ => []

def headsAll (before : List Char) : List TokenTree → List Word
  | [] => []
  | tree :: rest => heads before tree ++ headsAll (marksBehind before tree) rest

end

end TokenTree

/-- What tokens that are kept as they are written may mention. -/
def Tokens.mentions (tokens : Tokens) : List Mention :=
  (TokenTree.headsAll [] tokens).flatMap fun word => [⟨.types, word, []⟩, ⟨.values, word, []⟩]

/-! ## Paths in types -/

/-- The mention of a path by its names; the only name of a path is of the given kind, and the
first one of a longer path is that of a type or a module. -/
def mentionOf (space : Space) (isGlobal : Bool) : List Word → List Mention
  | [] => []
  | [name] => if isGlobal then [] else [⟨space, name, []⟩]
  | name :: next :: rest => if isGlobal then [] else [⟨.types, name, next :: rest⟩]

/-- The mention of a path itself, apart from what its arguments mention. -/
def Path.mention (space : Space) (path : Path) : List Mention :=
  mentionOf space path.isGlobal (path.segments.map Segment.name)

/-- What an argument mentions if it is a value by a name, which is written like a type. -/
def TypeExpr.valueMentions : TypeExpr → List Mention
  | .path (.mk false [.mk name .none]) => [⟨.values, name, []⟩]
  | _ => []

mutual

/-- What a type mentions. -/
def TypeExpr.mentions : TypeExpr → List Mention
  | .path path => path.mention .types ++ path.innerMentions
  | .qualified self traitPath rest =>
    self.mentions ++ TypeExpr.traitMentions traitPath ++ Segment.mentionsAll rest
  | .tuple elements _ => TypeExpr.mentionsAll elements
  | .paren inner | .slice inner | .pointer _ inner | .reference _ _ inner => inner.mentions
  | .array element length => element.mentions ++ length.mentions
  | .function _ _ parameters _ variadic output =>
    Parameter.mentionsAll parameters ++ variadic.mentions ++ TypeExpr.resultMentions output
  | .traitObject _ bounds _ | .implTrait bounds _ => Bound.mentionsAll bounds
  | .macroCall path arguments =>
    path.mention .macros ++ path.innerMentions ++ Tokens.mentions [arguments]
  | .never | .inferred => []
  | .verbatim tokens => tokens.mentions

def TypeExpr.mentionsAll : List TypeExpr → List Mention
  | [] => []
  | type :: rest => type.mentions ++ TypeExpr.mentionsAll rest

/-- What the result of a function mentions. -/
def TypeExpr.resultMentions : Option TypeExpr → List Mention
  | none => []
  | some type => type.mentions

/-- What the trait of a qualified path mentions. -/
def TypeExpr.traitMentions : Option Path → List Mention
  | none => []
  | some path => path.mention .types ++ path.innerMentions

/-- What the arguments in a path mention. -/
def Path.innerMentions : Path → List Mention
  | .mk _ segments => Segment.mentionsAll segments

def Segment.mentions : Segment → List Mention
  | .mk _ arguments => arguments.mentions

def Segment.mentionsAll : List Segment → List Mention
  | [] => []
  | segment :: rest => segment.mentions ++ Segment.mentionsAll rest

def Arguments.mentions : Arguments → List Mention
  | .none => []
  | .angle _ arguments _ => Argument.mentionsAll arguments
  | .parenthesized inputs _ output => TypeExpr.mentionsAll inputs ++ TypeExpr.resultMentions output

def Argument.mentions : Argument → List Mention
  | .lifetime _ => []
  | .type value => value.mentions ++ value.valueMentions
  | .constant value => value.mentions
  | .associatedType _ generics value => generics.mentions ++ value.mentions
  | .associatedConstant _ generics value => generics.mentions ++ value.mentions
  | .constraint _ generics bounds _ => generics.mentions ++ Bound.mentionsAll bounds

def Argument.mentionsAll : List Argument → List Mention
  | [] => []
  | argument :: rest => argument.mentions ++ Argument.mentionsAll rest

def Bound.mentions : Bound → List Mention
  | .lifetime _ => []
  | .trait _ _ _ path => path.mention .types ++ path.innerMentions
  | .capture tokens | .verbatim tokens => tokens.mentions

def Bound.mentionsAll : List Bound → List Mention
  | [] => []
  | bound :: rest => bound.mentions ++ Bound.mentionsAll rest

def Parameter.mentions : Parameter → List Mention
  | .mk annotations _ value => annotations.mentions ++ value.mentions
  | .verbatim annotations tokens => annotations.mentions ++ tokens.mentions

def Parameter.mentionsAll : List Parameter → List Mention
  | [] => []
  | parameter :: rest => parameter.mentions ++ Parameter.mentionsAll rest

end

theorem Segment.mentionsAll_append (front behind : List Segment) :
    Segment.mentionsAll (front ++ behind) =
      Segment.mentionsAll front ++ Segment.mentionsAll behind := by
  induction front with
  | nil => rfl
  | cons segment front inductionHypothesis =>
      rw [List.cons_append, mentionsAll, mentionsAll, inductionHypothesis, List.append_assoc]

theorem Argument.mentionsAll_eq_flatMap (arguments : List Argument) :
    Argument.mentionsAll arguments = arguments.flatMap Argument.mentions := by
  induction arguments with
  | nil => rfl
  | cons argument rest inductionHypothesis =>
      rw [mentionsAll, inductionHypothesis, List.flatMap_cons]

/-! ## Other arguments for the last name -/

namespace Path

variable {path : Path} {name : Word} {arguments : Arguments}

theorem segments_withArguments (last : path.last? = some (.mk name arguments))
    (others : Arguments) :
    (path.withArguments others).segments = path.segments.dropLast ++ [.mk name others] := by
  rw [last?] at last
  rw [withArguments, last]
  rfl

theorem isGlobal_withArguments (path : Path) (others : Arguments) :
    (path.withArguments others).isGlobal = path.isGlobal := by
  rw [withArguments]
  split <;> rfl

theorem segments_eq_of_last (last : path.last? = some (.mk name arguments)) :
    path.segments = path.segments.dropLast ++ [.mk name arguments] := by
  rcases List.getLast?_eq_some_iff.mp last with ⟨front, same⟩
  rw [same, List.dropLast_concat]

theorem innerMentions_eq (path : Path) : path.innerMentions = Segment.mentionsAll path.segments := by
  cases path
  rfl

/-- A path has the same mention whatever the arguments of its last name are. -/
theorem mention_withArguments (space : Space) (last : path.last? = some (.mk name arguments))
    (others : Arguments) : (path.withArguments others).mention space = path.mention space := by
  have names : (path.segments.dropLast ++ [Segment.mk name others]).map Segment.name =
      path.segments.map Segment.name := by
    rw [segments_eq_of_last last, List.dropLast_concat, List.map_append, List.map_append]
    rfl
  rw [mention, mention, isGlobal_withArguments, segments_withArguments last, names]

theorem innerMentions_of_last (last : path.last? = some (.mk name arguments)) :
    path.innerMentions = Segment.mentionsAll path.segments.dropLast ++ arguments.mentions := by
  rw [innerMentions_eq, segments_eq_of_last last, List.dropLast_concat, Segment.mentionsAll_append,
    Segment.mentionsAll, Segment.mentions, Segment.mentionsAll, List.append_nil]

theorem innerMentions_withArguments (last : path.last? = some (.mk name arguments))
    (others : Arguments) :
    (path.withArguments others).innerMentions =
      Segment.mentionsAll path.segments.dropLast ++ others.mentions := by
  rw [innerMentions_eq, segments_withArguments last, Segment.mentionsAll_append,
    Segment.mentionsAll, Segment.mentions, Segment.mentionsAll, List.append_nil]

end Path

end Code
end Capability
