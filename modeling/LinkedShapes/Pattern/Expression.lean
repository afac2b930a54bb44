import LinkedShapes.Pattern.CharSet

/-!
# Expressions

What a pattern means: characters out of sets, places in the text, and sequences, choices and
repetitions of such. Which of several ways to match is preferred makes no difference here, since
a pattern is only ever asked whether it matches.
-/

namespace LinkedShapes

/-- How a place lies to the words around it. -/
inductive WordPlace where
  /-- At an end of a word. -/
  | edge
  /-- Not at an end of a word. -/
  | noEdge
  /-- Before the first character of a word. -/
  | start
  /-- Behind the last character of a word. -/
  | stop
  /-- Not behind a word character. -/
  | startHalf
  /-- Not before a word character. -/
  | stopHalf
deriving DecidableEq, Repr

/-- A condition on a place in the text. -/
inductive Place where
  | textStart
  | textEnd
  /-- At the start of a line; `carriage` tells whether a carriage return ends lines, too. -/
  | lineStart (carriage : Bool)
  /-- At the end of a line. -/
  | lineEnd (carriage : Bool)
  /-- Between words made of the characters of a set. -/
  | word (kind : WordPlace) (chars : CharSet)
deriving DecidableEq, Repr

/-- An expression. -/
inductive Expression where
  | empty
  | place (p : Place)
  | one (rule : CaseRule) (s : CharSet)
  | sequence (e f : Expression)
  | choice (e f : Expression)
  /-- A group that is remembered by number or name. -/
  | group (e : Expression)
  /-- At least `least` times `e`, and at most `most` times if there is a bound. -/
  | repetition (least : Nat) (most : Option Nat) (e : Expression)
deriving DecidableEq, Repr

namespace Expression

/-- The expressions one after the other. -/
def sequenceOf : List Expression → Expression
  | [] => empty
  | [e] => e
  | e :: es => e.sequence (sequenceOf es)

/-- One of the expressions, or of `e`. -/
def choiceOf (e : Expression) : List Expression → Expression
  | [] => e
  | f :: fs => e.choice (choiceOf f fs)

/-- Does the expression match nothing but empty texts? -/
def isWidthless : Expression → Bool
  | empty | place _ => true
  | one _ _ => false
  | sequence e f | choice e f => e.isWidthless && f.isWidthless
  | group e => e.isWidthless
  | repetition _ most e => most == some 0 || e.isWidthless

end Expression

end LinkedShapes
