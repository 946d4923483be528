/-!
# Regular expressions as trees

The form of a regular expression as it is written: literals, classes, assertions, groups
with flags, repetitions and alternatives.
-/
namespace FilterQuery.Regex

inductive Flag
  | ignoreCase
  | multiLine
  | dotNewline
  | swapGreed
  | unicode
  | crlf
  | verbose
  deriving DecidableEq, Repr

/-- Flags with whether they are switched on. -/
abbrev Flags := List (Flag × Bool)

/-- The setting of a flag after a list of switches. -/
def setting (flags : Flags) (f : Flag) (current : Bool) : Bool := (flags.lookup f).getD current

inductive Perl
  | digit
  | space
  | word
  deriving DecidableEq, Repr

/-- A class named in brackets and colons. -/
inductive AsciiClass
  | alnum
  | alpha
  | ascii
  | blank
  | cntrl
  | digit
  | graph
  | lower
  | print
  | punct
  | space
  | upper
  | word
  | xdigit
  deriving DecidableEq, Repr

def AsciiClass.list : List AsciiClass :=
  [.alnum, .alpha, .ascii, .blank, .cntrl, .digit, .graph, .lower, .print, .punct, .space, .upper,
    .word, .xdigit]

def AsciiClass.name : AsciiClass → String
  | alnum => "alnum"
  | alpha => "alpha"
  | ascii => "ascii"
  | blank => "blank"
  | cntrl => "cntrl"
  | digit => "digit"
  | graph => "graph"
  | lower => "lower"
  | print => "print"
  | punct => "punct"
  | space => "space"
  | upper => "upper"
  | word => "word"
  | xdigit => "xdigit"

/-- A property of characters, by name alone or as a value of a named property. -/
inductive Property
  | named (name : List Char)
  | valued (name value : List Char)
  deriving DecidableEq, Repr

/-- A character, and whether it was written as a byte of two hexadecimal digits. -/
structure Literal where
  char : Char
  byte : Bool := false
  deriving DecidableEq, Repr

inductive SetOp
  | intersection
  | difference
  | symmetric
  deriving DecidableEq, Repr

/-- What stands in a bracketed class. -/
inductive ClassSet
  | literal (l : Literal)
  | range (first last : Literal)
  | ascii (negated : Bool) (c : AsciiClass)
  | perl (negated : Bool) (c : Perl)
  | property (negated : Bool) (p : Property)
  | bracket (negated : Bool) (inner : ClassSet)
  | union (items : List ClassSet)
  | op (o : SetOp) (left right : ClassSet)

inductive Assertion
  | lineStart
  | lineEnd
  | textStart
  | textEnd
  | wordBoundary
  | notWordBoundary
  | wordStart
  | wordEnd
  | wordStartHalf
  | wordEndHalf
  deriving DecidableEq, Repr

inductive Expression
  | empty
  /-- Flags that hold up to the end of the group around them. -/
  | flags (fs : Flags)
  | literal (l : Literal)
  | dot
  | assertion (a : Assertion)
  | perl (negated : Bool) (c : Perl)
  | property (negated : Bool) (p : Property)
  | bracket (negated : Bool) (inner : ClassSet)
  | repetition (least : Nat) (most : Option Nat) (greedy : Bool) (e : Expression)
  | group (captures : Bool) (fs : Flags) (e : Expression)
  | alternation (es : List Expression)
  | concat (es : List Expression)

/-- A concatenation of the parts, without a node of its own for none or one. -/
def Expression.ofParts : List Expression → Expression
  | [] => .empty
  | [e] => e
  | es => .concat es

def Expression.ofAlternatives : List Expression → Expression
  | [] => .empty
  | [e] => e
  | es => .alternation es

def ClassSet.ofItems : List ClassSet → ClassSet
  | [c] => c
  | cs => .union cs

end FilterQuery.Regex
